import CsiProvisioner.Controller.DataSource
import CsiProvisioner.Lib.ApiServer
import CsiProvisioner.ProvisionController.ClaimWorker

/-!
The volume worker of the provisioning library that the provisioner runs
(`sigs.k8s.io/sig-storage-lib-external-provisioner/v9/controller/controller.go`).

The volume informer's handlers put the name of every persistent volume they see into a
rate-limiting work queue (`enqueueVolume`), and forget a deleted one (`forgetVolume`). A
worker takes a name, reads the volume from the informer's cache and, if the volume is its
provisioner's, syncs it (`syncVolume`): `handleProtectionFinalizer` puts the finalizer
`finalizerPV` on a bound volume of reclaim policy `Delete` and takes it off when finalizers
are turned off or the policy keeps the storage; then, if `shouldDelete` says so,
`deleteVolumeOperation` asks the provisioner to delete the volume's storage, deletes the
volume object, reads the volume again from the cache and writes it without `finalizerPV`.

The world holds the API server's volumes, the storage that exists, the informer's cache,
the volume queue and the workers, each between two of its requests. Anything else may
happen between two steps of a worker: the informer delivers the next watch event or
resyncs, other clients write volumes, users delete them, other workers go on, and any
request may fail, before or after the server carries it out. Other clients never touch
`finalizerPV` nor the deletion mark, and the name of a volume is never used twice: the
provisioner names the volumes it makes after the UIDs of their claims.

With `AddFinalizer`, the API server lets a volume of policy `Delete` that carries
`finalizerPV` go only after its storage has been deleted: the worker takes the finalizer
off only after the provisioner deleted the storage, and `handleProtectionFinalizer` takes
it off only when the policy keeps the storage. Both writes name the resource version of a
copy the worker read, so that a stale copy cannot overwrite a newer policy. Whatever the
options, the worker has the provisioner delete the storage of a volume only after
`shouldDelete` accepted a version of it that the API server wrote.
-/

namespace CsiProvisioner.ProvisionController.VolumeWorker

open Go Api WorkQueue Transition ApiServer
open Controller (checkFinalizer)

def annDynamicallyProvisioned : String := "pv.kubernetes.io/provisioned-by"

def annMigratedTo : String := "pv.kubernetes.io/migrated-to"

def finalizerPV : String := "external-provisioner.volume.kubernetes.io/finalizer"

/-- `v1.PersistentVolumeReclaimPolicy`. -/
inductive PersistentVolumeReclaimPolicy
  | recycle
  | delete
  | retain
  deriving DecidableEq, Repr

/-- The fields of a persistent volume that the volume worker reads besides its metadata. -/
structure VolumeFields where
  annotations : StrMap
  csi : Option CSIPersistentVolumeSource
  persistentVolumeReclaimPolicy : PersistentVolumeReclaimPolicy
  phase : PersistentVolumePhase
  deriving DecidableEq, Repr

/-- A persistent volume as the API server and the volume worker see it. -/
abbrev Volume := Object VolumeFields

/-- The options of the `ProvisionController` that the volume worker reads, and `ShouldDelete`
of a provisioner that is a `DeletionGuard`. -/
structure VolumeConfig extends Config where
  addFinalizer : Bool
  failedDeleteThreshold : Nat
  deletionGuard : Option (Volume → Bool)

/-! ### What the worker decides -/

def isProvisionerForVolume (cfg : Config) (volume : Volume) : Bool :=
  if hasAnnotationKey volume.fields.annotations annDynamicallyProvisioned then
    let provisionPluginName := annotationValue volume.fields.annotations annDynamicallyProvisioned
    let migratedAnn := annotationValue volume.fields.annotations annMigratedTo
    knownProvisioner cfg provisionPluginName || knownProvisioner cfg migratedAnn
  else
    match volume.fields.csi with
    -- a statically provisioned CSI volume
    | some csi => knownProvisioner cfg csi.driver
    | none => knownProvisioner cfg (annotationValue volume.fields.annotations annMigratedTo)

/-- `removeFinalizer`: the finalizers without `finalizerToRemove`, and whether there was one
to remove. -/
def removeFinalizer (finalizers : List String) (finalizerToRemove : String) :
    List String × Bool :=
  let modifiedFinalizers := finalizers.filter (· != finalizerToRemove)
  (modifiedFinalizers, modifiedFinalizers.length != finalizers.length)

/-- `addFinalizer`: the finalizers with `finalizerToAdd` at the end, unless it is there. -/
def addFinalizer (finalizers : List String) (finalizerToAdd : String) : List String × Bool :=
  if finalizers.contains finalizerToAdd then (finalizers, false)
  else (finalizers ++ [finalizerToAdd], true)

/-- The finalizers `handleProtectionFinalizer` gives the volume, and whether they changed. -/
def protectionFinalizers (cfg : VolumeConfig) (volume : Volume) : List String × Bool :=
  let reclaimPolicy := volume.fields.persistentVolumeReclaimPolicy
  let (volumeFinalizers, modified) :=
    if cfg.addFinalizer && reclaimPolicy == .delete && !volume.metadata.deletionTimestamp &&
        volume.fields.phase == .bound then addFinalizer volume.metadata.finalizers finalizerPV
    else (volume.metadata.finalizers, false)
  if !cfg.addFinalizer || reclaimPolicy == .retain || reclaimPolicy == .recycle then
    removeFinalizer volumeFinalizers finalizerPV
  else (volumeFinalizers, modified)

/-- `handleProtectionFinalizer`: writes the volume with the finalizers it computes, if they
changed, and gives the volume the API server returns. -/
def handleProtectionFinalizer (cfg : VolumeConfig) (volume : Volume)
    (server : Store VolumeFields) (fault : Fault) : Except StatusError Volume × Store VolumeFields :=
  let (volumeFinalizers, modified) := protectionFinalizers cfg volume
  if modified then
    server.call fault (server.update
      { volume with metadata := { volume.metadata with finalizers := volumeFinalizers } })
  else (.ok volume, server)

def shouldDelete (cfg : VolumeConfig) (volume : Volume) : Bool :=
  if cfg.deletionGuard.any fun guard => !guard volume then false
  else if cfg.addFinalizer && !checkFinalizer volume.metadata.finalizers finalizerPV &&
      volume.metadata.deletionTimestamp then
    -- the finalizer was removed, i.e. the volume has been already deleted
    false
  else if !cfg.addFinalizer && volume.metadata.deletionTimestamp then false
  else if volume.fields.phase != .released then false
  else if volume.fields.persistentVolumeReclaimPolicy != .delete then false
  else true

/-! ### The world -/

/-- What the provisioner's `Delete` did: it deleted the volume's storage, it ignored the
volume (`IgnoredError`), or it failed. -/
inductive DeleteAnswer
  | deleted
  | ignored
  | failed
  deriving DecidableEq, Repr

/-- Where a worker is in `processNextVolumeWorkItem`, between two of its requests. -/
inductive Phase
  /-- It took a name from the queue. -/
  | got
  /-- `syncVolume` runs `handleProtectionFinalizer` on the volume. -/
  | protecting (volume : Volume)
  /-- `deleteVolumeOperation` asks the provisioner to delete the volume's storage. -/
  | deleting (volume : Volume)
  /-- It deletes the volume object. -/
  | deletingObject (volume : Volume)
  /-- It reads the volume again from the informer's cache. -/
  | rereading (volume : Volume)
  /-- It writes the volume it read again without `finalizerPV`. -/
  | unprotecting (newVolume : Volume)
  deriving DecidableEq, Repr

structure Worker where
  key : String
  phase : Phase
  deriving DecidableEq, Repr

/-- The API server's volumes, the names of the volumes whose storage exists, the volume
informer's cache (`ctrl.volumes`), the volume queue, and the workers. -/
structure World where
  server : Store VolumeFields
  storage : List String
  volumes : List Volume
  volumeQueue : RateLimitingQueue String
  workers : List Worker

/-- `enqueueVolume`: the informer's add and update handler. -/
def enqueueVolume (q : RateLimitingQueue String) (obj : Volume) : RateLimitingQueue String :=
  q.add obj.metadata.name

/-- `forgetVolume`: the informer's delete handler. -/
def forgetVolume (q : RateLimitingQueue String) (key : String) : RateLimitingQueue String :=
  (q.forget key).done key

/-- The end of `processNextVolumeWorkItem`: a name whose sync failed is added back rate
limited, unless it has failed `failedDeleteThreshold` times already (0: no limit); one whose
sync succeeded is forgotten; the worker is then done with it. -/
def finishVolume (cfg : VolumeConfig) (q : RateLimitingQueue String) (key : String)
    (failed : Bool) : RateLimitingQueue String :=
  if failed then
    if cfg.failedDeleteThreshold = 0 then (q.addRateLimited key).done key
    else if q.numRequeues key < cfg.failedDeleteThreshold then (q.addRateLimited key).done key
    -- done but not forgotten: the count stays until the volume is deleted
    else q.done key
  else (q.forget key).done key

namespace World

def finish (cfg : VolumeConfig) (w : World) (i : Nat) (key : String) (failed : Bool) : World :=
  { w with volumeQueue := finishVolume cfg w.volumeQueue key failed
           workers := w.workers.eraseIdx i }

def setPhase (w : World) (i : Nat) (key : String) (phase : Phase) : World :=
  { w with workers := w.workers.set i ⟨key, phase⟩ }

/-- The next step of worker `i`, which holds `key` and is at `phase`; `fault` is how its
request fares, and `answer` what the provisioner's `Delete` does. -/
def work (cfg : VolumeConfig) (w : World) (i : Nat) (key : String) (phase : Phase)
    (fault : Fault) (answer : DeleteAnswer) : World :=
  match phase with
  -- `syncVolumeHandler`
  | .got =>
    match Cache.getByKey w.volumes key with
    -- already deleted, nothing to do
    | none => w.finish cfg i key false
    | some volume =>
      if !isProvisionerForVolume cfg.toConfig volume then w.finish cfg i key false
      else w.setPhase i key (.protecting volume)
  -- `syncVolume`
  | .protecting volume =>
    let request := handleProtectionFinalizer cfg volume w.server fault
    match request.1 with
    | .error _ => { w with server := request.2 }.finish cfg i key true
    | .ok volume =>
      if shouldDelete cfg volume then
        { w with server := request.2 }.setPhase i key (.deleting volume)
      else { w with server := request.2 }.finish cfg i key false
  -- `deleteVolumeOperation`
  | .deleting volume =>
    match answer with
    | .deleted =>
      { w with storage := w.storage.filter (· != volume.metadata.name) }.setPhase i key
        (.deletingObject volume)
    -- another provisioner will delete it
    | .ignored => w.finish cfg i key false
    | .failed => w.finish cfg i key true
  | .deletingObject volume =>
    let request := w.server.call fault (((), ·) <$> w.server.delete volume.metadata.name)
    match request.1 with
    | .error _ => { w with server := request.2 }.finish cfg i key true
    | .ok () =>
      if cfg.addFinalizer && volume.metadata.finalizers.length > 0 then
        { w with server := request.2 }.setPhase i key (.rereading volume)
      else { w with server := request.2 }.finish cfg i key false
  | .rereading volume =>
    match Cache.getByKey w.volumes volume.metadata.name with
    | none => w.finish cfg i key false
    | some newVolume =>
      if (removeFinalizer newVolume.metadata.finalizers finalizerPV).2 then
        w.setPhase i key (.unprotecting newVolume)
      else w.finish cfg i key false
  | .unprotecting newVolume =>
    let finalizers := (removeFinalizer newVolume.metadata.finalizers finalizerPV).1
    let request := w.server.call fault
      (w.server.update { newVolume with metadata := { newVolume.metadata with finalizers } })
    { w with server := request.2 }.finish cfg i key
      (match request.1 with
        -- the volume is gone already
        | .error .notFound => false
        | .error _ => true
        | .ok _ => false)

end World

inductive Event
  /-- Another client creates a volume, under a name never used before. -/
  | create (volume : Volume)
  /-- Another client writes a volume: its phase, its reclaim policy, its annotations, its
  other finalizers. -/
  | update (volume : Volume)
  | delete (name : String)
  /-- The informer is given the oldest watch event. -/
  | deliver
  /-- The informer resyncs: every volume in its cache is updated. -/
  | resync
  | fire (key : String)
  | get
  | work (i : Nat) (fault : Fault) (answer : DeleteAnswer)

def exec (cfg : VolumeConfig) (w : World) : Event → Option World
  | .create volume =>
    if w.server.Used volume.metadata.name then none
    else match w.server.create volume with
      | .ok (_, server) => some { w with server, storage := w.storage ++ [volume.metadata.name] }
      | .error _ => none
  | .update volume =>
    match w.server.get volume.metadata.name with
    | none => none
    | some cur =>
      if (finalizerPV ∈ volume.metadata.finalizers ↔ finalizerPV ∈ cur.metadata.finalizers) ∧
          volume.metadata.deletionTimestamp = cur.metadata.deletionTimestamp then
        some { w with server := (w.server.write cur volume).2 }
      else none
  | .delete name =>
    match w.server.delete name with
    | .ok server => some { w with server }
    | .error _ => none
  | .deliver =>
    match w.server.watch with
    | [] => none
    | event :: rest =>
      let volumeQueue := match event with
        | .written obj => enqueueVolume w.volumeQueue obj
        | .removed name => forgetVolume w.volumeQueue name
      some { w with server := { w.server with watch := rest }
                    volumes := Cache.apply w.volumes event
                    volumeQueue }
  | .resync => some { w with volumeQueue := w.volumes.foldl enqueueVolume w.volumeQueue }
  | .fire key => (w.volumeQueue.fire key).map fun volumeQueue => { w with volumeQueue }
  | .get =>
    w.volumeQueue.get.map fun (key, volumeQueue) =>
      { w with volumeQueue, workers := w.workers ++ [⟨key, .got⟩] }
  | .work i fault answer =>
    (w.workers[i]?).map fun worker => w.work cfg i worker.key worker.phase fault answer

/-- No volumes, no storage, an empty cache and queue, and no worker at work. -/
def Initial (w : World) : Prop :=
  w.server = Store.empty ∧ w.storage = [] ∧ w.volumes = [] ∧
    w.volumeQueue.queue = Queue.empty ∧ w.workers = []

/-! ### What a step can do -/

section Exec

variable {cfg : VolumeConfig} {w w' : World}

lemma exec_cases {e : Event} (hs : exec cfg w e = some w') :
    (∃ volume o server, ¬ w.server.Used volume.metadata.name ∧
      w.server.create volume = .ok (o, server) ∧
      w' = { w with server, storage := w.storage ++ [volume.metadata.name] }) ∨
    (∃ volume cur, w.server.get volume.metadata.name = some cur ∧
      (finalizerPV ∈ volume.metadata.finalizers ↔ finalizerPV ∈ cur.metadata.finalizers) ∧
      volume.metadata.deletionTimestamp = cur.metadata.deletionTimestamp ∧
      w' = { w with server := (w.server.write cur volume).2 }) ∨
    (∃ name server, w.server.delete name = .ok server ∧ w' = { w with server }) ∨
    (∃ event rest volumeQueue, w.server.watch = event :: rest ∧
      w' = { w with server := { w.server with watch := rest }
                    volumes := Cache.apply w.volumes event, volumeQueue }) ∨
    (∃ volumeQueue, w' = { w with volumeQueue }) ∨
    (∃ key volumeQueue, w' = { w with volumeQueue, workers := w.workers ++ [⟨key, .got⟩] }) ∨
    ∃ i worker fault answer, worker ∈ w.workers ∧
      w' = w.work cfg i worker.key worker.phase fault answer := by
  cases e with
  | create volume =>
    simp only [exec] at hs
    split_ifs at hs with hfresh
    split at hs
    · rename_i o server hc
      cases hs
      exact .inl ⟨volume, o, server, hfresh, hc, rfl⟩
    · cases hs
  | update volume =>
    simp only [exec] at hs
    split at hs
    · cases hs
    · rename_i cur hcur
      split_ifs at hs with hguard
      cases hs
      exact .inr (.inl ⟨volume, cur, hcur, hguard.1, hguard.2, rfl⟩)
  | delete name =>
    simp only [exec] at hs
    split at hs
    · rename_i server hd
      cases hs
      exact .inr (.inr (.inl ⟨name, server, hd, rfl⟩))
    · cases hs
  | deliver =>
    simp only [exec] at hs
    split at hs
    · cases hs
    · rename_i event rest hwatch
      cases hs
      exact .inr (.inr (.inr (.inl ⟨event, rest, _, hwatch, rfl⟩)))
  | resync =>
    cases hs
    exact .inr (.inr (.inr (.inr (.inl ⟨_, rfl⟩))))
  | fire key =>
    obtain ⟨volumeQueue, -, rfl⟩ := Option.map_eq_some_iff.mp hs
    exact .inr (.inr (.inr (.inr (.inl ⟨volumeQueue, rfl⟩))))
  | get =>
    obtain ⟨⟨key, volumeQueue⟩, -, rfl⟩ := Option.map_eq_some_iff.mp hs
    exact .inr (.inr (.inr (.inr (.inr (.inl ⟨key, volumeQueue, rfl⟩)))))
  | work i fault answer =>
    obtain ⟨worker, hworker, rfl⟩ := Option.map_eq_some_iff.mp hs
    exact .inr (.inr (.inr (.inr (.inr (.inr
      ⟨i, worker, fault, answer, List.mem_of_getElem? hworker, rfl⟩)))))

@[simp] lemma World.finish_storage (i : Nat) (key : String) (failed : Bool) :
    (w.finish cfg i key failed).storage = w.storage := rfl

@[simp] lemma World.setPhase_storage (i : Nat) (key : String) (phase : Phase) :
    (w.setPhase i key phase).storage = w.storage := rfl

lemma World.work_storage (i : Nat) (key : String) (phase : Phase) (fault : Fault)
    (answer : DeleteAnswer) :
    (w.work cfg i key phase fault answer).storage = w.storage ∨
      ∃ v, phase = .deleting v ∧ answer = .deleted ∧
        (w.work cfg i key phase fault answer).storage = w.storage.filter (· != v.metadata.name) := by
  cases phase with
  | deleting v =>
    cases answer with
    | deleted => exact .inr ⟨v, rfl, rfl, rfl⟩
    | ignored => exact .inl rfl
    | failed => exact .inl rfl
  | got | protecting _ | deletingObject _ | rereading _ | unprotecting _ =>
    -- every other step only finishes or moves the worker on, and writes to the server
    refine .inl ?_
    simp only [World.work]
    repeat' split
    all_goals rfl

lemma exec_storage {e : Event} (hs : exec cfg w e = some w') {name : String}
    (hname : name ∈ w.storage) (hgone : name ∉ w'.storage) :
    ∃ worker ∈ w.workers, ∃ v, worker.phase = .deleting v ∧ v.metadata.name = name := by
  -- the witnesses stay: the world after the step is built from them
  rcases exec_cases hs with ⟨_, _, _, -, -, rfl⟩ | ⟨_, _, -, -, -, rfl⟩ | ⟨_, _, -, rfl⟩ |
    ⟨_, _, _, -, rfl⟩ | ⟨_, rfl⟩ | ⟨_, _, rfl⟩ | ⟨i, worker, fault, answer, hworker, rfl⟩
  · exact absurd (List.mem_append_left _ hname) hgone
  · exact absurd hname hgone
  · exact absurd hname hgone
  · exact absurd hname hgone
  · exact absurd hname hgone
  · exact absurd hname hgone
  · rcases World.work_storage i worker.key worker.phase fault answer with
      hsame | ⟨v, hphase, -, hfilter⟩
    · rw [hsame] at hgone
      exact absurd hname hgone
    · refine ⟨worker, hworker, v, hphase, ?_⟩
      -- the storage left is the storage of every other name
      by_contra hne
      rw [hfilter] at hgone
      exact hgone (List.mem_filter.mpr ⟨hname, by simpa using Ne.symm hne⟩)

end Exec

/-! ### What `handleProtectionFinalizer` writes -/

lemma isProvisionerForVolume_fields (cfg : Config) {v v' : Volume} (h : v'.fields = v.fields) :
    isProvisionerForVolume cfg v' = isProvisionerForVolume cfg v := by
  unfold isProvisionerForVolume
  rw [h]

lemma mem_addFinalizer (finalizers : List String) (finalizerToAdd : String) :
    finalizerToAdd ∈ (addFinalizer finalizers finalizerToAdd).1 := by
  unfold addFinalizer
  split_ifs with h
  · simpa using h
  · simp

lemma mem_protectionFinalizers {cfg : VolumeConfig} (hadd : cfg.addFinalizer = true)
    {volume : Volume} (hpolicy : volume.fields.persistentVolumeReclaimPolicy = .delete)
    (hmem : finalizerPV ∈ volume.metadata.finalizers) :
    finalizerPV ∈ (protectionFinalizers cfg volume).1 := by
  have hkeep : (!cfg.addFinalizer || volume.fields.persistentVolumeReclaimPolicy == .retain ||
      volume.fields.persistentVolumeReclaimPolicy == .recycle) = false := by
    rw [hadd, hpolicy]
    rfl
  unfold protectionFinalizers
  simp only [hkeep, Bool.false_eq_true, if_false]
  split_ifs
  · exact mem_addFinalizer _ _
  · exact hmem

lemma handleProtectionFinalizer_cases (cfg : VolumeConfig) (volume : Volume)
    (server : Store VolumeFields) (fault : Fault) :
    handleProtectionFinalizer cfg volume server fault = (.ok volume, server) ∨
      ((handleProtectionFinalizer cfg volume server fault).1.isOk = false ∧
        (handleProtectionFinalizer cfg volume server fault).2 = server) ∨
      ∃ volume', server.update { volume with metadata := { volume.metadata with
          finalizers := (protectionFinalizers cfg volume).1 } } =
        .ok (volume', (handleProtectionFinalizer cfg volume server fault).2) ∧
        ((handleProtectionFinalizer cfg volume server fault).1 = .ok volume' ∨
          (handleProtectionFinalizer cfg volume server fault).1.isOk = false) := by
  unfold handleProtectionFinalizer
  rcases protectionFinalizers cfg volume with ⟨volumeFinalizers, modified⟩
  dsimp only
  split_ifs
  · rcases Store.call_cases server fault (server.update { volume with metadata :=
        { volume.metadata with finalizers := volumeFinalizers } }) with
      ⟨volume', hres, hr⟩ | ⟨hres, hs | ⟨volume', hr⟩⟩
    · exact .inr (.inr ⟨volume', hr, .inl hres⟩)
    · exact .inr (.inl ⟨hres, hs⟩)
    · exact .inr (.inr ⟨volume', hr, .inr hres⟩)
  · exact .inl rfl

/-! ### The copies the library holds -/

namespace Phase

def volume : Phase → Option Volume
  | .got => none
  | .protecting v | .deleting v | .deletingObject v | .rereading v | .unprotecting v => some v

def deleted : Phase → Option Volume
  | .deletingObject v | .rereading v | .unprotecting v => some v
  | _ => none

lemma volume_of_deleted {p : Phase} {v : Volume} (h : p.deleted = some v) :
    p.volume = some v := by
  cases p <;> simp_all [deleted, volume]

/-- What the worker checked of the volume it holds: that it is its provisioner's, and at
`deleting`, that `shouldDelete` accepts it. -/
def Checked (cfg : VolumeConfig) : Phase → Prop
  | .protecting v => isProvisionerForVolume cfg.toConfig v = true
  | .deleting v => isProvisionerForVolume cfg.toConfig v = true ∧ shouldDelete cfg v = true
  | _ => True

end Phase

/-- The copies of volumes the library holds: the informer's cache, and the workers'. -/
def World.copies (w : World) : List Volume :=
  w.volumes ++ w.workers.filterMap (·.phase.volume)

section Copies

variable {cfg : VolumeConfig} {w : World} {i : Nat} {key : String}

lemma mem_copies_of_worker {worker : Worker} (hw : worker ∈ w.workers) {v : Volume}
    (hv : worker.phase.volume = some v) : v ∈ w.copies :=
  List.mem_append_right _ (List.mem_filterMap.mpr ⟨worker, hw, hv⟩)

lemma mem_finish_workers {failed : Bool} {worker : Worker}
    (h : worker ∈ (w.finish cfg i key failed).workers) : worker ∈ w.workers :=
  List.mem_of_mem_eraseIdx h

lemma mem_setPhase_workers {phase : Phase} {worker : Worker}
    (h : worker ∈ (w.setPhase i key phase).workers) : worker ∈ w.workers ∨ worker = ⟨key, phase⟩ :=
  List.mem_or_eq_of_mem_set h

lemma mem_copies_finish {failed : Bool} {c : Volume} (h : c ∈ (w.finish cfg i key failed).copies) :
    c ∈ w.copies := by
  rcases List.mem_append.mp h with h | h
  · exact List.mem_append_left _ h
  · obtain ⟨worker, hw, hv⟩ := List.mem_filterMap.mp h
    exact mem_copies_of_worker (mem_finish_workers hw) hv

lemma mem_copies_setPhase {phase : Phase} {c : Volume} (h : c ∈ (w.setPhase i key phase).copies) :
    c ∈ w.copies ∨ phase.volume = some c := by
  rcases List.mem_append.mp h with h | h
  · exact .inl (List.mem_append_left _ h)
  · obtain ⟨worker, hw, hv⟩ := List.mem_filterMap.mp h
    rcases mem_setPhase_workers hw with hw | rfl
    · exact .inl (mem_copies_of_worker hw hv)
    · exact .inr hv

end Copies

/-! ### The storage of a protected volume goes first -/

/-- What every reachable world keeps: the library's copies are versions the API server wrote;
a worker holds a volume it checked; a worker that had the provisioner delete a volume's
storage holds a volume whose storage is gone; and with `AddFinalizer`, every volume that the
API server removed while it carried `finalizerPV` under policy `Delete` has no storage left. -/
structure Guarded (cfg : VolumeConfig) (w : World) : Prop where
  coherent : w.server.Coherent w.copies
  checked : ∀ worker ∈ w.workers, worker.phase.Checked cfg
  deleted : ∀ worker ∈ w.workers, ∀ v, worker.phase.deleted = some v →
    v.metadata.name ∉ w.storage
  removed : cfg.addFinalizer = true → ∀ v ∈ w.server.removed,
    finalizerPV ∈ v.metadata.finalizers →
    v.fields.persistentVolumeReclaimPolicy = .delete → v.metadata.name ∉ w.storage

lemma guarded_initial {cfg : VolumeConfig} {w : World} (h : Initial w) : Guarded cfg w := by
  obtain ⟨hserver, hstorage, hvolumes, -, hworkers⟩ := h
  refine ⟨⟨?_, ?_, ?_⟩, ?_, ?_, ?_⟩ <;>
    simp [World.copies, hserver, hvolumes, hworkers, Store.empty, Store.WF]

section Steps

variable {cfg : VolumeConfig} {w : World} {i : Nat} {key : String}

lemma Guarded.copy (h : Guarded cfg w) {worker : Worker} (hw : worker ∈ w.workers) {v : Volume}
    (hv : worker.phase.volume = some v) : w.server.Copy v :=
  h.coherent.copies v (mem_copies_of_worker hw hv)

lemma Guarded.volumeQueue (h : Guarded cfg w) (q : RateLimitingQueue String) :
    Guarded cfg { w with volumeQueue := q } :=
  ⟨h.coherent, h.checked, h.deleted, h.removed⟩

lemma Guarded.finish (h : Guarded cfg w) (failed : Bool) :
    Guarded cfg (w.finish cfg i key failed) :=
  ⟨h.coherent.of_subset fun _ hc => .inl (mem_copies_finish hc),
    fun worker hw => h.checked worker (mem_finish_workers hw),
    fun worker hw => h.deleted worker (mem_finish_workers hw), h.removed⟩

lemma Guarded.setPhase (h : Guarded cfg w) {phase : Phase}
    (hcopy : ∀ v, phase.volume = some v → w.server.Copy v) (hchecked : phase.Checked cfg)
    (hdel : ∀ v, phase.deleted = some v → v.metadata.name ∉ w.storage) :
    Guarded cfg (w.setPhase i key phase) := by
  refine ⟨h.coherent.of_subset fun c hc => ?_, fun worker hw => ?_, fun worker hw => ?_,
    h.removed⟩
  · rcases mem_copies_setPhase hc with hc | hc
    · exact .inl hc
    · exact .inr (hcopy c hc)
  · rcases mem_setPhase_workers hw with hw | rfl
    · exact h.checked worker hw
    · exact hchecked
  · rcases mem_setPhase_workers hw with hw | rfl
    · exact h.deleted worker hw
    · exact hdel

lemma Guarded.storage (h : Guarded cfg w) {storage : List String}
    (hsub : ∀ name ∈ storage, name ∈ w.storage) : Guarded cfg { w with storage } :=
  ⟨h.coherent, h.checked, fun worker hw v hv hmem => h.deleted worker hw v hv (hsub _ hmem),
    fun hadd v hv hfin hpolicy hmem => h.removed hadd v hv hfin hpolicy (hsub _ hmem)⟩

lemma Guarded.request (h : Guarded cfg w) {server : Store VolumeFields}
    (hs : w.server.Changes server)
    (hrm : cfg.addFinalizer = true → ∀ v ∈ server.removed, v ∈ w.server.removed ∨
      (finalizerPV ∈ v.metadata.finalizers →
        v.fields.persistentVolumeReclaimPolicy = .delete → v.metadata.name ∉ w.storage)) :
    Guarded cfg { w with server } := by
  refine ⟨h.coherent.changes hs, h.checked, h.deleted, fun hadd v hv => ?_⟩
  rcases hrm hadd v hv with hv | hv
  · exact h.removed hadd v hv
  · exact hv

lemma Guarded.delete (h : Guarded cfg w) {name : String} {server : Store VolumeFields}
    (hd : w.server.delete name = .ok server) : Guarded cfg { w with server } := by
  refine h.request (Store.delete_changes hd) fun _ v hv => ?_
  rcases Store.delete_removed hd with hrm | ⟨cur, hrm, hnil⟩
  · exact .inl (hrm ▸ hv)
  · rw [hrm] at hv
    rcases List.mem_append.mp hv with hv | hv
    · exact .inl hv
    · cases List.mem_singleton.mp hv
      exact .inr fun hfin => absurd hnil (List.ne_nil_of_mem hfin)

lemma Guarded.work_got (h : Guarded cfg w) (fault : Fault) (answer : DeleteAnswer) :
    Guarded cfg (w.work cfg i key .got fault answer) := by
  simp only [World.work]
  split
  · exact h.finish false
  · rename_i volume hvolume
    split
    · exact h.finish false
    · rename_i hprovisioner
      refine h.setPhase (fun v hv => ?_) (by simpa [Phase.Checked] using hprovisioner)
        (fun v hv => by simp [Phase.deleted] at hv)
      cases hv
      exact h.coherent.copies volume (List.mem_append_left _ (Cache.getByKey_eq_some hvolume).1)

lemma Guarded.work_protecting (h : Guarded cfg w) {volume : Volume} (hcopy : volume ∈ w.copies)
    (hchecked : isProvisionerForVolume cfg.toConfig volume = true) (fault : Fault)
    (answer : DeleteAnswer) :
    Guarded cfg (w.work cfg i key (.protecting volume) fault answer) := by
  have hvolume := h.coherent.copies volume hcopy
  -- what the request did to the server, and the copy it gave back
  have hstep : Guarded cfg
        { w with server := (handleProtectionFinalizer cfg volume w.server fault).2 } ∧
      ∀ volume', (handleProtectionFinalizer cfg volume w.server fault).1 = .ok volume' →
        (handleProtectionFinalizer cfg volume w.server fault).2.Copy volume' ∧
        volume'.fields = volume.fields := by
    rcases handleProtectionFinalizer_cases cfg volume w.server fault with
      hr | ⟨hres, hs⟩ | ⟨volume', hr, hres⟩
    · rw [hr]
      exact ⟨h, fun v hv => by cases hv; exact ⟨hvolume, rfl⟩⟩
    · refine ⟨by rw [hs]; exact h, fun v hv => ?_⟩
      rw [hv] at hres
      cases hres
    · -- the update wrote over the copy; it removes the volume only with no finalizer left
      have hwrite := Store.update_issued hvolume.issued hr rfl
      refine ⟨h.request (Store.update_changes hr) fun hadd v hv => ?_, fun v hv => ?_⟩
      · rcases Store.update_removed hvolume.issued hr rfl with hrm | ⟨hrm, hnil⟩
        · exact .inl (hrm ▸ hv)
        · rw [hrm] at hv
          rcases List.mem_append.mp hv with hv | hv
          · exact .inl hv
          · cases List.mem_singleton.mp hv
            refine .inr fun hfin hpolicy => absurd hnil ?_
            exact List.ne_nil_of_mem (mem_protectionFinalizers hadd hpolicy hfin)
      · -- the copy it gives back is the version it wrote
        rcases hres with hres | hres
        · rw [hres] at hv
          cases hv
          have hfst : volume' = (w.server.write volume _).1 := congrArg Prod.fst hwrite
          have hsnd : (handleProtectionFinalizer cfg volume w.server fault).2 =
              (w.server.write volume _).2 := congrArg Prod.snd hwrite
          rw [hfst, hsnd]
          exact ⟨Store.copy_write h.coherent.wf rfl hvolume.used, by rw [Store.write_fst]⟩
        · rw [hv] at hres
          cases hres
  simp only [World.work]
  split
  · exact hstep.1.finish true
  · rename_i volume' hres
    obtain ⟨hcopy', hfields⟩ := hstep.2 volume' hres
    split
    · rename_i hdelete
      refine hstep.1.setPhase (fun v hv => by cases hv; exact hcopy')
        (show isProvisionerForVolume cfg.toConfig volume' = true ∧ shouldDelete cfg volume' = true
          from ⟨(isProvisionerForVolume_fields _ hfields).trans hchecked, hdelete⟩)
        (fun v hv => by simp [Phase.deleted] at hv)
    · exact hstep.1.finish false

lemma Guarded.work_deleting (h : Guarded cfg w) {volume : Volume} (hcopy : volume ∈ w.copies)
    (fault : Fault) (answer : DeleteAnswer) :
    Guarded cfg (w.work cfg i key (.deleting volume) fault answer) := by
  simp only [World.work]
  cases answer with
  | deleted =>
    refine (h.storage fun _ hn => List.mem_of_mem_filter hn).setPhase
      (fun v hv => by cases hv; exact h.coherent.copies volume hcopy) trivial (fun v hv => ?_)
    cases hv
    simp
  | ignored => exact h.finish false
  | failed => exact h.finish true

lemma Guarded.work_deletingObject (h : Guarded cfg w) {volume : Volume}
    (hcopy : volume ∈ w.copies) (hdel : volume.metadata.name ∉ w.storage) (fault : Fault)
    (answer : DeleteAnswer) :
    Guarded cfg (w.work cfg i key (.deletingObject volume) fault answer) := by
  have hserver : Guarded cfg { w with server := (w.server.call fault
      (((), ·) <$> w.server.delete volume.metadata.name)).2 } := by
    refine Store.call_snd_of (P := fun server => Guarded cfg { w with server }) fault h ?_
    intro _ server hr
    obtain ⟨server', hd, hs⟩ := map_eq_ok.mp hr
    cases hs
    exact h.delete hd
  simp only [World.work]
  split
  · exact hserver.finish true
  · split
    · exact hserver.setPhase (fun v hv => by cases hv; exact hserver.coherent.copies _ hcopy)
        trivial (fun v hv => by cases hv; exact hdel)
    · exact hserver.finish false

lemma Guarded.work_rereading (h : Guarded cfg w) {volume : Volume}
    (hdel : volume.metadata.name ∉ w.storage) (fault : Fault) (answer : DeleteAnswer) :
    Guarded cfg (w.work cfg i key (.rereading volume) fault answer) := by
  simp only [World.work]
  split
  · exact h.finish false
  · rename_i newVolume hnew
    obtain ⟨hmem, hname⟩ := Cache.getByKey_eq_some hnew
    split
    · refine h.setPhase (fun v hv => ?_) trivial (fun v hv => ?_)
      · cases hv
        exact h.coherent.copies newVolume (List.mem_append_left _ hmem)
      · cases hv
        rw [hname]
        exact hdel
    · exact h.finish false

lemma Guarded.work_unprotecting (h : Guarded cfg w) {newVolume : Volume}
    (hcopy : newVolume ∈ w.copies) (hdel : newVolume.metadata.name ∉ w.storage) (fault : Fault)
    (answer : DeleteAnswer) :
    Guarded cfg (w.work cfg i key (.unprotecting newVolume) fault answer) := by
  simp only [World.work]
  refine Guarded.finish ?_ _
  refine Store.call_snd_of (P := fun server => Guarded cfg { w with server }) fault h ?_
  intro _ server hr
  refine h.request (Store.update_changes hr) fun _ v hv => ?_
  rcases Store.update_removed (h.coherent.copies newVolume hcopy).issued hr rfl with
    hrm | ⟨hrm, -⟩
  · exact .inl (hrm ▸ hv)
  · rw [hrm] at hv
    rcases List.mem_append.mp hv with hv | hv
    · exact .inl hv
    · cases List.mem_singleton.mp hv
      exact .inr fun _ _ => hdel

lemma Guarded.work (h : Guarded cfg w) {worker : Worker} (hworker : worker ∈ w.workers)
    (fault : Fault) (answer : DeleteAnswer) :
    Guarded cfg (w.work cfg i worker.key worker.phase fault answer) := by
  obtain ⟨key, phase⟩ := worker
  -- the copy the worker holds, what it checked of it, and the storage it had deleted
  have hcopy : ∀ v, phase.volume = some v → v ∈ w.copies :=
    fun v hv => mem_copies_of_worker hworker hv
  have hchecked : phase.Checked cfg := h.checked _ hworker
  have hdel : ∀ v, phase.deleted = some v → v.metadata.name ∉ w.storage := h.deleted _ hworker
  cases phase with
  | got => exact h.work_got fault answer
  | protecting volume => exact h.work_protecting (hcopy volume rfl) hchecked fault answer
  | deleting volume => exact h.work_deleting (hcopy volume rfl) fault answer
  | deletingObject volume =>
    exact h.work_deletingObject (hcopy volume rfl) (hdel volume rfl) fault answer
  | rereading volume => exact h.work_rereading (hdel volume rfl) fault answer
  | unprotecting newVolume =>
    exact h.work_unprotecting (hcopy newVolume rfl) (hdel newVolume rfl) fault answer

lemma Guarded.create (h : Guarded cfg w) {volume o : Volume} {server : Store VolumeFields}
    (hfresh : ¬ w.server.Used volume.metadata.name)
    (hs : w.server.create volume = .ok (o, server)) :
    Guarded cfg { w with server, storage := w.storage ++ [volume.metadata.name] } := by
  have hne : ∀ v ∈ w.copies, v.metadata.name ≠ volume.metadata.name :=
    fun v hv heq => hfresh (heq ▸ (h.coherent.copies v hv).used)
  have hremoved : server.removed = w.server.removed := by
    rw [(Store.create_eq_ok hs).2.2]
  refine ⟨h.coherent.create hs, h.checked, fun worker hw v hv hmem => ?_,
    fun hadd v hv hfin hpolicy hmem => ?_⟩
  · rcases List.mem_append.mp hmem with hmem | hmem
    · exact h.deleted worker hw v hv hmem
    · exact hne v (mem_copies_of_worker hw (Phase.volume_of_deleted hv))
        (List.mem_singleton.mp hmem)
  · rw [hremoved] at hv
    rcases List.mem_append.mp hmem with hmem | hmem
    · exact h.removed hadd v hv hfin hpolicy hmem
    · exact hfresh (List.mem_singleton.mp hmem ▸ .inr ⟨v, hv, rfl⟩)

lemma Guarded.update (h : Guarded cfg w) {volume cur : Volume}
    (hcur : w.server.get volume.metadata.name = some cur)
    (hfin : finalizerPV ∈ volume.metadata.finalizers ↔ finalizerPV ∈ cur.metadata.finalizers) :
    Guarded cfg { w with server := (w.server.write cur volume).2 } := by
  obtain ⟨hmem, hname⟩ := Store.get_eq_some hcur
  refine h.request (.write hname.symm (.inl ⟨cur, hmem, rfl⟩)) fun _ v hv => ?_
  rw [Store.write_removed] at hv
  split_ifs at hv with hrm
  · rcases List.mem_append.mp hv with hv | hv
    · exact .inl hv
    · -- the write took the last finalizer off, so `finalizerPV` was not there
      cases List.mem_singleton.mp hv
      refine .inr fun hcurfin => absurd (hfin.mpr hcurfin) ?_
      rw [hrm.2]
      exact List.not_mem_nil
  · exact .inl hv

lemma Guarded.deliver (h : Guarded cfg w) {event : WatchEvent VolumeFields}
    {rest : List (WatchEvent VolumeFields)} (hwatch : w.server.watch = event :: rest)
    (q : RateLimitingQueue String) :
    Guarded cfg { w with server := { w.server with watch := rest }
                         volumes := Cache.apply w.volumes event, volumeQueue := q } := by
  refine ⟨(h.coherent.pop hwatch).of_subset fun c hc => ?_, h.checked, h.deleted, h.removed⟩
  rcases List.mem_append.mp hc with hc | hc
  · rcases Cache.mem_apply hc with hc | rfl
    · exact .inl (List.mem_append_left _ hc)
    · exact .inr ((h.coherent.watch c (hwatch ▸ List.mem_cons_self)).pop rest)
  · exact .inl (List.mem_append_right _ hc)

lemma Guarded.get (h : Guarded cfg w) (key : String) (q : RateLimitingQueue String) :
    Guarded cfg { w with volumeQueue := q, workers := w.workers ++ [⟨key, .got⟩] } := by
  refine ⟨h.coherent.of_subset fun c hc => .inl ?_, fun worker hw => ?_, fun worker hw v hv => ?_,
    h.removed⟩
  · simpa [World.copies, List.filterMap_append, Phase.volume] using hc
  · rcases List.mem_append.mp hw with hw | hw
    · exact h.checked worker hw
    · cases List.mem_singleton.mp hw
      trivial
  · rcases List.mem_append.mp hw with hw | hw
    · exact h.deleted worker hw v hv
    · cases List.mem_singleton.mp hw
      cases hv

lemma Guarded.step (h : Guarded cfg w) {e : Event} {w' : World} (hs : exec cfg w e = some w') :
    Guarded cfg w' := by
  rcases exec_cases hs with ⟨volume, o, server, hfresh, hc, rfl⟩ |
    ⟨volume, cur, hcur, hfin, -, rfl⟩ | ⟨name, server, hd, rfl⟩ |
    ⟨event, rest, q, hwatch, rfl⟩ | ⟨q, rfl⟩ | ⟨key, q, rfl⟩ |
    ⟨i, worker, fault, answer, hworker, rfl⟩
  · exact h.create hfresh hc
  · exact h.update hcur hfin
  · exact h.delete hd
  · exact h.deliver hwatch q
  · exact h.volumeQueue q
  · exact h.get key q
  · exact h.work hworker fault answer

lemma guarded_of_reachable (hw : Reachable (exec cfg) Initial w) : Guarded cfg w :=
  Reachable.invariant (fun _ h => guarded_initial h) (fun _ _ _ h hs => h.step hs) hw

end Steps

/-- **The storage of a protected volume goes before the volume.** With `AddFinalizer`, in every
reachable world, every persistent volume that the API server removed while it carried
`finalizerPV` under reclaim policy `Delete` has had its storage deleted, whatever the
informer delivered when, whatever other clients wrote, however many workers ran at once and
whichever requests failed. -/
theorem removed_volume_storage_deleted {cfg : VolumeConfig} (hadd : cfg.addFinalizer = true)
    {w : World} (hw : Reachable (exec cfg) Initial w) :
    ∀ v ∈ w.server.removed, finalizerPV ∈ v.metadata.finalizers →
      v.fields.persistentVolumeReclaimPolicy = .delete → v.metadata.name ∉ w.storage :=
  (guarded_of_reachable hw).removed hadd

/-- **Storage goes only for a released volume of policy `Delete`.** Whenever a step of a
reachable world deletes the storage of a volume, the API server wrote a version of that
volume that is its provisioner's and that `shouldDelete` accepts: released, of policy
`Delete`, passed by the deletion guard, and not a volume being deleted that lost
`finalizerPV` already. The version may be stale by then, but a volume that was never
released under `Delete` keeps its storage. -/
theorem storage_deleted_only_when_released {cfg : VolumeConfig} {w w' : World}
    (hw : Reachable (exec cfg) Initial w) {e : Event} (hs : exec cfg w e = some w')
    {name : String} (hname : name ∈ w.storage) (hgone : name ∉ w'.storage) :
    ∃ v ∈ w.server.history, v.metadata.name = name ∧
      isProvisionerForVolume cfg.toConfig v = true ∧ shouldDelete cfg v = true := by
  have h := guarded_of_reachable hw
  obtain ⟨worker, hworker, v, hphase, rfl⟩ := exec_storage hs hname hgone
  have hchecked : worker.phase.Checked cfg := h.checked worker hworker
  rw [hphase] at hchecked
  have hcopy : w.server.Copy v := h.copy hworker (by rw [hphase]; rfl)
  exact ⟨v, hcopy.written, rfl, hchecked⟩

section Runs

def mainVolumeConfig : VolumeConfig :=
  { mainConfig with addFinalizer := true, failedDeleteThreshold := 0, deletionGuard := none }

def initialVolumeWorld : World where
  server := Store.empty
  storage := []
  volumes := []
  volumeQueue := ⟨Queue.empty, ProvisionController.initialWorld.claimQueue.rateLimiter⟩
  workers := []

def releasedVolume : Volume where
  metadata := ⟨"pvc-uid-1", 0, [finalizerPV], false⟩
  fields :=
    ⟨(∅ : StrMap).insert annDynamicallyProvisioned "hostpath.csi.k8s.io",
      some { driver := "hostpath.csi.k8s.io", volumeHandle := "vol-1" }, .delete, .released⟩

/-- A worker deletes the storage and the object, the informer delivers the deletion mark, and
the worker takes the finalizer off, after which the API server removes the volume. -/
def deletionTrace : List Event :=
  [.create releasedVolume, .deliver, .get, .work 0 .none .deleted, .work 0 .none .deleted,
    .work 0 .none .deleted, .work 0 .none .deleted, .deliver, .work 0 .none .deleted,
    .work 0 .none .deleted]

theorem removed_volume_storage_deleted_released :
    ∃ w, Reachable (exec mainVolumeConfig) Initial w ∧
      (∃ v ∈ w.server.removed, finalizerPV ∈ v.metadata.finalizers ∧
        v.fields.persistentVolumeReclaimPolicy = .delete) ∧
      ∀ v ∈ w.server.removed, finalizerPV ∈ v.metadata.finalizers →
        v.fields.persistentVolumeReclaimPolicy = .delete → v.metadata.name ∉ w.storage := by
  have hrun : (run (exec mainVolumeConfig) initialVolumeWorld deletionTrace).map
      (fun w => decide (∃ v ∈ w.server.removed, finalizerPV ∈ v.metadata.finalizers ∧
        v.fields.persistentVolumeReclaimPolicy = .delete)) = some true := by
    decide
  obtain ⟨w, hreach, hw⟩ :=
    exists_reachable_of_run (show Initial initialVolumeWorld from ⟨rfl, rfl, rfl, rfl, rfl⟩) hrun
  exact ⟨w, hreach, of_decide_eq_true hw, removed_volume_storage_deleted rfl hreach⟩

theorem storage_deleted_only_when_released_pvc :
    ∃ w w', Reachable (exec mainVolumeConfig) Initial w ∧
      exec mainVolumeConfig w (.work 0 .none .deleted) = some w' ∧
      "pvc-uid-1" ∈ w.storage ∧ "pvc-uid-1" ∉ w'.storage ∧
      ∃ v ∈ w.server.history, v.metadata.name = "pvc-uid-1" ∧
        isProvisionerForVolume mainVolumeConfig.toConfig v = true ∧
        shouldDelete mainVolumeConfig v = true := by
  have hrun : (run (exec mainVolumeConfig) initialVolumeWorld (deletionTrace.take 5)).map
      (fun w => match exec mainVolumeConfig w (.work 0 .none .deleted) with
        | some w' => decide ("pvc-uid-1" ∈ w.storage ∧ "pvc-uid-1" ∉ w'.storage)
        | none => false) = some true := by
    decide
  obtain ⟨w, hreach, hw⟩ :=
    exists_reachable_of_run (show Initial initialVolumeWorld from ⟨rfl, rfl, rfl, rfl, rfl⟩) hrun
  split at hw
  · rename_i w' hs
    obtain ⟨hname, hgone⟩ := of_decide_eq_true hw
    exact ⟨w, w', hreach, hs, hname, hgone,
      storage_deleted_only_when_released hreach hs hname hgone⟩
  · cases hw

end Runs

end CsiProvisioner.ProvisionController.VolumeWorker
