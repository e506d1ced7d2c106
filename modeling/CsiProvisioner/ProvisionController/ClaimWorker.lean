import CsiProvisioner.Controller.Provisioning
import CsiProvisioner.Lib.RateLimiter
import CsiProvisioner.Lib.Transition

/-!
The claim worker of the provisioning library that the provisioner runs
(`sigs.k8s.io/sig-storage-lib-external-provisioner/v9/controller/controller.go`).

The claim informer's handlers put the UID of every claim they see into a rate-limiting work
queue. A worker takes a UID and syncs the claim (`syncClaimHandler`, `syncClaim`,
`provisionClaimOperation`); when the sync fails it adds the UID back rate limited, and when
it succeeds it forgets the UID. A claim whose provisioning goes on in the background
(`ProvisioningInBackground`) is kept in `claimsInProgress`, so that it is synced again even
after it was deleted. After `FailedProvisionThreshold` failures the library gives up on a
claim: it is done with the UID without adding it back or forgetting it, and drops the claim
from `claimsInProgress`, which, as its source says, can leak a volume that is being made.
`main` sets the threshold to 0, which turns giving up off.

The world holds the library's stores (the claims, storage classes and volume names its
informers hold), `claimsInProgress` and the claim queue. The informers deliver any claim,
class or volume at any time. A sync is one step; what the node lister, the provisioner and
the API server answer during it is the data of the step.
-/

namespace CsiProvisioner.ProvisionController

open Go Api WorkQueue Transition
open Controller.Provisioning (ProvisioningState)

def annStorageProvisioner : String := "volume.kubernetes.io/storage-provisioner"

def annBetaStorageProvisioner : String := "volume.beta.kubernetes.io/storage-provisioner"

def annSelectedNode : String := "volume.kubernetes.io/selected-node"

def annAlphaSelectedNode : String := "volume.alpha.kubernetes.io/selected-node"

/-- `getString`: the value of the first of the keys that is set. -/
def getString (m : StrMap) (keys : List String) : Option String :=
  keys.findSome? fun key => m.lookup key

/-- `util.GetPersistentVolumeClaimClass`: the beta annotation first, then the claim's class. -/
def GetPersistentVolumeClaimClass (claim : PersistentVolumeClaim) : String :=
  match claim.annotations.lookup Controller.Secrets.betaStorageClassAnnotation with
  | some storageClass => storageClass
  | none => claim.spec.storageClassName.getD ""

/-- `util.CheckPersistentVolumeClaimModeBlock`. -/
def CheckPersistentVolumeClaimModeBlock (claim : PersistentVolumeClaim) : Bool :=
  claim.spec.volumeMode == some .block

def getProvisionedVolumeNameForClaim (claim : PersistentVolumeClaim) : String :=
  "pvc-" ++ claim.uid

def claimToClaimKey (claim : PersistentVolumeClaim) : String := claim.ns ++ "/" ++ claim.name

/-- The options of the `ProvisionController` that the claim worker reads. -/
structure Config where
  provisionerName : String
  additionalProvisionerNames : List String
  failedProvisionThreshold : Nat

/-- What the library asks of its provisioner besides `Provision`: `ShouldProvision` of a
provisioner that is a `Qualifier`, and `SupportsBlock`, false unless it is a
`BlockProvisioner`. -/
structure Provisioner where
  qualifier : Option (PersistentVolumeClaim → Bool)
  supportsBlock : Bool

def knownProvisioner (cfg : Config) (provisioner : String) : Bool :=
  provisioner == cfg.provisionerName || cfg.additionalProvisionerNames.contains provisioner

/-- The library's state. -/
structure World where
  /-- The claim informer's store. -/
  claims : List PersistentVolumeClaim
  /-- The storage class informer's store. -/
  classes : List StorageClass
  /-- The names of the volumes in the volume informer's store. -/
  volumes : List String
  claimsInProgress : AList (fun _ : String => PersistentVolumeClaim)
  claimQueue : RateLimitingQueue String

/-- A store keyed by namespace and name, with `claim` in the place of what it held under
that key. -/
def storeClaim (claims : List PersistentVolumeClaim) (claim : PersistentVolumeClaim) :
    List PersistentVolumeClaim :=
  claims.filter (fun o => claimToClaimKey o != claimToClaimKey claim) ++ [claim]

def removeClaim (claims : List PersistentVolumeClaim) (claim : PersistentVolumeClaim) :
    List PersistentVolumeClaim :=
  claims.filter fun o => claimToClaimKey o != claimToClaimKey claim

def storeVolume (volumes : List String) (name : String) : List String :=
  if name ∈ volumes then volumes else volumes ++ [name]

def World.getStorageClass (w : World) (name : String) : Except String StorageClass :=
  match w.classes.find? (·.name == name) with
  | some storageClass => .ok storageClass
  | none => .error ("storageClass " ++ quote name ++ " not found")

/-- The node lister's answer for the selected node. -/
inductive NodeAnswer
  | found
  | notFound (message : String)
  | failed (message : String)

/-- What `Provision` returned: a volume, an `IgnoredError`, or another error with the state
that goes with it. -/
inductive ProvisionAnswer
  | provisioned (volume : PersistentVolume)
  | ignored (reason : String)
  | failed (state : ProvisioningState) (message : String)

/-- What the outside answers during one sync. -/
structure Answers where
  node : NodeAnswer
  provision : ProvisionAnswer
  /-- The API server's answer to the update of `rescheduleProvisioning`. -/
  rescheduleUpdate : Except String Unit

/-- The error of a sync: `errStopProvision`, or another one. -/
inductive SyncError
  | stopProvision
  | message (text : String)

/-- `rescheduleProvisioning`: the claim without its selected node, which the library writes
to the API server and into its own store; `none` for a claim without a selected node. -/
def rescheduleProvisioning (claim : PersistentVolumeClaim) (update : Except String Unit) :
    Except String (Option PersistentVolumeClaim) :=
  if !hasAnnotationKey claim.annotations annSelectedNode then .ok none
  else
    let newClaim := { claim with annotations := claim.annotations.erase annSelectedNode }
    match update with
    | .error e => .error ("delete annotation \x27annSelectedNode\x27 for PersistentVolumeClaim " ++
        quote (claimToClaimKey newClaim) ++ ": " ++ e)
    | .ok () => .ok (some newClaim)

/-- `provisionVolumeErrorHandling`: a claim with a selected node that its provisioner wants
rescheduled loses the selected node; the state and error the operation returns. -/
def World.provisionVolumeErrorHandling (w : World) (result : ProvisioningState) (err : String)
    (claim : PersistentVolumeClaim) (update : Except String Unit) :
    ProvisioningState × Option SyncError × World :=
  if hasAnnotationKey claim.annotations annSelectedNode && result == .reschedule then
    match rescheduleProvisioning claim update with
    -- the claim stays in the queue as if the provisioner had finished
    | .error _ => (.finished, some (.message err), w)
    | .ok newClaim =>
      (.finished, some .stopProvision,
        { w with claims := (newClaim.map (storeClaim w.claims)).getD w.claims })
  else if result == .reschedule then (.finished, some (.message err), w)
  else (result, some (.message err), w)

/-- `provisionClaimOperation`: the state, the error, and the stores after the operation. -/
def World.provisionClaimOperation (cfg : Config) (p : Provisioner) (w : World)
    (claim : PersistentVolumeClaim) (answers : Answers) :
    ProvisioningState × Option SyncError × World :=
  let claimClass := GetPersistentVolumeClaimClass claim
  if getProvisionedVolumeNameForClaim claim ∈ w.volumes then (.finished, some .stopProvision, w)
  -- `canProvision`
  else if CheckPersistentVolumeClaimModeBlock claim && !p.supportsBlock then
    (.finished, some .stopProvision, w)
  else
    match w.getStorageClass claimClass with
    | .error e => (.finished, some (.message e), w)
    | .ok storageClass =>
      if !knownProvisioner cfg storageClass.provisioner then (.finished, some .stopProvision, w)
      else
        match getString claim.annotations [annSelectedNode, annAlphaSelectedNode], answers.node with
        | some _, .notFound e => w.provisionVolumeErrorHandling .reschedule e claim
            answers.rescheduleUpdate
        | some _, .failed e => (.noChange, some (.message ("failed to get target node: " ++ e)), w)
        | _, _ =>
          match answers.provision with
          | .ignored _ => (.finished, some .stopProvision, w)
          | .failed state e =>
            w.provisionVolumeErrorHandling state
              ("failed to provision volume with StorageClass " ++ quote claimClass ++ ": " ++ e)
              claim answers.rescheduleUpdate
          -- `StoreVolume` of the queue store never fails, and the volume joins the store
          | .provisioned volume => (.finished, none, { w with volumes := storeVolume w.volumes volume.name })

def World.shouldProvision (cfg : Config) (p : Provisioner) (w : World)
    (claim : PersistentVolumeClaim) : Except String Bool :=
  if claim.spec.volumeName != "" then .ok false
  else if p.qualifier.any (fun shouldProvision => !shouldProvision claim) then .ok false
  else
    match getString claim.annotations [annStorageProvisioner, annBetaStorageProvisioner] with
    | some provisioner =>
      if knownProvisioner cfg provisioner then do
        let storageClass ← w.getStorageClass (GetPersistentVolumeClaimClass claim)
        if storageClass.volumeBindingMode == some .waitForFirstConsumer then
          -- delayed binding: only once the scheduler selected a node
          pure (match claim.annotations.lookup annSelectedNode with
            | some selectedNode => selectedNode != ""
            | none => false)
        else pure true
      else .ok false
    | none => .ok false

/-- `syncClaim`: the error to return, and the library's state after the sync. -/
def World.syncClaim (cfg : Config) (p : Provisioner) (w : World) (claim : PersistentVolumeClaim)
    (answers : Answers) : Option SyncError × World :=
  match w.shouldProvision cfg p claim with
  | .error e => (some (.message e), w)
  | .ok false => (none, w)
  | .ok true =>
    let r := w.provisionClaimOperation cfg p claim answers
    if r.2.1.isNone || r.1 == .finished then
      -- provisioning is over, or never started; `errStopProvision` is no error to the caller
      let err := match r.2.1 with
        | some .stopProvision => none
        | err => err
      (err, { r.2.2 with claimsInProgress := r.2.2.claimsInProgress.erase claim.uid })
    else if r.1 == .inBackground then
      (r.2.1, { r.2.2 with claimsInProgress := r.2.2.claimsInProgress.insert claim.uid claim })
    -- `ProvisioningNoChange` leaves `claimsInProgress` as it was
    else (r.2.1, r.2.2)

/-- `syncClaimHandler`: the claim with the UID from the store, or else from
`claimsInProgress`. -/
def World.syncClaimHandler (cfg : Config) (p : Provisioner) (w : World) (key : String)
    (answers : Answers) : Option SyncError × World :=
  match w.claims.find? (·.uid == key) with
  | some claim => w.syncClaim cfg p claim answers
  | none =>
    match w.claimsInProgress.lookup key with
    | some claim => w.syncClaim cfg p claim answers
    -- the claim in the work queue no longer exists
    | none => (none, w)

/-- `processNextClaimWorkItem` once the worker got `key`: the sync, then `AddRateLimited`,
giving up, or `Forget`, and last `Done`. -/
def World.processClaimWorkItem (cfg : Config) (p : Provisioner) (w : World) (key : String)
    (answers : Answers) : World :=
  let r := w.syncClaimHandler cfg p key answers
  match r.1 with
  | some _ =>
    if cfg.failedProvisionThreshold = 0 then
      { r.2 with claimQueue := (r.2.claimQueue.addRateLimited key).done key }
    else if r.2.claimQueue.numRequeues key < cfg.failedProvisionThreshold then
      { r.2 with claimQueue := (r.2.claimQueue.addRateLimited key).done key }
    else
      -- giving up: done but not forgotten, and no longer in progress
      { r.2 with
        claimsInProgress := r.2.claimsInProgress.erase key
        claimQueue := r.2.claimQueue.done key }
  | none =>
    { r.2 with
      claimsInProgress := r.2.claimsInProgress.erase key
      claimQueue := (r.2.claimQueue.forget key).done key }

inductive Event
  /-- The claim informer delivers a claim that was added or updated. -/
  | claimAddedOrUpdated (claim : PersistentVolumeClaim)
  /-- The claim informer delivers a deleted claim; its handler does nothing. -/
  | claimDeleted (claim : PersistentVolumeClaim)
  | classesChanged (classes : List StorageClass)
  | volumeAdded (name : String)
  | volumeDeleted (name : String)
  | get
  | fire (key : String)
  /-- The worker that holds `key` syncs its claim. -/
  | process (key : String) (answers : Answers)

def exec (cfg : Config) (p : Provisioner) (w : World) : Event → Option World
  | .claimAddedOrUpdated claim =>
    some { w with claims := storeClaim w.claims claim, claimQueue := w.claimQueue.add claim.uid }
  | .claimDeleted claim => some { w with claims := removeClaim w.claims claim }
  | .classesChanged classes => some { w with classes := classes }
  | .volumeAdded name => some { w with volumes := storeVolume w.volumes name }
  | .volumeDeleted name => some { w with volumes := w.volumes.erase name }
  | .get => w.claimQueue.get.map fun r => { w with claimQueue := r.2 }
  | .fire key => (w.claimQueue.fire key).map fun q => { w with claimQueue := q }
  | .process key answers =>
    if key ∈ w.claimQueue.queue.processing then some (w.processClaimWorkItem cfg p key answers)
    else none

/-- Nothing in progress, an empty queue, and a rate limiter that has seen no failure; the
informers' stores may hold anything. -/
def Initial (w : World) : Prop :=
  w.claimsInProgress.entries = [] ∧ w.claimQueue.queue = Queue.empty ∧
    ∀ key, w.claimQueue.numRequeues key = 0

/-! ### What a sync does to the library's own state -/

lemma provisionVolumeErrorHandling_keeps (w : World) (result : ProvisioningState) (err : String)
    (claim : PersistentVolumeClaim) (update : Except String Unit) :
    (w.provisionVolumeErrorHandling result err claim update).2.2.claimQueue = w.claimQueue ∧
      (w.provisionVolumeErrorHandling result err claim update).2.2.claimsInProgress =
        w.claimsInProgress := by
  unfold World.provisionVolumeErrorHandling
  split_ifs
  · split <;> exact ⟨rfl, rfl⟩
  · exact ⟨rfl, rfl⟩
  · exact ⟨rfl, rfl⟩

lemma provisionClaimOperation_keeps (cfg : Config) (p : Provisioner) (w : World)
    (claim : PersistentVolumeClaim) (answers : Answers) :
    (w.provisionClaimOperation cfg p claim answers).2.2.claimQueue = w.claimQueue ∧
      (w.provisionClaimOperation cfg p claim answers).2.2.claimsInProgress =
        w.claimsInProgress := by
  unfold World.provisionClaimOperation
  dsimp only
  split_ifs
  · exact ⟨rfl, rfl⟩
  · exact ⟨rfl, rfl⟩
  · split
    · exact ⟨rfl, rfl⟩
    · split_ifs
      · exact ⟨rfl, rfl⟩
      · split
        · exact provisionVolumeErrorHandling_keeps _ _ _ _ _
        · exact ⟨rfl, rfl⟩
        · split
          · exact ⟨rfl, rfl⟩
          · exact provisionVolumeErrorHandling_keeps _ _ _ _ _
          · exact ⟨rfl, rfl⟩

/-- What a sync does to `claimsInProgress` under the UID it synced: it leaves it, drops the
UID, or stores a claim with that UID under it, the last only with an error. -/
inductive InProgressChange (w w' : World) (key : String) (err : Option SyncError) : Prop
  | keep (h : w'.claimsInProgress = w.claimsInProgress)
  | erase (h : w'.claimsInProgress = w.claimsInProgress.erase key)
  | insert (claim : PersistentVolumeClaim) (huid : claim.uid = key)
      (h : w'.claimsInProgress = w.claimsInProgress.insert key claim) (herr : err.isSome)

namespace InProgressChange

variable {w w' : World} {key : String} {err : Option SyncError}

lemma lookup_of_ne (hc : InProgressChange w w' key err) {k : String} (hk : k ≠ key) :
    w'.claimsInProgress.lookup k = w.claimsInProgress.lookup k := by
  cases hc with
  | keep h => rw [h]
  | erase h => rw [h, AList.lookup_erase_ne hk]
  | insert claim _ h _ => rw [h, AList.lookup_insert_ne hk]

lemma mem_of_ne (hc : InProgressChange w w' key err) {k : String} (hk : k ≠ key)
    (hmem : k ∈ w'.claimsInProgress) : k ∈ w.claimsInProgress := by
  rw [← AList.lookup_isSome, ← hc.lookup_of_ne hk]
  exact AList.lookup_isSome.mpr hmem

lemma uid_eq (hc : InProgressChange w w' key err)
    (huid : ∀ k claim, w.claimsInProgress.lookup k = some claim → claim.uid = k) :
    ∀ k claim, w'.claimsInProgress.lookup k = some claim → claim.uid = k := by
  intro k c hkc
  by_cases hk : k = key
  · subst hk
    cases hc with
    | keep h => exact huid k c (h ▸ hkc)
    | erase h => simp [h] at hkc
    | insert claim hclaim h _ =>
      rw [h, AList.lookup_insert, Option.some.injEq] at hkc
      exact hkc ▸ hclaim
  · exact huid k c (hc.lookup_of_ne hk ▸ hkc)

end InProgressChange

lemma syncClaim_spec (cfg : Config) (p : Provisioner) (w : World) (claim : PersistentVolumeClaim)
    (answers : Answers) :
    (w.syncClaim cfg p claim answers).2.claimQueue = w.claimQueue ∧
      InProgressChange w (w.syncClaim cfg p claim answers).2 claim.uid
        (w.syncClaim cfg p claim answers).1 := by
  obtain ⟨hqueue, hprogress⟩ := provisionClaimOperation_keeps cfg p w claim answers
  unfold World.syncClaim
  split
  · exact ⟨rfl, .keep rfl⟩
  · exact ⟨rfl, .keep rfl⟩
  · dsimp only
    split_ifs with hover hbackground
    · exact ⟨hqueue, .erase (by rw [← hprogress])⟩
    · -- in the background: the operation returned an error, or it would be over
      have herr : (w.provisionClaimOperation cfg p claim answers).2.1.isSome := by
        simp only [Bool.or_eq_true, not_or, Option.isNone_iff_eq_none] at hover
        exact Option.isSome_iff_ne_none.mpr hover.1
      exact ⟨hqueue, .insert claim rfl (by rw [← hprogress]) herr⟩
    · exact ⟨hqueue, .keep hprogress⟩

lemma syncClaimHandler_spec (cfg : Config) (p : Provisioner) (w : World) (key : String)
    (answers : Answers)
    (huid : ∀ claim, w.claimsInProgress.lookup key = some claim → claim.uid = key) :
    (w.syncClaimHandler cfg p key answers).2.claimQueue = w.claimQueue ∧
      InProgressChange w (w.syncClaimHandler cfg p key answers).2 key
        (w.syncClaimHandler cfg p key answers).1 := by
  unfold World.syncClaimHandler
  split
  · rename_i claim hfind
    have hkey : claim.uid = key := by simpa using List.find?_some hfind
    exact hkey ▸ syncClaim_spec cfg p w claim answers
  · split
    · rename_i claim hlookup
      exact huid claim hlookup ▸ syncClaim_spec cfg p w claim answers
    · exact ⟨rfl, .keep rfl⟩

/-! ### One item of the worker -/

section

variable (cfg : Config) (p : Provisioner) (w : World) (key : String) (answers : Answers)

lemma processClaimWorkItem_cases :
    (∃ e, (w.syncClaimHandler cfg p key answers).1 = some e ∧
      (cfg.failedProvisionThreshold = 0 ∨
        (w.syncClaimHandler cfg p key answers).2.claimQueue.numRequeues key <
          cfg.failedProvisionThreshold) ∧
      w.processClaimWorkItem cfg p key answers =
        { (w.syncClaimHandler cfg p key answers).2 with
          claimQueue :=
            ((w.syncClaimHandler cfg p key answers).2.claimQueue.addRateLimited key).done key }) ∨
    (cfg.failedProvisionThreshold ≠ 0 ∧
      w.processClaimWorkItem cfg p key answers =
        { (w.syncClaimHandler cfg p key answers).2 with
          claimsInProgress := (w.syncClaimHandler cfg p key answers).2.claimsInProgress.erase key
          claimQueue := (w.syncClaimHandler cfg p key answers).2.claimQueue.done key }) ∨
    ((w.syncClaimHandler cfg p key answers).1 = none ∧
      w.processClaimWorkItem cfg p key answers =
        { (w.syncClaimHandler cfg p key answers).2 with
          claimsInProgress := (w.syncClaimHandler cfg p key answers).2.claimsInProgress.erase key
          claimQueue := ((w.syncClaimHandler cfg p key answers).2.claimQueue.forget key).done key }) := by
  unfold World.processClaimWorkItem
  dsimp only
  split
  · rename_i e herr
    split_ifs with hzero hbelow
    · exact .inl ⟨e, herr, .inl hzero, rfl⟩
    · exact .inl ⟨e, herr, .inr hbelow, rfl⟩
    · exact .inr (.inl ⟨hzero, rfl⟩)
  · rename_i herr
    exact .inr (.inr ⟨herr, rfl⟩)

end

/-! ### The claims in progress are tracked -/

/-- The queue keeps its shape, and every claim in progress is stored under its own UID, has
a failure on record and is held for a worker. -/
structure Tracked (w : World) : Prop where
  wf : w.claimQueue.queue.WF
  uid_eq : ∀ key claim, w.claimsInProgress.lookup key = some claim → claim.uid = key
  failed : ∀ key ∈ w.claimsInProgress, 0 < w.claimQueue.numRequeues key
  pending : ∀ key ∈ w.claimsInProgress, w.claimQueue.queue.Pending key

lemma tracked_initial {w : World} (h : Initial w) : Tracked w := by
  obtain ⟨hentries, hqueue, -⟩ := h
  have hnone : ∀ key, key ∉ w.claimsInProgress := fun key hkey => by
    have hkeys : key ∈ w.claimsInProgress.keys := hkey
    simp [AList.keys, hentries] at hkeys
  refine ⟨hqueue ▸ Queue.wf_empty, fun key claim hlookup => ?_, fun key hkey => absurd hkey (hnone key),
    fun key hkey => absurd hkey (hnone key)⟩
  exact absurd (AList.lookup_isSome.mp (Option.isSome_iff_exists.mpr ⟨claim, hlookup⟩)) (hnone key)

lemma uid_eq_erase {m : AList (fun _ : String => PersistentVolumeClaim)} (key : String)
    (huid : ∀ k claim, m.lookup k = some claim → claim.uid = k) :
    ∀ k claim, (m.erase key).lookup k = some claim → claim.uid = k := by
  intro k claim hlookup
  by_cases hk : k = key
  · subst hk
    simp at hlookup
  · exact huid k claim (by rwa [AList.lookup_erase_ne hk] at hlookup)

section

variable {cfg : Config} {p : Provisioner} {w : World} {key : String} {answers : Answers}

lemma Tracked.process (h : Tracked w) (hkey : key ∈ w.claimQueue.queue.processing) :
    Tracked (w.processClaimWorkItem cfg p key answers) := by
  obtain ⟨hqueue, hchange⟩ := syncClaimHandler_spec cfg p w key answers (h.uid_eq key)
  have huid := hchange.uid_eq h.uid_eq
  have hcases := processClaimWorkItem_cases cfg p w key answers
  generalize w.syncClaimHandler cfg p key answers = r at hqueue hchange huid hcases
  have hwf : r.2.claimQueue.queue.WF := hqueue ▸ h.wf
  have hproc : key ∈ r.2.claimQueue.queue.processing := hqueue ▸ hkey
  -- a claim in progress under another UID was in progress before the sync
  have hother : ∀ k ∈ r.2.claimsInProgress, k ≠ key →
      0 < r.2.claimQueue.numRequeues k ∧ r.2.claimQueue.queue.Pending k := fun k hk hne =>
    hqueue ▸ ⟨h.failed k (hchange.mem_of_ne hne hk), h.pending k (hchange.mem_of_ne hne hk)⟩
  rcases hcases with ⟨e, -, -, heq⟩ | ⟨-, heq⟩ | ⟨-, heq⟩ <;> rw [heq]
  · -- added back rate limited: the UID has one more failure and is held for a worker
    refine ⟨RateLimitingQueue.wf_addRateLimited_done hwf hproc, huid, fun k hk => ?_,
      fun k hk => ?_⟩
    · by_cases hne : k = key
      · subst hne
        simp
      · rw [RateLimitingQueue.numRequeues_done,
          RateLimitingQueue.numRequeues_addRateLimited_of_ne _ hne]
        exact (hother k hk hne).1
    · by_cases hne : k = key
      · exact hne ▸ RateLimitingQueue.pending_addRateLimited_done_self _ _
      · exact RateLimitingQueue.pending_addRateLimited_done_of_ne hne (hother k hk hne).2
  · -- given up: the claim is no longer in progress
    refine ⟨hwf.done hproc, uid_eq_erase key huid, fun k hk => ?_, fun k hk => ?_⟩
    · obtain ⟨hne, hk⟩ := AList.mem_erase.mp hk
      exact (hother k hk hne).1
    · obtain ⟨hne, hk⟩ := AList.mem_erase.mp hk
      exact (hother k hk hne).2.done hne
  · -- forgotten after a successful sync, and no longer in progress
    refine ⟨hwf.done hproc, uid_eq_erase key huid, fun k hk => ?_, fun k hk => ?_⟩
    · obtain ⟨hne, hk⟩ := AList.mem_erase.mp hk
      rw [RateLimitingQueue.numRequeues_done, RateLimitingQueue.numRequeues_forget_of_ne _ hne]
      exact (hother k hk hne).1
    · obtain ⟨hne, hk⟩ := AList.mem_erase.mp hk
      exact (hother k hk hne).2.done hne

end

/-! ### Every reachable state -/

section

variable {cfg : Config} {p : Provisioner} {w w' : World}

lemma exec_cases {e : Event} (h : exec cfg p w e = some w') :
    (∃ uid, w'.claimQueue = w.claimQueue.add uid ∧ w'.claimsInProgress = w.claimsInProgress) ∨
    (w'.claimQueue = w.claimQueue ∧ w'.claimsInProgress = w.claimsInProgress) ∨
    (∃ key, w.claimQueue.get = some (key, w'.claimQueue) ∧
      w'.claimsInProgress = w.claimsInProgress) ∨
    (∃ key, w.claimQueue.fire key = some w'.claimQueue ∧
      w'.claimsInProgress = w.claimsInProgress) ∨
    (∃ key answers, key ∈ w.claimQueue.queue.processing ∧
      w' = w.processClaimWorkItem cfg p key answers) := by
  cases e with
  | claimAddedOrUpdated claim =>
    cases Option.some.inj h
    exact .inl ⟨claim.uid, rfl, rfl⟩
  | claimDeleted claim =>
    cases Option.some.inj h
    exact .inr (.inl ⟨rfl, rfl⟩)
  | classesChanged classes =>
    cases Option.some.inj h
    exact .inr (.inl ⟨rfl, rfl⟩)
  | volumeAdded name =>
    cases Option.some.inj h
    exact .inr (.inl ⟨rfl, rfl⟩)
  | volumeDeleted name =>
    cases Option.some.inj h
    exact .inr (.inl ⟨rfl, rfl⟩)
  | get =>
    obtain ⟨⟨key, q⟩, hget, rfl⟩ := Option.map_eq_some_iff.mp h
    exact .inr (.inr (.inl ⟨key, hget, rfl⟩))
  | fire key =>
    obtain ⟨q, hfire, rfl⟩ := Option.map_eq_some_iff.mp h
    exact .inr (.inr (.inr (.inl ⟨key, hfire, rfl⟩)))
  | process key answers =>
    simp only [exec] at h
    split_ifs at h with hkey
    exact .inr (.inr (.inr (.inr ⟨key, answers, hkey, (Option.some.inj h).symm⟩)))

lemma Tracked.of_queue (h : Tracked w) (hwf : w'.claimQueue.queue.WF)
    (hcount : ∀ k, w'.claimQueue.numRequeues k = w.claimQueue.numRequeues k)
    (hpending : ∀ k, w.claimQueue.queue.Pending k → w'.claimQueue.queue.Pending k)
    (hprogress : w'.claimsInProgress = w.claimsInProgress) : Tracked w' := by
  refine ⟨hwf, hprogress ▸ h.uid_eq, fun k hk => ?_, fun k hk => ?_⟩
  · rw [hcount]
    exact h.failed k (hprogress ▸ hk)
  · exact hpending k (h.pending k (hprogress ▸ hk))

lemma Tracked.step (h : Tracked w) {e : Event} (hs : exec cfg p w e = some w') : Tracked w' := by
  rcases exec_cases hs with ⟨uid, hq, hp⟩ | ⟨hq, hp⟩ | ⟨key, hget, hp⟩ | ⟨key, hfire, hp⟩ |
    ⟨key, answers, hkey, rfl⟩
  · refine h.of_queue (hq ▸ h.wf.add uid) (fun k => by rw [hq]; rfl)
      (fun k hk => hq ▸ hk.add uid) hp
  · exact h.of_queue (hq ▸ h.wf) (fun k => by rw [hq]) (fun k hk => hq ▸ hk) hp
  · obtain ⟨hqueue, hlimiter⟩ := RateLimitingQueue.get_eq_some hget
    exact h.of_queue (h.wf.get hqueue)
      (fun k => by simp only [RateLimitingQueue.numRequeues, hlimiter])
      (fun k hk => hk.get hqueue) hp
  · obtain ⟨hqueue, hlimiter⟩ := RateLimitingQueue.fire_eq_some hfire
    exact h.of_queue ((Queue.grows_fire hqueue).wf h.wf)
      (fun k => by simp only [RateLimitingQueue.numRequeues, hlimiter])
      (fun k hk => hk.fire h.wf hqueue) hp
  · exact h.process hkey

end

/-! ### A claim whose class is missing, and one in the background -/

section Runs

def mainConfig : Config := ⟨"hostpath.csi.k8s.io", [], 0⟩

def initialWorld : World where
  claims := []
  classes := []
  volumes := []
  claimsInProgress := ∅
  claimQueue := ⟨Queue.empty,
    NewItemExponentialFailureRateLimiter 1000000000 300000000000 (by decide) (by decide)⟩

end Runs

end CsiProvisioner.ProvisionController
