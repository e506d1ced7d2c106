import Mathlib.Data.List.AList
import CsiProvisioner.Lib.ApiServer
import CsiProvisioner.Lib.WorkQueue
import CsiProvisioner.Lib.Transition

/-!
The store that saves provisioned volumes to the API server in the background (`queueStore` of
the provisioning library).

`StoreVolume` tries once to create the volume; when that fails it stores the volume in a map
under its name and adds the name to a rate-limited queue, and returns. Save workers take names
from the queue, load the volume of the name, and try again: a save that fails adds the name back
rate limited, a save that succeeds deletes the volume from the map. A volume the server already
has counts as saved. Each step of a call or of a worker is one operation on the server, the map
or the queue, and the steps of all calls and workers interleave with each other and with the
requests of other clients.

The delays come from `DefaultControllerRateLimiter`, whose token bucket runs on the clock: each
`AddRateLimited` takes the delay as an input of its step, and `Forget`, which only resets the
limiter's count, changes nothing else.

What the interface promises is that once `StoreVolume` returns, the volume "was saved or is
being saved in background". Over every run: the name of each volume whose call has returned is
used on the server, or the map holds a volume under it and the queue will hand it to a worker
that loads that volume.
-/

namespace CsiProvisioner.ProvisionController.VolumeStore

open ApiServer WorkQueue Transition

variable {α : Type*}

/-- `doSaveVolume`: `Create` of the volume; one the server has already counts as saved. -/
def doSaveVolume (server : Store α) (volume : Object α) (fault : Fault) :
    Except StatusError Unit × Store α :=
  let request := server.call fault (server.create volume)
  match request.1 with
  | .ok _ => (.ok (), request.2)
  | .error .alreadyExists => (.ok (), request.2)
  | .error e => (.error e, request.2)

/-- The map of the volumes to save, from their names (`volumes sync.Map`). -/
abbrev VolumeMap (α : Type*) := AList (fun _ : String => Object α)

/-- Where a worker is in `processNextWorkItem` with the name it got. -/
inductive Phase (α : Type*)
  /-- `Load` of the name comes next. -/
  | got
  /-- The map held the volume: `doSaveVolume` comes next. -/
  | loaded (volume : Object α)
  /-- The map held nothing under the name: `Forget` and `Done` come next. -/
  | notFound
  /-- The save failed: `AddRateLimited` and `Done` come next. -/
  | failed
  /-- The save succeeded: `Delete`, `Forget` and `Done` come next. -/
  | saved
  deriving DecidableEq, Repr

structure Worker (α : Type*) where
  key : String
  phase : Phase α
  deriving DecidableEq, Repr

/-- A `StoreVolume` call whose save failed. -/
inductive Caller (α : Type*)
  /-- `Store` of the volume in the map comes next. -/
  | failed (volume : Object α)
  /-- `Add` of its name to the queue comes next, and then the call returns. -/
  | stored (volume : Object α)
  deriving DecidableEq, Repr

/-- The server, the map and the queue of the store, its workers, and the calls of
`StoreVolume` in progress; and, as a record for the proofs, the names of the volumes whose call
has returned. -/
structure World (α : Type*) where
  server : Store α
  volumes : VolumeMap α
  queue : Queue String
  workers : List (Worker α)
  callers : List (Caller α)
  returned : List String

inductive Event (α : Type*)
  /-- A claim worker calls `StoreVolume`, which tries the save at once. -/
  | storeVolume (volume : Object α) (fault : Fault)
  /-- Call `i` stores its volume in the map. -/
  | store (i : Nat)
  /-- Call `i` adds the name of its volume to the queue and returns. -/
  | add (i : Nat)
  | get
  /-- Worker `i` loads the volume of its name. -/
  | load (i : Nat)
  /-- Worker `i` saves the volume it loaded. -/
  | save (i : Nat) (fault : Fault)
  /-- Worker `i` finishes its item; a name added back rate limited waits `duration`. -/
  | finish (i : Nat) (duration : Int)
  | fire (key : String)
  /-- Another client creates, writes or deletes a volume. -/
  | create (volume : Object α)
  | update (volume : Object α)
  | delete (name : String)

def load (volumes : VolumeMap α) (key : String) : Phase α :=
  match volumes.lookup key with
  | some volume => .loaded volume
  | none => .notFound

lemma lookup_of_load {volumes : VolumeMap α} {key : String} {volume : Object α}
    (h : load volumes key = .loaded volume) : volumes.lookup key = some volume := by
  unfold load at h
  split at h
  · rename_i v hv
    cases h
    exact hv
  · cases h

lemma load_ne_saved (volumes : VolumeMap α) (key : String) : load volumes key ≠ .saved := by
  unfold load
  split <;> simp

lemma load_ne_notFound {volumes : VolumeMap α} {key : String} (h : key ∈ volumes) :
    load volumes key ≠ .notFound := by
  obtain ⟨volume, hv⟩ := Option.isSome_iff_exists.mp (AList.lookup_isSome.mpr h)
  simp [load, hv]

def exec (w : World α) : Event α → Option (World α)
  | .storeVolume volume fault =>
    let save := doSaveVolume w.server volume fault
    if save.1.isOk then
      some { w with server := save.2, returned := w.returned ++ [volume.metadata.name] }
    else some { w with server := save.2, callers := w.callers ++ [.failed volume] }
  | .store i =>
    match w.callers[i]? with
    | some (.failed volume) =>
      some { w with volumes := w.volumes.insert volume.metadata.name volume
                    callers := w.callers.set i (.stored volume) }
    | _ => none
  | .add i =>
    match w.callers[i]? with
    | some (.stored volume) =>
      some { w with queue := w.queue.add volume.metadata.name
                    callers := w.callers.eraseIdx i
                    returned := w.returned ++ [volume.metadata.name] }
    | _ => none
  | .get =>
    w.queue.get.map fun (key, queue) => { w with queue, workers := w.workers ++ [⟨key, .got⟩] }
  | .load i =>
    match w.workers[i]? with
    | some ⟨key, .got⟩ => some { w with workers := w.workers.set i ⟨key, load w.volumes key⟩ }
    | _ => none
  | .save i fault =>
    match w.workers[i]? with
    | some ⟨key, .loaded volume⟩ =>
      let save := doSaveVolume w.server volume fault
      some { w with server := save.2
                    workers := w.workers.set i ⟨key, if save.1.isOk then .saved else .failed⟩ }
    | _ => none
  | .finish i duration =>
    -- `Forget` only resets the limiter's count; `Done` is deferred to the end of the item
    match w.workers[i]? with
    | some ⟨key, .notFound⟩ =>
      some { w with queue := w.queue.done key, workers := w.workers.eraseIdx i }
    | some ⟨key, .failed⟩ =>
      some { w with queue := (w.queue.addAfter key duration).done key
                    workers := w.workers.eraseIdx i }
    | some ⟨key, .saved⟩ =>
      some { w with volumes := w.volumes.erase key, queue := w.queue.done key
                    workers := w.workers.eraseIdx i }
    | _ => none
  | .fire key => (w.queue.fire key).map fun queue => { w with queue }
  | .create volume =>
    match w.server.create volume with
    | .ok (_, server) => some { w with server }
    | .error _ => none
  | .update volume =>
    match w.server.update volume with
    | .ok (_, server) => some { w with server }
    | .error _ => none
  | .delete name =>
    match w.server.delete name with
    | .ok server => some { w with server }
    | .error _ => none

/-- The store has just been made: its map and queue are empty and nothing runs yet. The
server holds whatever it holds. -/
def Initial (w : World α) : Prop :=
  w.volumes = ∅ ∧ w.queue = Queue.empty ∧ w.workers = [] ∧ w.callers = [] ∧ w.returned = []

/-- The queue will hand the name to a worker that loads its volume: the queue owes it to a
worker, or a worker has it that has not found the map without it. -/
def Retried (queue : Queue String) (workers : List (Worker α)) (name : String) : Prop :=
  queue.Due name ∨ ∃ worker ∈ workers, worker.key = name ∧ worker.phase ≠ .notFound

/-- What `StoreVolume` promises for a name: it is used on the server, or the map holds a
volume under it and the queue will retry it. -/
def Kept (w : World α) (name : String) : Prop :=
  w.server.Used name ∨ name ∈ w.volumes ∧ Retried w.queue w.workers name

/-! ### Saving a volume -/

section Save

variable (server : Store α) (volume : Object α) (fault : Fault)

lemma doSaveVolume_snd :
    (doSaveVolume server volume fault).2 = (server.call fault (server.create volume)).2 := by
  unfold doSaveVolume
  dsimp only
  split <;> rfl

lemma doSaveVolume_changes : Store.Changes server (doSaveVolume server volume fault).2 := by
  rw [doSaveVolume_snd]
  exact Store.call_changes fault fun _ _ hc => .create hc

variable {server volume fault}

lemma used_doSaveVolume (h : (doSaveVolume server volume fault).1.isOk = true) :
    (doSaveVolume server volume fault).2.Used volume.metadata.name := by
  rw [doSaveVolume_snd]
  unfold doSaveVolume at h
  dsimp only at h
  split at h
  · rename_i b hb
    have hok : (server.call fault (server.create volume)).1.isOk = true := by
      simp [hb, Except.isOk, Except.toBool]
    exact Store.used_call_create fault (.inl hok)
  · rename_i hb
    exact Store.used_call_create fault (.inr hb)
  · simp [Except.isOk, Except.toBool] at h

end Save

/-! ### What a step can do -/

section Exec

variable {w w' : World α}

lemma exec_storeVolume {volume : Object α} {fault : Fault}
    (hs : exec w (.storeVolume volume fault) = some w') :
    ((doSaveVolume w.server volume fault).1.isOk = true ∧
      w' = { w with server := (doSaveVolume w.server volume fault).2
                    returned := w.returned ++ [volume.metadata.name] }) ∨
    ((doSaveVolume w.server volume fault).1.isOk = false ∧
      w' = { w with server := (doSaveVolume w.server volume fault).2
                    callers := w.callers ++ [.failed volume] }) := by
  simp only [exec] at hs
  split at hs
  · rename_i hok
    exact .inl ⟨hok, (Option.some.inj hs).symm⟩
  · rename_i hok
    exact .inr ⟨by simpa using hok, (Option.some.inj hs).symm⟩

lemma exec_store {i : Nat} (hs : exec w (.store i) = some w') :
    ∃ volume, w.callers[i]? = some (.failed volume) ∧
      w' = { w with volumes := w.volumes.insert volume.metadata.name volume
                    callers := w.callers.set i (.stored volume) } := by
  simp only [exec] at hs
  split at hs
  · rename_i volume hc
    exact ⟨volume, hc, (Option.some.inj hs).symm⟩
  · cases hs

lemma exec_add {i : Nat} (hs : exec w (.add i) = some w') :
    ∃ volume, w.callers[i]? = some (.stored volume) ∧
      w' = { w with queue := w.queue.add volume.metadata.name
                    callers := w.callers.eraseIdx i
                    returned := w.returned ++ [volume.metadata.name] } := by
  simp only [exec] at hs
  split at hs
  · rename_i volume hc
    exact ⟨volume, hc, (Option.some.inj hs).symm⟩
  · cases hs

lemma exec_get (hs : exec w .get = some w') :
    ∃ key queue, w.queue.get = some (key, queue) ∧
      w' = { w with queue, workers := w.workers ++ [⟨key, .got⟩] } := by
  simp only [exec] at hs
  obtain ⟨⟨key, queue⟩, hget, rfl⟩ := Option.map_eq_some_iff.mp hs
  exact ⟨key, queue, hget, rfl⟩

lemma exec_load {i : Nat} (hs : exec w (.load i) = some w') :
    ∃ key, w.workers[i]? = some ⟨key, .got⟩ ∧
      w' = { w with workers := w.workers.set i ⟨key, load w.volumes key⟩ } := by
  simp only [exec] at hs
  split at hs
  · rename_i key hw
    exact ⟨key, hw, (Option.some.inj hs).symm⟩
  · cases hs

lemma exec_save {i : Nat} {fault : Fault} (hs : exec w (.save i fault) = some w') :
    ∃ key volume, w.workers[i]? = some ⟨key, .loaded volume⟩ ∧
      w' = { w with server := (doSaveVolume w.server volume fault).2
                    workers := w.workers.set i ⟨key,
                      if (doSaveVolume w.server volume fault).1.isOk then .saved else .failed⟩ } := by
  simp only [exec] at hs
  split at hs
  · rename_i key volume hw
    exact ⟨key, volume, hw, (Option.some.inj hs).symm⟩
  · cases hs

lemma exec_finish {i : Nat} {duration : Int} (hs : exec w (.finish i duration) = some w') :
    ∃ key, (w.workers[i]? = some ⟨key, .notFound⟩ ∧
        w' = { w with queue := w.queue.done key, workers := w.workers.eraseIdx i }) ∨
      (w.workers[i]? = some ⟨key, .failed⟩ ∧
        w' = { w with queue := (w.queue.addAfter key duration).done key
                      workers := w.workers.eraseIdx i }) ∨
      (w.workers[i]? = some ⟨key, .saved⟩ ∧
        w' = { w with volumes := w.volumes.erase key, queue := w.queue.done key
                      workers := w.workers.eraseIdx i }) := by
  simp only [exec] at hs
  split at hs
  · rename_i key hw
    exact ⟨key, .inl ⟨hw, (Option.some.inj hs).symm⟩⟩
  · rename_i key hw
    exact ⟨key, .inr (.inl ⟨hw, (Option.some.inj hs).symm⟩)⟩
  · rename_i key hw
    exact ⟨key, .inr (.inr ⟨hw, (Option.some.inj hs).symm⟩)⟩
  · cases hs

lemma exec_fire {key : String} (hs : exec w (.fire key) = some w') :
    ∃ queue, w.queue.fire key = some queue ∧ w' = { w with queue } := by
  simp only [exec] at hs
  obtain ⟨queue, hfire, rfl⟩ := Option.map_eq_some_iff.mp hs
  exact ⟨queue, hfire, rfl⟩

lemma exec_request {e : Event α}
    (he : (∃ volume, e = .create volume) ∨ (∃ volume, e = .update volume) ∨ ∃ name, e = .delete name)
    (hs : exec w e = some w') : ∃ server, Store.Changes w.server server ∧ w' = { w with server } := by
  rcases he with ⟨volume, rfl⟩ | ⟨volume, rfl⟩ | ⟨name, rfl⟩ <;> simp only [exec] at hs <;>
    split at hs <;> cases hs
  · rename_i server hc
    exact ⟨server, .create hc, rfl⟩
  · rename_i server hc
    exact ⟨server, Store.update_changes hc, rfl⟩
  · rename_i server hc
    exact ⟨server, Store.delete_changes hc, rfl⟩

end Exec

/-! ### The workers' list -/

section Workers

variable {β : Type*}

private lemma mem_set_or_eq {l : List β} {i : Nat} (hi : i < l.length) {x y : β} (hy : y ∈ l) :
    y ∈ l.set i x ∨ y = l[i] := by
  obtain ⟨j, hj, rfl⟩ := List.mem_iff_getElem.mp hy
  by_cases hji : j = i
  · subst hji
    exact .inr rfl
  · refine .inl (List.mem_iff_getElem.mpr ⟨j, by simpa using hj, ?_⟩)
    exact List.getElem_set_ne (Ne.symm hji) _

private lemma mem_eraseIdx_or_eq {l : List β} {i : Nat} (hi : i < l.length) {y : β} (hy : y ∈ l) :
    y ∈ l.eraseIdx i ∨ y = l[i] := by
  obtain ⟨j, hj, rfl⟩ := List.mem_iff_getElem.mp hy
  by_cases hji : j = i
  · subst hji
    exact .inr rfl
  · exact .inl (List.mem_eraseIdx_iff_getElem.mpr ⟨j, hj, hji, rfl⟩)

private lemma map_set_key {workers : List (Worker α)} {i : Nat} (hi : i < workers.length)
    (phase : Phase α) :
    (workers.set i ⟨workers[i].key, phase⟩).map Worker.key = workers.map Worker.key := by
  rw [List.map_set]
  have hlen : i < (workers.map Worker.key).length := by simpa using hi
  have hself := List.set_getElem_self hlen
  rw [List.getElem_map] at hself
  exact hself

end Workers

/-! ### The store's invariant -/

/-- What every step keeps: the queue's shape; one worker for each name being processed; every
volume stored under its name; a loaded volume of the name its worker got; a saved volume on the
server; the volume of a call that stored it on the server or in the map; and what
`StoreVolume` promises for every call that returned. -/
structure Tracked (w : World α) : Prop where
  wf : w.queue.WF
  keys : (w.workers.map Worker.key).Perm w.queue.processing
  named : ∀ name volume, w.volumes.lookup name = some volume → volume.metadata.name = name
  loaded : ∀ worker ∈ w.workers, ∀ volume, worker.phase = .loaded volume →
    volume.metadata.name = worker.key
  saved : ∀ worker ∈ w.workers, worker.phase = .saved → w.server.Used worker.key
  stored : ∀ volume, .stored volume ∈ w.callers →
    w.server.Used volume.metadata.name ∨ volume.metadata.name ∈ w.volumes
  returned : ∀ name ∈ w.returned, Kept w name

lemma tracked_initial {w : World α} (hw : Initial w) : Tracked w := by
  obtain ⟨hvolumes, hqueue, hworkers, hcallers, hreturned⟩ := hw
  refine ⟨?_, ?_, fun name volume h => ?_, ?_, ?_, ?_, ?_⟩
  · rw [hqueue]
    exact Queue.wf_empty
  · rw [hqueue, hworkers]
    rfl
  · rw [hvolumes, AList.lookup_empty] at h
    cases h
  all_goals simp [hworkers, hcallers, hreturned]

section Step

variable {w : World α}

lemma Kept.server {name : String} (h : Kept w name) {server : Store α}
    (hs : Store.Changes w.server server) : Kept { w with server } name :=
  h.imp_left (·.changes hs)

lemma Tracked.server (h : Tracked w) {server : Store α} (hs : Store.Changes w.server server) :
    Tracked { w with server } :=
  ⟨h.wf, h.keys, h.named, h.loaded, fun worker hw hsaved => (h.saved worker hw hsaved).changes hs,
    fun volume hc => (h.stored volume hc).imp_left (·.changes hs),
    fun name hn => (h.returned name hn).server hs⟩

lemma Tracked.storeVolume (h : Tracked w) {volume : Object α} {fault : Fault} {w' : World α}
    (hs : exec w (.storeVolume volume fault) = some w') : Tracked w' := by
  have hchanges := doSaveVolume_changes w.server volume fault
  have hserver := h.server hchanges
  rcases exec_storeVolume hs with ⟨hok, rfl⟩ | ⟨-, rfl⟩
  · -- the call returns: the server has the volume
    refine ⟨h.wf, h.keys, h.named, h.loaded, hserver.saved, hserver.stored, fun name hn => ?_⟩
    rcases List.mem_append.mp hn with hn | hn
    · exact hserver.returned name hn
    · rw [List.mem_singleton.mp hn]
      exact .inl (used_doSaveVolume hok)
  · refine ⟨h.wf, h.keys, h.named, h.loaded, hserver.saved, fun v hc => ?_, hserver.returned⟩
    rcases List.mem_append.mp hc with hc | hc
    · exact hserver.stored v hc
    · cases List.mem_singleton.mp hc

lemma Tracked.store (h : Tracked w) {i : Nat} {w' : World α} (hs : exec w (.store i) = some w') :
    Tracked w' := by
  obtain ⟨volume, hc, rfl⟩ := exec_store hs
  have hmem : ∀ name, name ∈ w.volumes → name ∈ w.volumes.insert volume.metadata.name volume :=
    fun name hn => (AList.mem_insert _).mpr (.inr hn)
  refine ⟨h.wf, h.keys, fun name v hv => ?_, h.loaded, h.saved, fun v hv => ?_,
    fun name hn => (h.returned name hn).imp_right fun ⟨hn, hr⟩ => ⟨hmem name hn, hr⟩⟩
  · by_cases hname : name = volume.metadata.name
    · subst hname
      rw [AList.lookup_insert] at hv
      cases hv
      rfl
    · rw [AList.lookup_insert_ne hname] at hv
      exact h.named name v hv
  · rcases List.mem_or_eq_of_mem_set hv with hv | hv
    · exact (h.stored v hv).imp_right (hmem _)
    · cases hv
      exact .inr ((AList.mem_insert _).mpr (.inl rfl))

lemma Tracked.add (h : Tracked w) {i : Nat} {w' : World α} (hs : exec w (.add i) = some w') :
    Tracked w' := by
  obtain ⟨volume, hc, rfl⟩ := exec_add hs
  have hkept : ∀ name, Kept w name →
      Kept { w with queue := w.queue.add volume.metadata.name } name :=
    fun name hk => hk.imp_right fun ⟨hn, hr⟩ => ⟨hn, hr.imp_left (·.add _)⟩
  refine ⟨h.wf.add _, by simpa using h.keys, h.named, h.loaded, h.saved,
    fun v hv => h.stored v (List.mem_of_mem_eraseIdx hv), fun name hn => ?_⟩
  rcases List.mem_append.mp hn with hn | hn
  · exact hkept name (h.returned name hn)
  · -- the call returns: its volume is on the server, or in the map and owed to a worker
    rw [List.mem_singleton.mp hn]
    obtain ⟨hi, hci⟩ := List.getElem?_eq_some_iff.mp hc
    have hstored := h.stored volume (hci ▸ List.getElem_mem hi)
    exact hstored.imp_right fun hn => ⟨hn, .inl (Queue.due_add_self _ _)⟩

lemma Tracked.get (h : Tracked w) {w' : World α} (hs : exec w .get = some w') : Tracked w' := by
  obtain ⟨key, queue, hget, rfl⟩ := exec_get hs
  have hmem : ∀ worker ∈ w.workers, worker ∈ w.workers ++ [⟨key, .got⟩] :=
    fun worker hw => List.mem_append_left _ hw
  have hnew : ∀ worker ∈ w.workers ++ [⟨key, .got⟩], worker ∈ w.workers ∨ worker.phase = .got := by
    intro worker hw
    rcases List.mem_append.mp hw with hw | hw
    · exact .inl hw
    · exact .inr (by rw [List.mem_singleton.mp hw])
  refine ⟨h.wf.get hget, ?_, h.named, fun worker hw v hv => ?_, fun worker hw hv => ?_,
    h.stored, fun name hn => ?_⟩
  · rw [Queue.get_processing hget, List.map_append]
    exact h.keys.append_right _
  · rcases hnew worker hw with hw | hw
    · exact h.loaded worker hw v hv
    · cases hw.symm.trans hv
  · rcases hnew worker hw with hw | hw
    · exact h.saved worker hw hv
    · cases hw.symm.trans hv
  · -- the name the worker takes is owed to it no more, but the worker has it
    refine (h.returned name hn).imp_right fun ⟨hn, hr⟩ => ⟨hn, ?_⟩
    rcases hr with hr | ⟨worker, hw, hkey, hphase⟩
    · rcases hr.get hget with hr | rfl
      · exact .inl hr
      · exact .inr ⟨⟨name, .got⟩, List.mem_append_right _ (List.mem_singleton_self _), rfl,
          fun h => by cases h⟩
    · exact .inr ⟨worker, hmem worker hw, hkey, hphase⟩

lemma Tracked.load (h : Tracked w) {i : Nat} {w' : World α} (hs : exec w (.load i) = some w') :
    Tracked w' := by
  obtain ⟨key, hw, rfl⟩ := exec_load hs
  obtain ⟨hi, hwi⟩ := List.getElem?_eq_some_iff.mp hw
  have hkey : w.workers[i].key = key := by rw [hwi]
  refine ⟨h.wf, ?_, h.named, fun worker hw v hv => ?_, fun worker hw hv => ?_, h.stored,
    fun name hn => ?_⟩
  · rw [← hkey, map_set_key hi]
    exact h.keys
  · rcases List.mem_or_eq_of_mem_set hw with hw | rfl
    · exact h.loaded worker hw v hv
    · exact h.named key v (lookup_of_load hv)
  · rcases List.mem_or_eq_of_mem_set hw with hw | rfl
    · exact h.saved worker hw hv
    · exact absurd hv (load_ne_saved _ _)
  · refine (h.returned name hn).imp_right fun ⟨hn, hr⟩ => ⟨hn, ?_⟩
    rcases hr with hr | ⟨worker, hw, hkey', hphase⟩
    · exact .inl hr
    · rcases mem_set_or_eq hi hw with hw | rfl
      · exact .inr ⟨worker, hw, hkey', hphase⟩
      · -- the worker loads the name the map holds, and finds it
        have hname : key = name := hkey.symm.trans hkey'
        subst hname
        exact .inr ⟨_, List.mem_set hi _, rfl, load_ne_notFound hn⟩

lemma Tracked.save (h : Tracked w) {i : Nat} {fault : Fault} {w' : World α}
    (hs : exec w (.save i fault) = some w') : Tracked w' := by
  obtain ⟨key, volume, hw, rfl⟩ := exec_save hs
  obtain ⟨hi, hwi⟩ := List.getElem?_eq_some_iff.mp hw
  have hkey : w.workers[i].key = key := by rw [hwi]
  have hname : volume.metadata.name = key :=
    h.loaded _ (hwi ▸ List.getElem_mem hi) volume rfl
  have hserver := h.server (doSaveVolume_changes w.server volume fault)
  refine ⟨h.wf, ?_, h.named, fun worker hw v hv => ?_, fun worker hw hv => ?_, hserver.stored,
    fun name hn => ?_⟩
  · rw [← hkey, map_set_key hi]
    exact h.keys
  · rcases List.mem_or_eq_of_mem_set hw with hw | rfl
    · exact h.loaded worker hw v hv
    · dsimp only at hv
      split at hv <;> cases hv
  · rcases List.mem_or_eq_of_mem_set hw with hw | rfl
    · exact hserver.saved worker hw hv
    · -- the worker is saved only when its save succeeded
      dsimp only at hv
      split at hv
      · rename_i hok
        rw [← hname]
        exact used_doSaveVolume hok
      · cases hv
  · refine (hserver.returned name hn).imp_right fun ⟨hn, hr⟩ => ⟨hn, ?_⟩
    rcases hr with hr | ⟨worker, hw, hkey', hphase⟩
    · exact .inl hr
    · rcases mem_set_or_eq hi hw with hw | rfl
      · exact .inr ⟨worker, hw, hkey', hphase⟩
      · refine .inr ⟨_, List.mem_set hi _, hkey.symm.trans hkey', ?_⟩
        dsimp only
        split <;> simp

lemma Tracked.leave (h : Tracked w) {i : Nat} {worker : Worker α}
    (hw : w.workers[i]? = some worker) :
    worker.key ∈ w.queue.processing ∧
      ((w.workers.eraseIdx i).map Worker.key).Perm (w.queue.processing.erase worker.key) ∧
      ∀ worker' ∈ w.workers, worker' ∈ w.workers.eraseIdx i ∨ worker' = worker := by
  obtain ⟨hi, hwi⟩ := List.getElem?_eq_some_iff.mp hw
  have hmem : worker.key ∈ w.workers.map Worker.key :=
    List.mem_map_of_mem (hwi ▸ List.getElem_mem hi)
  refine ⟨h.keys.subset hmem, ?_, fun worker' hw' => hwi ▸ mem_eraseIdx_or_eq hi hw'⟩
  have hperm := Queue.perm_eraseIdx_erase Worker.key h.keys hi
  rwa [hwi] at hperm

lemma Tracked.finish (h : Tracked w) {i : Nat} {duration : Int} {w' : World α}
    (hs : exec w (.finish i duration) = some w') : Tracked w' := by
  obtain ⟨key, ⟨hw, rfl⟩ | ⟨hw, rfl⟩ | ⟨hw, rfl⟩⟩ := exec_finish hs <;>
    obtain ⟨hproc, hkeys, hstay⟩ := h.leave hw
  · -- the map held nothing under the name: the queue is done with it
    refine ⟨h.wf.done hproc, by simpa using hkeys, h.named,
      fun worker hw => h.loaded worker (List.mem_of_mem_eraseIdx hw),
      fun worker hw => h.saved worker (List.mem_of_mem_eraseIdx hw), h.stored,
      fun name hn => (h.returned name hn).imp_right fun ⟨hn, hr⟩ => ⟨hn, ?_⟩⟩
    rcases hr with hr | ⟨worker, hw', hkey, hphase⟩
    · exact .inl (hr.done key)
    · rcases hstay worker hw' with hw' | rfl
      · exact .inr ⟨worker, hw', hkey, hphase⟩
      · exact absurd rfl hphase
  · -- the save failed: the name comes back after its delay
    refine ⟨(h.wf.addAfter key duration).done (by simpa using hproc), by simpa using hkeys,
      h.named, fun worker hw => h.loaded worker (List.mem_of_mem_eraseIdx hw),
      fun worker hw => h.saved worker (List.mem_of_mem_eraseIdx hw), h.stored,
      fun name hn => (h.returned name hn).imp_right fun ⟨hn, hr⟩ => ⟨hn, ?_⟩⟩
    rcases hr with hr | ⟨worker, hw', hkey, hphase⟩
    · exact .inl ((hr.addAfter key duration).done key)
    · rcases hstay worker hw' with hw' | rfl
      · exact .inr ⟨worker, hw', hkey, hphase⟩
      · rw [← hkey]
        exact .inl ((Queue.due_addAfter_self _ _ duration).done _)
  · -- the save succeeded: the server has the name the map lets go of
    obtain ⟨hi, hwi⟩ := List.getElem?_eq_some_iff.mp hw
    have hused : w.server.Used key := h.saved _ (hwi ▸ List.getElem_mem hi) rfl
    have hmem : ∀ name, name ∈ w.volumes → name ≠ key → name ∈ w.volumes.erase key :=
      fun name hn hne => AList.mem_erase.mpr ⟨hne, hn⟩
    refine ⟨h.wf.done hproc, by simpa using hkeys, fun name v hv => ?_,
      fun worker hw => h.loaded worker (List.mem_of_mem_eraseIdx hw),
      fun worker hw => h.saved worker (List.mem_of_mem_eraseIdx hw), fun v hv => ?_,
      fun name hn => ?_⟩
    · by_cases hname : name = key
      · subst hname
        rw [AList.lookup_erase] at hv
        cases hv
      · rw [AList.lookup_erase_ne hname] at hv
        exact h.named name v hv
    · by_cases hname : v.metadata.name = key
      · exact .inl (hname ▸ hused)
      · exact (h.stored v hv).imp_right fun hn => hmem _ hn hname
    · by_cases hname : name = key
      · exact .inl (hname ▸ hused)
      · refine (h.returned name hn).imp_right fun ⟨hn, hr⟩ => ⟨hmem name hn hname, ?_⟩
        rcases hr with hr | ⟨worker, hw', hkey, hphase⟩
        · exact .inl (hr.done key)
        · rcases hstay worker hw' with hw' | rfl
          · exact .inr ⟨worker, hw', hkey, hphase⟩
          · exact absurd hkey.symm hname

lemma Tracked.fire (h : Tracked w) {key : String} {w' : World α}
    (hs : exec w (.fire key) = some w') : Tracked w' := by
  obtain ⟨queue, hfire, rfl⟩ := exec_fire hs
  have hgrows := Queue.grows_fire hfire
  refine ⟨hgrows.wf h.wf, by rw [hgrows.processing_eq]; exact h.keys, h.named, h.loaded, h.saved,
    h.stored, fun name hn => (h.returned name hn).imp_right fun ⟨hn, hr⟩ => ⟨hn, ?_⟩⟩
  exact hr.imp_left (·.fire hfire)

lemma Tracked.step (h : Tracked w) {e : Event α} {w' : World α} (hs : exec w e = some w') :
    Tracked w' := by
  cases e with
  | storeVolume volume fault => exact h.storeVolume hs
  | store i => exact h.store hs
  | add i => exact h.add hs
  | get => exact h.get hs
  | load i => exact h.load hs
  | save i fault => exact h.save hs
  | finish i duration => exact h.finish hs
  | fire key => exact h.fire hs
  | create volume =>
    obtain ⟨server, hc, rfl⟩ := exec_request (.inl ⟨volume, rfl⟩) hs
    exact h.server hc
  | update volume =>
    obtain ⟨server, hc, rfl⟩ := exec_request (.inr (.inl ⟨volume, rfl⟩)) hs
    exact h.server hc
  | delete name =>
    obtain ⟨server, hc, rfl⟩ := exec_request (.inr (.inr ⟨name, rfl⟩)) hs
    exact h.server hc

lemma tracked_of_reachable (hw : Reachable exec Initial w) : Tracked w :=
  Reachable.invariant (fun _ h => tracked_initial h) (fun _ _ _ h hs => h.step hs) hw

end Step

/-- **What `StoreVolume` promises.** In every reachable world, however the calls, the save
workers and other clients interleave and whatever becomes of the requests, every volume whose
`StoreVolume` call has returned is saved or being saved: its name is used on the server, or the
map holds a volume under it and the queue will hand the name to a worker that loads it. -/
theorem returned_volume_saved_or_retried {w : World α} (hw : Reachable exec Initial w)
    {name : String} (hname : name ∈ w.returned) :
    w.server.Used name ∨ name ∈ w.volumes ∧ Retried w.queue w.workers name :=
  (tracked_of_reachable hw).returned name hname

section Runs

def provisionedVolume : Object Unit := ⟨⟨"pvc-uid-1", 0, [], false⟩, ()⟩

def initialStoreWorld : World Unit := ⟨Store.empty, ∅, Queue.empty, [], [], []⟩

/-- The first save is lost on its way, so the call stores the volume and returns; a worker
loads it, its save is lost too, and the name waits for its delay. -/
def lostSaveTrace : List (Event Unit) :=
  [.storeVolume provisionedVolume (.lost "timeout"), .store 0, .add 0, .get, .load 0,
    .save 0 (.lost "timeout"), .finish 0 5]

theorem returned_volume_saved_or_retried_lost :
    ∃ w : World Unit, Reachable exec Initial w ∧ "pvc-uid-1" ∈ w.returned ∧
      ¬ w.server.Used "pvc-uid-1" ∧
      (w.server.Used "pvc-uid-1" ∨
        "pvc-uid-1" ∈ w.volumes ∧ Retried w.queue w.workers "pvc-uid-1") := by
  have hrun : (run exec initialStoreWorld lostSaveTrace).map
      (fun w => decide ("pvc-uid-1" ∈ w.returned ∧ ¬ w.server.Used "pvc-uid-1")) = some true := by
    decide
  obtain ⟨w, hreach, hw⟩ :=
    exists_reachable_of_run (show Initial initialStoreWorld from ⟨rfl, rfl, rfl, rfl, rfl⟩) hrun
  obtain ⟨hname, hunused⟩ := of_decide_eq_true hw
  exact ⟨w, hreach, hname, hunused, returned_volume_saved_or_retried hreach hname⟩

end Runs

end CsiProvisioner.ProvisionController.VolumeStore
