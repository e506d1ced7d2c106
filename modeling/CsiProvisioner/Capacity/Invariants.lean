import Mathlib.Data.List.InsertIdx
import CsiProvisioner.Lib.GoStrings
import CsiProvisioner.Capacity.Cluster
import CsiProvisioner.Lib.Revisions
import CsiProvisioner.Capacity.Store

/-!
What holds in every reachable world of the capacity controller.

The work queue hands an entry to at most one worker at a time: `syncCapacity` relies on that
when it reads `c.capacities` without holding the lock across its API call. Every work item
that holds an object `equals` it: `onCAddOrUpdate` binds an object only to an item that
`equals` it or already holds a revision of it, and the server never changes the storage
class name or the node topology of an object.

The steps fall into three kinds as far as these invariants go: those that touch none of
what they read (the informers' own bookkeeping), the handlers that bind nothing, and the
deliveries of an object by the informer. The workers, the retries and the other clients of
the server are handled one by one.
-/

namespace CsiProvisioner.Capacity.Cluster

open Go Api CsiProvisioner.Capacity.Topology WorkQueue Revisions

/-! ### What a step changes -/

structure SameStore (w w' : World) : Prop where
  controller : w'.controller = w.controller
  workers : w'.workers = w.workers
  objects : w'.objects = w.objects
  changes : w'.changes = w.changes
  cache : w'.cache = w.cache
  uids : w'.uids = w.uids

structure Handles (w w' : World) : Prop where
  keeps : KeepsBindings w.controller w'.controller
  workers : w'.workers = w.workers
  objects : w'.objects = w.objects
  changes : w'.changes = w.changes
  cache : w'.cache = w.cache
  uids : w'.uids = w.uids

def Change.object : Change → CSIStorageCapacity
  | .added capacity | .modified capacity | .deleted capacity => capacity

structure Delivers (w w' : World) (capacity : CSIStorageCapacity) : Prop where
  binds : BindsAtMost w.controller w'.controller capacity
  delivered : (∃ ch ∈ w.changes, ch.object = capacity) ∨ capacity ∈ w.cache
  workers : w'.workers = w.workers
  objects : w'.objects = w.objects
  uids : w'.uids = w.uids
  changes : ∀ ch ∈ w'.changes, ch ∈ w.changes
  cache : ∀ o ∈ w'.cache, o ∈ w.cache ∨ o = capacity

lemma SameStore.handles {w w' : World} (h : SameStore w w') : Handles w w' :=
  ⟨h.controller ▸ KeepsBindings.refl _, h.workers, h.objects, h.changes, h.cache, h.uids⟩

variable {cfg : Config} {w w' : World}

lemma changeTopology_sameStore {added : List Segment} {removed : List SegmentRef}
    (h : w.changeTopology added removed = some w') : SameStore w w' := by
  unfold World.changeTopology at h
  dsimp only at h
  split_ifs at h
  cases h
  exact ⟨rfl, rfl, rfl, rfl, rfl, rfl⟩

lemma topologyCallbackList_sameStore (h : w.topologyCallbackList = some w') : SameStore w w' := by
  unfold World.topologyCallbackList at h
  split at h
  · cases h
    exact ⟨rfl, rfl, rfl, rfl, rfl, rfl⟩
  · cases h

lemma addClass_sameStore {sc : StorageClass} (h : w.addClass sc = some w') : SameStore w w' := by
  unfold World.addClass at h
  split at h
  · cases h
    exact ⟨rfl, rfl, rfl, rfl, rfl, rfl⟩
  · cases h

lemma deleteClass_sameStore {name : String} (h : w.deleteClass name = some w') :
    SameStore w w' := by
  unfold World.deleteClass at h
  split at h
  · cases h
    exact ⟨rfl, rfl, rfl, rfl, rfl, rfl⟩
  · cases h

lemma resyncClass_sameStore {name : String} (h : w.resyncClass name = some w') :
    SameStore w w' := by
  unfold World.resyncClass at h
  split at h
  · cases h
    exact ⟨rfl, rfl, rfl, rfl, rfl, rfl⟩
  · cases h

lemma scHandlerList_sameStore (h : w.scHandlerList cfg = some w') : SameStore w w' := by
  unfold World.scHandlerList at h
  split at h
  · cases h
    exact ⟨rfl, rfl, rfl, rfl, rfl, rfl⟩
  · cases h

lemma topologyCallbackLock_handles (h : w.topologyCallbackLock cfg = some w') : Handles w w' := by
  unfold World.topologyCallbackLock at h
  split at h
  · cases h
    exact ⟨onTopologyChanges_keepsBindings _ _ _ _ _, rfl, rfl, rfl, rfl, rfl⟩
  · cases h

lemma scHandlerLock_handles (h : w.scHandlerLock = some w') : Handles w w' := by
  unfold World.scHandlerLock at h
  split at h
  · cases h
    exact ⟨onSCAddOrUpdate_keepsBindings _ _ _, rfl, rfl, rfl, rfl, rfl⟩
  · cases h
    exact ⟨onSCDelete_keepsBindings _ _ _, rfl, rfl, rfl, rfl, rfl⟩
  · cases h

lemma withOrder_handles {order : List WorkItem} {f : Controller → Controller}
    (hf : ∀ c, KeepsBindings c (f c)) (h : w.withOrder order f = some w') : Handles w w' := by
  unfold World.withOrder at h
  split_ifs at h
  cases h
  exact ⟨hf _, rfl, rfl, rfl, rfl, rfl⟩

inductive Delivery (cfg : Config) (order : List WorkItem) (w : World) : World → Prop
  | stored {ch : Change} {rest : List Change} (hchanges : w.changes = ch :: rest)
      (hstored : ∀ capacity, ch ≠ .deleted capacity)
      (horder : order.Perm w.controller.capacities.keys) :
      Delivery cfg order w { w with
        changes := rest
        cache := World.cacheStore w.cache ch.object
        controller := onCAddOrUpdate cfg w.controller order ch.object }
  | deleted {capacity : CSIStorageCapacity} {rest : List Change}
      (hchanges : w.changes = .deleted capacity :: rest)
      (horder : order.Perm w.controller.capacities.keys) :
      Delivery cfg order w { w with
        changes := rest
        cache := w.cache.filter (·.name != capacity.name)
        controller := onCDelete w.controller order capacity }

lemma deliver_delivery {order : List WorkItem} (h : w.deliver cfg order = some w') :
    Delivery cfg order w w' := by
  unfold World.deliver World.withOrder at h
  -- each constructor is elaborated on its own first: the change comes from `hchanges`, and
  -- unifying with the goal before that is slow
  split at h
  · rename_i capacity rest hchanges
    split_ifs at h with horder
    cases h
    exact (Delivery.stored hchanges (fun _ h => by cases h) horder :)
  · rename_i capacity rest hchanges
    split_ifs at h with horder
    cases h
    exact (Delivery.stored hchanges (fun _ h => by cases h) horder :)
  · rename_i capacity rest hchanges
    split_ifs at h with horder
    cases h
    exact (Delivery.deleted hchanges horder :)
  · cases h

lemma Delivery.delivers {order : List WorkItem} (h : Delivery cfg order w w') :
    ∃ capacity, Delivers w w' capacity := by
  cases h with
  | @stored ch rest hchanges hstored horder =>
    refine ⟨ch.object, onCAddOrUpdate_bindsAtMost _ _ _ _, .inl ⟨ch, ?_, rfl⟩, rfl, rfl, rfl,
      fun ch' hch' => ?_, fun o ho => ?_⟩
    · rw [hchanges]
      exact List.mem_cons_self
    · rw [hchanges]
      exact List.mem_cons_of_mem _ hch'
    · exact (World.mem_cacheStore.mp ho).imp_left And.left
  | @deleted capacity rest hchanges horder =>
    refine ⟨capacity, (onCDelete_keepsBindings _ _ _).bindsAtMost _, .inl ⟨.deleted capacity, ?_, rfl⟩,
      rfl, rfl, rfl, fun ch hch => ?_, fun o ho => .inl (List.mem_of_mem_filter ho)⟩
    · rw [hchanges]
      exact List.mem_cons_self
    · rw [hchanges]
      exact List.mem_cons_of_mem _ hch

lemma resync_spec {name : String} {order : List WorkItem}
    (h : w.resync cfg name order = some w') :
    ∃ capacity ∈ w.cache, order.Perm w.controller.capacities.keys ∧
      w' = { w with controller := onCAddOrUpdate cfg w.controller order capacity } := by
  unfold World.resync World.withOrder at h
  split at h
  · rename_i capacity hfind
    split_ifs at h with horder
    cases h
    exact ⟨capacity, List.mem_of_find?_eq_some hfind, horder, rfl⟩
  · cases h

lemma resync_delivers {name : String} {order : List WorkItem}
    (h : w.resync cfg name order = some w') : ∃ capacity, Delivers w w' capacity := by
  obtain ⟨capacity, hcached, -, rfl⟩ := resync_spec h
  exact ⟨capacity, onCAddOrUpdate_bindsAtMost _ _ _ _, .inr hcached, rfl, rfl, rfl,
    fun _ h => h, fun _ h => .inl h⟩

lemma fire_handles {e : Entry} (h : w.fire e = some w') : Handles w w' := by
  unfold World.fire at h
  split at h
  · rename_i queue hfire
    cases h
    -- a retry moves an entry from the delayed ones back to the queue
    have hkeeps : KeepsBindings w.controller { w.controller with queue := queue } :=
      ⟨Queue.grows_fire hfire, fun _ _ h => h, fun _ h => .inl (Queue.pending_of_fire hfire h)⟩
    exact ⟨hkeeps, rfl, rfl, rfl, rfl, rfl⟩
  · cases h

/-! ### Requests at the API server -/

structure AtServer (w w' : World) : Prop where
  controller : w'.controller = w.controller
  workers : w'.workers = w.workers
  cache : w'.cache = w.cache

lemma create_eq {capacity : CSIStorageCapacity} {suffix uid : String}
    (h : w.create capacity suffix uid = some w') :
    w' = { w with
      objects := w.objects ++
        [{ capacity.afterRoundTrip with name := "csisc-" ++ suffix, uid, resourceVersion := 0 }]
      uids := w.uids ++ [uid]
      changes := w.changes ++
        [.added { capacity.afterRoundTrip with name := "csisc-" ++ suffix, uid, resourceVersion := 0 }] } := by
  unfold World.create at h
  dsimp only at h
  split at h
  · cases h
  · cases h
    rfl

lemma create_atServer {capacity : CSIStorageCapacity} {suffix uid : String}
    (h : w.create capacity suffix uid = some w') : AtServer w w' := by
  rw [create_eq h]
  exact ⟨rfl, rfl, rfl⟩

lemma update_eq {capacity : CSIStorageCapacity} (h : w.update capacity = some w') :
    w' = { w with
      objects := w.objects.map fun o => if o.name = capacity.name then
        { capacity.afterRoundTrip with resourceVersion := capacity.resourceVersion + 1 } else o
      changes := w.changes ++
        [.modified { capacity.afterRoundTrip with resourceVersion := capacity.resourceVersion + 1 }] } := by
  unfold World.update at h
  split at h
  · dsimp only at h
    split_ifs at h
    cases h
    rfl
  · cases h

lemma delete_eq {name : String} (h : w.delete name = some w') :
    ∃ current ∈ w.objects, w' = { w with
      objects := w.objects.filter (·.name != name)
      changes := w.changes ++ [.deleted current] } := by
  unfold World.delete at h
  split at h
  · rename_i current hcurrent
    cases h
    exact ⟨current, List.mem_of_find?_eq_some hcurrent, rfl⟩
  · cases h

lemma update_atServer {capacity : CSIStorageCapacity} (h : w.update capacity = some w') :
    AtServer w w' := by
  rw [update_eq h]
  exact ⟨rfl, rfl, rfl⟩

lemma delete_atServer {name : String} (h : w.delete name = some w') : AtServer w w' := by
  obtain ⟨current, -, rfl⟩ := delete_eq h
  exact ⟨rfl, rfl, rfl⟩

lemma update_uids {capacity : CSIStorageCapacity} (h : w.update capacity = some w') :
    w'.uids = w.uids := by
  rw [update_eq h]

lemma delete_uids {name : String} (h : w.delete name = some w') : w'.uids = w.uids := by
  obtain ⟨current, -, rfl⟩ := delete_eq h
  rfl

lemma externalUpdate_spec {capacity : CSIStorageCapacity} (h : w.externalUpdate capacity = some w') :
    ∃ current ∈ w.objects, ∃ update : CSIStorageCapacity, w.update update = some w' ∧
      update.uid = current.uid ∧ update.name = current.name ∧
      update.storageClassName = current.storageClassName ∧
      update.afterRoundTrip.nodeTopology = current.nodeTopology := by
  unfold World.externalUpdate at h
  split at h
  · rename_i current hcurrent
    split_ifs at h with hkeeps
    -- the server found the object by its name
    obtain ⟨hmem, hname⟩ := World.lookupObject_spec hcurrent
    exact ⟨current, hmem, _, h, hkeeps.1, hname.symm, hkeeps.2⟩
  · cases h

/-! ### The workers -/

inductive Request (suffix uid : String) : Call → World → World → Prop
  | none (call : Call) (w : World) : Request suffix uid call w w
  | create (item : WorkItem) (capacity : CSIStorageCapacity) {w w' : World}
      (h : w.create capacity suffix uid = some w') :
      Request suffix uid (.sync item (.create capacity)) w w'
  | update (item : WorkItem) (capacity : CSIStorageCapacity) {w w' : World}
      (h : w.update capacity = some w') : Request suffix uid (.sync item (.update capacity)) w w'
  | delete (capacity : CSIStorageCapacity) {w w' : World}
      (h : w.delete capacity.name = some w') : Request suffix uid (.delete capacity) w w'

lemma Request.atServer {suffix uid : String} {call : Call} {w w₁ : World}
    (h : Request suffix uid call w w₁) : AtServer w w₁ := by
  cases h with
  | none => exact ⟨rfl, rfl, rfl⟩
  | create item capacity h => exact create_atServer h
  | update item capacity h => exact update_atServer h
  | delete capacity h => exact delete_atServer h

/-- **A worker's API call is at most one request, then `Done`** for the entry it got, and
`AddRateLimited` after a failure. -/
lemma callAPI_request (w : World) (success : Bool) (suffix uid : String) (call : Call) :
    ∃ w₁ failed, Request suffix uid call w w₁ ∧
      w.callAPI success suffix uid call = w₁.finish call.entry failed := by
  unfold World.callAPI
  split
  · exact ⟨w, false, .none _ _, rfl⟩
  · exact ⟨w, true, .none _ _, rfl⟩
  · split
    · rename_i w₁ hw₁
      -- a refused call never reaches the server, and a taken name fails it
      split_ifs at hw₁
      exact ⟨w₁, false, .create _ _ hw₁, rfl⟩
    · exact ⟨w, true, .none _ _, rfl⟩
  · split
    · rename_i w₁ hw₁
      -- a refused call never reaches the server
      split_ifs at hw₁
      exact ⟨w₁, false, .update _ _ hw₁, rfl⟩
    · exact ⟨w, true, .none _ _, rfl⟩
  · split_ifs
    · split
      · rename_i w₁ hw₁
        exact ⟨w₁, false, .delete _ hw₁, rfl⟩
      · exact ⟨w, false, .none _ _, rfl⟩
    · exact ⟨w, true, .none _ _, rfl⟩

lemma workerGet_spec {answer : Except String (Int × Option Int)}
    (h : w.workerGet cfg answer = some w') :
    ∃ call queue, w.controller.queue.get = some (call.entry, queue) ∧
      w' = { w with
        controller := { w.controller with queue := queue }
        workers := w.workers ++ [call] } ∧
      ∀ item o, call = .sync item (.update o) → ∃ current,
        w.controller.capacities.lookup item = some (some current) ∧ o.uid = current.uid ∧
          o.name = current.name ∧ o.storageClassName = current.storageClassName ∧
          o.nodeTopology = current.nodeTopology := by
  unfold World.workerGet at h
  split at h
  · rename_i item queue hget
    cases h
    refine ⟨.sync item _, queue, hget, rfl, fun item' o hcall => ?_⟩
    injection hcall with hitem houtcome
    subst hitem
    exact syncCapacity_update houtcome
  · rename_i capacity queue hget
    cases h
    exact ⟨.delete capacity, queue, hget, rfl, fun _ _ hcall => by cases hcall⟩
  · cases h

lemma workerDone_spec {i : Nat} {success : Bool} {suffix uid : String}
    (h : w.workerDone i success suffix uid = some w') :
    ∃ call, w.workers[i]? = some call ∧ ∃ w₁ failed,
      Request suffix uid call { w with workers := w.workers.eraseIdx i } w₁ ∧
        w' = w₁.finish call.entry failed := by
  unfold World.workerDone at h
  split at h
  · rename_i call hcall
    cases h
    obtain ⟨w₁, failed, hreq, heq⟩ :=
      callAPI_request { w with workers := w.workers.eraseIdx i } success suffix uid call
    exact ⟨call, hcall, w₁, failed, hreq, heq⟩
  · cases h

/-! ### What a step can do -/

inductive Move (cfg : Config) (w w' : World) : Prop
  | handles (h : Handles w w')
  | deliver (order : List WorkItem) (h : Delivery cfg order w w')
  | resync (name : String) (order : List WorkItem) (h : w.resync cfg name order = some w')
  | workerGet (answer : Except String (Int × Option Int)) (h : w.workerGet cfg answer = some w')
  | workerDone (i : Nat) (success : Bool) (suffix uid : String) (hfresh : uid ∉ w.uids)
      (h : w.workerDone i success suffix uid = some w')
  | externalUpdate (capacity : CSIStorageCapacity) (h : w.externalUpdate capacity = some w')
  | externalDelete (name : String) (h : w.delete name = some w')

/-- **Every step is a move**: the informers' bookkeeping and the handlers bind nothing, the
informer for CSIStorageCapacity objects delivers one object, and the rest are the workers and
the other clients of the server. -/
lemma exec_move {e : Event} (h : exec cfg w e = some w') : Move cfg w w' := by
  cases e with
  | topologyChange added removed => exact .handles (changeTopology_sameStore h).handles
  | topologyCallbackList => exact .handles (topologyCallbackList_sameStore h).handles
  | topologyCallbackLock => exact .handles (topologyCallbackLock_handles h)
  | scAdd sc => exact .handles (addClass_sameStore h).handles
  | scDelete name => exact .handles (deleteClass_sameStore h).handles
  | scResync name => exact .handles (resyncClass_sameStore h).handles
  | scHandlerList => exact .handles (scHandlerList_sameStore h).handles
  | scHandlerLock => exact .handles (scHandlerLock_handles h)
  | poll order => exact .handles (withOrder_handles (fun c => keepsBindings_queue c order) h)
  | refreshSC name order => exact .handles (withOrder_handles (fun c => keepsBindings_queue c _) h)
  | refreshTopology nodeAffinity order =>
    exact .handles (withOrder_handles (fun c => keepsBindings_queue c _) h)
  | workerGet answer => exact .workerGet answer h
  | workerDone i success suffix uid =>
    simp only [exec] at h
    split_ifs at h with hused
    exact .workerDone i success suffix uid hused h
  | fire e => exact .handles (fire_handles h)
  | deliver order => exact .deliver order (deliver_delivery h)
  | resync name order => exact .resync name order h
  | externalUpdate capacity => exact .externalUpdate capacity h
  | externalDelete name => exact .externalDelete name h

/-! ### The queue and the workers -/

structure QueueInv (w : World) : Prop where
  wf : w.controller.queue.WF
  workers : (w.workers.map Call.entry).Perm w.controller.queue.processing

lemma queueInv_initial : QueueInv initial := ⟨Queue.wf_empty, List.Perm.nil⟩

lemma QueueInv.of_grows (h : QueueInv w) (hq : Queue.Grows w.controller.queue w'.controller.queue)
    (hworkers : w'.workers = w.workers) : QueueInv w' := by
  refine ⟨hq.wf h.wf, ?_⟩
  rw [hworkers, hq.processing_eq]
  exact h.workers

lemma QueueInv.of_atServer (h : QueueInv w) (hs : AtServer w w') : QueueInv w' :=
  h.of_grows (by rw [hs.controller]) hs.workers

lemma QueueInv.workerGet (h : QueueInv w) {answer : Except String (Int × Option Int)}
    (hs : w.workerGet cfg answer = some w') : QueueInv w' := by
  obtain ⟨call, queue, hget, rfl, -⟩ := workerGet_spec hs
  refine ⟨h.wf.get hget, ?_⟩
  -- the new worker has the entry the queue hands out
  show ((w.workers ++ [call]).map Call.entry).Perm queue.processing
  rw [Queue.get_processing hget, List.map_append, List.map_singleton]
  exact h.workers.append_right _

lemma QueueInv.finish {e : Entry} (failed : Bool) (hwf : w.controller.queue.WF)
    (hmem : e ∈ w.controller.queue.processing)
    (hworkers : (w.workers.map Call.entry).Perm (w.controller.queue.processing.erase e)) :
    QueueInv (w.finish e failed) := by
  have hdone := hwf.done hmem
  cases failed
  · exact ⟨hdone, by simpa [World.finish] using hworkers⟩
  · exact ⟨hdone.addRateLimited e, by simpa [World.finish] using hworkers⟩

lemma QueueInv.workerDone (h : QueueInv w) {i : Nat} {success : Bool} {suffix uid : String}
    (hs : w.workerDone i success suffix uid = some w') : QueueInv w' := by
  obtain ⟨call, hcall, w₁, failed, hreq, rfl⟩ := workerDone_spec hs
  obtain ⟨hi, rfl⟩ := List.getElem?_eq_some_iff.mp hcall
  have hcontroller : w₁.controller = w.controller := hreq.atServer.controller
  have hworkers : w₁.workers = w.workers.eraseIdx i := hreq.atServer.workers
  -- the worker had an entry the queue handed out, and leaves with it
  have hmem : w.workers[i].entry ∈ w.controller.queue.processing :=
    h.workers.subset (List.mem_map_of_mem (List.getElem_mem hi))
  have hperm := Queue.perm_eraseIdx_erase Call.entry h.workers hi
  apply QueueInv.finish failed
  · rw [hcontroller]
    exact h.wf
  · rw [hcontroller]
    exact hmem
  · rw [hcontroller, hworkers]
    exact hperm

lemma QueueInv.step (h : QueueInv w) {e : Event} (hs : exec cfg w e = some w') : QueueInv w' := by
  cases exec_move hs with
  | handles hs => exact h.of_grows hs.keeps.grows hs.workers
  | deliver order hs =>
    obtain ⟨capacity, hs⟩ := hs.delivers
    exact h.of_grows hs.binds.grows hs.workers
  | resync name order hs =>
    obtain ⟨capacity, hs⟩ := resync_delivers hs
    exact h.of_grows hs.binds.grows hs.workers
  | workerGet answer hs => exact h.workerGet hs
  | workerDone i success suffix uid _ hs => exact h.workerDone hs
  | externalUpdate capacity hs =>
    obtain ⟨-, -, update, hupdate, -⟩ := externalUpdate_spec hs
    exact h.of_atServer (update_atServer hupdate)
  | externalDelete name hs => exact h.of_atServer (delete_atServer hs)

theorem queueInv_of_reachable (h : Transition.Reachable (exec cfg) Initial w) : QueueInv w :=
  h.invariant (fun w (hw : w = initial) => hw ▸ queueInv_initial)
    fun _ _ _ hw hs => hw.step hs

/-- **No two workers have one entry, and no worker has an entry that waits in the queue**:
the queue hands an entry out again only after the worker that had it is done with it. -/
theorem workers_exclusive (h : Transition.Reachable (exec cfg) Initial w) :
    (w.workers.map Call.entry).Nodup ∧ ∀ call ∈ w.workers, call.entry ∉ w.controller.queue.queue := by
  have hinv := queueInv_of_reachable h
  refine ⟨hinv.workers.nodup_iff.mpr hinv.wf.processing_nodup, fun call hcall hqueue => ?_⟩
  have hprocessing : call.entry ∈ w.controller.queue.processing :=
    hinv.workers.subset (List.mem_map_of_mem hcall)
  exact hinv.wf.not_processing_of_queue _ hqueue hprocessing

theorem workers_exclusive_two_workers :
    ∃ w, Transition.Reachable (exec hostpath) Initial w ∧ w.workers.length = 2 ∧
      (w.workers.map Call.entry).Nodup ∧
      ∀ call ∈ w.workers, call.entry ∉ w.controller.queue.queue := by
  have hrun : (Transition.run (exec hostpath) initial
      (staleTrace ++ [.workerGet (.ok (100, none)), .workerGet (.ok (100, none))])).map
      (fun w => decide (w.workers.length = 2)) = some true := by
    decide
  obtain ⟨w, hreach, hw⟩ := Transition.exists_reachable_of_run (show Initial initial from rfl) hrun
  exact ⟨w, hreach, of_decide_eq_true hw, workers_exclusive hreach⟩

/-! ### The objects held in the world -/

/-- The fields of an object that the server keeps: its name, its storage class and its
topology. -/
def immutableFields (o : CSIStorageCapacity) : String × String × Option LabelSelector :=
  (o.name, o.storageClassName, o.nodeTopology)

/-- `b` is a revision of the object `a`: the same UID, name, storage class and topology. -/
abbrev Revision (a b : CSIStorageCapacity) : Prop :=
  Revises CSIStorageCapacity.uid immutableFields a b

/-- The object's topology is as the server gives it back. -/
def Normal (o : CSIStorageCapacity) : Prop :=
  o.nodeTopology.map LabelSelector.afterRoundTrip = o.nodeTopology

lemma WorkItem.equals_eq_of_immutableFields {item : WorkItem} {o o' : CSIStorageCapacity}
    (h : immutableFields o = immutableFields o') : item.equals o = item.equals o' := by
  simp only [immutableFields, Prod.mk.injEq] at h
  simp only [WorkItem.equals, h.2.1, h.2.2]

lemma Normal.of_revision {a b : CSIStorageCapacity} (h : Normal a) (hr : Revision a b) :
    Normal b := by
  have htopology : b.nodeTopology = a.nodeTopology := congrArg (·.2.2) hr.2
  unfold Normal
  rw [htopology]
  exact h

lemma normal_afterRoundTrip (o : CSIStorageCapacity) : Normal o.afterRoundTrip :=
  congrArg CSIStorageCapacity.nodeTopology o.afterRoundTrip_afterRoundTrip

lemma revision_afterRoundTrip {o : CSIStorageCapacity} (h : Normal o) (n : Nat) :
    Revision o { o.afterRoundTrip with resourceVersion := n } :=
  ⟨rfl, Prod.ext rfl (Prod.ext rfl h)⟩

/-- The places an object is held: on the server, in a change the informer has not delivered
yet, in the informer's cache, as the object of a work item, as the update a worker is about
to make, in the queue for deletion, and with a worker that deletes it. -/
inductive Holds (w : World) : CSIStorageCapacity → Prop
  | object {o : CSIStorageCapacity} (h : o ∈ w.objects) : Holds w o
  | change {ch : Change} (h : ch ∈ w.changes) : Holds w ch.object
  | cached {o : CSIStorageCapacity} (h : o ∈ w.cache) : Holds w o
  | bound {item : WorkItem} {o : CSIStorageCapacity}
      (h : w.controller.capacities.lookup item = some (some o)) : Holds w o
  | updating {item : WorkItem} {o : CSIStorageCapacity}
      (h : Call.sync item (.update o) ∈ w.workers) : Holds w o
  | queued {o : CSIStorageCapacity} (h : w.controller.queue.Pending (.capacity o)) : Holds w o
  | deleting {o : CSIStorageCapacity} (h : Call.delete o ∈ w.workers) : Holds w o

lemma not_holds_initial (o : CSIStorageCapacity) : ¬ Holds initial o := by
  intro h
  cases h with
  | object h | cached h | updating h | change h | deleting h => simp [initial] at h
  | bound h => simp [initial] at h
  | queued h => simp [initial, Queue.empty, Queue.Pending] at h

lemma Handles.holds (hs : Handles w w') {b : CSIStorageCapacity} (h : Holds w' b) :
    Holds w b := by
  cases h with
  | object h => exact .object (hs.objects ▸ h)
  | change h => exact .change (hs.changes ▸ h)
  | cached h => exact .cached (hs.cache ▸ h)
  | bound h => exact .bound (hs.keeps.bound _ _ h)
  | updating h => exact .updating (hs.workers ▸ h)
  | queued h => exact (hs.keeps.queued _ h).elim .queued fun ⟨_, h⟩ => .bound h
  | deleting h => exact .deleting (hs.workers ▸ h)

lemma Holds.of_finish {e : Entry} {failed : Bool} {b : CSIStorageCapacity}
    (h : Holds (w.finish e failed) b) : Holds w b ∨ e = .capacity b := by
  cases h with
  | queued h =>
    have hdone : (w.controller.queue.done e).Pending (.capacity b) ∨ Entry.capacity b = e := by
      cases failed
      · exact .inl h
      · exact Queue.pending_of_addRateLimited h
    rcases hdone with hdone | he
    · exact (Queue.pending_of_done hdone).imp .queued Eq.symm
    · exact .inr he.symm
  | object h => exact .inl (.object h)
  | change h => exact .inl (.change h)
  | cached h => exact .inl (.cached h)
  | bound h => exact .inl (.bound h)
  | updating h => exact .inl (.updating h)
  | deleting h => exact .inl (.deleting h)

lemma Holds.of_eraseIdx {i : Nat} {b : CSIStorageCapacity}
    (h : Holds { w with workers := w.workers.eraseIdx i } b) : Holds w b := by
  cases h with
  | object h => exact .object h
  | change h => exact .change h
  | cached h => exact .cached h
  | bound h => exact .bound h
  | updating h => exact .updating (List.mem_of_mem_eraseIdx h)
  | queued h => exact .queued h
  | deleting h => exact .deleting (List.mem_of_mem_eraseIdx h)

lemma Delivers.held {capacity : CSIStorageCapacity} (hs : Delivers w w' capacity) :
    Holds w capacity := by
  rcases hs.delivered with ⟨ch, hch, rfl⟩ | h
  · exact .change hch
  · exact .cached h

lemma Delivers.holds {capacity : CSIStorageCapacity} (hs : Delivers w w' capacity)
    {b : CSIStorageCapacity} (h : Holds w' b) : Holds w b := by
  cases h with
  | object h => exact .object (hs.objects ▸ h)
  | change h => exact .change (hs.changes _ h)
  | cached h =>
    rcases hs.cache _ h with h | rfl
    · exact .cached h
    · exact hs.held
  | bound h =>
    rcases hs.binds.bound _ _ h with h | ⟨rfl, -⟩
    · exact .bound h
    · exact hs.held
  | updating h => exact .updating (hs.workers ▸ h)
  | queued h =>
    rcases hs.binds.queued _ h with h | ⟨_, h⟩ | rfl
    · exact .queued h
    · exact .bound h
    · exact hs.held
  | deleting h => exact .deleting (hs.workers ▸ h)

lemma AtServer.holds {P : CSIStorageCapacity → Prop} (hs : AtServer w w')
    (hobjects : ∀ o ∈ w'.objects, o ∈ w.objects ∨ P o)
    (hchanges : ∀ ch ∈ w'.changes, ch ∈ w.changes ∨ P ch.object) {b : CSIStorageCapacity}
    (h : Holds w' b) : Holds w b ∨ P b := by
  cases h with
  | object h => exact (hobjects _ h).imp_left .object
  | change h => exact (hchanges _ h).imp_left .change
  | cached h => exact .inl (.cached (hs.cache ▸ h))
  | bound h => exact .inl (.bound (hs.controller ▸ h))
  | updating h => exact .inl (.updating (hs.workers ▸ h))
  | queued h => exact .inl (.queued (hs.controller ▸ h))
  | deleting h => exact .inl (.deleting (hs.workers ▸ h))

lemma holds_of_create {capacity b : CSIStorageCapacity} {suffix uid : String}
    (hs : w.create capacity suffix uid = some w') (h : Holds w' b) :
    Holds w b ∨ b = { capacity.afterRoundTrip with
      name := "csisc-" ++ suffix, uid, resourceVersion := 0 } := by
  refine (create_atServer hs).holds (P := (· = _)) (fun o ho => ?_) (fun ch hch => ?_) h
  · rw [create_eq hs] at ho
    rcases List.mem_append.mp ho with ho | ho
    · exact .inl ho
    · exact .inr (List.mem_singleton.mp ho)
  · rw [create_eq hs] at hch
    rcases List.mem_append.mp hch with hch | hch
    · exact .inl hch
    · rw [List.mem_singleton.mp hch]
      exact .inr rfl

lemma holds_of_update {capacity b : CSIStorageCapacity} (hs : w.update capacity = some w')
    (h : Holds w' b) :
    Holds w b ∨ b = { capacity.afterRoundTrip with resourceVersion := capacity.resourceVersion + 1 } := by
  refine (update_atServer hs).holds (P := (· = _)) (fun o ho => ?_) (fun ch hch => ?_) h
  · rw [update_eq hs] at ho
    obtain ⟨o', ho', rfl⟩ := List.mem_map.mp ho
    split_ifs
    · exact .inr rfl
    · exact .inl ho'
  · rw [update_eq hs] at hch
    rcases List.mem_append.mp hch with hch | hch
    · exact .inl hch
    · rw [List.mem_singleton.mp hch]
      exact .inr rfl

lemma holds_of_delete {name : String} (hs : w.delete name = some w') {b : CSIStorageCapacity}
    (h : Holds w' b) : Holds w b := by
  obtain ⟨current, hcurrent, rfl⟩ := delete_eq hs
  -- the change reports an object of the server
  refine ((delete_atServer hs).holds (P := (· ∈ w.objects))
    (fun o ho => .inl (List.mem_of_mem_filter ho)) (fun ch hch => ?_) h).elim id .object
  rcases List.mem_append.mp hch with hch | hch
  · exact .inl hch
  · rw [List.mem_singleton.mp hch]
    exact .inr hcurrent

lemma holds_of_workerGet {answer : Except String (Int × Option Int)}
    (hs : w.workerGet cfg answer = some w') {b : CSIStorageCapacity} (h : Holds w' b) :
    ∃ a, Holds w a ∧ Revision a b := by
  obtain ⟨call, queue, hget, rfl, hupdate⟩ := workerGet_spec hs
  cases h with
  | object h => exact ⟨b, .object h, Revises.refl b⟩
  | change h => exact ⟨_, .change h, Revises.refl _⟩
  | cached h => exact ⟨b, .cached h, Revises.refl b⟩
  | bound h => exact ⟨b, .bound h, Revises.refl b⟩
  | queued h => exact ⟨b, .queued (Queue.pending_of_get hget h), Revises.refl b⟩
  | updating h =>
    rcases List.mem_append.mp h with h | h
    · exact ⟨b, .updating h, Revises.refl b⟩
    · -- the new worker's update revises its item's object
      obtain ⟨current, hcurrent, huid, hname, hclass, htopology⟩ :=
        hupdate _ b (List.mem_singleton.mp h).symm
      exact ⟨current, .bound hcurrent, huid, Prod.ext hname (Prod.ext hclass htopology)⟩
  | deleting h =>
    rcases List.mem_append.mp h with h | h
    · exact ⟨b, .deleting h, Revises.refl b⟩
    · -- the new worker deletes the entry the queue handed out
      rw [List.mem_singleton] at h
      subst h
      exact ⟨b, .queued (Queue.get_pending hget), Revises.refl b⟩

/-! ### Objects with one UID are revisions of one object -/

/-- What the objects held in the world keep: each has its topology as the server gives it
back, two with one UID have the same name, storage class and topology, and every UID is one
the server gave out. -/
structure Consistent (w : World) : Prop where
  normal : ∀ o, Holds w o → Normal o
  agree : Agree CSIStorageCapacity.uid immutableFields (Holds w)
  fresh : Fresh CSIStorageCapacity.uid (Holds w) w.uids

lemma consistent_initial : Consistent initial :=
  ⟨fun o h => absurd h (not_holds_initial o), fun a _ h => absurd h (not_holds_initial a),
    fun a h => absurd h (not_holds_initial a)⟩

lemma Consistent.of_revisions (h : Consistent w)
    (hstep : ∀ b, Holds w' b → ∃ a, Holds w a ∧ Revision a b)
    (huids : w'.uids = w.uids) : Consistent w' := by
  refine ⟨fun b hb => ?_, h.agree.of_revises hstep, huids ▸ h.fresh.of_revises hstep⟩
  obtain ⟨a, ha, hab⟩ := hstep b hb
  exact (h.normal a ha).of_revision hab

lemma Consistent.of_holds (h : Consistent w) (hstep : ∀ b, Holds w' b → Holds w b)
    (huids : w'.uids = w.uids) : Consistent w' :=
  h.of_revisions (fun b hb => ⟨b, hstep b hb, Revises.refl b⟩) huids

lemma Consistent.of_create (h : Consistent w) {new : CSIStorageCapacity}
    (hstep : ∀ b, Holds w' b → Holds w b ∨ b = new) (hnew : new.uid ∉ w.uids)
    (hnormal : Normal new) (huids : w'.uids = w.uids ++ [new.uid]) : Consistent w' := by
  have hstep' : ∀ b, Holds w' b → (∃ a, Holds w a ∧ Revision a b) ∨ b = new :=
    fun b hb => (hstep b hb).imp_left fun hb => ⟨b, hb, Revises.refl b⟩
  -- no object held has the new UID
  have hfresh : ∀ a, Holds w a → a.uid ≠ new.uid := fun a ha => h.fresh.ne ha hnew
  refine ⟨fun b hb => ?_, h.agree.of_revises_or_new hfresh hstep',
    huids ▸ h.fresh.of_revises_or_new hstep'⟩
  rcases hstep b hb with hb | rfl
  · exact h.normal b hb
  · exact hnormal

lemma Consistent.workerDone (h : Consistent w) {i : Nat} {success : Bool} {suffix uid : String}
    (hfresh : uid ∉ w.uids) (hs : w.workerDone i success suffix uid = some w') :
    Consistent w' := by
  obtain ⟨call, hcall, w₁, failed, hreq, rfl⟩ := workerDone_spec hs
  have hcallmem : call ∈ w.workers := List.mem_of_getElem? hcall
  -- `Done` and `AddRateLimited` hold again at most the object the worker was deleting
  have hdone : ∀ b, Holds (w₁.finish call.entry failed) b → Holds w₁ b ∨ Holds w b := by
    intro b hb
    refine hb.of_finish.imp_right fun he => ?_
    cases call with
    | sync item outcome => cases he
    | delete capacity =>
      cases he
      exact .deleting hcallmem
  cases hreq with
  | none => exact h.of_holds (fun b hb => (hdone b hb).elim Holds.of_eraseIdx id) rfl
  | create item capacity hcreate =>
    exact h.of_create
      (fun b hb => (hdone b hb).elim
        (fun hb => (holds_of_create hcreate hb).imp_left Holds.of_eraseIdx) .inl)
      hfresh (normal_afterRoundTrip capacity) (by rw [create_eq hcreate]; rfl)
  | update item capacity hupdate =>
    -- the update revises the object the worker had
    have hheld : Holds w capacity := .updating hcallmem
    refine h.of_revisions (fun b hb => ?_) ((update_uids hupdate).trans rfl)
    rcases hdone b hb with hb | hb
    · rcases holds_of_update hupdate hb with hb | rfl
      · exact ⟨b, hb.of_eraseIdx, Revises.refl b⟩
      · exact ⟨capacity, hheld, revision_afterRoundTrip (h.normal _ hheld) _⟩
    · exact ⟨b, hb, Revises.refl b⟩
  | delete capacity hdelete =>
    refine h.of_holds (fun b hb => ?_) ((delete_uids hdelete).trans rfl)
    exact (hdone b hb).elim (fun hb => (holds_of_delete hdelete hb).of_eraseIdx) id

lemma Consistent.externalUpdate (h : Consistent w) {capacity : CSIStorageCapacity}
    (hs : w.externalUpdate capacity = some w') : Consistent w' := by
  obtain ⟨current, hcurrent, update, hupdate, huid, hname, hclass, htopology⟩ :=
    externalUpdate_spec hs
  refine h.of_revisions (fun b hb => ?_) (update_uids hupdate)
  rcases holds_of_update hupdate hb with hb | rfl
  · exact ⟨b, hb, Revises.refl b⟩
  · -- the server keeps the UID, the name, the storage class and the topology
    exact ⟨current, .object hcurrent, huid, Prod.ext hname (Prod.ext hclass htopology)⟩

lemma Consistent.step (h : Consistent w) {e : Event} (hs : exec cfg w e = some w') :
    Consistent w' := by
  cases exec_move hs with
  | handles hs => exact h.of_holds (fun _ => hs.holds) hs.uids
  | deliver order hs =>
    obtain ⟨capacity, hs⟩ := hs.delivers
    exact h.of_holds (fun _ => hs.holds) hs.uids
  | resync name order hs =>
    obtain ⟨capacity, hs⟩ := resync_delivers hs
    exact h.of_holds (fun _ => hs.holds) hs.uids
  | workerGet answer hs => exact h.of_revisions (fun _ => holds_of_workerGet hs) (by
      obtain ⟨call, queue, -, rfl, -⟩ := workerGet_spec hs
      rfl)
  | workerDone i success suffix uid hfresh hs => exact h.workerDone hfresh hs
  | externalUpdate capacity hs => exact h.externalUpdate hs
  | externalDelete name hs => exact h.of_holds (fun _ => holds_of_delete hs) (delete_uids hs)

/-- **Objects with one UID have one name, storage class and topology, in every reachable
world**: wherever the world holds them, on the server, in the informer, in the controller's
map and queue or with a worker. -/
theorem consistent_of_reachable (h : Transition.Reachable (exec cfg) Initial w) :
    Consistent w :=
  h.invariant (fun w (hw : w = initial) => hw ▸ consistent_initial)
    fun _ _ _ hw hs => hw.step hs

theorem consistent_of_reachable_shared :
    ∃ w, Transition.Reachable (exec hostpath) Initial w ∧ w.objects ≠ [] ∧ Consistent w := by
  have hrun : (Transition.run (exec hostpath) initial sharedTrace).map
      (fun w => decide (w.objects ≠ [])) = some true := by
    decide
  obtain ⟨w, hreach, hw⟩ := Transition.exists_reachable_of_run (show Initial initial from rfl) hrun
  exact ⟨w, hreach, of_decide_eq_true hw, consistent_of_reachable hreach⟩

/-! ### Every work item that holds an object equals it -/

/-- Every work item that holds an object `equals` it. -/
def BoundEqual (w : World) : Prop :=
  ∀ item o, w.controller.capacities.lookup item = some (some o) → item.equals o = true

lemma boundEqual_initial : BoundEqual initial := by
  intro item o ho
  simp [initial] at ho

lemma BoundEqual.of_bound (h : BoundEqual w)
    (hbound : ∀ item o, w'.controller.capacities.lookup item = some (some o) →
      w.controller.capacities.lookup item = some (some o)) : BoundEqual w' :=
  fun item o ho => h item o (hbound item o ho)

lemma BoundEqual.of_delivers (h : BoundEqual w) (hc : Consistent w)
    {capacity : CSIStorageCapacity} (hs : Delivers w w' capacity) : BoundEqual w' := by
  intro item o ho
  rcases hs.binds.bound item o ho with hold | ⟨rfl, hclaims⟩
  · exact h item o hold
  · unfold claimsObject at hclaims
    split at hclaims
    · rename_i current hcurrent
      have hsame := hc.agree current o (.bound hcurrent) hs.held (beq_iff_eq.mp hclaims)
      rw [WorkItem.equals_eq_of_immutableFields hsame.symm]
      exact h item current hcurrent
    · exact hclaims
    · cases hclaims

lemma BoundEqual.step (h : BoundEqual w) (hc : Consistent w) {e : Event}
    (hs : exec cfg w e = some w') : BoundEqual w' := by
  cases exec_move hs with
  | handles hs => exact h.of_bound hs.keeps.bound
  | deliver order hs =>
    obtain ⟨capacity, hs⟩ := hs.delivers
    exact h.of_delivers hc hs
  | resync name order hs =>
    obtain ⟨capacity, hs⟩ := resync_delivers hs
    exact h.of_delivers hc hs
  | workerGet answer hs =>
    obtain ⟨call, queue, -, rfl, -⟩ := workerGet_spec hs
    exact h
  | workerDone i success suffix uid _ hs =>
    obtain ⟨call, -, w₁, failed, hreq, rfl⟩ := workerDone_spec hs
    exact h.of_bound fun item o ho => hreq.atServer.controller ▸ ho
  | externalUpdate capacity hs =>
    obtain ⟨-, -, update, hupdate, -⟩ := externalUpdate_spec hs
    exact h.of_bound fun item o ho => (update_atServer hupdate).controller ▸ ho
  | externalDelete name hs => exact h.of_bound fun item o ho => (delete_atServer hs).controller ▸ ho

/-- **Every work item that holds an object `equals` it, in every reachable world**: the
controller binds an object only to an item that `equals` it or holds an object with its UID,
and the server never changes the storage class or the topology of an object. -/
theorem bound_items_equal (h : Transition.Reachable (exec cfg) Initial w) (item : WorkItem)
    (o : CSIStorageCapacity) (ho : w.controller.capacities.lookup item = some (some o)) :
    item.equals o = true := by
  -- the objects' consistency carries the induction along
  have hinv : Consistent w ∧ BoundEqual w :=
    h.invariant (P := fun w => Consistent w ∧ BoundEqual w)
      (fun w (hw : w = initial) => hw ▸ ⟨consistent_initial, boundEqual_initial⟩)
      fun _ _ _ hw hs => ⟨hw.1.step hs, hw.2.step hw.1 hs⟩
  exact hinv.2 item o ho

theorem bound_items_equal_shared :
    ∃ w, Transition.Reachable (exec hostpath) Initial w ∧ ∃ o,
      w.controller.capacities.lookup oldItem = some (some o) ∧
      w.controller.capacities.lookup newItem = some (some o) ∧
      oldItem.equals o = true ∧ newItem.equals o = true := by
  have hrun : (Transition.run (exec hostpath) initial sharedTrace).map
      (fun w => decide ((w.controller.capacities.lookup oldItem).join.isSome ∧
        w.controller.capacities.lookup oldItem = w.controller.capacities.lookup newItem)) =
      some true := by
    decide
  obtain ⟨w, hreach, hw⟩ := Transition.exists_reachable_of_run (show Initial initial from rfl) hrun
  obtain ⟨hsome, hsame⟩ := of_decide_eq_true hw
  obtain ⟨o, ho⟩ := Option.isSome_iff_exists.mp hsome
  have hold : w.controller.capacities.lookup oldItem = some (some o) := Option.join_eq_some_iff.mp ho
  exact ⟨w, hreach, o, hold, hsame ▸ hold, bound_items_equal hreach oldItem o hold,
    bound_items_equal hreach newItem o (hsame ▸ hold)⟩

end CsiProvisioner.Capacity.Cluster
