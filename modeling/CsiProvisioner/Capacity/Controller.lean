import CsiProvisioner.Api.Csi
import CsiProvisioner.Capacity.Topology
import CsiProvisioner.Lib.WorkQueue

/-!
The handlers and the work of the capacity controller (`pkg/capacity/capacity.go`), each as a
function of the controller's map of work items and its work queue.

The map `capacities` has one entry for each CSIStorageCapacity object that should exist, the
object once the informer has delivered it and nil before. A loop over the map visits the
entries in an order the runtime chooses anew each time; the handlers that loop take that
order as an argument, a list of the map's keys. The handlers that take the lock only for
their second half (`onSCAddOrUpdate`, `onSCDelete`, `onTopologyChanges`) are split into what
they read before the lock and what they do under it.
-/

namespace CsiProvisioner.Capacity

open Go Api CsiProvisioner.Capacity.Topology WorkQueue

def DriverNameLabel : String := "csi.storage.k8s.io/drivername"

def ManagedByLabel : String := "csi.storage.k8s.io/managed-by"

structure Config where
  driverName : String
  owner : Option OwnerReference
  managedByID : String
  ownerNamespace : String
  immediateBinding : Bool

/-- `workItem`: a segment pointer and a storage class name. -/
structure WorkItem where
  segment : SegmentRef
  storageClassName : String
  deriving DecidableEq, Repr

/-- `reflect.DeepEqual` on two label selector pointers. -/
def deepEqualSelector : Option LabelSelector → Option LabelSelector → Bool
  | none, none => true
  | some a, some b => Map.deepEqual a.matchLabels b.matchLabels
  | _, _ => false

/-- `workItem.equals`. -/
def WorkItem.equals (w : WorkItem) (capacity : CSIStorageCapacity) : Bool :=
  w.storageClassName == capacity.storageClassName &&
    deepEqualSelector (some w.segment.segment.GetLabelSelector) capacity.nodeTopology

/-- An entry of the work queue: a work item to sync, or an object to delete. -/
inductive Entry
  | item (w : WorkItem)
  | capacity (c : CSIStorageCapacity)
  deriving DecidableEq

/-- `c.capacities`. -/
abbrev Capacities := AList (fun _ : WorkItem => Option CSIStorageCapacity)

/-- What the handlers change: the map of work items and the work queue. -/
structure Controller where
  capacities : Capacities
  queue : Queue Entry

def isManaged (cfg : Config) (capacity : CSIStorageCapacity) : Bool :=
  annotationValue capacity.labels DriverNameLabel == cfg.driverName &&
    annotationValue capacity.labels ManagedByLabel == cfg.managedByID

/-- `isOwnedByUs`, for the configured owner `owner`. -/
def isOwnedByUs (owner : OwnerReference) (capacity : CSIStorageCapacity) : Bool :=
  capacity.ownerReferences.any fun ref => ref.controller == some true && ref.uid == owner.uid

def sizesAreEqual : Option Int → Option Int → Bool
  | none, none => true
  | some expected, some actual => expected == actual
  | _, _ => false

/-- Whether the handlers of a storage class create work items for it. -/
def handlesClass (cfg : Config) (sc : StorageClass) : Bool :=
  sc.provisioner == cfg.driverName &&
    !(!cfg.immediateBinding && sc.volumeBindingMode == some .immediate)

/-! ### Adding and removing work items -/

def addWorkItem (c : Controller) (segment : SegmentRef) (sc : StorageClass) : Controller :=
  let item : WorkItem := ⟨segment, sc.name⟩
  { capacities := if item ∈ c.capacities then c.capacities else c.capacities.insert item none
    queue := c.queue.add (.item item) }

def removeWorkItem (c : Controller) (segment : SegmentRef) (sc : StorageClass) : Controller :=
  let item : WorkItem := ⟨segment, sc.name⟩
  match c.capacities.lookup item with
  -- already gone or in the queue to be removed
  | none => c
  | some none => { c with capacities := c.capacities.erase item }
  | some (some capacity) =>
    { capacities := c.capacities.erase item, queue := c.queue.add (.capacity capacity) }

/-- The part of `onTopologyChanges` under the lock, with the storage classes it listed. -/
def onTopologyChanges (cfg : Config) (c : Controller) (added removed : List SegmentRef)
    (storageclasses : List StorageClass) : Controller :=
  storageclasses.foldl (fun c sc =>
    if handlesClass cfg sc then
      removed.foldl (fun c segment => removeWorkItem c segment sc)
        (added.foldl (fun c segment => addWorkItem c segment sc) c)
    else c) c

/-- The part of `onSCAddOrUpdate` under the lock, with the segments it listed before. -/
def onSCAddOrUpdate (c : Controller) (sc : StorageClass) (segments : List SegmentRef) :
    Controller :=
  segments.foldl (fun c segment => addWorkItem c segment sc) c

/-- The part of `onSCDelete` under the lock, with the segments it listed before. -/
def onSCDelete (c : Controller) (sc : StorageClass) (segments : List SegmentRef) : Controller :=
  segments.foldl (fun c segment => removeWorkItem c segment sc) c

/-- `pollCapacities`: every work item, visited in the order `order`, is queued. -/
def pollCapacities (c : Controller) (order : List WorkItem) : Controller :=
  { c with queue := order.foldl (fun q item => q.add (.item item)) c.queue }

def refreshSC (c : Controller) (storageClassName : String) (order : List WorkItem) : Controller :=
  { c with
    queue := (order.filter (·.storageClassName == storageClassName)).foldl
      (fun q item => q.add (.item item)) c.queue }

/-! ### The informer's events for CSIStorageCapacity objects -/

/-- Whether the loop of `onCAddOrUpdate` stops at an item: the item has the object (by UID)
already, or has none and the object is the one for it. -/
def claimsObject (c : Controller) (capacity : CSIStorageCapacity) (item : WorkItem) : Bool :=
  match c.capacities.lookup item with
  | some (some capacity2) => capacity2.uid == capacity.uid
  | some none => item.equals capacity
  | none => false

/-- `onCAddOrUpdate`, with the map visited in the order `order`. -/
def onCAddOrUpdate (cfg : Config) (c : Controller) (order : List WorkItem)
    (capacity : CSIStorageCapacity) : Controller :=
  if !isManaged cfg capacity then
    -- not ours (anymore?): every item that has the object is reset and queued
    order.foldl (fun c item =>
      match c.capacities.lookup item with
      | some (some capacity2) =>
        if capacity2.uid = capacity.uid then
          { capacities := c.capacities.insert item none, queue := c.queue.add (.item item) }
        else c
      | _ => c) c
  else
    match order.find? (claimsObject c capacity) with
    | some item => { c with capacities := c.capacities.insert item (some capacity) }
    -- the object is obsolete
    | none => { c with queue := c.queue.add (.capacity capacity) }

/-- `onCDelete`, with the map visited in the order `order`: the item that had the object is
reset and queued, so that the object is created again. -/
def onCDelete (c : Controller) (order : List WorkItem) (capacity : CSIStorageCapacity) :
    Controller :=
  match order.find? (fun item => match c.capacities.lookup item with
      | some (some capacity2) => capacity2.uid == capacity.uid
      | _ => false) with
  | some item =>
    { capacities := c.capacities.insert item none, queue := c.queue.add (.item item) }
  | none => c

/-! ### The work -/

/-- How `%+v` prints a work item, with the segment pointer as its address. -/
def WorkItem.format (item : WorkItem) : String :=
  "\x7bsegment:" ++ toString item.segment.addr ++ " storageClassName:" ++ item.storageClassName ++
    "\x7d"

/-- What `syncCapacity` does after reading its inputs. -/
inductive SyncOutcome
  | done
  | failed (err : String)
  | create (capacity : CSIStorageCapacity)
  | update (capacity : CSIStorageCapacity)
  deriving DecidableEq

/-- The object `syncCapacity` creates for a work item. -/
def newCapacity (cfg : Config) (item : WorkItem) (capacity : Int)
    (maximumVolumeSize : Option Int) : CSIStorageCapacity where
  name := ""
  ns := cfg.ownerNamespace
  uid := ""
  resourceVersion := 0
  labels := ((∅ : StrMap).insert DriverNameLabel cfg.driverName).insert ManagedByLabel
    cfg.managedByID
  ownerReferences := cfg.owner.toList
  nodeTopology := some item.segment.segment.GetLabelSelector
  storageClassName := item.storageClassName
  capacity := capacity
  maximumVolumeSize := maximumVolumeSize

/-- The `GetCapacity` request of `syncCapacity` for a work item whose storage class the lister
has as `sc`: the class's parameters as they are, and the item's segment, whose pointer is
never nil. -/
def getCapacityRequest (item : WorkItem) (sc : StorageClass) : GetCapacityRequest where
  parameters := sc.parameters
  accessibleTopology := some ⟨item.segment.segment.GetLabelMap⟩

/-- `syncCapacity` up to its API call: `found` is the item's entry in `c.capacities`, `sc`
what the storage class lister has under the item's class, and `answer` the driver's answer
to `GetCapacity`, the available capacity and the maximum volume size. -/
def syncCapacity (cfg : Config) (item : WorkItem) (found : Option (Option CSIStorageCapacity))
    (sc : Option StorageClass) (answer : Except String (Int × Option Int)) : SyncOutcome :=
  match found, sc with
  -- the item was removed in the meantime
  | none, _ => .done
  | some _, none => .done
  | some capacity, some _ =>
    match answer with
    | .error err => .failed ("CSI GetCapacity for " ++ item.format ++ ": " ++ err)
    | .ok (quantity, maximumVolumeSize) =>
      match capacity with
      | none => .create (newCapacity cfg item quantity maximumVolumeSize)
      | some capacity =>
        let ownerOk := match cfg.owner with
          | none => true
          | some owner => isOwnedByUs owner capacity
        if capacity.capacity == quantity && sizesAreEqual capacity.maximumVolumeSize
            maximumVolumeSize && ownerOk then .done
        else
          .update { capacity with
            capacity := quantity
            maximumVolumeSize := maximumVolumeSize
            ownerReferences := match cfg.owner with
              | some owner =>
                if isOwnedByUs owner capacity then capacity.ownerReferences
                else capacity.ownerReferences ++ [owner]
              | none => capacity.ownerReferences }

/-! ### What the handlers change -/

/-- A handler that binds no object: the queue grows by `Add`s only, an item that holds an
object afterwards held it before, and an object queued for deletion afterwards was queued
before or held by an item. -/
structure KeepsBindings (c c' : Controller) : Prop where
  grows : Queue.Grows c.queue c'.queue
  bound : ∀ item capacity, c'.capacities.lookup item = some (some capacity) →
    c.capacities.lookup item = some (some capacity)
  queued : ∀ capacity, c'.queue.Pending (.capacity capacity) →
    c.queue.Pending (.capacity capacity) ∨ ∃ item, c.capacities.lookup item = some (some capacity)

@[refl] lemma KeepsBindings.refl (c : Controller) : KeepsBindings c c :=
  ⟨Queue.Grows.refl _, fun _ _ h => h, fun _ h => .inl h⟩

@[trans] lemma KeepsBindings.trans {c c' c'' : Controller} (h : KeepsBindings c c')
    (h' : KeepsBindings c' c'') : KeepsBindings c c'' := by
  refine ⟨h.grows.trans h'.grows, fun item capacity hb => h.bound item capacity (h'.bound item capacity hb),
    fun capacity hq => ?_⟩
  rcases h'.queued capacity hq with hq | ⟨item, hb⟩
  · exact h.queued capacity hq
  · exact .inr ⟨item, h.bound item capacity hb⟩

lemma keepsBindings_foldl {β : Type*} {f : Controller → β → Controller}
    (hf : ∀ c x, KeepsBindings c (f c x)) (c : Controller) (l : List β) :
    KeepsBindings c (l.foldl f c) :=
  List.foldlRecOn l f (KeepsBindings.refl c) fun c' h x _ => h.trans (hf c' x)

lemma pending_capacity_of_foldl_add (q : Queue Entry) (items : List WorkItem)
    {capacity : CSIStorageCapacity}
    (h : (items.foldl (fun q item => q.add (.item item)) q).Pending (.capacity capacity)) :
    q.Pending (.capacity capacity) := by
  rcases Queue.pending_of_foldl_add _ q items h with h | ⟨item, -, h⟩
  · exact h
  · cases h

lemma keepsBindings_queue (c : Controller) (items : List WorkItem) :
    KeepsBindings c { c with queue := items.foldl (fun q item => q.add (.item item)) c.queue } :=
  ⟨Queue.grows_foldl_add _ _ _, fun _ _ h => h, fun _ h => .inl (pending_capacity_of_foldl_add _ _ h)⟩

lemma bound_of_insert_none {capacities : Capacities} {item item' : WorkItem}
    {capacity : CSIStorageCapacity}
    (h : (capacities.insert item none).lookup item' = some (some capacity)) :
    capacities.lookup item' = some (some capacity) := by
  by_cases hitem : item' = item
  · subst hitem
    simp [AList.lookup_insert] at h
  · rwa [AList.lookup_insert_ne hitem] at h

lemma bound_of_erase {capacities : Capacities} {item item' : WorkItem}
    {capacity : CSIStorageCapacity} (h : (capacities.erase item).lookup item' = some (some capacity)) :
    capacities.lookup item' = some (some capacity) := by
  by_cases hitem : item' = item
  · subst hitem
    simp [AList.lookup_erase] at h
  · rwa [AList.lookup_erase_ne hitem] at h

lemma keepsBindings_reset (c : Controller) (item : WorkItem) :
    KeepsBindings c { capacities := c.capacities.insert item none, queue := c.queue.add (.item item) } :=
  ⟨Queue.grows_add _ _, fun _ _ h => bound_of_insert_none h,
    fun _ h => .inl (pending_capacity_of_foldl_add _ [item] h)⟩

lemma addWorkItem_keepsBindings (c : Controller) (segment : SegmentRef) (sc : StorageClass) :
    KeepsBindings c (addWorkItem c segment sc) := by
  refine ⟨Queue.grows_add _ _, fun item capacity h => ?_,
    fun _ h => .inl (pending_capacity_of_foldl_add _ [_] h)⟩
  simp only [addWorkItem] at h
  split_ifs at h
  · exact h
  · exact bound_of_insert_none h

lemma removeWorkItem_keepsBindings (c : Controller) (segment : SegmentRef) (sc : StorageClass) :
    KeepsBindings c (removeWorkItem c segment sc) := by
  unfold removeWorkItem
  dsimp only
  split
  · exact KeepsBindings.refl c
  · exact ⟨Queue.Grows.refl _, fun _ _ h => bound_of_erase h, fun _ h => .inl h⟩
  · -- the object the item held is queued for deletion
    rename_i capacity hcapacity
    refine ⟨Queue.grows_add _ _, fun _ _ h => bound_of_erase h, fun capacity' h => ?_⟩
    rcases Queue.pending_of_add h with h | h
    · exact .inl h
    · cases h
      exact .inr ⟨_, hcapacity⟩

lemma onTopologyChanges_keepsBindings (cfg : Config) (c : Controller)
    (added removed : List SegmentRef) (storageclasses : List StorageClass) :
    KeepsBindings c (onTopologyChanges cfg c added removed storageclasses) := by
  refine keepsBindings_foldl (fun c sc => ?_) c storageclasses
  split_ifs
  · exact (keepsBindings_foldl (fun c segment => addWorkItem_keepsBindings c segment sc) c
      added).trans (keepsBindings_foldl (fun c segment => removeWorkItem_keepsBindings c segment sc)
      _ removed)
  · exact KeepsBindings.refl c

lemma onSCAddOrUpdate_keepsBindings (c : Controller) (sc : StorageClass)
    (segments : List SegmentRef) : KeepsBindings c (onSCAddOrUpdate c sc segments) :=
  keepsBindings_foldl (fun c segment => addWorkItem_keepsBindings c segment sc) c segments

lemma onSCDelete_keepsBindings (c : Controller) (sc : StorageClass)
    (segments : List SegmentRef) : KeepsBindings c (onSCDelete c sc segments) :=
  keepsBindings_foldl (fun c segment => removeWorkItem_keepsBindings c segment sc) c segments

lemma onCDelete_keepsBindings (c : Controller) (order : List WorkItem)
    (capacity : CSIStorageCapacity) : KeepsBindings c (onCDelete c order capacity) := by
  unfold onCDelete
  split
  · exact keepsBindings_reset c _
  · exact KeepsBindings.refl c

/-- A handler that binds at most the object `capacity`, and only to an item that has it
already or has none and `equals` it; it queues at most that object for deletion. -/
structure BindsAtMost (c c' : Controller) (capacity : CSIStorageCapacity) : Prop where
  grows : Queue.Grows c.queue c'.queue
  bound : ∀ item capacity', c'.capacities.lookup item = some (some capacity') →
    c.capacities.lookup item = some (some capacity') ∨
      (capacity' = capacity ∧ claimsObject c capacity item = true)
  queued : ∀ capacity', c'.queue.Pending (.capacity capacity') →
    c.queue.Pending (.capacity capacity') ∨
      (∃ item, c.capacities.lookup item = some (some capacity')) ∨ capacity' = capacity

lemma KeepsBindings.bindsAtMost {c c' : Controller} (h : KeepsBindings c c')
    (capacity : CSIStorageCapacity) : BindsAtMost c c' capacity :=
  ⟨h.grows, fun item capacity' hb => .inl (h.bound item capacity' hb),
    fun capacity' hq => (h.queued capacity' hq).imp_right .inl⟩

/-- **`onCAddOrUpdate` binds the delivered object at most**, to the first item in map order
that has it already or has none and `equals` it; a foreign object binds nothing. -/
theorem onCAddOrUpdate_bindsAtMost (cfg : Config) (c : Controller) (order : List WorkItem)
    (capacity : CSIStorageCapacity) :
    BindsAtMost c (onCAddOrUpdate cfg c order capacity) capacity := by
  unfold onCAddOrUpdate
  split_ifs
  · -- a foreign object: the items that have it are reset
    apply KeepsBindings.bindsAtMost
    apply keepsBindings_foldl
    intro c item
    split
    · split_ifs
      · exact keepsBindings_reset c item
      · exact KeepsBindings.refl c
    · exact KeepsBindings.refl c
  · split
    · rename_i item hfind
      refine ⟨Queue.Grows.refl _, fun item' capacity' h => ?_, fun _ h => .inl h⟩
      by_cases hitem : item' = item
      · subst hitem
        simp only [AList.lookup_insert, Option.some.injEq] at h
        exact .inr ⟨h.symm, List.find?_some hfind⟩
      · rw [AList.lookup_insert_ne hitem] at h
        exact .inl h
    · -- the object is queued for deletion
      refine ⟨Queue.grows_add _ _, fun _ _ h => .inl h, fun capacity' h => ?_⟩
      rcases Queue.pending_of_add h with h | h
      · exact .inl h
      · cases h
        exact .inr (.inr rfl)

/-! ### The object created for a work item -/

lemma syncCapacity_create (cfg : Config) (item : WorkItem) (sc : StorageClass) (quantity : Int)
    (maximumVolumeSize : Option Int) :
    syncCapacity cfg item (some none) (some sc) (.ok (quantity, maximumVolumeSize)) =
      .create (newCapacity cfg item quantity maximumVolumeSize) := rfl

lemma syncCapacity_update {cfg : Config} {item : WorkItem}
    {found : Option (Option CSIStorageCapacity)} {sc : Option StorageClass}
    {answer : Except String (Int × Option Int)} {capacity : CSIStorageCapacity}
    (h : syncCapacity cfg item found sc answer = .update capacity) :
    ∃ current, found = some (some current) ∧ capacity.uid = current.uid ∧
      capacity.name = current.name ∧ capacity.storageClassName = current.storageClassName ∧
      capacity.nodeTopology = current.nodeTopology := by
  unfold syncCapacity at h
  split at h
  · cases h
  · cases h
  · split at h
    · cases h
    · split at h
      · cases h
      · rename_i current
        dsimp only at h
        split_ifs at h
        cases h
        exact ⟨current, rfl, rfl, rfl, rfl, rfl⟩

/-- **The object created for a work item comes back from the server equal to the item, except
for the empty non-nil segment**: its empty label map comes back nil, which
`reflect.DeepEqual` tells from the empty map the item computes. -/
theorem equals_afterRoundTrip_newCapacity (cfg : Config) (item : WorkItem) (quantity : Int)
    (maximumVolumeSize : Option Int) :
    item.equals (newCapacity cfg item quantity maximumVolumeSize).afterRoundTrip = true ↔
      item.segment.segment ≠ some [] := by
  simp only [WorkItem.equals, newCapacity, CSIStorageCapacity.afterRoundTrip, Option.map_some,
    Segment.GetLabelSelector, LabelSelector.afterRoundTrip, deepEqualSelector, beq_self_eq_true,
    Bool.true_and]
  cases hseg : item.segment.segment with
  | none => simp
  | some entries =>
    cases entries with
    | nil => simp
    | cons entry rest =>
      obtain ⟨labels, hlabels, hne⟩ := GetLabelMap_some_cons entry rest
      simp [hlabels, hne]

end CsiProvisioner.Capacity
