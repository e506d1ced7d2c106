import CsiProvisioner.Capacity.Cluster
import CsiProvisioner.Capacity.NodeTopology

/-!
What the map `c.capacities` of the capacity controller holds over whole runs.

The controller links a CSIStorageCapacity object to its work item only when the informer
delivers the object: `onCAddOrUpdate` binds it to the first item, in the order of the map
loop, that has it already or has none and `equals` it. The storage class handlers list the
topology segments before they take `capacitiesLock`. A handler that listed a segment which
the topology informer then replaced by a new segment with the same entries adds the old
segment back after its removal was handled; nothing removes that item again, since the
informer never reports the old segment a second time. The old item and the new one then
`equals` the same objects, and a later delivery binds one object to both.

An object for an empty, non-nil segment comes back from the server with nil labels in its
node topology, so that `equals` fails for the item it was created for: the object is
deleted, and the item stays without an object until the next poll.
-/

namespace CsiProvisioner.Capacity.Cluster

open Go Api CsiProvisioner.Capacity.Topology WorkQueue

def boundUID (c : Controller) (item : WorkItem) : Option String :=
  ((c.capacities.lookup item).bind id).map (·.uid)

def entryDeletes (uid : String) : Entry → Bool
  | .capacity capacity => capacity.uid == uid
  | .item _ => false

def Call.deletes (uid : String) : Call → Bool
  | .delete capacity => capacity.uid == uid
  | .sync _ _ => false

/-- The object with UID `uid` waits in the queue, also for a retry, or is with a worker, for
`deleteCapacity`. -/
def PendingDeletion (w : World) (uid : String) : Prop :=
  (∃ e ∈ w.controller.queue.queue ++ w.controller.queue.processing ++
      w.controller.queue.waiting, entryDeletes uid e) ∨
    ∃ call ∈ w.workers, call.deletes uid

instance (w : World) (uid : String) : Decidable (PendingDeletion w uid) :=
  inferInstanceAs (Decidable (_ ∨ _))

/-! ### The failing runs -/

def hostpath : Config where
  driverName := "hostpath.csi.k8s.io"
  owner := none
  managedByID := "external-provisioner"
  ownerNamespace := "default"
  immediateBinding := false

def fast : StorageClass where
  name := "fast"
  provisioner := "hostpath.csi.k8s.io"
  parameters := ∅
  volumeBindingMode := some .waitForFirstConsumer
  allowedTopologies := []

def nodeSegment : Segment := some [⟨"topology.hostpath.csi/node", "node-1"⟩]

def oldSegment : SegmentRef := ⟨0, nodeSegment⟩

def newSegment : SegmentRef := ⟨1, nodeSegment⟩

def oldItem : WorkItem := ⟨oldSegment, "fast"⟩

def newItem : WorkItem := ⟨newSegment, "fast"⟩

/-- The storage class handler lists the segment of the node for a resync of `fast`; before
it takes the lock, the topology informer drops that segment and reports the node's segment
anew at another address, and the callback handles both changes. The handler then adds the
dropped segment back. -/
def staleTrace : List Event :=
  [.topologyChange [nodeSegment] [], .topologyCallbackList, .topologyCallbackLock,
    .scAdd fast, .scHandlerList, .scHandlerLock,
    .scResync "fast", .scHandlerList,
    .topologyChange [] [oldSegment], .topologyCallbackList, .topologyCallbackLock,
    .topologyChange [nodeSegment] [], .topologyCallbackList, .topologyCallbackLock,
    .scHandlerLock]

/-- **A work item survives the removal of its segment.** Once every handler is done, the map
has an item for a segment that the topology informer no longer lists. -/
theorem stale_work_item_survives :
    ∃ w, Transition.Reachable (exec hostpath) Initial w ∧ HandlersIdle w ∧
      ∃ item ∈ w.controller.capacities, item.segment ∉ w.segments := by
  have hrun : (Transition.run (exec hostpath) initial staleTrace).map
      (fun w => decide (HandlersIdle w ∧ oldItem ∈ w.controller.capacities ∧
        oldItem.segment ∉ w.segments)) = some true := by decide
  obtain ⟨w, hreach, hw⟩ := Transition.exists_reachable_of_run (show Initial initial from rfl) hrun
  obtain ⟨hidle, hmem, hseg⟩ := of_decide_eq_true hw
  exact ⟨w, hreach, hidle, oldItem, hmem, hseg⟩

/-- After `staleTrace`, a worker creates the object for the old item, which the server names
`csisc-x7k2q`; the informer delivers it while the map loop visits the new item first, and the
resync delivers it again while the loop visits the old item first. -/
def sharedTrace : List Event :=
  staleTrace ++
    [.workerGet (.ok (100, none)), .workerDone 0 true "x7k2q" "uid-1",
      .deliver [newItem, oldItem],
      .resync "csisc-x7k2q" [oldItem, newItem]]

/-- **Two work items hold one object.** -/
theorem two_items_hold_one_object :
    ∃ w, Transition.Reachable (exec hostpath) Initial w ∧
      ∃ i j, i ≠ j ∧ (boundUID w.controller i).isSome ∧
        boundUID w.controller i = boundUID w.controller j := by
  have hrun : (Transition.run (exec hostpath) initial sharedTrace).map
      (fun w => decide ((boundUID w.controller oldItem).isSome ∧
        boundUID w.controller oldItem = boundUID w.controller newItem)) = some true := by
    decide
  obtain ⟨w, hreach, hw⟩ := Transition.exists_reachable_of_run (show Initial initial from rfl) hrun
  obtain ⟨hsome, hsame⟩ := of_decide_eq_true hw
  exact ⟨w, hreach, oldItem, newItem, by decide, hsome, hsame⟩

/-- **An object that is neither bound to exactly one work item nor queued for deletion.** The
object the worker created is managed, delivered and on the server; two work items hold it,
and nothing deletes it. -/
theorem object_held_twice_not_deleted :
    ∃ w, Transition.Reachable (exec hostpath) Initial w ∧
      ∃ o ∈ w.objects, isManaged hostpath o ∧ o ∈ w.cache ∧
        (∃ i j, i ≠ j ∧ boundUID w.controller i = some o.uid ∧
          boundUID w.controller j = some o.uid) ∧
        ¬ PendingDeletion w o.uid := by
  have hrun : (Transition.run (exec hostpath) initial sharedTrace).map
      (fun w => decide (∃ o ∈ w.objects, isManaged hostpath o ∧ o ∈ w.cache ∧
        boundUID w.controller oldItem = some o.uid ∧
        boundUID w.controller newItem = some o.uid ∧ ¬ PendingDeletion w o.uid)) =
      some true := by
    decide
  obtain ⟨w, hreach, hw⟩ := Transition.exists_reachable_of_run (show Initial initial from rfl) hrun
  obtain ⟨o, ho, hmanaged, hcache, hold, hnew, hpending⟩ := of_decide_eq_true hw
  exact ⟨w, hreach, o, ho, hmanaged, hcache, ⟨oldItem, newItem, by decide, hold, hnew⟩, hpending⟩

def keylessSegment : SegmentRef := ⟨0, some []⟩

def keylessItem : WorkItem := ⟨keylessSegment, "fast"⟩

/-- The topology informer reports the empty segment and `fast` is added; a worker creates
the object for the item, the informer delivers it, `onCAddOrUpdate` finds it obsolete, a
worker deletes it, and the informer delivers the deletion. -/
def keylessTrace : List Event :=
  [.topologyChange [some []] [], .topologyCallbackList, .topologyCallbackLock,
    .scAdd fast, .scHandlerList, .scHandlerLock,
    .workerGet (.ok (100, none)), .workerDone 0 true "x7k2q" "uid-1", .deliver [keylessItem],
    .workerGet (.ok (100, none)), .workerDone 0 true "" "uid-2", .deliver [keylessItem]]

/-- **A quiescent world with a work item that holds no object.** -/
theorem quiescent_item_without_object :
    ∃ w, Transition.Reachable (exec hostpath) Initial w ∧ Quiescent w ∧
      HandlersIdle w ∧ ∃ item, w.controller.capacities.lookup item = some none := by
  have hrun : (Transition.run (exec hostpath) initial keylessTrace).map
      (fun w => decide (Quiescent w ∧ HandlersIdle w ∧
        w.controller.capacities.lookup keylessItem = some none)) = some true := by
    decide
  obtain ⟨w, hreach, hw⟩ := Transition.exists_reachable_of_run (show Initial initial from rfl) hrun
  obtain ⟨hquiet, hidle, hitem⟩ := of_decide_eq_true hw
  exact ⟨w, hreach, hquiet, hidle, keylessItem, hitem⟩

/-- **The object created for the segment of a driver registered without topology keys is not
recognised as the item's.** The first sync of the node topology adds the empty segment for the
node; for every storage class and every answer of the driver, the object that
`syncCapacity` creates for the item does not `equals` it once it comes back from the
server. -/
theorem keyless_object_not_recognised (cfg : Config) (node : Node) (csiNode : CSINode)
    (hkeys : NodeTopology.driverTopologyKeys cfg.driverName csiNode = some [])
    (hname : node.name = csiNode.name) (addr : Nat) (sc : StorageClass) (quantity : Int)
    (maximumVolumeSize : Option Int) :
    ∃ segment ∈ (NodeTopology.scan cfg.driverName [node] [csiNode] [] addr).added,
      ∃ capacity, syncCapacity cfg ⟨segment, sc.name⟩ (some none) (some sc)
          (.ok (quantity, maximumVolumeSize)) = .create capacity ∧
        WorkItem.equals ⟨segment, sc.name⟩ capacity.afterRoundTrip = false := by
  have hnode : [node].find? (·.name == csiNode.name) = some node := by simp [hname]
  have hscan : NodeTopology.scan cfg.driverName [node] [csiNode] [] addr =
      ⟨[⟨addr, some []⟩], [⟨addr, some []⟩], addr + 1⟩ :=
    NodeTopology.scanNode_keyless hkeys hnode addr
  refine ⟨⟨addr, some []⟩, by simp [hscan], _,
    syncCapacity_create cfg _ sc quantity maximumVolumeSize, ?_⟩
  have hequals := equals_afterRoundTrip_newCapacity cfg ⟨⟨addr, some []⟩, sc.name⟩ quantity
    maximumVolumeSize
  simpa using hequals

def keylessCSINode : CSINode := ⟨"node-1", [⟨"hostpath.csi.k8s.io", none⟩]⟩

def plainNode : Node := ⟨"node-1", ∅⟩

theorem keyless_object_not_recognised_node :
    NodeTopology.driverTopologyKeys hostpath.driverName keylessCSINode = some [] ∧
      plainNode.name = keylessCSINode.name ∧
      ∃ segment ∈ (NodeTopology.scan hostpath.driverName [plainNode] [keylessCSINode] [] 0).added,
        ∃ capacity, syncCapacity hostpath ⟨segment, fast.name⟩ (some none) (some fast)
            (.ok (100, none)) = .create capacity ∧
          WorkItem.equals ⟨segment, fast.name⟩ capacity.afterRoundTrip = false :=
  ⟨rfl, rfl, keyless_object_not_recognised hostpath plainNode keylessCSINode rfl rfl 0 fast 100 none⟩

end CsiProvisioner.Capacity.Cluster
