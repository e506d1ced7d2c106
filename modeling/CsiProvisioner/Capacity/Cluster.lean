import CsiProvisioner.Capacity.Refresh
import CsiProvisioner.Lib.Transition

/-!
The capacity controller together with what it runs against (`pkg/capacity/capacity.go`):
the topology informer and its callback, the storage class informer and its handler, the
workers of the work queue, and the API server with the informer for CSIStorageCapacity
objects.

Each step of a goroutine is one event. A handler that reads another informer before it
takes `capacitiesLock` is two events, the read and the part under the lock, so that other
events can come in between; a worker is two events as well, `syncCapacity` up to its API
call and the call. The informer for CSIStorageCapacity objects delivers the changes of the
server in order, and each delivery runs `onCAddOrUpdate` or `onCDelete` under the lock.
The events carry what the environment chooses: the order of each loop over
`c.capacities`, the driver's answer to `GetCapacity`, and whether an API call succeeds.

The topology informer is any implementation of the `Informer` interface: it replaces its
list of segments at once, gives each new segment a fresh address, never lists two segments
with the same entries, and calls the callback later with what it added and removed. The
controller starts with empty informers, so that `prepare` finds nothing to do.
-/

namespace CsiProvisioner.Capacity.Cluster

open Go Api CsiProvisioner.Capacity.Topology WorkQueue

/-- A notification of the storage class informer for its handler. -/
inductive SCNotification
  | addOrUpdate (sc : StorageClass)
  | delete (sc : StorageClass)
  deriving DecidableEq

/-- A storage class handler between the segments it listed and `capacitiesLock`. -/
inductive SCHandler
  | addOrUpdate (sc : StorageClass) (segments : List SegmentRef)
  | delete (sc : StorageClass) (segments : List SegmentRef)
  deriving DecidableEq

/-- The callback `onTopologyChanges` between the storage classes it listed and
`capacitiesLock`. -/
structure TopologyHandler where
  added : List SegmentRef
  removed : List SegmentRef
  storageclasses : List StorageClass
  deriving DecidableEq

/-- A change of the objects on the server, as the watch of the informer reports it. -/
inductive Change
  | added (capacity : CSIStorageCapacity)
  | modified (capacity : CSIStorageCapacity)
  | deleted (capacity : CSIStorageCapacity)
  deriving DecidableEq

/-- A worker with the entry it got from the queue: `syncCapacity` with what it decided to
do, or `deleteCapacity`. -/
inductive Call
  | sync (item : WorkItem) (outcome : SyncOutcome)
  | delete (capacity : CSIStorageCapacity)
  deriving DecidableEq

def Call.entry : Call → Entry
  | .sync item _ => .item item
  | .delete capacity => .capacity capacity

structure World where
  /-- What the topology informer's `List` returns. -/
  segments : List SegmentRef
  nextAddr : Nat
  /-- Changes of the topology informer whose callback has not run yet. -/
  topologyCallbacks : List (List SegmentRef × List SegmentRef)
  topologyHandler : Option TopologyHandler
  /-- What the storage class lister returns. -/
  storageClasses : List StorageClass
  scNotifications : List SCNotification
  scHandler : Option SCHandler
  controller : Controller
  workers : List Call
  /-- The CSIStorageCapacity objects on the server. -/
  objects : List CSIStorageCapacity
  /-- The UIDs the server has given out. -/
  uids : List String
  /-- Changes of the server that the informer has not delivered yet. -/
  changes : List Change
  /-- The informer's cache of CSIStorageCapacity objects. -/
  cache : List CSIStorageCapacity

def initial : World where
  segments := []
  nextAddr := 0
  topologyCallbacks := []
  topologyHandler := none
  storageClasses := []
  scNotifications := []
  scHandler := none
  controller := ⟨∅, Queue.empty⟩
  workers := []
  objects := []
  uids := []
  changes := []
  cache := []

/-- The controller starts from the world before the informers have seen anything. -/
def Initial (w : World) : Prop := w = initial

namespace World

/-! ### The topology informer -/

def allocate : Nat → List Segment → List SegmentRef
  | _, [] => []
  | addr, s :: rest => ⟨addr, s⟩ :: allocate (addr + 1) rest

/-- The informer stores its new list: the segments `removed` leave it, and the segments
`added` join it at fresh addresses; no two segments of the list have the same entries. -/
def changeTopology (w : World) (added : List Segment) (removed : List SegmentRef) :
    Option World :=
  let live := w.segments.filter (· ∉ removed) ++ allocate w.nextAddr added
  if removed.Nodup ∧ (∀ s ∈ removed, s ∈ w.segments) ∧ (live.map (·.segment.toList)).Nodup then
    some { w with
      segments := live
      nextAddr := w.nextAddr + added.length
      topologyCallbacks := w.topologyCallbacks ++ [(allocate w.nextAddr added, removed)] }
  else none

/-- `onTopologyChanges` for the oldest change lists the storage classes. -/
def topologyCallbackList (w : World) : Option World :=
  match w.topologyHandler, w.topologyCallbacks with
  | none, (added, removed) :: rest =>
    some { w with
      topologyCallbacks := rest
      topologyHandler := some ⟨added, removed, w.storageClasses⟩ }
  | _, _ => none

def topologyCallbackLock (cfg : Config) (w : World) : Option World :=
  match w.topologyHandler with
  | some h =>
    some { w with
      controller := onTopologyChanges cfg w.controller h.added h.removed h.storageclasses
      topologyHandler := none }
  | none => none

/-! ### The storage class informer -/

/-- The storage class lister's `Get`. -/
def lookupClass (w : World) (name : String) : Option StorageClass :=
  w.storageClasses.find? (·.name == name)

def addClass (w : World) (sc : StorageClass) : Option World :=
  match w.lookupClass sc.name with
  | none =>
    some { w with
      storageClasses := w.storageClasses ++ [sc]
      scNotifications := w.scNotifications ++ [.addOrUpdate sc] }
  | some _ => none

def deleteClass (w : World) (name : String) : Option World :=
  match w.lookupClass name with
  | some sc =>
    some { w with
      storageClasses := w.storageClasses.filter (·.name != name)
      scNotifications := w.scNotifications ++ [.delete sc] }
  | none => none

/-- An update event for a class as it is: the periodic resync, or a change of its metadata,
which the handler does not read. -/
def resyncClass (w : World) (name : String) : Option World :=
  match w.lookupClass name with
  | some sc => some { w with scNotifications := w.scNotifications ++ [.addOrUpdate sc] }
  | none => none

/-- The part of `onSCAddOrUpdate` and `onSCDelete` before the lock: both return at once for
a class of another driver, `onSCAddOrUpdate` also for an immediate class it does not
handle; otherwise they list the segments. -/
def scHandlerFirstHalf (cfg : Config) (segments : List SegmentRef) :
    SCNotification → Option SCHandler
  | .addOrUpdate sc => if handlesClass cfg sc then some (.addOrUpdate sc segments) else none
  | .delete sc => if sc.provisioner == cfg.driverName then some (.delete sc segments) else none

def scHandlerList (cfg : Config) (w : World) : Option World :=
  match w.scHandler, w.scNotifications with
  | none, n :: rest =>
    some { w with scNotifications := rest, scHandler := scHandlerFirstHalf cfg w.segments n }
  | _, _ => none

def scHandlerLock (w : World) : Option World :=
  match w.scHandler with
  | some (.addOrUpdate sc segments) =>
    some { w with controller := onSCAddOrUpdate w.controller sc segments, scHandler := none }
  | some (.delete sc segments) =>
    some { w with controller := onSCDelete w.controller sc segments, scHandler := none }
  | none => none

/-! ### Handlers that loop over the map -/

/-- A handler that loops over `c.capacities` in the order `order`, which must be an order
of the map's keys. -/
def withOrder (w : World) (order : List WorkItem) (f : Controller → Controller) :
    Option World :=
  if order.Perm w.controller.capacities.keys then some { w with controller := f w.controller }
  else none

/-! ### The API server -/

def lookupObject (w : World) (name : String) : Option CSIStorageCapacity :=
  w.objects.find? (·.name == name)

lemma lookupObject_spec {w : World} {name : String} {o : CSIStorageCapacity}
    (h : w.lookupObject name = some o) : o ∈ w.objects ∧ o.name = name :=
  ⟨List.mem_of_find?_eq_some h,
    beq_iff_eq.mp (List.find?_some (p := fun o : CSIStorageCapacity => o.name == name) h)⟩

/-- `Create` with `GenerateName`: the server names the object `csisc-` followed by the
random `suffix` it draws, gives it the UID `uid`, and stores it as it encodes it. A drawn
name that an object has already fails the request with `AlreadyExists`. -/
def create (w : World) (capacity : CSIStorageCapacity) (suffix uid : String) : Option World :=
  let created := { capacity.afterRoundTrip with
    name := "csisc-" ++ suffix
    uid := uid
    resourceVersion := 0 }
  match w.lookupObject created.name with
  | some _ => none
  | none =>
    some { w with
      objects := w.objects ++ [created]
      uids := w.uids ++ [uid]
      changes := w.changes ++ [.added created] }

/-- `Update`: refused unless the server has the object, with its UID, at the revision the
update was made from. -/
def update (w : World) (capacity : CSIStorageCapacity) : Option World :=
  match w.lookupObject capacity.name with
  | some current =>
    if current.uid = capacity.uid ∧ current.resourceVersion = capacity.resourceVersion then
      let updated :=
        { capacity.afterRoundTrip with resourceVersion := capacity.resourceVersion + 1 }
      some { w with
        objects := w.objects.map fun o => if o.name = capacity.name then updated else o
        changes := w.changes ++ [.modified updated] }
    else none
  | none => none

/-- `Delete` by name; nothing when the server does not have it. -/
def delete (w : World) (name : String) : Option World :=
  match w.lookupObject name with
  | some current =>
    some { w with
      objects := w.objects.filter (·.name != name)
      changes := w.changes ++ [.deleted current] }
  | none => none

/-! ### The workers -/

/-- A worker takes the first entry of the queue; for a work item it runs `syncCapacity` up
to its API call, with `answer` from the driver. -/
def workerGet (cfg : Config) (w : World) (answer : Except String (Int × Option Int)) :
    Option World :=
  match w.controller.queue.get with
  | some (.item item, queue) =>
    let outcome := syncCapacity cfg item (w.controller.capacities.lookup item)
      (w.lookupClass item.storageClassName) answer
    some { w with
      controller := { w.controller with queue := queue }
      workers := w.workers ++ [.sync item outcome] }
  | some (.capacity capacity, queue) =>
    some { w with
      controller := { w.controller with queue := queue }
      workers := w.workers ++ [.delete capacity] }
  | none => none

/-- The end of `processNextWorkItem`: `Done`, and `AddRateLimited` after an error. -/
def finish (w : World) (e : Entry) (failed : Bool) : World :=
  let queue := w.controller.queue.done e
  { w with
    controller := { w.controller with
      queue := if failed then queue.addRateLimited e else queue } }

/-- What the API call of a worker does, when it reaches the server if `success`; a `Create`
gets the name suffix and the UID that the server chooses. -/
def callAPI (w : World) (success : Bool) (suffix uid : String) : Call → World
  | .sync item .done => w.finish (.item item) false
  | .sync item (.failed _) => w.finish (.item item) true
  | .sync item (.create capacity) =>
    match if success then w.create capacity suffix uid else none with
    | some w' => w'.finish (.item item) false
    | none => w.finish (.item item) true
  | .sync item (.update capacity) =>
    match if success then w.update capacity else none with
    | some w' => w'.finish (.item item) false
    -- a conflict, or another error
    | none => w.finish (.item item) true
  | .delete capacity =>
    if success then
      match w.delete capacity.name with
      | some w' => w'.finish (.capacity capacity) false
      -- `NotFound` counts as deleted
      | none => w.finish (.capacity capacity) false
    else w.finish (.capacity capacity) true

def workerDone (w : World) (i : Nat) (success : Bool) (suffix uid : String) : Option World :=
  match w.workers[i]? with
  | some call => some (callAPI { w with workers := w.workers.eraseIdx i } success suffix uid call)
  | none => none

def fire (w : World) (e : Entry) : Option World :=
  match w.controller.queue.fire e with
  | some queue => some { w with controller := { w.controller with queue := queue } }
  | none => none

/-! ### The informer for CSIStorageCapacity objects -/

def cacheStore (cache : List CSIStorageCapacity) (capacity : CSIStorageCapacity) :
    List CSIStorageCapacity :=
  cache.filter (·.name != capacity.name) ++ [capacity]

lemma mem_cacheStore {cache : List CSIStorageCapacity} {capacity o : CSIStorageCapacity} :
    o ∈ cacheStore cache capacity ↔ (o ∈ cache ∧ o.name ≠ capacity.name) ∨ o = capacity := by
  simp [cacheStore]

/-- The informer delivers the oldest change to the handlers of `prepare`. -/
def deliver (cfg : Config) (w : World) (order : List WorkItem) : Option World :=
  match w.changes with
  | .added capacity :: rest | .modified capacity :: rest =>
    ({ w with changes := rest, cache := cacheStore w.cache capacity }).withOrder order
      fun c => onCAddOrUpdate cfg c order capacity
  | .deleted capacity :: rest =>
    ({ w with changes := rest, cache := w.cache.filter (·.name != capacity.name) }).withOrder
      order fun c => onCDelete c order capacity
  | [] => none

/-- The periodic resync delivers a cached object again, as an update. -/
def resync (cfg : Config) (w : World) (name : String) (order : List WorkItem) :
    Option World :=
  match w.cache.find? (·.name == name) with
  | some capacity => w.withOrder order fun c => onCAddOrUpdate cfg c order capacity
  | none => none

/-! ### Others at the API server -/

/-- Someone else updates an object; the server keeps its UID, its storage class name and
its node topology. -/
def externalUpdate (w : World) (capacity : CSIStorageCapacity) : Option World :=
  match w.lookupObject capacity.name with
  | some current =>
    if capacity.uid = current.uid ∧ capacity.storageClassName = current.storageClassName ∧
        capacity.afterRoundTrip.nodeTopology = current.nodeTopology then
      w.update { capacity with resourceVersion := current.resourceVersion }
    else none
  | none => none

end World

/-- What happens next, with the choices the environment makes. -/
inductive Event
  | topologyChange (added : List Segment) (removed : List SegmentRef)
  | topologyCallbackList
  | topologyCallbackLock
  | scAdd (sc : StorageClass)
  | scDelete (name : String)
  | scResync (name : String)
  | scHandlerList
  | scHandlerLock
  | poll (order : List WorkItem)
  | refreshSC (name : String) (order : List WorkItem)
  | refreshTopology (nodeAffinity : VolumeNodeAffinity) (order : List WorkItem)
  | workerGet (answer : Except String (Int × Option Int))
  /-- Worker `i` makes its API call; for a `Create`, the server draws the name suffix
  `suffix` and gives the UID `uid`. -/
  | workerDone (i : Nat) (success : Bool) (suffix uid : String)
  | fire (e : Entry)
  | deliver (order : List WorkItem)
  | resync (name : String) (order : List WorkItem)
  | externalUpdate (capacity : CSIStorageCapacity)
  | externalDelete (name : String)

def exec (cfg : Config) (w : World) : Event → Option World
  | .topologyChange added removed => w.changeTopology added removed
  | .topologyCallbackList => w.topologyCallbackList
  | .topologyCallbackLock => w.topologyCallbackLock cfg
  | .scAdd sc => w.addClass sc
  | .scDelete name => w.deleteClass name
  | .scResync name => w.resyncClass name
  | .scHandlerList => w.scHandlerList cfg
  | .scHandlerLock => w.scHandlerLock
  | .poll order => w.withOrder order fun c => pollCapacities c order
  | .refreshSC name order => w.withOrder order fun c => refreshSC c name order
  | .refreshTopology nodeAffinity order =>
    w.withOrder order fun c => refreshTopology c nodeAffinity order
  | .workerGet answer => w.workerGet cfg answer
  -- the server never gives out a UID twice
  | .workerDone i success suffix uid =>
    if uid ∈ w.uids then none else w.workerDone i success suffix uid
  | .fire e => w.fire e
  | .deliver order => w.deliver cfg order
  | .resync name order => w.resync cfg name order
  | .externalUpdate capacity => w.externalUpdate capacity
  | .externalDelete name => w.delete name

/-- No handler runs or is due: every topology change and every storage class event has been
handled. -/
def HandlersIdle (w : World) : Prop :=
  w.topologyCallbacks = [] ∧ w.topologyHandler = none ∧ w.scNotifications = [] ∧
    w.scHandler = none

instance (w : World) : Decidable (HandlersIdle w) :=
  inferInstanceAs (Decidable (_ ∧ _ ∧ _ ∧ _))

/-- Nothing is left to do: the queue holds nothing, also nothing for a retry, no worker
runs, and the informer has delivered every change. -/
def Quiescent (w : World) : Prop :=
  w.controller.queue.Idle ∧ w.workers = [] ∧ w.changes = []

instance (w : World) : Decidable (Quiescent w) := inferInstanceAs (Decidable (_ ∧ _ ∧ _))

end CsiProvisioner.Capacity.Cluster
