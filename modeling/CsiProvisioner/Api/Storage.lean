import CsiProvisioner.Api.Core

/-!
The objects of the Kubernetes storage API that the provisioner reads and writes: storage
classes, the CSINode records of the drivers on each node, and the CSIStorageCapacity objects
that the capacity controller publishes, with the label selectors and owner references they
carry.
-/

namespace CsiProvisioner.Api

open Go

inductive VolumeBindingMode
  | immediate
  | waitForFirstConsumer
  deriving DecidableEq, Repr

/-- One requirement of an allowed topology: the label `key` has one of the `values`. -/
structure TopologySelectorLabelRequirement where
  key : String
  values : List String
  deriving DecidableEq, Repr

/-- One allowed topology: the conjunction of its requirements. -/
structure TopologySelectorTerm where
  matchLabelExpressions : List TopologySelectorLabelRequirement
  deriving DecidableEq, Repr

structure StorageClass where
  name : String
  provisioner : String
  parameters : StrMap
  volumeBindingMode : Option VolumeBindingMode
  allowedTopologies : List TopologySelectorTerm
  deriving DecidableEq, Repr

/-- A driver as registered on a node, with the topology keys it reported (a nil slice when
it reported none). -/
structure CSINodeDriver where
  name : String
  topologyKeys : Slice String
  deriving DecidableEq, Repr

structure CSINode where
  name : String
  drivers : List CSINodeDriver
  deriving DecidableEq, Repr

structure OwnerReference where
  apiVersion : String
  kind : String
  name : String
  uid : String
  controller : Option Bool
  deriving DecidableEq, Repr

/-- A label selector with label match criteria only, the form the capacity controller
writes. -/
structure LabelSelector where
  matchLabels : Map String String
  deriving DecidableEq, Repr

/-- A label selector as the API server stores it and gives it back: `matchLabels` is encoded
with `omitempty`, so an empty map comes back as nil. -/
def LabelSelector.afterRoundTrip (selector : LabelSelector) : LabelSelector :=
  ⟨match selector.matchLabels with
    | some labels => if labels.entries = [] then none else some labels
    | none => none⟩

structure CSIStorageCapacity where
  name : String
  ns : String
  uid : String
  resourceVersion : Nat
  labels : StrMap
  ownerReferences : List OwnerReference
  nodeTopology : Option LabelSelector
  storageClassName : String
  capacity : Int
  maximumVolumeSize : Option Int
  deriving DecidableEq, Repr

/-- A CSIStorageCapacity object as the API server stores it. -/
def CSIStorageCapacity.afterRoundTrip (capacity : CSIStorageCapacity) : CSIStorageCapacity :=
  { capacity with nodeTopology := capacity.nodeTopology.map LabelSelector.afterRoundTrip }

@[simp] lemma LabelSelector.afterRoundTrip_afterRoundTrip (selector : LabelSelector) :
    selector.afterRoundTrip.afterRoundTrip = selector.afterRoundTrip := by
  obtain ⟨_ | labels⟩ := selector
  · rfl
  · by_cases h : labels.entries = [] <;> simp [LabelSelector.afterRoundTrip, h]

@[simp] lemma CSIStorageCapacity.afterRoundTrip_afterRoundTrip (capacity : CSIStorageCapacity) :
    capacity.afterRoundTrip.afterRoundTrip = capacity.afterRoundTrip := by
  simp [CSIStorageCapacity.afterRoundTrip, Option.map_map, Function.comp_def]

end CsiProvisioner.Api
