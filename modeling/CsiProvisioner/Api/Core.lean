import CsiProvisioner.Lib.GoMap

/-!
The objects of the Kubernetes core API that the provisioner reads and writes: persistent
volume claims, persistent volumes, nodes, and the references between them. Each record has
the fields that the modelled code reads or writes; the others are left out.

A Go pointer that may be nil is an `Option`. A resource quantity is its value in bytes, an
integer, since the code reads it only through `Value()`.
-/

namespace CsiProvisioner.Api

open Go

/-- `TypedLocalObjectReference`: the `spec.dataSource` of a claim, in the claim's namespace. -/
structure TypedLocalObjectReference where
  apiGroup : Option String
  kind : String
  name : String
  deriving DecidableEq, Repr

/-- `TypedObjectReference`: the `spec.dataSourceRef` of a claim, which may name another
namespace. -/
structure TypedObjectReference where
  apiGroup : Option String
  kind : String
  name : String
  ns : Option String
  deriving DecidableEq, Repr

/-- `ObjectReference`: what the provisioner builds for a data source, and the claim
reference of a volume. -/
structure ObjectReference where
  kind : String
  ns : String
  name : String
  uid : String
  apiVersion : String
  deriving DecidableEq, Repr

inductive PersistentVolumeClaimPhase
  | pending
  | bound
  | lost
  deriving DecidableEq, Repr

inductive PersistentVolumeMode
  | block
  | filesystem
  deriving DecidableEq, Repr

structure PersistentVolumeClaimSpec where
  storageClassName : Option String
  volumeName : String
  volumeMode : Option PersistentVolumeMode
  /-- `resources.requests[storage]`, zero when it is not set. -/
  storageRequest : Int
  dataSource : Option TypedLocalObjectReference
  dataSourceRef : Option TypedObjectReference
  deriving DecidableEq, Repr

structure PersistentVolumeClaim where
  name : String
  ns : String
  uid : String
  resourceVersion : Nat
  annotations : StrMap
  finalizers : List String
  /-- Whether `deletionTimestamp` is set. -/
  deleting : Bool
  spec : PersistentVolumeClaimSpec
  phase : PersistentVolumeClaimPhase
  deriving DecidableEq, Repr

inductive PersistentVolumePhase
  | pending
  | available
  | bound
  | released
  | failed
  deriving DecidableEq, Repr

/-- `SecretReference`: a secret by name and namespace. -/
structure SecretReference where
  name : String
  ns : String
  deriving DecidableEq, Repr

/-- The CSI source of a volume, with the handle the driver returned and the secrets of the
later operations on the volume (nil unless set). -/
structure CSIPersistentVolumeSource where
  driver : String
  volumeHandle : String
  controllerPublishSecretRef : Option SecretReference := none
  nodeStageSecretRef : Option SecretReference := none
  nodePublishSecretRef : Option SecretReference := none
  controllerExpandSecretRef : Option SecretReference := none
  nodeExpandSecretRef : Option SecretReference := none
  deriving DecidableEq, Repr

structure PersistentVolume where
  name : String
  annotations : StrMap
  csi : Option CSIPersistentVolumeSource
  claimRef : Option ObjectReference
  storageClassName : String
  volumeMode : Option PersistentVolumeMode
  phase : PersistentVolumePhase
  deriving DecidableEq, Repr

inductive NodeSelectorOperator
  | opIn
  | opNotIn
  | opExists
  | opDoesNotExist
  | opGt
  | opLt
  deriving DecidableEq, Repr

/-- `%v` of a node selector operator. -/
def NodeSelectorOperator.format : NodeSelectorOperator → String
  | .opIn => "In"
  | .opNotIn => "NotIn"
  | .opExists => "Exists"
  | .opDoesNotExist => "DoesNotExist"
  | .opGt => "Gt"
  | .opLt => "Lt"

/-- `NodeSelectorRequirement`: the label `key` relates to `values` by `operator`. -/
structure NodeSelectorRequirement where
  key : String
  operator : NodeSelectorOperator
  values : List String
  deriving DecidableEq, Repr

/-- `NodeSelectorTerm`: the conjunction of its requirements on labels and on fields. -/
structure NodeSelectorTerm where
  matchExpressions : Slice NodeSelectorRequirement
  matchFields : Slice NodeSelectorRequirement
  deriving DecidableEq, Repr

/-- `NodeSelector`: the disjunction of its terms. -/
structure NodeSelector where
  nodeSelectorTerms : Slice NodeSelectorTerm
  deriving DecidableEq, Repr

/-- `VolumeNodeAffinity`: the nodes a volume can be used from. -/
structure VolumeNodeAffinity where
  required : Option NodeSelector
  deriving DecidableEq, Repr

structure Node where
  name : String
  labels : StrMap
  deriving DecidableEq, Repr

/-- `metav1.HasAnnotation`. -/
def hasAnnotationKey (annotations : StrMap) (ann : String) : Bool :=
  (annotations.lookup ann).isSome

/-- The value of an annotation, `""` when it is not set. -/
def annotationValue (annotations : StrMap) (ann : String) : String :=
  (annotations.lookup ann).getD ""

/-- `metav1.SetMetaDataAnnotation`. -/
def setMetaDataAnnotationValue (annotations : StrMap) (ann value : String) : StrMap :=
  annotations.insert ann value

@[simp] lemma annotationValue_setMetaDataAnnotationValue (m : StrMap) (ann value : String) :
    annotationValue (setMetaDataAnnotationValue m ann value) ann = value := by
  simp [annotationValue, setMetaDataAnnotationValue, AList.lookup_insert]

@[simp] lemma hasAnnotationKey_setMetaDataAnnotationValue (m : StrMap) (ann value : String) :
    hasAnnotationKey (setMetaDataAnnotationValue m ann value) ann = true := by
  simp [hasAnnotationKey, setMetaDataAnnotationValue, AList.lookup_insert]

end CsiProvisioner.Api
