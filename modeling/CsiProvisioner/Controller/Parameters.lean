import CsiProvisioner.Controller.Secrets
import CsiProvisioner.Capacity.Controller

/-!
The parameters of a storage class as the provisioner passes them to the CSI driver
(`removePrefixedParameters` and `prepareProvision` in `pkg/controller/controller.go`).

Keys with the prefix `csi.storage.k8s.io/` are reserved for the provisioner: the file system
type and the secrets. `prepareProvision` strips them before it passes the parameters to
`CreateVolume`, and rejects a class with a reserved key it does not know. The capacity
controller asks `GetCapacity` with the class's parameters as they are, reserved keys
included, so that the driver is asked for the capacity of other parameters than those it
creates volumes with whenever the class names a secret or a file system type.

The loop of `removePrefixedParameters` visits the map's pairs in an order the runtime
chooses; the stripped map does not depend on it, and with several unknown reserved keys the
error names the first the loop meets, here the first of the map's entries.
-/

namespace CsiProvisioner.Controller.Parameters

open Go Api CsiProvisioner.Controller.Secrets

def prefixedFsTypeKey : String := csiParameterPrefix ++ "fstype"

def pvcNameKey : String := "csi.storage.k8s.io/pvc/name"

def pvcNamespaceKey : String := "csi.storage.k8s.io/pvc/namespace"

def pvNameKey : String := "csi.storage.k8s.io/pv/name"

/-- The reserved keys that `removePrefixedParameters` knows, in the order of its `switch`. -/
def knownPrefixedKeys : List String :=
  [prefixedFsTypeKey, prefixedProvisionerSecretNameKey, prefixedProvisionerSecretNamespaceKey,
    prefixedControllerPublishSecretNameKey, prefixedControllerPublishSecretNamespaceKey,
    prefixedNodeStageSecretNameKey, prefixedNodeStageSecretNamespaceKey,
    prefixedNodePublishSecretNameKey, prefixedNodePublishSecretNamespaceKey,
    prefixedControllerExpandSecretNameKey, prefixedControllerExpandSecretNamespaceKey,
    prefixedDefaultSecretNameKey, prefixedDefaultSecretNamespaceKey,
    prefixedNodeExpandSecretNameKey, prefixedNodeExpandSecretNamespaceKey]

/-- One round of the loop of `removePrefixedParameters`: a known reserved key is dropped, an
unknown one ends the loop with an error, and any other pair is kept. -/
def removePrefixedParameter (newParam : StrMap) (e : Σ _ : String, String) :
    Except String StrMap :=
  if hasPrefix e.1 csiParameterPrefix then
    if e.1 ∈ knownPrefixedKeys then pure newParam
    else throw ("found unknown parameter key \"" ++ e.1 ++ "\" with reserved namespace " ++
      csiParameterPrefix)
  else pure (newParam.insert e.1 e.2)

def removePrefixedParameters (param : StrMap) : Except String StrMap :=
  param.entries.foldlM removePrefixedParameter ∅

/-- The parameters of the `CreateVolume` request of `prepareProvision`: the stripped
parameters, and with `extraCreateMetadata` the claim's name and namespace and the volume's
name. -/
def createVolumeParameters (extraCreateMetadata : Bool) (claim : PersistentVolumeClaim)
    (pvName : String) (sc : StorageClass) : Except String StrMap := do
  let params ← (removePrefixedParameters sc.parameters).mapError
    fun e => "failed to strip CSI Parameters of prefixed keys: " ++ e
  if extraCreateMetadata then
    pure (((params.insert pvcNameKey claim.name).insert pvcNamespaceKey claim.ns).insert
      pvNameKey pvName)
  else pure params

/-! ### What stripping keeps -/

lemma lookup_foldlM_removePrefixedParameter {l : List (Σ _ : String, String)}
    (hl : l.NodupKeys) {acc r : StrMap} (h : l.foldlM removePrefixedParameter acc = .ok r)
    (k : String) :
    r.lookup k =
      if hasPrefix k csiParameterPrefix then acc.lookup k else (l.dlookup k).or (acc.lookup k) := by
  induction l generalizing acc with
  | nil =>
    cases h
    split_ifs <;> rfl
  | cons e l ih =>
    obtain ⟨key, value⟩ := e
    obtain ⟨hnotin, hl'⟩ := List.nodupKeys_cons.mp hl
    obtain ⟨acc', hround, hrest⟩ := bind_eq_ok.mp h
    rw [ih hl' hrest]
    unfold removePrefixedParameter at hround
    by_cases hk : k = key
    · -- the round that visits `k`; an unknown reserved key ends the loop with an error
      subst hk
      have hnone : l.dlookup k = none := List.dlookup_eq_none.mpr hnotin
      split_ifs at hround with hreserved hknown
      · cases pure_eq_ok.mp hround
        simp [hreserved]
      · cases pure_eq_ok.mp hround
        simp [hreserved, hnone, List.dlookup_cons_eq]
    · -- a round for another key leaves `k` as it was
      have hdlookup : (⟨key, value⟩ :: l).dlookup k = l.dlookup k := List.dlookup_cons_ne _ _ hk
      split_ifs at hround with hreserved hknown
      · cases pure_eq_ok.mp hround
        rw [hdlookup]
      · cases pure_eq_ok.mp hround
        rw [hdlookup, AList.lookup_insert_ne hk]

/-- **Stripping drops exactly the reserved keys**: a successful `removePrefixedParameters`
has no reserved key and every other key as the class has it. -/
theorem removePrefixedParameters_lookup {param newParam : StrMap}
    (h : removePrefixedParameters param = .ok newParam) (k : String) :
    newParam.lookup k = if hasPrefix k csiParameterPrefix then none else param.lookup k := by
  rw [lookup_foldlM_removePrefixedParameter param.nodupKeys h k]
  split_ifs
  · rfl
  · simp [AList.lookup]

/-- **The capacity controller asks for the capacity of the parameters `CreateVolume` gets
exactly when the class has no reserved key**: otherwise the map of `GetCapacity` has a key
that the stripped map of `prepareProvision` has not. -/
theorem getCapacityRequest_parameters_eq_iff (item : Capacity.WorkItem) (sc : StorageClass)
    {claim : PersistentVolumeClaim} {pvName : String} {params : StrMap}
    (h : createVolumeParameters false claim pvName sc = .ok params) :
    (∀ k, (Capacity.getCapacityRequest item sc).parameters.lookup k = params.lookup k) ↔
      ∀ k ∈ sc.parameters, hasPrefix k csiParameterPrefix = false := by
  obtain ⟨stripped, hstrip, hparams⟩ := bind_eq_ok.mp h
  cases pure_eq_ok.mp hparams
  have hlookup := removePrefixedParameters_lookup (mapError_eq_ok.mp hstrip)
  simp only [Capacity.getCapacityRequest, hlookup]
  constructor
  · intro hsame k hk
    by_contra hreserved
    have hkey := hsame k
    rw [if_pos (Bool.not_eq_false _ |>.mp hreserved)] at hkey
    exact Option.isSome_iff_ne_none.mp (AList.lookup_isSome.mpr hk) hkey
  · intro hkeep k
    by_cases hk : k ∈ sc.parameters
    · rw [if_neg (by simp [hkeep k hk])]
    · have hnone : sc.parameters.lookup k = none := AList.lookup_eq_none.mpr hk
      split_ifs <;> simp [hnone]

/-- **`GetCapacity` is asked with the reserved keys that `CreateVolume` does not get**: for a
class with a reserved key, the parameters of the capacity controller's request and the
stripped parameters of `prepareProvision` differ at that key. -/
theorem getCapacityRequest_keeps_reserved_key (item : Capacity.WorkItem) (sc : StorageClass)
    {params : StrMap} (hstrip : removePrefixedParameters sc.parameters = .ok params) {k : String}
    (hk : k ∈ sc.parameters) (hreserved : hasPrefix k csiParameterPrefix = true) :
    (Capacity.getCapacityRequest item sc).parameters.lookup k ≠ params.lookup k := by
  rw [removePrefixedParameters_lookup hstrip k, if_pos hreserved]
  exact Option.isSome_iff_ne_none.mp (AList.lookup_isSome.mpr hk)

def fsTypeClass : StorageClass where
  name := "fast-ext4"
  provisioner := "hostpath.csi.k8s.io"
  parameters := ((∅ : StrMap).insert "type" "ssd").insert prefixedFsTypeKey "ext4"
  volumeBindingMode := some .waitForFirstConsumer
  allowedTopologies := []

def capacityConfig : Capacity.Config where
  driverName := "hostpath.csi.k8s.io"
  owner := none
  managedByID := "external-provisioner"
  ownerNamespace := "default"
  immediateBinding := false

def fsTypeItem : Capacity.WorkItem :=
  ⟨⟨0, some [⟨"topology.hostpath.csi/node", "node-1"⟩]⟩, "fast-ext4"⟩

theorem getCapacityRequest_keeps_fstype :
    Capacity.handlesClass capacityConfig fsTypeClass = true ∧
      removePrefixedParameters fsTypeClass.parameters = .ok ((∅ : StrMap).insert "type" "ssd") ∧
      prefixedFsTypeKey ∈ fsTypeClass.parameters ∧
      hasPrefix prefixedFsTypeKey csiParameterPrefix = true ∧
      (Capacity.getCapacityRequest fsTypeItem fsTypeClass).parameters.lookup prefixedFsTypeKey ≠
        ((∅ : StrMap).insert "type" "ssd").lookup prefixedFsTypeKey := by
  have hstrip : removePrefixedParameters fsTypeClass.parameters =
      .ok ((∅ : StrMap).insert "type" "ssd") := rfl
  have hk : prefixedFsTypeKey ∈ fsTypeClass.parameters := by
    simp [fsTypeClass]
  have hreserved : hasPrefix prefixedFsTypeKey csiParameterPrefix = true := by decide
  exact ⟨by decide, hstrip, hk, hreserved,
    getCapacityRequest_keeps_reserved_key fsTypeItem fsTypeClass hstrip hk hreserved⟩

end CsiProvisioner.Controller.Parameters
