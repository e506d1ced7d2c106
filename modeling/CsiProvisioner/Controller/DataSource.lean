import CsiProvisioner.Api.Storage

/-!
How the provisioner reads the data source of a claim (`pkg/controller/controller.go` and
`util.go`).

`dataSource` normalises `spec.dataSource` and `spec.dataSourceRef` into one object
reference. A reference into another namespace needs the `CrossNamespaceVolumeDataSource`
feature gate and a `ReferenceGrant` in the source's namespace that lets claims of the
claim's namespace refer to the source: `IsGranted` decides that. `getPVCSource` checks that a
claim used as a clone source is bound to a CSI volume of the same driver.
-/

namespace CsiProvisioner.Controller

open Go Api

def pvcKind : String := "PersistentVolumeClaim"

def snapshotKind : String := "VolumeSnapshot"

def pvcCloneFinalizer : String := "provisioner.storage.kubernetes.io/cloning-protection"

/-- A `from` entry of a `ReferenceGrant`: who may refer. -/
structure ReferenceGrantFrom where
  group : String
  kind : String
  ns : String
  deriving DecidableEq, Repr

/-- A `to` entry of a `ReferenceGrant`: what may be referred to; no name means any name. -/
structure ReferenceGrantTo where
  group : String
  kind : String
  name : Option String
  deriving DecidableEq, Repr

structure ReferenceGrant where
  ns : String
  from' : List ReferenceGrantFrom
  to' : List ReferenceGrantTo
  deriving DecidableEq, Repr

/-- The `from` loop of `IsGranted`: claims of the claim's namespace may refer. -/
def validFrom (claim : PersistentVolumeClaim) (grant : ReferenceGrant) : Bool :=
  grant.from'.any fun f => f.group == "" && f.kind == pvcKind && f.ns == claim.ns

/-- Whether the `to` loop of `IsGranted` skips an entry: its group or its kind is not the data
source's, a nil `apiGroup` matching only the empty group. -/
def skipsTo (ref : TypedObjectReference) (t : ReferenceGrantTo) : Bool :=
  (match ref.apiGroup with
    | some g => t.group != g
    | none => 0 < t.group.length) || t.kind != ref.kind

/-- Whether an entry of the `to` loop names the data source: no name, the empty name, or the
source's. -/
def namesSource (ref : TypedObjectReference) (t : ReferenceGrantTo) : Bool :=
  match t.name with
  | none => true
  | some n => n == "" || n == ref.name

/-- Whether a grant has a `to` entry that the `to` loop of `IsGranted` does not skip and that
names the source or no name: what that loop looks for. -/
def grantsTo (ref : TypedObjectReference) (grant : ReferenceGrant) : Bool :=
  grant.to'.any fun t => !skipsTo ref t && namesSource ref t

/-- The `to` loop of `IsGranted` for one grant, with the flag `allowed` as the loop over the
grants hands it in: a skipped entry is passed over, and the first other entry that names the
source sets the flag and ends the loop. -/
def toLoop (ref : TypedObjectReference) (allowed : Bool) : List ReferenceGrantTo → Bool
  | [] => allowed
  | t :: tos =>
    if skipsTo ref t then toLoop ref allowed tos
    else if namesSource ref t then true
    else toLoop ref allowed tos

/-- The loop of `IsGranted` over the grants, with the flag `allowed` that it carries from one
grant to the next: `true` when it returns from inside the loop. A grant of another namespace,
or whose `from` entries do not let the claim refer, is skipped. -/
def grantLoop (claim : PersistentVolumeClaim) (ref : TypedObjectReference) (refNamespace : String)
    (allowed : Bool) : List ReferenceGrant → Bool
  | [] => false
  | grant :: grants =>
    if grant.ns != refNamespace then grantLoop claim ref refNamespace allowed grants
    else if !validFrom claim grant then grantLoop claim ref refNamespace allowed grants
    else
      let allowed := toLoop ref allowed grant.to'
      if allowed then true else grantLoop claim ref refNamespace allowed grants

/-- `IsGranted`, for a claim whose `dataSourceRef` is `ref` with namespace `refNamespace`
(its only caller dereferences both only in that case). -/
def IsGranted (claim : PersistentVolumeClaim) (ref : TypedObjectReference) (refNamespace : String)
    (referenceGrants : List ReferenceGrant) : Except String Bool :=
  if grantLoop claim ref refNamespace false referenceGrants then .ok true
  else
    .error ("accessing " ++ refNamespace ++ "/" ++ ref.name ++ " of " ++ ref.kind ++
      " dataSource from " ++ claim.ns ++ "/" ++ claim.name ++ " isn't allowed")

/-- `csiProvisioner.dataSource`: the normalised data source of a claim, `none` for a claim
without one. `grants ns` is what the reference grant lister lists in namespace `ns`. -/
def dataSource (crossNamespaceVolumeDataSource : Bool) (grants : String → List ReferenceGrant)
    (claim : PersistentVolumeClaim) : Except String (Option ObjectReference) :=
  match claim.spec.dataSource, claim.spec.dataSourceRef with
  | some ds, _ =>
    .ok (some ⟨ds.kind, claim.ns, ds.name, "", ds.apiGroup.getD ""⟩)
  | none, some ref =>
    if !crossNamespaceVolumeDataSource && (match ref.ns with
        | some ns => 0 < ns.length
        | none => false) then
      .error "dataSourceRef namespace specified but the CrossNamespaceVolumeDataSource feature is disabled"
    else
      let ds : ObjectReference :=
        ⟨ref.kind, ref.ns.getD claim.ns, ref.name, "", ref.apiGroup.getD ""⟩
      -- in case of a cross namespace data source, check that it accepts references
      if claim.ns != ds.ns then
        match IsGranted claim ref ds.ns (grants ds.ns) with
        | .ok true => .ok (some ds)
        | .ok false => .ok none
        | .error e => .error e
      else .ok (some ds)
  | none, none => .ok none

/-! ### What `IsGranted` decides -/

/-- A reference grant lets the claim refer to its data source: it lies in the source's
namespace, has a `from` entry for claims of the claim's namespace, and a `to` entry of the
source's group (the empty group for a nil `apiGroup`) and kind whose name is nil, empty or
the source's. -/
def Grants (claim : PersistentVolumeClaim) (ref : TypedObjectReference) (refNamespace : String)
    (grant : ReferenceGrant) : Prop :=
  grant.ns = refNamespace ∧
    (∃ f ∈ grant.from', f.group = "" ∧ f.kind = pvcKind ∧ f.ns = claim.ns) ∧
    ∃ t ∈ grant.to', t.group = ref.apiGroup.getD "" ∧ t.kind = ref.kind ∧
      (t.name = none ∨ t.name = some "" ∨ t.name = some ref.name)

lemma validFrom_iff {claim : PersistentVolumeClaim} {grant : ReferenceGrant} :
    validFrom claim grant = true ↔
      ∃ f ∈ grant.from', f.group = "" ∧ f.kind = pvcKind ∧ f.ns = claim.ns := by
  simp [validFrom, List.any_eq_true, and_assoc]

lemma skipsTo_eq_false_iff {ref : TypedObjectReference} {t : ReferenceGrantTo} :
    skipsTo ref t = false ↔ t.group = ref.apiGroup.getD "" ∧ t.kind = ref.kind := by
  unfold skipsTo
  cases ref.apiGroup with
  | some g => simp
  | none => simp [String.length_eq_zero_iff]

lemma namesSource_iff {ref : TypedObjectReference} {t : ReferenceGrantTo} :
    namesSource ref t = true ↔ t.name = none ∨ t.name = some "" ∨ t.name = some ref.name := by
  unfold namesSource
  cases t.name with
  | none => simp
  | some n => simp

lemma grantsTo_iff {ref : TypedObjectReference} {grant : ReferenceGrant} :
    grantsTo ref grant = true ↔
      ∃ t ∈ grant.to', t.group = ref.apiGroup.getD "" ∧ t.kind = ref.kind ∧
        (t.name = none ∨ t.name = some "" ∨ t.name = some ref.name) := by
  simp only [grantsTo, List.any_eq_true, Bool.and_eq_true, Bool.not_eq_true',
    skipsTo_eq_false_iff, namesSource_iff, and_assoc]

/-- **From a clear flag, the `to` loop finds an entry that names the data source**, as
`grantsTo` searches for one. -/
lemma toLoop_false (ref : TypedObjectReference) (grant : ReferenceGrant) :
    toLoop ref false grant.to' = grantsTo ref grant := by
  rw [grantsTo]
  induction grant.to' with
  | nil => rfl
  | cons t tos ih =>
    -- the entry is skipped, ends the loop, or passes the flag on
    cases hskip : skipsTo ref t <;> cases hname : namesSource ref t <;>
      simp [toLoop, hskip, hname, ih]

lemma grantLoop_false (claim : PersistentVolumeClaim) (ref : TypedObjectReference)
    (refNamespace : String) (grants : List ReferenceGrant) :
    grantLoop claim ref refNamespace false grants =
      grants.any fun g => g.ns == refNamespace && validFrom claim g && grantsTo ref g := by
  induction grants with
  | nil => rfl
  | cons grant grants ih =>
    simp only [grantLoop, toLoop_false, List.any_cons]
    split_ifs with hns hfrom hto <;> simp_all

lemma grantLoop_iff {claim : PersistentVolumeClaim} {ref : TypedObjectReference}
    {refNamespace : String} {grants : List ReferenceGrant} :
    grantLoop claim ref refNamespace false grants = true ↔
      ∃ grant ∈ grants, Grants claim ref refNamespace grant := by
  simp only [grantLoop_false, List.any_eq_true, Bool.and_eq_true, beq_iff_eq, validFrom_iff,
    grantsTo_iff, Grants, and_assoc]

/-- **`IsGranted` allows exactly what some grant allows**: it returns `true` without error
exactly when one grant lies in the data source's namespace, lets claims of the claim's
namespace refer and names the source, and otherwise fails with an error. A grant whose
`from` entry fits but no `to` entry does leaves the flag clear, so a later grant must pass
both checks itself. -/
theorem IsGranted_exact (claim : PersistentVolumeClaim) (ref : TypedObjectReference)
    (refNamespace : String) (referenceGrants : List ReferenceGrant) :
    (IsGranted claim ref refNamespace referenceGrants = .ok true ↔
      ∃ grant ∈ referenceGrants, Grants claim ref refNamespace grant) ∧
    ((¬ ∃ grant ∈ referenceGrants, Grants claim ref refNamespace grant) →
      IsGranted claim ref refNamespace referenceGrants =
        .error ("accessing " ++ refNamespace ++ "/" ++ ref.name ++ " of " ++ ref.kind ++
          " dataSource from " ++ claim.ns ++ "/" ++ claim.name ++ " isn't allowed")) := by
  rw [← grantLoop_iff]
  constructor
  · unfold IsGranted
    split_ifs with h <;> simp [h]
  · intro h
    unfold IsGranted
    rw [if_neg h]

def checkFinalizer (finalizers : List String) (finalizer : String) : Bool :=
  finalizers.any (· == finalizer)

/-- The claim lister: the claim with a namespace and a name. -/
def findClaim (claims : List PersistentVolumeClaim) (ns name : String) :
    Option PersistentVolumeClaim :=
  claims.find? fun c => c.ns == ns && c.name == name

/-- The claims a lister lists in a namespace. -/
def claimsIn (claims : List PersistentVolumeClaim) (ns : String) : List PersistentVolumeClaim :=
  claims.filter fun c => c.ns == ns

/-- `getPVCSource`: the checks that the claim `dataSource` names, the clone source of
`claim`, is bound to a CSI volume of the storage class's driver with a compatible volume
mode; the result is the handle of that volume. -/
def getPVCSource (claims : List PersistentVolumeClaim) (volumes : List PersistentVolume)
    (claim : PersistentVolumeClaim) (sc : StorageClass) (dataSource : ObjectReference) :
    Except String String := do
  let some sourcePVC := findClaim claims dataSource.ns dataSource.name
    | .error ("error getting PVC " ++ dataSource.name ++ " (namespace \"" ++ claim.ns ++
        "\") from api server: persistentvolumeclaim \"" ++ dataSource.name ++ "\" not found")
  if sourcePVC.phase != .bound then
    .error ("the PVC DataSource " ++ dataSource.name ++ " must have a status of Bound.  Got " ++
      reprStr sourcePVC.phase)
  if sourcePVC.deleting then
    .error ("the PVC DataSource " ++ dataSource.name ++ " is currently being deleted")
  if sourcePVC.spec.storageClassName.isNone then
    .error ("the source PVC (" ++ sourcePVC.name ++ ") storageclass cannot be empty")
  if claim.spec.storageClassName.isNone then
    .error ("the requested PVC (" ++ claim.name ++ ") storageclass cannot be empty")
  if claim.spec.storageRequest < sourcePVC.spec.storageRequest then
    .error ("error, new PVC request must be greater than or equal in size to the specified " ++
      "PVC data source, requested " ++ toString claim.spec.storageRequest ++ " but source is " ++
      toString sourcePVC.spec.storageRequest)
  if sourcePVC.spec.volumeName == "" then
    .error ("volume name is empty in source PVC " ++ sourcePVC.name)
  let invalid := "claim in dataSource not bound or invalid"
  let some sourcePV := volumes.find? (·.name == sourcePVC.spec.volumeName) | throw invalid
  let some csi := sourcePV.csi | throw invalid
  if csi.driver != sc.provisioner then throw invalid
  let some claimRef := sourcePV.claimRef | throw invalid
  if claimRef.uid != sourcePVC.uid || claimRef.ns != sourcePVC.ns ||
      claimRef.name != sourcePVC.name then throw invalid
  if sourcePV.phase != .bound then throw invalid
  if claim.spec.volumeMode.isNone || claim.spec.volumeMode == some .filesystem then
    if sourcePV.volumeMode.isSome && sourcePV.volumeMode != some .filesystem then
      .error "the source PVC and destination PVCs must have the same volume mode for cloning.  Source is Block, but new PVC requested Filesystem"
  if claim.spec.volumeMode == some .block then
    if sourcePV.volumeMode != some .block then
      .error "the source PVC and destination PVCs must have the same volume mode for cloning.  Source is Filesystem, but new PVC requested Block"
  .ok csi.volumeHandle

end CsiProvisioner.Controller
