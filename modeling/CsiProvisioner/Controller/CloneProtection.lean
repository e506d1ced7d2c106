import CsiProvisioner.Controller.DataSource
import CsiProvisioner.Lib.Transition

/-!
Cloning protection (`pkg/controller/clone_controller.go` and the clone steps of
`prepareProvision`).

When the provisioner clones a claim, it first puts the finalizer `pvcCloneFinalizer` on the
source claim, which it finds through the normalised data source of the new claim, possibly
in another namespace. The cloning protection controller takes the finalizer off a source
claim that is being deleted once no clone of it is pending; it looks for clones among the
claims of the source's own namespace, through their `spec.dataSource`.

The claims, volumes and reference grants are the API server's; here the listers of the two
controllers are up to date with it, and an `Update` goes through. The controller with its
informer cache, its queue and requests that fail is in `CloningProtection.lean`, where a sync
from the cache decides as `syncClaimHandler` does here on the claims of the cache.
-/

namespace CsiProvisioner.Controller.CloneProtection

open Go Api Transition

/-- `Update` of a claim: the stored claim with the same namespace and name is replaced. -/
def updateClaim (claims : List PersistentVolumeClaim) (claim : PersistentVolumeClaim) :
    List PersistentVolumeClaim :=
  claims.map fun c => if c.ns == claim.ns && c.name == claim.name then claim else c

/-- `setCloneFinalizer`: the source claim, read from the lister, gets the finalizer unless it
has it already. -/
def setCloneFinalizer (claims : List PersistentVolumeClaim) (dataSource : ObjectReference) :
    Except String (List PersistentVolumeClaim) :=
  match findClaim claims dataSource.ns dataSource.name with
  | none => .error ("persistentvolumeclaim \"" ++ dataSource.name ++ "\" not found")
  | some claim =>
    if !checkFinalizer claim.finalizers pvcCloneFinalizer then
      .ok (updateClaim claims { claim with finalizers := claim.finalizers ++ [pvcCloneFinalizer] })
    else .ok claims

/-- A claim that `syncClaim` counts as a clone of `claim` in progress. -/
def cloningFrom (claim pvc : PersistentVolumeClaim) : Bool :=
  match pvc.spec.dataSource with
  | none => false
  | some ds => ds.kind == pvcKind && ds.name == claim.name && pvc.phase == .pending

/-- `syncClaim`: keeps the finalizer while some claim of the namespace is a clone in
progress, and otherwise writes the claim back without it. -/
def syncClaim (claims : List PersistentVolumeClaim) (claim : PersistentVolumeClaim) :
    Except String (List PersistentVolumeClaim) :=
  if !checkFinalizer claim.finalizers pvcCloneFinalizer then .ok claims
  else
    match (claimsIn claims claim.ns).find? (cloningFrom claim) with
    | some pvc => .error ("PVC '" ++ pvc.name ++ "' is in 'Pending' state, cloning in progress")
    | none =>
      .ok (updateClaim claims
        { claim with finalizers := claim.finalizers.filter (· != pvcCloneFinalizer) })

/-- `syncClaimHandler`: the claim of a queued key, read from the lister; a claim that is
gone needs nothing. -/
def syncClaimHandler (claims : List PersistentVolumeClaim) (ns name : String) :
    Except String (List PersistentVolumeClaim) :=
  match findClaim claims ns name with
  | none => .ok claims
  | some claim => syncClaim claims claim

/-- The clone steps of `prepareProvision` for `claim` with storage class `sc`: the data
source is normalised, a claim used as a source is checked by `getPVCSource`, and then the
source gets the finalizer. The checks of `prepareProvision` between these steps (driver
capabilities, selector, volume name, file system type, access modes) can only stop
provisioning before the finalizer is set; they are not modelled. -/
def prepareProvisionClone (crossNamespaceVolumeDataSource : Bool)
    (grants : String → List ReferenceGrant) (claims : List PersistentVolumeClaim)
    (volumes : List PersistentVolume) (claim : PersistentVolumeClaim) (sc : StorageClass) :
    Except String (List PersistentVolumeClaim) := do
  let some ds ← dataSource crossNamespaceVolumeDataSource grants claim | return claims
  if ds.name == "" then throw ("the PVC source not found for PVC " ++ claim.name)
  if ds.kind != pvcKind then return claims
  let _ ← getPVCSource claims volumes claim sc ds
  setCloneFinalizer claims ds

/-- The API objects that the two controllers read and write. -/
structure World where
  claims : List PersistentVolumeClaim
  volumes : List PersistentVolume
  referenceGrants : List ReferenceGrant
  deriving DecidableEq

def World.grants (w : World) (ns : String) : List ReferenceGrant :=
  w.referenceGrants.filter (·.ns == ns)

/-- What happens to the claims: the provisioner prepares to provision a claim, the cloning
protection controller syncs a claim that is being deleted, or a user or another controller
creates, binds, or deletes a claim, or removes a deleted claim that has no finalizer left. -/
inductive Event
  | provision (ns name : String) (sc : StorageClass)
  | sync (ns name : String)
  | create (claim : PersistentVolumeClaim)
  | bind (ns name : String)
  | delete (ns name : String)
  | remove (ns name : String)

/-- One step. A call that returns an error changes nothing; the controllers retry later. -/
def step (crossNamespaceVolumeDataSource : Bool) (w : World) : Event → Option World
  | .provision ns name sc => do
    let claim ← findClaim w.claims ns name
    match prepareProvisionClone crossNamespaceVolumeDataSource w.grants w.claims w.volumes
        claim sc with
    | .ok claims => some { w with claims := claims }
    | .error _ => some w
  | .sync ns name => do
    -- only claims with a deletion timestamp are queued
    let claim ← findClaim w.claims ns name
    if !claim.deleting then none
    match syncClaimHandler w.claims ns name with
    | .ok claims => some { w with claims := claims }
    | .error _ => some w
  | .create claim =>
    if (findClaim w.claims claim.ns claim.name).isSome then none
    else some { w with claims := w.claims ++ [claim] }
  | .bind ns name => do
    let claim ← findClaim w.claims ns name
    some { w with claims := updateClaim w.claims { claim with phase := .bound } }
  | .delete ns name => do
    let claim ← findClaim w.claims ns name
    some { w with claims := updateClaim w.claims { claim with deleting := true } }
  | .remove ns name => do
    let claim ← findClaim w.claims ns name
    if !claim.deleting || !claim.finalizers.isEmpty then none
    some { w with claims := w.claims.filter fun c => !(c.ns == ns && c.name == name) }

/-- `P` is a clone of `S` as the provisioner sees it: the normalised data source of `P` is a
claim with the namespace and name of `S`. -/
def designates (crossNamespaceVolumeDataSource : Bool) (w : World)
    (P S : PersistentVolumeClaim) : Bool :=
  match dataSource crossNamespaceVolumeDataSource w.grants P with
  | .ok (some ds) => ds.kind == pvcKind && ds.ns == S.ns && ds.name == S.name
  | _ => false

/-! ### A clone from another namespace

A claim `copy` in namespace `dst` clones the claim `data` of namespace `src` through a
`dataSourceRef`, which a reference grant in `src` allows. -/

def sourceClaim : PersistentVolumeClaim where
  name := "data"
  ns := "src"
  uid := "u-data"
  resourceVersion := 1
  annotations := ∅
  finalizers := []
  deleting := false
  phase := .bound
  spec := ⟨some "csi", "pv-data", none, 1, none, none⟩

def sourceVolume : PersistentVolume where
  name := "pv-data"
  annotations := ∅
  csi := some { driver := "hostpath.csi.k8s.io", volumeHandle := "vol-1" }
  claimRef := some ⟨pvcKind, "src", "data", "u-data", "v1"⟩
  storageClassName := "csi"
  volumeMode := none
  phase := .bound

/-- The clone, still pending, with only a `dataSourceRef` (the API server fills in
`dataSource` only for a reference without a namespace). -/
def crossNamespaceClone : PersistentVolumeClaim where
  name := "copy"
  ns := "dst"
  uid := "u-copy"
  resourceVersion := 1
  annotations := ∅
  finalizers := []
  deleting := false
  phase := .pending
  spec := ⟨some "csi", "", none, 1, none, some ⟨none, pvcKind, "data", some "src"⟩⟩

def cloneGrant : ReferenceGrant :=
  ⟨"src", [⟨"", pvcKind, "dst"⟩], [⟨"", pvcKind, none⟩]⟩

def cloneStorageClass : StorageClass := ⟨"csi", "hostpath.csi.k8s.io", ∅, none, []⟩

def cloneWorld : World := ⟨[sourceClaim, crossNamespaceClone], [sourceVolume], [cloneGrant]⟩

def protectedSource : PersistentVolumeClaim :=
  { sourceClaim with finalizers := [pvcCloneFinalizer], deleting := true }

/-- **The finalizer is lifted while a clone from another namespace is pending.** With the
`CrossNamespaceVolumeDataSource` gate on, the provisioner protects `data` for the clone
`copy`, a user deletes `data`, and `syncClaim` then takes the finalizer off although `copy`
is pending and designates `data`: it looks for clones only in `data`'s namespace and only
through `spec.dataSource`. -/
theorem syncClaim_lifts_protection_of_pending_cross_namespace_clone :
    ∃ w, Reachable (step true) (· = cloneWorld) w ∧
      ∃ S ∈ w.claims, ∃ P ∈ w.claims,
        checkFinalizer S.finalizers pvcCloneFinalizer = true ∧ S.deleting = true ∧
        designates true w P S = true ∧ P.phase = .pending ∧
        ∃ w', step true w (.sync S.ns S.name) = some w' ∧ P ∈ w'.claims ∧
          ∀ S' ∈ w'.claims, S'.ns = S.ns → S'.name = S.name →
            checkFinalizer S'.finalizers pvcCloneFinalizer = false := by
  let w : World := ⟨[protectedSource, crossNamespaceClone], [sourceVolume], [cloneGrant]⟩
  have hrun : run (step true) cloneWorld
      [.provision "dst" "copy" cloneStorageClass, .delete "src" "data"] = some w := rfl
  have hinit : Reachable (step true) (· = cloneWorld) cloneWorld := Reachable.of_init rfl
  refine ⟨w, hinit.of_run hrun, protectedSource,
    by simp [w], crossNamespaceClone, by simp [w], by decide, rfl, by decide, rfl, ?_⟩
  refine ⟨⟨[{ protectedSource with finalizers := [] }, crossNamespaceClone], [sourceVolume],
    [cloneGrant]⟩, rfl, by simp, ?_⟩
  intro S' hS' hns _
  simp only [List.mem_cons, List.not_mem_nil, or_false] at hS'
  rcases hS' with rfl | rfl
  · rfl
  · simp [crossNamespaceClone, protectedSource, sourceClaim] at hns

end CsiProvisioner.Controller.CloneProtection
