import CsiProvisioner.Api.Storage
import CsiProvisioner.Api.Validation
import CsiProvisioner.Lib.GoStrings
import CsiProvisioner.Lib.GoErrors

/-!
The secrets of the provisioner's CSI calls (`pkg/controller/controller.go`).

A storage class names the secret of each CSI operation by two parameters, a name template and
a namespace template, under a current key or a deprecated one; the templates may use the
volume's name and the claim's name, namespace and annotations. `getSecretReference` resolves
them for one operation, and `prepareProvision` passes the credentials of the provisioner
secret to `CreateVolume`.

Deletion must use the same secret, although the storage class may have changed or gone by
then. `Provision` therefore records the provisioner secret in two annotations of the volume,
with empty values for none, and `handleSecretsForDeletion` reads them back; only a volume
without them has its secret resolved again from its class (`getSecretsFromSC`).

The other steps of `prepareProvision` and `Provision` (data sources, topology, parameters,
the `CreateVolume` call itself) are left out: the model starts from the volume handle that
`CreateVolume` returned, and a volume carries only the fields below.
-/

namespace CsiProvisioner.Controller.Secrets

open Go Api Validation

/-! ### Parameters and templates -/

/-- `secretParamsMap`: the parameter keys that name one operation's secret. -/
structure SecretParamsMap where
  name : String
  deprecatedSecretNameKey : String := ""
  deprecatedSecretNamespaceKey : String := ""
  secretNameKey : String
  secretNamespaceKey : String
  deriving DecidableEq, Repr

def csiParameterPrefix : String := "csi.storage.k8s.io/"

def prefixedDefaultSecretNameKey : String := csiParameterPrefix ++ "secret-name"

def prefixedDefaultSecretNamespaceKey : String := csiParameterPrefix ++ "secret-namespace"

def prefixedProvisionerSecretNameKey : String := csiParameterPrefix ++ "provisioner-secret-name"

def prefixedProvisionerSecretNamespaceKey : String :=
  csiParameterPrefix ++ "provisioner-secret-namespace"

def prefixedControllerPublishSecretNameKey : String :=
  csiParameterPrefix ++ "controller-publish-secret-name"

def prefixedControllerPublishSecretNamespaceKey : String :=
  csiParameterPrefix ++ "controller-publish-secret-namespace"

def prefixedNodeStageSecretNameKey : String := csiParameterPrefix ++ "node-stage-secret-name"

def prefixedNodeStageSecretNamespaceKey : String :=
  csiParameterPrefix ++ "node-stage-secret-namespace"

def prefixedNodePublishSecretNameKey : String := csiParameterPrefix ++ "node-publish-secret-name"

def prefixedNodePublishSecretNamespaceKey : String :=
  csiParameterPrefix ++ "node-publish-secret-namespace"

def prefixedControllerExpandSecretNameKey : String :=
  csiParameterPrefix ++ "controller-expand-secret-name"

def prefixedControllerExpandSecretNamespaceKey : String :=
  csiParameterPrefix ++ "controller-expand-secret-namespace"

def prefixedNodeExpandSecretNameKey : String := csiParameterPrefix ++ "node-expand-secret-name"

def prefixedNodeExpandSecretNamespaceKey : String :=
  csiParameterPrefix ++ "node-expand-secret-namespace"

def provisionerSecretNameKey : String := "csiProvisionerSecretName"

def provisionerSecretNamespaceKey : String := "csiProvisionerSecretNamespace"

def controllerPublishSecretNameKey : String := "csiControllerPublishSecretName"

def controllerPublishSecretNamespaceKey : String := "csiControllerPublishSecretNamespace"

def nodeStageSecretNameKey : String := "csiNodeStageSecretName"

def nodeStageSecretNamespaceKey : String := "csiNodeStageSecretNamespace"

def nodePublishSecretNameKey : String := "csiNodePublishSecretName"

def nodePublishSecretNamespaceKey : String := "csiNodePublishSecretNamespace"

def tokenPVNameKey : String := "pv.name"

def tokenPVCNameKey : String := "pvc.name"

def tokenPVCNameSpaceKey : String := "pvc.namespace"

def annDeletionProvisionerSecretRefName : String :=
  "volume.kubernetes.io/provisioner-deletion-secret-name"

def annDeletionProvisionerSecretRefNamespace : String :=
  "volume.kubernetes.io/provisioner-deletion-secret-namespace"

def defaultSecretParams : SecretParamsMap where
  name := "Default"
  secretNameKey := prefixedDefaultSecretNameKey
  secretNamespaceKey := prefixedDefaultSecretNamespaceKey

def provisionerSecretParams : SecretParamsMap where
  name := "Provisioner"
  deprecatedSecretNameKey := provisionerSecretNameKey
  deprecatedSecretNamespaceKey := provisionerSecretNamespaceKey
  secretNameKey := prefixedProvisionerSecretNameKey
  secretNamespaceKey := prefixedProvisionerSecretNamespaceKey

def nodePublishSecretParams : SecretParamsMap where
  name := "NodePublish"
  deprecatedSecretNameKey := nodePublishSecretNameKey
  deprecatedSecretNamespaceKey := nodePublishSecretNamespaceKey
  secretNameKey := prefixedNodePublishSecretNameKey
  secretNamespaceKey := prefixedNodePublishSecretNamespaceKey

def controllerPublishSecretParams : SecretParamsMap where
  name := "ControllerPublish"
  deprecatedSecretNameKey := controllerPublishSecretNameKey
  deprecatedSecretNamespaceKey := controllerPublishSecretNamespaceKey
  secretNameKey := prefixedControllerPublishSecretNameKey
  secretNamespaceKey := prefixedControllerPublishSecretNamespaceKey

def nodeStageSecretParams : SecretParamsMap where
  name := "NodeStage"
  deprecatedSecretNameKey := nodeStageSecretNameKey
  deprecatedSecretNamespaceKey := nodeStageSecretNamespaceKey
  secretNameKey := prefixedNodeStageSecretNameKey
  secretNamespaceKey := prefixedNodeStageSecretNamespaceKey

def controllerExpandSecretParams : SecretParamsMap where
  name := "ControllerExpand"
  secretNameKey := prefixedControllerExpandSecretNameKey
  secretNamespaceKey := prefixedControllerExpandSecretNamespaceKey

def nodeExpandSecretParams : SecretParamsMap where
  name := "NodeExpand"
  secretNameKey := prefixedNodeExpandSecretNameKey
  secretNamespaceKey := prefixedNodeExpandSecretNamespaceKey

/-- One `if t, ok := storageClassParams[key]; ok { template = t; num++ }`: the template found
last and the number of keys found. -/
def lookupTemplate (storageClassParams : StrMap) (key : String) (found : String × Nat) :
    String × Nat :=
  match storageClassParams.lookup key with
  | some t => (t, found.2 + 1)
  | none => found

/-- `verifyAndGetSecretNameAndNamespaceTemplate`: the name and namespace templates of one
operation's secret, both empty when the class names none. -/
def verifyAndGetSecretNameAndNamespaceTemplate (secret : SecretParamsMap)
    (storageClassParams : StrMap) : Except String (String × String) :=
  -- the current key is looked up after the deprecated one, so its template wins
  let (nameTemplate, numName) := lookupTemplate storageClassParams secret.secretNameKey
    (lookupTemplate storageClassParams secret.deprecatedSecretNameKey ("", 0))
  let (namespaceTemplate, numNamespace) := lookupTemplate storageClassParams
    secret.secretNamespaceKey
    (lookupTemplate storageClassParams secret.deprecatedSecretNamespaceKey ("", 0))
  if numName > 1 ∨ numNamespace > 1 then
    .error (secret.name ++ " secrets specified in parameters with both \"csi\" and \"" ++
      csiParameterPrefix ++ "\" keys")
  else if numName ≠ numNamespace then
    .error ("either name and namespace for " ++ secret.name ++
      " secrets specified, Both must be specified")
  else if numName = 1 then
    if nameTemplate = "" ∨ namespaceTemplate = "" then
      .error (secret.name ++
        " secrets specified in parameters but value of either namespace or name is empty")
    else .ok (nameTemplate, namespaceTemplate)
  else if numName = 0 then .ok ("", "")
  else .error "unknown error with getting secret name and namespace templates"

/-- The mapping `resolveTemplate` passes to `os.Expand`: the parameter's value, and `""` for a
missing parameter, which it records. -/
def lookupParam (params : StrMap) (k : String) : StateM (List String) String :=
  match params.lookup k with
  | some v => pure v
  | none => do
    modify (k :: ·)
    pure ""

/-- `resolveTemplate`: the template with its tokens replaced by the parameters. -/
def resolveTemplate (template : String) (params : StrMap) : Except String String :=
  let (resolved, missingParams) :=
    Id.run ((expand (lookupParam params) template.toList).run [])
  if missingParams.isEmpty then .ok (String.ofList resolved)
  else .error ("invalid tokens: " ++ quoteList (sortedSet missingParams))

example : resolveTemplate "${pv.name}-secret" ((∅ : StrMap).insert tokenPVNameKey "pvc-1") =
    .ok "pvc-1-secret" := rfl

/-- The parameters of a secret's namespace template: the volume's name and the claim's
namespace, neither of which the claim's user chooses. -/
def namespaceParams (pvName : String) (pvc : Option PersistentVolumeClaim) : StrMap :=
  let params := (∅ : StrMap).insert tokenPVNameKey pvName
  match pvc with
  | some pvc => params.insert tokenPVCNameSpaceKey pvc.ns
  | none => params

/-- The parameters of a secret's name template: also the claim's name and its annotations. -/
def nameParams (pvName : String) (pvc : Option PersistentVolumeClaim) : StrMap :=
  let params := (∅ : StrMap).insert tokenPVNameKey pvName
  match pvc with
  | some pvc =>
    -- distinct annotations give distinct keys, so the order of the loop does not matter
    pvc.annotations.entries.foldl
      (fun params a => params.insert ("pvc.annotations['" ++ a.1 ++ "']") a.2)
      ((params.insert tokenPVCNameKey pvc.name).insert tokenPVCNameSpaceKey pvc.ns)
  | none => params

/-- A block of `getSecretReference`: resolve a template and check the result with
`validate`; `what` says in the messages what kind of name it must be. -/
def resolveAndValidate (validate : String → List String) (what : String) (template : String)
    (params : StrMap) : Except String String := do
  let resolved ← (resolveTemplate template params).mapError
    fun e => "error resolving value " ++ quote template ++ ": " ++ e
  if (validate resolved).isEmpty then pure resolved
  else if template ≠ resolved then
    throw (quote template ++ " resolved to " ++ quote resolved ++ " which is not a valid " ++ what)
  else throw (quote template ++ " is not a valid " ++ what)

/-- The templates `getSecretReference` resolves: those of the operation `secretParams`, or of
the default parameters when it names none. -/
def secretTemplates (secretParams : SecretParamsMap) (storageClassParams : StrMap) :
    Except String (String × String) := do
  let (nameTemplate, namespaceTemplate) ←
    (verifyAndGetSecretNameAndNamespaceTemplate secretParams storageClassParams).mapError
      fun e => "failed to get name and namespace template from params: " ++ e
  if nameTemplate = "" ∧ namespaceTemplate = "" then
    (verifyAndGetSecretNameAndNamespaceTemplate defaultSecretParams storageClassParams).mapError
      fun e => "failed to get default name and namespace template from params: " ++ e
  else pure (nameTemplate, namespaceTemplate)

/-- `getSecretReference`: the secret of the operation `secretParams` names, or of the default
parameters when it names none; `none` when neither names one. -/
def getSecretReference (secretParams : SecretParamsMap) (storageClassParams : StrMap)
    (pvName : String) (pvc : Option PersistentVolumeClaim) :
    Except String (Option SecretReference) := do
  let (nameTemplate, namespaceTemplate) ← secretTemplates secretParams storageClassParams
  if nameTemplate = "" ∧ namespaceTemplate = "" then pure none
  else do
    let resolvedNamespace ← resolveAndValidate IsDNS1123Label "namespace name"
      namespaceTemplate (namespaceParams pvName pvc)
    let resolvedName ← resolveAndValidate IsDNS1123Subdomain "secret name"
      nameTemplate (nameParams pvName pvc)
    pure (some ⟨resolvedName, resolvedNamespace⟩)

lemma validate_of_resolveAndValidate {validate : String → List String} {what template : String}
    {params : StrMap} {resolved : String}
    (h : resolveAndValidate validate what template params = .ok resolved) :
    validate resolved = [] := by
  unfold resolveAndValidate at h
  obtain ⟨r, -, h⟩ := bind_eq_ok.mp h
  split_ifs at h with hvalid
  cases pure_eq_ok.mp h
  simpa using hvalid

/-- **A resolved secret reference has a valid name and namespace**, so neither is empty. -/
theorem getSecretReference_valid {secretParams : SecretParamsMap} {storageClassParams : StrMap}
    {pvName : String} {pvc : Option PersistentVolumeClaim} {ref : SecretReference}
    (h : getSecretReference secretParams storageClassParams pvName pvc = .ok (some ref)) :
    IsDNS1123Subdomain ref.name = [] ∧ IsDNS1123Label ref.ns = [] := by
  unfold getSecretReference at h
  obtain ⟨⟨nameTemplate, namespaceTemplate⟩, -, h⟩ := bind_eq_ok.mp h
  dsimp only at h
  split_ifs at h
  · cases pure_eq_ok.mp h
  · obtain ⟨resolvedNamespace, hns, h⟩ := bind_eq_ok.mp h
    obtain ⟨resolvedName, hname, h⟩ := bind_eq_ok.mp h
    cases pure_eq_ok.mp h
    exact ⟨validate_of_resolveAndValidate hname, validate_of_resolveAndValidate hns⟩

lemma getSecretReference_ne_empty {secretParams : SecretParamsMap} {storageClassParams : StrMap}
    {pvName : String} {pvc : Option PersistentVolumeClaim} {ref : SecretReference}
    (h : getSecretReference secretParams storageClassParams pvName pvc = .ok (some ref)) :
    ref.name ≠ "" ∧ ref.ns ≠ "" :=
  ⟨ne_empty_of_isDNS1123Subdomain (getSecretReference_valid h).1,
    ne_empty_of_isDNS1123Label (getSecretReference_valid h).2⟩

/-! ### The provisioner -/

/-- `ProvisionerCSITranslator`, the CSI migration library, which the provisioner only calls. -/
structure Translator where
  TranslateInTreeStorageClassToCSI : String → StorageClass → Except String StorageClass
  TranslateCSIPVToInTree : PersistentVolume → Except String PersistentVolume
  IsPVMigratable : PersistentVolume → Bool
  TranslateInTreePVToCSI : PersistentVolume → Except String PersistentVolume

/-- A translator that keeps the annotations of the volumes it translates. -/
structure Translator.KeepsAnnotations (t : Translator) : Prop where
  toInTree : ∀ pv pv', t.TranslateCSIPVToInTree pv = .ok pv' → pv'.annotations = pv.annotations
  toCSI : ∀ pv pv', t.TranslateInTreePVToCSI pv = .ok pv' → pv'.annotations = pv.annotations

/-- A `VolumeAttachment`: the volume it attaches, if any, and the node. -/
structure VolumeAttachment where
  persistentVolumeName : Option String
  nodeName : String
  deriving DecidableEq, Repr

/-- The parts of `csiProvisioner` and of the cluster that provisioning and deletion read. -/
structure Provisioner where
  driverName : String
  translator : Translator
  supportsMigrationFromInTreePluginName : String
  /-- `scLister.Get`. -/
  storageClasses : String → Option StorageClass
  /-- The data of the secrets on the API server. -/
  secrets : SecretReference → Option StrMap
  /-- In node-deployment mode, `VolumeIsAccessible` of a volume's node affinity for this
  node. -/
  nodeDeployment : Option (PersistentVolume → Except String Bool)
  /-- The plugin capability `CONTROLLER_SERVICE` and the controller capabilities
  `CREATE_DELETE_VOLUME`, `CREATE_DELETE_SNAPSHOT` and `CLONE_VOLUME`. -/
  controllerService : Bool
  createDeleteVolume : Bool
  createDeleteSnapshot : Bool
  cloneVolume : Bool
  /-- `vaLister.List()`, `none` without a lister. -/
  volumeAttachments : Option (List VolumeAttachment)

/-- `requiredCapabilities`. -/
structure RequiredCapabilities where
  snapshot : Bool
  clone : Bool

def checkDriverCapabilities (p : Provisioner) (rc : RequiredCapabilities) : Except String Unit :=
  if !p.controllerService then
    .error "CSI driver does not support dynamic provisioning: plugin CONTROLLER_SERVICE capability is not reported"
  else if !p.createDeleteVolume then
    .error "CSI driver does not support dynamic provisioning: controller CREATE_DELETE_VOLUME capability is not reported"
  else if rc.snapshot && !p.createDeleteSnapshot then
    .error "CSI driver does not support snapshot restore: controller CREATE_DELETE_SNAPSHOT capability is not reported"
  else if rc.clone && !p.cloneVolume then
    .error "CSI driver does not support clone operations: controller CLONE_VOLUME capability is not reported"
  else .ok ()

/-- `getCredentials`: the data of the referenced secret, nil for no reference. -/
def getCredentials (secrets : SecretReference → Option StrMap) :
    Option SecretReference → Except String (Option StrMap)
  | none => .ok none
  | some ref =>
    match secrets ref with
    | some data => .ok (some data)
    | none => .error ("error getting secret " ++ ref.name ++ " in namespace " ++ ref.ns ++
        ": secrets " ++ quote ref.name ++ " not found")

@[simp] lemma getCredentials_eq_ok_none {secrets : SecretReference → Option StrMap}
    {ref : Option SecretReference} : getCredentials secrets ref = .ok none ↔ ref = none := by
  cases ref with
  | none => simp [getCredentials]
  | some ref =>
    simp only [getCredentials, reduceCtorEq, iff_false]
    split <;> simp

/-! ### Provisioning -/

/-- The storage class `prepareProvision` works with: an in-tree class of the plugin this
provisioner migrates is translated to its CSI form, and the volume is then a migrated one. -/
def provisionStorageClass (p : Provisioner) (sc : StorageClass) :
    Except String (StorageClass × Bool) :=
  if p.supportsMigrationFromInTreePluginName ≠ "" ∧
      sc.provisioner = p.supportsMigrationFromInTreePluginName then
    match p.translator.TranslateInTreeStorageClassToCSI p.supportsMigrationFromInTreePluginName sc
    with
    | .ok storageClass => .ok (storageClass, true)
    | .error e => .error ("failed to translate storage class: " ++ e)
  else .ok (sc, false)

/-- A claim object with only a name and a namespace, as `prepareProvision` and
`getSecretsFromSC` build one to resolve the provisioner secret. -/
def claimMeta (name ns : String) : PersistentVolumeClaim where
  name := name
  ns := ns
  uid := ""
  resourceVersion := 0
  annotations := ∅
  finalizers := []
  deleting := false
  spec := ⟨none, "", none, 0, none, none⟩
  phase := .pending

/-- `deletionSecretParams`. -/
structure DeletionSecretParams where
  name : String
  ns : String
  deriving DecidableEq, Repr

/-- The deletion secret `prepareProvision` records: the provisioner secret, empty strings for
none. -/
def deletionAnnSecrets (provisionerSecretRef : Option SecretReference) : DeletionSecretParams :=
  match provisionerSecretRef with
  | some ref => ⟨ref.name, ref.ns⟩
  | none => ⟨"", ""⟩

/-- `prepareProvisionResult`, with the `CreateVolume` request reduced to its secrets. -/
structure PrepareProvisionResult where
  migratedVolume : Bool
  /-- `req.Secrets`. -/
  secrets : Option StrMap
  csiPVSource : CSIPersistentVolumeSource
  provDeletionSecrets : Option DeletionSecretParams

/-- The secret resolution of `prepareProvision`. -/
def prepareProvision (p : Provisioner) (claim : PersistentVolumeClaim) (sc : StorageClass)
    (pvName : String) : Except String PrepareProvisionResult := do
  let (sc, migratedVolume) ← provisionStorageClass p sc
  -- the provisioner secret may not use the claim's annotations
  let provisionerSecretRef ← getSecretReference provisionerSecretParams sc.parameters pvName
    (some (claimMeta claim.name claim.ns))
  let provisionerCredentials ← getCredentials p.secrets provisionerSecretRef
  let controllerPublishSecretRef ← getSecretReference controllerPublishSecretParams
    sc.parameters pvName (some claim)
  let nodeStageSecretRef ← getSecretReference nodeStageSecretParams sc.parameters pvName
    (some claim)
  let nodePublishSecretRef ← getSecretReference nodePublishSecretParams sc.parameters pvName
    (some claim)
  let controllerExpandSecretRef ← getSecretReference controllerExpandSecretParams
    sc.parameters pvName (some claim)
  let nodeExpandSecretRef ← getSecretReference nodeExpandSecretParams sc.parameters pvName
    (some claim)
  pure {
    migratedVolume := migratedVolume
    secrets := provisionerCredentials
    csiPVSource := {
      driver := p.driverName
      volumeHandle := ""
      controllerPublishSecretRef := controllerPublishSecretRef
      nodeStageSecretRef := nodeStageSecretRef
      nodePublishSecretRef := nodePublishSecretRef
      controllerExpandSecretRef := controllerExpandSecretRef
      nodeExpandSecretRef := nodeExpandSecretRef }
    provDeletionSecrets := some (deletionAnnSecrets provisionerSecretRef) }

lemma prepareProvision_spec {p : Provisioner} {claim : PersistentVolumeClaim}
    {sc : StorageClass} {pvName : String} {result : PrepareProvisionResult}
    (h : prepareProvision p claim sc pvName = .ok result) :
    ∃ sc' ref, provisionStorageClass p sc = .ok (sc', result.migratedVolume) ∧
      getSecretReference provisionerSecretParams sc'.parameters pvName
        (some (claimMeta claim.name claim.ns)) = .ok ref ∧
      getCredentials p.secrets ref = .ok result.secrets ∧
      result.provDeletionSecrets = some (deletionAnnSecrets ref) := by
  unfold prepareProvision at h
  obtain ⟨⟨sc', migratedVolume⟩, hsc, h⟩ := bind_eq_ok.mp h
  obtain ⟨ref, href, h⟩ := bind_eq_ok.mp h
  obtain ⟨credentials, hcred, h⟩ := bind_eq_ok.mp h
  -- the other operations' secrets do not touch the provisioner secret
  obtain ⟨_, -, h⟩ := bind_eq_ok.mp h
  obtain ⟨_, -, h⟩ := bind_eq_ok.mp h
  obtain ⟨_, -, h⟩ := bind_eq_ok.mp h
  obtain ⟨_, -, h⟩ := bind_eq_ok.mp h
  obtain ⟨_, -, h⟩ := bind_eq_ok.mp h
  cases pure_eq_ok.mp h
  exact ⟨sc', ref, hsc, href, hcred, rfl⟩

/-- The annotations `Provision` sets on the new volume. -/
def setDeletionSecretAnnotations (provDeletionSecrets : Option DeletionSecretParams)
    (annotations : StrMap) : StrMap :=
  match provDeletionSecrets with
  | some secrets =>
    setMetaDataAnnotationValue
      (setMetaDataAnnotationValue annotations annDeletionProvisionerSecretRefName secrets.name)
      annDeletionProvisionerSecretRefNamespace secrets.ns
  | none =>
    setMetaDataAnnotationValue
      (setMetaDataAnnotationValue annotations annDeletionProvisionerSecretRefName "")
      annDeletionProvisionerSecretRefNamespace ""

/-- `Provision` once `CreateVolume` has returned the volume `volumeId`: the new volume object,
translated back to its in-tree form for a migrated volume. -/
def Provision (p : Provisioner) (claim : PersistentVolumeClaim) (sc : StorageClass)
    (pvName volumeId : String) : Except String PersistentVolume := do
  let result ← prepareProvision p claim sc pvName
  let pv : PersistentVolume := {
    name := pvName
    annotations := setDeletionSecretAnnotations result.provDeletionSecrets ∅
    csi := some { result.csiPVSource with volumeHandle := volumeId }
    claimRef := none
    storageClassName := ""
    volumeMode := claim.spec.volumeMode
    phase := .pending }
  if result.migratedVolume then p.translator.TranslateCSIPVToInTree pv else pure pv

lemma Provision_annotations {p : Provisioner} (hkeep : p.translator.KeepsAnnotations)
    {claim : PersistentVolumeClaim} {sc : StorageClass} {pvName volumeId : String}
    {pv : PersistentVolume} (h : Provision p claim sc pvName volumeId = .ok pv) :
    ∃ result, prepareProvision p claim sc pvName = .ok result ∧
      pv.annotations = setDeletionSecretAnnotations result.provDeletionSecrets ∅ := by
  unfold Provision at h
  obtain ⟨result, hprep, h⟩ := bind_eq_ok.mp h
  refine ⟨result, hprep, ?_⟩
  split_ifs at h
  · exact hkeep.toInTree _ _ h
  · cases pure_eq_ok.mp h
    rfl

/-! ### Deletion -/

def betaStorageClassAnnotation : String := "volume.beta.kubernetes.io/storage-class"

/-- `GetPersistentVolumeClass`: the beta annotation first, then the volume's class. -/
def GetPersistentVolumeClass (volume : PersistentVolume) : String :=
  match volume.annotations.lookup betaStorageClassAnnotation with
  | some storageClass => storageClass
  | none => volume.storageClassName

/-- `getSecretsFromSC`: the provisioner secret resolved again from the volume's class as it is
now, `none` when there is no class or no claim reference. The result is the reference whose
credentials the deletion request gets. -/
def getSecretsFromSC (p : Provisioner) (volume : PersistentVolume) (migratedVolume : Bool) :
    Except String (Option SecretReference) := do
  let storageClassName := GetPersistentVolumeClass volume
  if storageClassName.length = 0 then pure none
  else
    match p.storageClasses storageClassName with
    -- without its class the volume is deleted without secrets
    | none => pure none
    | some storageClass => do
      let storageClass ←
        if migratedVolume ∧ storageClass.provisioner = p.supportsMigrationFromInTreePluginName then
          p.translator.TranslateInTreeStorageClassToCSI p.supportsMigrationFromInTreePluginName
            storageClass
        else pure storageClass
      match volume.claimRef with
      | none => pure none
      | some claimRef =>
        (getSecretReference provisionerSecretParams storageClass.parameters volume.name
          (some (claimMeta claimRef.name claimRef.ns))).mapError
          fun e => "failed to get secretreference for volume " ++ volume.name ++ ": " ++ e

/-- `handleSecretsForDeletion`: the reference whose credentials the deletion request gets,
`none` when it gets none. -/
def handleSecretsForDeletion (p : Provisioner) (volume : PersistentVolume)
    (migratedVolume : Bool) : Except String (Option SecretReference) :=
  if hasAnnotationKey volume.annotations annDeletionProvisionerSecretRefName &&
      hasAnnotationKey volume.annotations annDeletionProvisionerSecretRefNamespace then
    let annDeletionSecretName :=
      annotationValue volume.annotations annDeletionProvisionerSecretRefName
    let annDeletionSecretNamespace :=
      annotationValue volume.annotations annDeletionProvisionerSecretRefNamespace
    if annDeletionSecretName ≠ "" ∧ annDeletionSecretNamespace ≠ "" then
      .ok (some ⟨annDeletionSecretName, annDeletionSecretNamespace⟩)
    -- both empty: the volume needs no secret; one empty: none is fetched either
    else .ok none
  else getSecretsFromSC p volume migratedVolume

lemma lookup_setDeletionSecretAnnotations (secrets : DeletionSecretParams) (annotations : StrMap) :
    (setDeletionSecretAnnotations (some secrets) annotations).lookup
        annDeletionProvisionerSecretRefName = some secrets.name ∧
      (setDeletionSecretAnnotations (some secrets) annotations).lookup
        annDeletionProvisionerSecretRefNamespace = some secrets.ns := by
  have hne : annDeletionProvisionerSecretRefName ≠ annDeletionProvisionerSecretRefNamespace := by
    decide
  simp [setDeletionSecretAnnotations, setMetaDataAnnotationValue, AList.lookup_insert,
    AList.lookup_insert_ne hne]

lemma handleSecretsForDeletion_of_lookup (p : Provisioner) {volume : PersistentVolume}
    (migratedVolume : Bool) {name ns : String}
    (hname : volume.annotations.lookup annDeletionProvisionerSecretRefName = some name)
    (hns : volume.annotations.lookup annDeletionProvisionerSecretRefNamespace = some ns) :
    handleSecretsForDeletion p volume migratedVolume =
      .ok (if name ≠ "" ∧ ns ≠ "" then some ⟨name, ns⟩ else none) := by
  simp only [handleSecretsForDeletion, hasAnnotationKey, annotationValue, hname, hns,
    Option.isSome_some, Bool.and_self, if_true, Option.getD_some]
  split_ifs <;> rfl

lemma deletionAnnSecrets_roundtrip {ref : Option SecretReference}
    (hne : ∀ r, ref = some r → r.name ≠ "" ∧ r.ns ≠ "") :
    (if (deletionAnnSecrets ref).name ≠ "" ∧ (deletionAnnSecrets ref).ns ≠ "" then
      some ⟨(deletionAnnSecrets ref).name, (deletionAnnSecrets ref).ns⟩ else none) = ref := by
  cases ref with
  | none => simp [deletionAnnSecrets]
  | some r => simp [deletionAnnSecrets, hne r rfl]

/-- `canDeleteVolume`: a volume still attached to a node is not deleted. -/
def canDeleteVolume (p : Provisioner) (volume : PersistentVolume) : Except String Unit :=
  match p.volumeAttachments with
  | none => .ok ()
  | some vaList =>
    match vaList.find? (fun va => va.persistentVolumeName == some volume.name) with
    | some va => .error ("persistentvolume " ++ volume.name ++ " is still attached to node " ++
        va.nodeName)
    | none => .ok ()

/-- `DeleteVolumeRequest`. -/
structure DeleteVolumeRequest where
  volumeId : String
  secrets : Option StrMap
  deriving DecidableEq

/-- The credentials of the deletion request: an error fetching them is logged, and deletion
goes on without them. -/
def deletionCredentials (secrets : SecretReference → Option StrMap)
    (ref : Option SecretReference) : Option StrMap :=
  match getCredentials secrets ref with
  | .ok credentials => credentials
  | .error _ => none

lemma getCredentials_eq_ok {secrets : SecretReference → Option StrMap}
    {ref : Option SecretReference} {credentials : Option StrMap}
    (h : getCredentials secrets ref = .ok credentials) : credentials = ref.bind secrets := by
  cases ref with
  | none => exact (Except.ok.inj h).symm
  | some ref =>
    simp only [getCredentials] at h
    split at h
    · rename_i data hdata
      rw [← Except.ok.inj h, Option.bind_some, hdata]
    · cases h

lemma deletionCredentials_eq_bind (secrets : SecretReference → Option StrMap)
    (ref : Option SecretReference) : deletionCredentials secrets ref = ref.bind secrets := by
  unfold deletionCredentials
  split
  · rename_i credentials hcred
    exact getCredentials_eq_ok hcred
  · rename_i e he
    cases ref with
    | none => cases he
    | some ref =>
      simp only [getCredentials] at he
      split at he
      · cases he
      · rename_i hnone
        rw [Option.bind_some, hnone]

/-- The volume `Delete` works with: a migrated in-tree volume is translated to its CSI form. -/
def deletionVolume (p : Provisioner) (volume : PersistentVolume) :
    Except String (PersistentVolume × Bool) :=
  if p.translator.IsPVMigratable volume then
    (fun v => (v, true)) <$> p.translator.TranslateInTreePVToCSI volume
  else pure (volume, false)

lemma deletionVolume_annotations {p : Provisioner} (hkeep : p.translator.KeepsAnnotations)
    {volume volume' : PersistentVolume} {migratedVolume : Bool}
    (h : deletionVolume p volume = .ok (volume', migratedVolume)) :
    volume'.annotations = volume.annotations := by
  unfold deletionVolume at h
  split_ifs at h
  · obtain ⟨v, hv, heq⟩ := map_eq_ok.mp h
    cases heq
    exact hkeep.toCSI _ _ hv
  · cases pure_eq_ok.mp h
    rfl

/-- The check of `Delete` in node-deployment mode: only the volumes accessible from this node
are deleted. -/
def checkNodeDeployment (p : Provisioner) (volume : PersistentVolume) : Except String Unit :=
  match p.nodeDeployment with
  | none => pure ()
  | some volumeIsAccessible => do
    let accessible ← (volumeIsAccessible volume).mapError
      fun e => "checking volume affinity failed: " ++ e
    if accessible then pure () else throw "PV was not provisioned on this node"

/-- `Delete` up to the `DeleteVolume` call: the request it sends. -/
def Delete (p : Provisioner) (volume : PersistentVolume) : Except String DeleteVolumeRequest := do
  let (volume, migratedVolume) ← deletionVolume p volume
  let some csi := volume.csi | throw "invalid CSI PV"
  checkNodeDeployment p volume
  checkDriverCapabilities p ⟨false, false⟩
  let secretRef ← handleSecretsForDeletion p volume migratedVolume
  canDeleteVolume p volume
  pure ⟨csi.volumeHandle, deletionCredentials p.secrets secretRef⟩

lemma Delete_secrets {p : Provisioner} {volume : PersistentVolume} {req : DeleteVolumeRequest}
    (h : Delete p volume = .ok req) :
    ∃ volume' migratedVolume ref, deletionVolume p volume = .ok (volume', migratedVolume) ∧
      handleSecretsForDeletion p volume' migratedVolume = .ok ref ∧
      req.secrets = deletionCredentials p.secrets ref := by
  unfold Delete at h
  obtain ⟨⟨volume', migratedVolume⟩, hvol, h⟩ := bind_eq_ok.mp h
  refine ⟨volume', migratedVolume, ?_⟩
  dsimp only at h
  split at h
  · obtain ⟨_, -, h⟩ := bind_eq_ok.mp h
    obtain ⟨_, -, h⟩ := bind_eq_ok.mp h
    obtain ⟨ref, href, h⟩ := bind_eq_ok.mp h
    obtain ⟨_, -, h⟩ := bind_eq_ok.mp h
    cases pure_eq_ok.mp h
    exact ⟨ref, hvol, href, rfl⟩
  · exact absurd h throw_ne_ok

/-! ### Deletion uses the secret of creation -/

/-- **Deletion uses the provisioner secret of creation.** Let `Provision` create a volume, its
`prepareProvision` having resolved the provisioner secret `ref` (`none` for no secret) from
the class `sc'` it worked with. A later `Delete` of a volume whose two deletion annotations
are those of the new one, by a provisioner whose storage classes, secrets and checks may all
have changed, reads back `ref` and sends the data that the API server then holds for the
secret `ref`, none for no secret; `CreateVolume` had the data of `ref` too, and credentials
exactly when `ref` is a secret. Both translators are assumed to keep the annotations of a
volume. -/
theorem Delete_uses_provisioning_secret {p p' : Provisioner}
    (hkeep : p.translator.KeepsAnnotations) (hkeep' : p'.translator.KeepsAnnotations)
    {claim : PersistentVolumeClaim} {sc sc' : StorageClass} {pvName volumeId : String}
    {migratedVolume : Bool} {ref : Option SecretReference} {pv : PersistentVolume}
    (hprovision : Provision p claim sc pvName volumeId = .ok pv)
    (hsc : provisionStorageClass p sc = .ok (sc', migratedVolume))
    (href : getSecretReference provisionerSecretParams sc'.parameters pvName
      (some (claimMeta claim.name claim.ns)) = .ok ref)
    (volume : PersistentVolume)
    (hname : volume.annotations.lookup annDeletionProvisionerSecretRefName =
      pv.annotations.lookup annDeletionProvisionerSecretRefName)
    (hns : volume.annotations.lookup annDeletionProvisionerSecretRefNamespace =
      pv.annotations.lookup annDeletionProvisionerSecretRefNamespace) :
    (∀ volume' migrated', deletionVolume p' volume = .ok (volume', migrated') →
      handleSecretsForDeletion p' volume' migrated' = .ok ref) ∧
    (∀ req, Delete p' volume = .ok req → req.secrets = ref.bind p'.secrets) ∧
    (∀ result, prepareProvision p claim sc pvName = .ok result →
      result.secrets = ref.bind p.secrets ∧ (result.secrets = none ↔ ref = none)) := by
  obtain ⟨result, hprep, hpv⟩ := Provision_annotations hkeep hprovision
  obtain ⟨sc'', ref', hsc', href', hcred, hdel⟩ := prepareProvision_spec hprep
  -- `prepareProvision` worked with the same class and resolved the same reference
  obtain rfl : sc' = sc'' := by
    rw [hsc] at hsc'
    cases hsc'
    rfl
  obtain rfl : ref = ref' := by
    rw [href] at href'
    cases href'
    rfl
  have hne : ∀ r, ref = some r → r.name ≠ "" ∧ r.ns ≠ "" :=
    fun r hr => getSecretReference_ne_empty (hr ▸ href)
  -- the translated volume has the annotations of the new one, which give back `ref`
  have hrecorded := lookup_setDeletionSecretAnnotations (deletionAnnSecrets ref) ∅
  rw [← hdel, ← hpv] at hrecorded
  have hdecode : ∀ volume' migrated', deletionVolume p' volume = .ok (volume', migrated') →
      handleSecretsForDeletion p' volume' migrated' = .ok ref := by
    intro volume' migrated' hvolume
    have hann := deletionVolume_annotations hkeep' hvolume
    rw [handleSecretsForDeletion_of_lookup p' migrated' (hann ▸ hname ▸ hrecorded.1)
      (hann ▸ hns ▸ hrecorded.2), deletionAnnSecrets_roundtrip hne]
  refine ⟨hdecode, ?request, ?create⟩
  case request =>
    intro req hreq
    obtain ⟨volume', migrated', ref'', hvolume, hhandle, hsecrets⟩ := Delete_secrets hreq
    rw [hdecode volume' migrated' hvolume] at hhandle
    cases hhandle
    rw [hsecrets, deletionCredentials_eq_bind]
  case create =>
    intro result' hprep'
    rw [hprep] at hprep'
    cases hprep'
    refine ⟨getCredentials_eq_ok hcred, ?_⟩
    constructor
    · intro hnone
      exact getCredentials_eq_ok_none.mp (hnone ▸ hcred)
    · intro hnone
      have hfetch : getCredentials p.secrets ref = .ok none := getCredentials_eq_ok_none.mpr hnone
      rw [hcred] at hfetch
      exact Except.ok.inj hfetch

def identityTranslator : Translator where
  TranslateInTreeStorageClassToCSI _ sc := .ok sc
  TranslateCSIPVToInTree pv := .ok pv
  IsPVMigratable _ := false
  TranslateInTreePVToCSI pv := .ok pv

lemma identityTranslator_keepsAnnotations : identityTranslator.KeepsAnnotations where
  toInTree _ _ h := by cases h; rfl
  toCSI _ _ h := by cases h; rfl

def secretProvisioner : Provisioner where
  driverName := "hostpath.csi.k8s.io"
  translator := identityTranslator
  supportsMigrationFromInTreePluginName := ""
  storageClasses _ := none
  secrets _ := some ∅
  nodeDeployment := none
  controllerService := true
  createDeleteVolume := true
  createDeleteSnapshot := true
  cloneVolume := true
  volumeAttachments := none

def secretClass : StorageClass where
  name := "csi-secret"
  provisioner := "hostpath.csi.k8s.io"
  parameters := ((∅ : StrMap).insert prefixedProvisionerSecretNameKey "provisioner-secret").insert
    prefixedProvisionerSecretNamespaceKey "kube-system"
  volumeBindingMode := none
  allowedTopologies := []

def provisionedVolume : PersistentVolume where
  name := "pvc-1"
  annotations := setDeletionSecretAnnotations (some ⟨"provisioner-secret", "kube-system"⟩) ∅
  csi := some { driver := "hostpath.csi.k8s.io", volumeHandle := "vol-1" }
  claimRef := none
  storageClassName := ""
  volumeMode := none
  phase := .pending

/-- The volume as the provisioning library stored it and as it is once its claim is gone: the
library added the annotation `pv.kubernetes.io/provisioned-by`, the claim reference and the
class. -/
def releasedVolume : PersistentVolume :=
  { provisionedVolume with
    annotations := provisionedVolume.annotations.insert "pv.kubernetes.io/provisioned-by"
      "hostpath.csi.k8s.io"
    claimRef := some ⟨"PersistentVolumeClaim", "default", "data", "u-data", "v1"⟩
    storageClassName := "csi-secret"
    phase := .released }

def provisionerCredentials : StrMap := (∅ : StrMap).insert "token" "t-1"

def rotatedProvisioner : Provisioner :=
  { secretProvisioner with
    storageClasses := fun name => if name = "csi-secret" then
      some { secretClass with
        parameters := secretClass.parameters.insert prefixedProvisionerSecretNameKey
          "rotated-secret" }
      else none
    secrets := fun ref => if ref = ⟨"provisioner-secret", "kube-system"⟩ then
      some provisionerCredentials else if ref = ⟨"rotated-secret", "kube-system"⟩ then some ∅
      else none }

theorem Delete_uses_provisioning_secret_example :
    (Delete rotatedProvisioner releasedVolume).isOk = true ∧
      handleSecretsForDeletion rotatedProvisioner releasedVolume false =
        .ok (some ⟨"provisioner-secret", "kube-system"⟩) ∧
      ∀ req, Delete rotatedProvisioner releasedVolume = .ok req →
        req.secrets = some provisionerCredentials := by
  have hprovision : Provision secretProvisioner (claimMeta "data" "default") secretClass "pvc-1"
      "vol-1" = .ok provisionedVolume := rfl
  have hsc : provisionStorageClass secretProvisioner secretClass = .ok (secretClass, false) := rfl
  have href : getSecretReference provisionerSecretParams secretClass.parameters "pvc-1"
      (some (claimMeta "data" "default")) = .ok (some ⟨"provisioner-secret", "kube-system"⟩) :=
    rfl
  have hname : releasedVolume.annotations.lookup annDeletionProvisionerSecretRefName =
      provisionedVolume.annotations.lookup annDeletionProvisionerSecretRefName := by decide
  have hns : releasedVolume.annotations.lookup annDeletionProvisionerSecretRefNamespace =
      provisionedVolume.annotations.lookup annDeletionProvisionerSecretRefNamespace := by decide
  have hkeep' : rotatedProvisioner.translator.KeepsAnnotations :=
    identityTranslator_keepsAnnotations
  have h := Delete_uses_provisioning_secret identityTranslator_keepsAnnotations hkeep'
    hprovision hsc href releasedVolume hname hns
  exact ⟨by decide, h.1 releasedVolume false rfl, fun req hreq => (h.2.1 req hreq).trans rfl⟩

/-! ### The namespace of a secret

The namespace template is resolved with the volume's name and the claim's namespace only, so
a claim's user, who chooses its name and annotations, cannot steer which namespace the secret
is read from. -/

/-- The first block of `getSecretReference`: the templates, and the namespace resolved from
its template; `none` when the class names no secret. -/
def secretNamespace (secretParams : SecretParamsMap) (storageClassParams : StrMap)
    (pvName : String) (pvc : Option PersistentVolumeClaim) : Except String (Option String) := do
  let (nameTemplate, namespaceTemplate) ← secretTemplates secretParams storageClassParams
  if nameTemplate = "" ∧ namespaceTemplate = "" then pure none
  else do
    let resolvedNamespace ← resolveAndValidate IsDNS1123Label "namespace name"
      namespaceTemplate (namespaceParams pvName pvc)
    pure (some resolvedNamespace)

/-- A run of `getSecretReference` follows the outcome `o` of its first block: it fails with
the same error, finds no secret, or, unless its name template then fails, refers to a secret
in the namespace `o` resolved. -/
def FollowsNamespace (o : Except String (Option String))
    (r : Except String (Option SecretReference)) : Prop :=
  match o with
  | .error e => r = .error e
  | .ok none => r = .ok none
  | .ok (some ns) => ∀ ref, r = .ok ref → ∃ ref', ref = some ref' ∧ ref'.ns = ns

lemma getSecretReference_follows (secretParams : SecretParamsMap) (storageClassParams : StrMap)
    (pvName : String) (pvc : Option PersistentVolumeClaim) :
    FollowsNamespace (secretNamespace secretParams storageClassParams pvName pvc)
      (getSecretReference secretParams storageClassParams pvName pvc) := by
  unfold secretNamespace getSecretReference
  cases htemplates : secretTemplates secretParams storageClassParams with
  | error e => rfl
  | ok templates =>
    obtain ⟨nameTemplate, namespaceTemplate⟩ := templates
    by_cases hnone : nameTemplate = "" ∧ namespaceTemplate = ""
    · simp only [bind, Except.bind, if_pos hnone]
      rfl
    · simp only [bind, Except.bind, if_neg hnone]
      -- the namespace is resolved first, from the same template and parameters
      cases hns : resolveAndValidate IsDNS1123Label "namespace name" namespaceTemplate
          (namespaceParams pvName pvc) with
      | error e => rfl
      | ok ns =>
        intro ref href
        obtain ⟨name, -, hpure⟩ := bind_eq_ok.mp href
        exact ⟨⟨name, ns⟩, (pure_eq_ok.mp hpure).symm, rfl⟩

lemma namespaceParams_congr (pvName : String) {pvc pvc' : PersistentVolumeClaim}
    (hns : pvc.ns = pvc'.ns) : namespaceParams pvName (some pvc) = namespaceParams pvName (some pvc') := by
  simp only [namespaceParams, hns]

lemma secretNamespace_congr (secretParams : SecretParamsMap) (storageClassParams : StrMap)
    (pvName : String) {pvc pvc' : PersistentVolumeClaim} (hns : pvc.ns = pvc'.ns) :
    secretNamespace secretParams storageClassParams pvName (some pvc) =
      secretNamespace secretParams storageClassParams pvName (some pvc') := by
  simp only [secretNamespace, namespaceParams_congr pvName hns]

/-- **A claim's user cannot steer the namespace of a secret.** Two claims of one namespace,
with any names and annotations, reach the same outcome in the first block of
`getSecretReference`: both fail there with the same error, both find no secret, or both
resolve the same namespace, which every secret reference they return has. Only the name of
the secret may depend on the claim's name and annotations. -/
theorem getSecretReference_namespace_independent (secretParams : SecretParamsMap)
    (storageClassParams : StrMap) (pvName : String) {pvc₁ pvc₂ : PersistentVolumeClaim}
    (hns : pvc₁.ns = pvc₂.ns) :
    secretNamespace secretParams storageClassParams pvName (some pvc₁) =
        secretNamespace secretParams storageClassParams pvName (some pvc₂) ∧
      FollowsNamespace (secretNamespace secretParams storageClassParams pvName (some pvc₁))
        (getSecretReference secretParams storageClassParams pvName (some pvc₁)) ∧
      FollowsNamespace (secretNamespace secretParams storageClassParams pvName (some pvc₁))
        (getSecretReference secretParams storageClassParams pvName (some pvc₂)) := by
  have hsame := secretNamespace_congr secretParams storageClassParams pvName hns
  refine ⟨hsame, getSecretReference_follows _ _ _ _, ?_⟩
  rw [hsame]
  exact getSecretReference_follows _ _ _ _

def perClaimSecretParams : StrMap :=
  ((∅ : StrMap).insert prefixedProvisionerSecretNameKey "${pvc.name}-secret").insert
    prefixedProvisionerSecretNamespaceKey "${pvc.namespace}"

theorem getSecretReference_namespace_independent_two_claims :
    (claimMeta "alpha" "team").ns = (claimMeta "beta" "team").ns ∧
      secretNamespace provisionerSecretParams perClaimSecretParams "pv-1"
          (some (claimMeta "alpha" "team")) =
        secretNamespace provisionerSecretParams perClaimSecretParams "pv-1"
          (some (claimMeta "beta" "team")) ∧
      FollowsNamespace (secretNamespace provisionerSecretParams perClaimSecretParams "pv-1"
          (some (claimMeta "alpha" "team")))
        (getSecretReference provisionerSecretParams perClaimSecretParams "pv-1"
          (some (claimMeta "alpha" "team"))) ∧
      FollowsNamespace (secretNamespace provisionerSecretParams perClaimSecretParams "pv-1"
          (some (claimMeta "alpha" "team")))
        (getSecretReference provisionerSecretParams perClaimSecretParams "pv-1"
          (some (claimMeta "beta" "team"))) :=
  ⟨rfl, getSecretReference_namespace_independent provisionerSecretParams perClaimSecretParams
    "pv-1" rfl⟩

end CsiProvisioner.Controller.Secrets
