import CsiProvisioner.Api.Csi
import CsiProvisioner.Controller.Secrets

/-!
What `Provision` does once `prepareProvision` has built the `CreateVolume` request
(`pkg/controller/controller.go`): the call, the checks of the volume it returns, the cleanup
of a volume that does not fit, and the translation of a migrated volume back to its in-tree
form.

With its error `Provision` returns a provisioning state that tells the provisioning library
what to do next: `ProvisioningInBackground` when the volume may exist or be in the making, so
that the library calls `Provision` again until it succeeds or ends; `ProvisioningFinished`
when the operation has ended; `ProvisioningReschedule` to give up for now and let the
scheduler pick another node. Giving up on a volume that may exist orphans it on the storage
backend. By the CSI spec a `CreateVolume` that failed with any gRPC code other than
`Canceled`, `DeadlineExceeded`, `Unavailable` and `Aborted` is not in progress.

The calls' outcomes are arguments: the answer of `CreateVolume`, of each `DeleteVolume` of
the cleanup, and of the translation through the provisioner's translator, which returns a nil
volume with every error. The volume object carries the fields of the model of
`Secrets.Provision`, from which it is built the same way.
-/

namespace CsiProvisioner.Controller.Provisioning

open Go Api

/-- `controller.ProvisioningState`. -/
inductive ProvisioningState
  | noChange
  | inBackground
  | finished
  | reschedule
  deriving DecidableEq, Repr

/-- `checkError`: the state after `CreateVolume` failed with `err`. -/
def checkError (err : CallError) (mayReschedule : Bool) : ProvisioningState :=
  match err with
  -- the call failed before it reached the driver, and an earlier call may still be running
  | .other _ => .inBackground
  | .status code _ =>
    match code with
    | .resourceExhausted => if mayReschedule then .reschedule else .finished
    | .canceled | .deadlineExceeded | .unavailable | .aborted => .inBackground
    | _ => .finished

def deleteVolumeRetryCount : Nat := 5

/-- The loop of `cleanupVolume` from the call number `i`, with `n` calls left and the error
`err` of the call before. -/
def cleanupLoop (deleteVolume : Nat → Except CallError Unit) (err : Except CallError Unit)
    (i : Nat) : Nat → Except CallError Unit
  | 0 => err
  | n + 1 =>
    match deleteVolume i with
    | .ok () => .ok ()
    | .error e => cleanupLoop deleteVolume (.error e) (i + 1) n

/-- `cleanupVolume`: `DeleteVolume` until a call succeeds, at most `deleteVolumeRetryCount`
times; `deleteVolume i` is the outcome of the call number `i`. -/
def cleanupVolume (deleteVolume : Nat → Except CallError Unit) : Except CallError Unit :=
  cleanupLoop deleteVolume (.ok ()) 0 deleteVolumeRetryCount

/-- `Delete` with its `DeleteVolume` call, whose outcome is `deleteVolume`: a nil volume is
refused, and a volume goes through the checks and the request of `Secrets.Delete`. -/
def Delete (p : Secrets.Provisioner) (volume : Option PersistentVolume)
    (deleteVolume : Except CallError Unit) : Except String Unit :=
  match volume with
  | none => .error "invalid CSI PV"
  | some volume => do
    let _ ← Secrets.Delete p volume
    deleteVolume.mapError CallError.message

/-- What `Provision` reads of its options and its configuration after `prepareProvision`. -/
structure ProvisionOptions where
  claim : PersistentVolumeClaim
  /-- Whether a node was selected for the claim (`options.SelectedNode != nil`). -/
  selectedNode : Bool
  supportsTopology : Bool
  /-- The feature gate `CrossNamespaceVolumeDataSource`. -/
  crossNamespaceVolumeDataSource : Bool

/-- The claim asks for a volume filled from a data source: `dataSource`, or with the feature
gate a `dataSourceRef` into a named namespace. -/
def ProvisionOptions.hasDataSource (options : ProvisionOptions) : Bool :=
  options.claim.spec.dataSource.isSome ||
    (options.crossNamespaceVolumeDataSource && match options.claim.spec.dataSourceRef with
      | some ref => match ref.ns with
        | some ns => 0 < ns.length
        | none => false
      | none => false)

/-- What `Provision` returns: the volume object, the state, and the error. -/
structure ProvisionResult where
  pv : Option PersistentVolume
  state : ProvisioningState
  err : Option String

/-- The volume object `Provision` builds for the volume `volumeId`, as `Secrets.Provision`
builds it. -/
def newVolume (options : ProvisionOptions) (pvName volumeId : String)
    (result : Secrets.PrepareProvisionResult) : PersistentVolume where
  name := pvName
  annotations := Secrets.setDeletionSecretAnnotations result.provDeletionSecrets ∅
  csi := some { result.csiPVSource with volumeHandle := volumeId }
  claimRef := none
  storageClassName := ""
  volumeMode := options.claim.spec.volumeMode
  phase := .pending

/-- An error after `CreateVolume` succeeded: the volume is deleted again, and the operation
stays in the background whether or not that worked, so that the library retries. -/
def cleanupAfter (pvName : String) (err cleanup : String)
    (deleteVolume : Nat → Except CallError Unit) : ProvisionResult :=
  match cleanupVolume deleteVolume with
  | .ok () => ⟨none, .inBackground, some err⟩
  | .error e => ⟨none, .inBackground,
      some (err ++ ". " ++ cleanup ++ " of volume " ++ pvName ++ " failed, volume is orphaned: " ++
        e.message)⟩

/-- `Provision` from the `CreateVolume` call on, for the request `prepareProvision` built with
`result`, the volume name `pvName` and the requested size `requiredBytes`. -/
def Provision (p : Secrets.Provisioner) (options : ProvisionOptions) (pvName : String)
    (requiredBytes : Int) (result : Secrets.PrepareProvisionResult)
    (createVolume : Except CallError Volume) (deleteVolume : Nat → Except CallError Unit)
    (deleteProvisioned : Except CallError Unit) : ProvisionResult :=
  match createVolume with
  | .error err =>
    let mayReschedule := options.supportsTopology && options.selectedNode
    ⟨none, checkError err mayReschedule, some err.message⟩
  | .ok volume =>
    -- a capacity of zero means that the driver does not know it
    if volume.capacityBytes ≠ 0 ∧ volume.capacityBytes < requiredBytes then
      cleanupAfter pvName ("created volume capacity " ++ toString volume.capacityBytes ++
        " less than requested capacity " ++ toString requiredBytes) "Cleanup" deleteVolume
    else if options.hasDataSource && volume.contentSource.isNone then
      cleanupAfter pvName "volume content source missing" "cleanup" deleteVolume
    else
      let pv := newVolume options pvName volume.volumeId result
      if result.migratedVolume then
        match p.translator.TranslateCSIPVToInTree pv with
        | .ok pv => ⟨some pv, .finished, none⟩
        | .error e =>
          -- the translation gave back a nil volume, which `Delete` gets
          match Delete p none deleteProvisioned with
          | .ok () => ⟨none, .finished, some e⟩
          | .error _ => ⟨none, .inBackground, some e⟩
      else ⟨some pv, .finished, none⟩

/-! ### The state of a failed provisioning -/

/-- `CreateVolume` failed with a gRPC status whose code the CSI spec defines as not in
progress. -/
def FailedNotInProgress (createVolume : Except CallError Volume) : Prop :=
  ∃ code message, createVolume = .error (.status code message) ∧
    code ∉ [Code.canceled, .deadlineExceeded, .unavailable, .aborted]

lemma checkError_eq_inBackground_iff (err : CallError) (mayReschedule : Bool) :
    checkError err mayReschedule = .inBackground ↔ ¬ FailedNotInProgress (.error err) := by
  cases err with
  | other message => simp [checkError, FailedNotInProgress]
  | status code message =>
    cases code <;> cases mayReschedule <;> simp [checkError, FailedNotInProgress]

lemma checkError_ne_noChange (err : CallError) (mayReschedule : Bool) :
    checkError err mayReschedule ≠ .noChange := by
  cases err with
  | other message => simp [checkError]
  | status code message => cases code <;> cases mayReschedule <;> simp [checkError]

lemma checkError_eq_reschedule {err : CallError} {mayReschedule : Bool}
    (h : checkError err mayReschedule = .reschedule) :
    (∃ message, err = .status .resourceExhausted message) ∧ mayReschedule = true := by
  cases err with
  | other message => simp [checkError] at h
  | status code message =>
    cases code <;> cases mayReschedule <;> simp_all [checkError]

lemma cleanupAfter_state (pvName err cleanup : String)
    (deleteVolume : Nat → Except CallError Unit) :
    (cleanupAfter pvName err cleanup deleteVolume).state = .inBackground := by
  unfold cleanupAfter
  split <;> rfl

lemma Delete_none (p : Secrets.Provisioner) (deleteVolume : Except CallError Unit) :
    Delete p none deleteVolume = .error "invalid CSI PV" := rfl

section

variable (p : Secrets.Provisioner) (options : ProvisionOptions) (pvName : String)
  (requiredBytes : Int) (result : Secrets.PrepareProvisionResult)
  (deleteVolume : Nat → Except CallError Unit) (deleteProvisioned : Except CallError Unit)

lemma Provision_ok_cases (volume : Volume) :
    (Provision p options pvName requiredBytes result (.ok volume) deleteVolume
        deleteProvisioned).state = .inBackground ∨
      ((Provision p options pvName requiredBytes result (.ok volume) deleteVolume
          deleteProvisioned).state = .finished ∧
        (Provision p options pvName requiredBytes result (.ok volume) deleteVolume
          deleteProvisioned).err = none) := by
  simp only [Provision, Delete_none]
  split_ifs with hcapacity hsource hmigrated
  · exact .inl (cleanupAfter_state _ _ _ _)
  · exact .inl (cleanupAfter_state _ _ _ _)
  · split
    · exact .inr ⟨rfl, rfl⟩
    · exact .inl rfl
  · exact .inr ⟨rfl, rfl⟩

lemma Provision_ok_state {volume : Volume}
    (herr : (Provision p options pvName requiredBytes result (.ok volume) deleteVolume
      deleteProvisioned).err.isSome) :
    (Provision p options pvName requiredBytes result (.ok volume) deleteVolume
      deleteProvisioned).state = .inBackground := by
  rcases Provision_ok_cases p options pvName requiredBytes result deleteVolume deleteProvisioned
    volume with hbackground | ⟨-, hnone⟩
  · exact hbackground
  · rw [hnone] at herr
    cases herr

lemma Provision_error_state (createVolume : Except CallError Volume)
    (herr : (Provision p options pvName requiredBytes result createVolume deleteVolume
      deleteProvisioned).err.isSome) :
    ((Provision p options pvName requiredBytes result createVolume deleteVolume
        deleteProvisioned).state = .inBackground ↔ ¬ FailedNotInProgress createVolume) ∧
      (Provision p options pvName requiredBytes result createVolume deleteVolume
        deleteProvisioned).state ≠ .noChange := by
  cases createVolume with
  | error err =>
    exact ⟨checkError_eq_inBackground_iff _ _, checkError_ne_noChange _ _⟩
  | ok volume =>
    have hstate := Provision_ok_state p options pvName requiredBytes result deleteVolume
      deleteProvisioned herr
    refine ⟨iff_of_true hstate ?_, by rw [hstate]; decide⟩
    rintro ⟨code, message, hcreate, -⟩
    cases hcreate

/-- **`Provision` never gives up on a volume that may exist.** When it returns an error with
the state `ProvisioningFinished` or `ProvisioningReschedule`, `CreateVolume` failed with a
gRPC code of an operation not in progress; every other error after the call keeps the
operation in the background; and it reschedules only after `ResourceExhausted`, with topology
support and a selected node. Giving up after deleting the created volume again, the other
way the code allows, never happens: the only such exit follows a failed translation, whose
nil volume `Delete` refuses. -/
theorem Provision_gives_up_only_when_not_in_progress
    (createVolume : Except CallError Volume) :
    ((Provision p options pvName requiredBytes result createVolume deleteVolume
        deleteProvisioned).err.isSome →
      ((Provision p options pvName requiredBytes result createVolume deleteVolume
          deleteProvisioned).state = .finished ∨
        (Provision p options pvName requiredBytes result createVolume deleteVolume
          deleteProvisioned).state = .reschedule) →
      FailedNotInProgress createVolume) ∧
    ((Provision p options pvName requiredBytes result createVolume deleteVolume
        deleteProvisioned).err.isSome →
      ¬ FailedNotInProgress createVolume →
      (Provision p options pvName requiredBytes result createVolume deleteVolume
        deleteProvisioned).state = .inBackground) ∧
    ((Provision p options pvName requiredBytes result createVolume deleteVolume
        deleteProvisioned).state = .reschedule →
      ∃ message, createVolume = .error (.status .resourceExhausted message) ∧
        options.supportsTopology = true ∧ options.selectedNode = true) := by
  refine ⟨fun herr hgiveup => ?_, fun herr hnot => ?_, fun hreschedule => ?_⟩
  · have hstate := Provision_error_state p options pvName requiredBytes result deleteVolume
      deleteProvisioned createVolume herr
    by_contra hnot
    rcases hgiveup with hfinished | hrescheduled
    · rw [hstate.1.mpr hnot] at hfinished
      cases hfinished
    · rw [hstate.1.mpr hnot] at hrescheduled
      cases hrescheduled
  · exact (Provision_error_state p options pvName requiredBytes result deleteVolume
      deleteProvisioned createVolume herr).1.mpr hnot
  · cases createVolume with
    | error err =>
      -- only `checkError` reschedules
      obtain ⟨⟨message, rfl⟩, hmay⟩ := checkError_eq_reschedule hreschedule
      exact ⟨message, rfl, Bool.and_eq_true_iff.mp hmay⟩
    | ok volume =>
      -- a volume was created: every exit finishes or errs in the background
      exfalso
      rcases Provision_ok_cases p options pvName requiredBytes result deleteVolume
        deleteProvisioned volume with hbackground | ⟨hfinished, -⟩
      · rw [hbackground] at hreschedule
        cases hreschedule
      · rw [hfinished] at hreschedule
        cases hreschedule

end

end CsiProvisioner.Controller.Provisioning
