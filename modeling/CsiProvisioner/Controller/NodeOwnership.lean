import CsiProvisioner.Controller.DataSource
import CsiProvisioner.Lib.Transition

/-!
Which provisioner instance provisions a claim with immediate binding, in node-deployment
mode (`checkNode` and `becomeOwner` in `pkg/controller/controller.go`).

Every instance runs on its own node. An instance provisions a claim whose selected-node
annotation names its node. For a claim without that annotation, an instance waits a
moment, reads the claim from its informer cache, gives up if another node is selected by
then, and otherwise writes the copy it read back with its own node selected. The API server
accepts the write only if the copy carries the resource version of the stored claim; on a
conflict the instance tries again.

The model has one claim on the server, a cache per instance that holds some version the
server had, and the phase of each instance's `becomeOwner`. Other writers may store any new
version of the claim that leaves the annotation as it was or clears it.
-/

namespace CsiProvisioner.Controller.NodeOwnership

open Go Api Transition

def annSelectedNode : String := "volume.kubernetes.io/selected-node"

/-- The node a claim's annotation selects, `""` for none. -/
def selectedNode (claim : PersistentVolumeClaim) : String :=
  annotationValue claim.annotations annSelectedNode

/-- What `checkNode` decides: provision, leave the claim, or try to become its owner (after
which it reports that it does not provision now). -/
inductive NodeCheck
  | provision
  | skip
  | becomeOwner
  deriving DecidableEq, Repr

/-- `checkNode` of an instance on node `nodeName` (`none` outside node-deployment mode) for a
claim with storage class `sc`. `immediateBinding` is the instance's option; `compatible` says
whether `GenerateAccessibilityRequirements` succeeds for the class's allowed topologies on
this node. -/
def checkNode (nodeName : Option String) (immediateBinding : Bool) (compatible : Bool)
    (claim : PersistentVolumeClaim) (sc : StorageClass) : NodeCheck :=
  match nodeName with
  | none => .provision
  | some node =>
    if selectedNode claim = "" then
      if sc.volumeBindingMode != some .immediate || !immediateBinding then .skip
      else if !sc.allowedTopologies.isEmpty && !compatible then .skip
      else .becomeOwner
    else if selectedNode claim = node then .provision
    else .skip

lemma checkNode_provision_iff {node : String} {immediateBinding compatible : Bool}
    {claim : PersistentVolumeClaim} {sc : StorageClass} :
    checkNode (some node) immediateBinding compatible claim sc = .provision ↔
      selectedNode claim = node ∧ node ≠ "" := by
  unfold checkNode
  by_cases hsel : selectedNode claim = ""
  · -- without a selected node the instance at most tries to become the owner
    simp only [hsel, if_true]
    split_ifs <;> simp
  · by_cases hnode : selectedNode claim = node
    · subst hnode
      simp [hsel]
    · simp [hsel, hnode]

/-- **One owner per version.** Instances on distinct nodes never both provision the same
version of a claim. -/
theorem checkNode_provision_unique {ι : Type*} (nodeName : ι → String)
    (hinj : Function.Injective nodeName) (immediateBinding compatible : ι → Bool)
    (claim : PersistentVolumeClaim) (sc : StorageClass) {i j : ι}
    (hi : checkNode (some (nodeName i)) (immediateBinding i) (compatible i) claim sc = .provision)
    (hj : checkNode (some (nodeName j)) (immediateBinding j) (compatible j) claim sc = .provision) :
    i = j :=
  hinj ((checkNode_provision_iff.mp hi).1.symm.trans (checkNode_provision_iff.mp hj).1)

/-- How far an instance's `becomeOwner` got: not running, waiting for the delay or for a
check that stops it early, or past the check with the copy `current` it read. -/
inductive OwnerPhase
  | idle
  | waiting (claim : PersistentVolumeClaim)
  | checked (claim current : PersistentVolumeClaim)
  deriving DecidableEq

/-- The check of `becomeOwner` on the cached copy `current`: an error when the claim was
replaced, `some true` when another node is selected, `some false` when the instance may go
on. -/
def ownerCheck (nodeName : String) (claim current : PersistentVolumeClaim) :
    Except String Bool :=
  if claim.uid != current.uid then .error "PVC was replaced"
  else if selectedNode current != "" && selectedNode current != nodeName then .ok true
  else .ok false

/-- The copy `becomeOwner` writes: the checked copy with this node selected. -/
def withSelectedNode (current : PersistentVolumeClaim) (nodeName : String) :
    PersistentVolumeClaim :=
  { current with
    annotations := setMetaDataAnnotationValue current.annotations annSelectedNode nodeName }

@[simp] lemma selectedNode_withSelectedNode (current : PersistentVolumeClaim) (nodeName : String) :
    selectedNode (withSelectedNode current nodeName) = nodeName := by
  simp [selectedNode, withSelectedNode]

/-- What the `Update` of `becomeOwner` does on the server. -/
inductive UpdateOutcome
  | skipped
  | failed
  | conflict
  | succeeded
  deriving DecidableEq, Repr

/-- The tail of `becomeOwner` after the check: the capacity check (`some false` when there is
not enough capacity, `none` when it failed, which does not stop the attempt), the sanity
check that this node is not selected already, and the `Update`, a compare-and-swap on the
resource version; `apiError` is an error other than a conflict. -/
def becomeOwnerUpdate (server current : PersistentVolumeClaim) (nodeName : String)
    (hasCapacity : Option Bool) (apiError : Bool) : UpdateOutcome :=
  if hasCapacity = some false then .skipped
  else if selectedNode current = nodeName then .skipped
  else if apiError then .failed
  else if current.resourceVersion = server.resourceVersion then .succeeded
  else .conflict

/-- The server's claim and, per instance, its cache and the phase of its `becomeOwner`. -/
structure World (ι : Type*) where
  server : PersistentVolumeClaim
  cache : ι → PersistentVolumeClaim
  phase : ι → OwnerPhase

/-- What can happen: an instance's `checkNode` starts `becomeOwner` on its cached claim (with
the instance's option, the claim's class and the topology answer), the instance checks (at
the end of the delay, or earlier on a tick), times out, or runs the tail with a given
capacity answer and API result; an informer brings an instance's cache up to date; another
writer stores a version. -/
inductive Event (ι : Type*)
  | start (i : ι) (immediateBinding compatible : Bool) (sc : StorageClass)
  | check (i : ι) (delayOver : Bool)
  | timeout (i : ι)
  | update (i : ι) (hasCapacity : Option Bool) (apiError : Bool)
  | sync (i : ι)
  | write (claim : PersistentVolumeClaim)

variable {ι : Type*} (nodeName : ι → String)

/-- The start: every cache holds the stored claim, no instance runs `becomeOwner`. -/
def Initial (w : World ι) : Prop := (∀ i, w.cache i = w.server) ∧ ∀ i, w.phase i = .idle

/-! ### The copies an instance holds -/

/-- A copy of the claim that is older than the stored one, or the stored one itself: a
version the server had. -/
def Fresh (server c : PersistentVolumeClaim) : Prop :=
  c.resourceVersion ≤ server.resourceVersion ∧
    (c.resourceVersion = server.resourceVersion → c = server)

lemma fresh_self (c : PersistentVolumeClaim) : Fresh c c := ⟨le_rfl, fun _ => rfl⟩

lemma Fresh.of_lt {s s' c : PersistentVolumeClaim} (h : Fresh s c)
    (hlt : s.resourceVersion < s'.resourceVersion) : Fresh s' c :=
  ⟨le_of_lt (lt_of_le_of_lt h.1 hlt), fun heq => absurd (heq ▸ h.1) (not_le.mpr hlt)⟩

/-- The invariant: every cache and every checked copy is fresh, and a checked copy passed the
check of its instance. -/
structure Inv (w : World ι) : Prop where
  cache : ∀ i, Fresh w.server (w.cache i)
  checked : ∀ i claim current, w.phase i = .checked claim current →
    Fresh w.server current ∧ ownerCheck (nodeName i) claim current = .ok false

lemma inv_initial {w : World ι} (h : Initial w) : Inv nodeName w where
  cache i := h.1 i ▸ fresh_self _
  checked i claim current hp := by simp [h.2 i] at hp

lemma Inv.setServer {w : World ι} (hinv : Inv nodeName w) {server : PersistentVolumeClaim}
    (hlt : w.server.resourceVersion < server.resourceVersion) :
    Inv nodeName { w with server := server } where
  cache i := (hinv.cache i).of_lt hlt
  checked i claim current hp :=
    ⟨(hinv.checked i claim current hp).1.of_lt hlt, (hinv.checked i claim current hp).2⟩

lemma current_eq_server {w : World ι} (hinv : Inv nodeName w) {i : ι}
    {claim current : PersistentVolumeClaim} (hphase : w.phase i = .checked claim current)
    {hasCapacity : Option Bool} {apiError : Bool}
    (hsucc : becomeOwnerUpdate w.server current (nodeName i) hasCapacity apiError = .succeeded) :
    current = w.server := by
  have hrv : current.resourceVersion = w.server.resourceVersion := by
    unfold becomeOwnerUpdate at hsucc
    split_ifs at hsucc with _ _ _ hrv
    exact hrv
  exact (hinv.checked i claim current hphase).1.2 hrv

/-- **An instance writes its node only into a claim without a selected node.** -/
theorem selectedNode_empty_of_update_succeeded {w : World ι} (hinv : Inv nodeName w) {i : ι}
    {claim current : PersistentVolumeClaim} (hphase : w.phase i = .checked claim current)
    {hasCapacity : Option Bool} {apiError : Bool}
    (hsucc : becomeOwnerUpdate w.server current (nodeName i) hasCapacity apiError = .succeeded) :
    selectedNode w.server = "" := by
  have hcheck := (hinv.checked i claim current hphase).2
  have hsanity : selectedNode current ≠ nodeName i := by
    intro heq
    simp [becomeOwnerUpdate, heq] at hsucc
  -- the check let the instance go on, so no other node was selected in its copy
  have hcases : selectedNode current = "" ∨ selectedNode current = nodeName i := by
    unfold ownerCheck at hcheck
    split_ifs at hcheck with _ hother
    · cases hcheck
    · by_cases hempty : selectedNode current = ""
      · exact .inl hempty
      · exact .inr (by simpa [hempty] using hother)
  rw [← current_eq_server nodeName hinv hphase hsucc]
  exact hcases.resolve_right hsanity

section Steps

variable [DecidableEq ι]

def step (w : World ι) : Event ι → Option (World ι)
  | .start i immediateBinding compatible sc =>
    if w.phase i = .idle ∧
        checkNode (some (nodeName i)) immediateBinding compatible (w.cache i) sc = .becomeOwner then
      some { w with phase := Function.update w.phase i (.waiting (w.cache i)) }
    else none
  | .check i delayOver =>
    match w.phase i with
    | .waiting claim =>
      match ownerCheck (nodeName i) claim (w.cache i) with
      | .error _ => some { w with phase := Function.update w.phase i .idle }
      | .ok true => some { w with phase := Function.update w.phase i .idle }
      | .ok false =>
        if delayOver then
          some { w with phase := Function.update w.phase i (.checked claim (w.cache i)) }
        else some w
    | _ => none
  | .timeout i =>
    match w.phase i with
    | .waiting _ => some { w with phase := Function.update w.phase i .idle }
    | _ => none
  | .update i hasCapacity apiError =>
    match w.phase i with
    | .checked claim current =>
      match becomeOwnerUpdate w.server current (nodeName i) hasCapacity apiError with
      | .succeeded =>
        some { w with
          server := { withSelectedNode current (nodeName i) with
            resourceVersion := w.server.resourceVersion + 1 }
          phase := Function.update w.phase i .idle }
      -- on a conflict `becomeOwner` calls itself again
      | .conflict => some { w with phase := Function.update w.phase i (.waiting claim) }
      | _ => some { w with phase := Function.update w.phase i .idle }
    | _ => none
  | .sync i => some { w with cache := Function.update w.cache i w.server }
  | .write claim =>
    if selectedNode claim = "" ∨ selectedNode claim = selectedNode w.server then
      some { w with server := { claim with resourceVersion := w.server.resourceVersion + 1 } }
    else none


lemma Inv.setPhase {w : World ι} (hinv : Inv nodeName w) {i : ι} {p : OwnerPhase}
    (hp : ∀ claim current, p = .checked claim current →
      Fresh w.server current ∧ ownerCheck (nodeName i) claim current = .ok false) :
    Inv nodeName { w with phase := Function.update w.phase i p } where
  cache := hinv.cache
  checked j claim current hj := by
    by_cases hji : j = i
    · subst hji
      exact hp claim current (by simpa using hj)
    · exact hinv.checked j claim current (by simpa [hji] using hj)

lemma Inv.sync {w : World ι} (hinv : Inv nodeName w) (i : ι) :
    Inv nodeName { w with cache := Function.update w.cache i w.server } where
  cache j := by
    by_cases hji : j = i
    · subst hji
      simpa using fresh_self w.server
    · simpa [hji] using hinv.cache j
  checked := hinv.checked

lemma step_cases {w w' : World ι} {e : Event ι} (h : step nodeName w e = some w') :
    (∃ i p, (∀ claim current, p ≠ .checked claim current) ∧
      w' = { w with phase := Function.update w.phase i p }) ∨
    (∃ i claim, ownerCheck (nodeName i) claim (w.cache i) = .ok false ∧
      w' = { w with phase := Function.update w.phase i (.checked claim (w.cache i)) }) ∨
    w' = w ∨
    (∃ i hasCapacity apiError claim current, w.phase i = .checked claim current ∧
      becomeOwnerUpdate w.server current (nodeName i) hasCapacity apiError = .succeeded ∧
      w' = { w with
        server := { withSelectedNode current (nodeName i) with
          resourceVersion := w.server.resourceVersion + 1 }
        phase := Function.update w.phase i .idle }) ∨
    (∃ i, w' = { w with cache := Function.update w.cache i w.server }) ∨
    (∃ claim, (selectedNode claim = "" ∨ selectedNode claim = selectedNode w.server) ∧
      w' = { w with server := { claim with resourceVersion := w.server.resourceVersion + 1 } }) := by
  -- the phases an instance leaves a step in, other than a checked copy
  have idle : ∀ claim current, OwnerPhase.idle ≠ .checked claim current := by simp
  have waiting : ∀ c claim current, OwnerPhase.waiting c ≠ .checked claim current := by simp
  cases e with
  | start i immediateBinding compatible sc =>
    simp only [step] at h
    split_ifs at h
    cases h
    exact .inl ⟨i, _, waiting _, rfl⟩
  | check i delayOver =>
    simp only [step] at h
    split at h
    · rename_i claim _
      split at h
      · cases h; exact .inl ⟨i, _, idle, rfl⟩
      · cases h; exact .inl ⟨i, _, idle, rfl⟩
      · rename_i hok
        split_ifs at h
        · cases h; exact .inr (.inl ⟨i, claim, hok, rfl⟩)
        · cases h; exact .inr (.inr (.inl rfl))
    · cases h
  | timeout i =>
    simp only [step] at h
    split at h
    · cases h; exact .inl ⟨i, _, idle, rfl⟩
    · cases h
  | update i hasCapacity apiError =>
    simp only [step] at h
    split at h
    · rename_i claim current hphase
      split at h
      · rename_i hsucc
        cases h
        exact .inr (.inr (.inr (.inl ⟨i, hasCapacity, apiError, claim, current, hphase, hsucc,
          rfl⟩)))
      · cases h; exact .inl ⟨i, _, waiting claim, rfl⟩
      all_goals (cases h; exact .inl ⟨i, _, idle, rfl⟩)
    · cases h
  | sync i =>
    cases h
    exact .inr (.inr (.inr (.inr (.inl ⟨i, rfl⟩))))
  | write claim =>
    simp only [step] at h
    split_ifs at h with hguard
    cases h
    exact .inr (.inr (.inr (.inr (.inr ⟨claim, hguard, rfl⟩))))

lemma inv_step {w w' : World ι} {e : Event ι} (hinv : Inv nodeName w)
    (h : step nodeName w e = some w') : Inv nodeName w' := by
  rcases step_cases nodeName h with ⟨i, p, hp, rfl⟩ | ⟨i, claim, hok, rfl⟩ | rfl |
      ⟨i, _, _, _, _, _, _, rfl⟩ | ⟨i, rfl⟩ | ⟨claim, _, rfl⟩
  · exact hinv.setPhase nodeName (fun claim current hc => absurd hc (hp claim current))
  · exact hinv.setPhase nodeName (fun _ _ hc => by cases hc; exact ⟨hinv.cache i, hok⟩)
  · exact hinv
  · have hidle : Inv nodeName { w with phase := Function.update w.phase i .idle } :=
      hinv.setPhase nodeName (fun _ _ hc => by cases hc)
    exact hidle.setServer nodeName (Nat.lt_succ_self _)
  · exact hinv.sync nodeName i
  · exact hinv.setServer nodeName (Nat.lt_succ_self _)

theorem inv_of_reachable {w : World ι} (hw : Reachable (step nodeName) Initial w) :
    Inv nodeName w :=
  hw.invariant (fun _ h0 => inv_initial nodeName h0) (fun _ _ _ hinv hs => inv_step nodeName hinv hs)

lemma step_update {w w' : World ι} {i : ι} {hasCapacity : Option Bool} {apiError : Bool}
    (h : step nodeName w (.update i hasCapacity apiError) = some w') :
    ∃ claim current, w.phase i = .checked claim current ∧
      (w'.server = w.server ∨
        becomeOwnerUpdate w.server current (nodeName i) hasCapacity apiError = .succeeded ∧
        w'.server = { withSelectedNode current (nodeName i) with
          resourceVersion := w.server.resourceVersion + 1 }) := by
  simp only [step] at h
  split at h
  · rename_i claim current hphase
    refine ⟨claim, current, hphase, ?_⟩
    split at h
    · rename_i hsucc
      cases h
      exact .inr ⟨hsucc, rfl⟩
    all_goals (cases h; exact .inl rfl)
  · cases h

/-- **Node-local ownership never steals a claim.** In every reachable world: an instance's
`Update` changes the stored claim only when no node is selected in it, and then selects the
instance's node; no step replaces a selected node by another (it stays, or another writer
clears it); and, for instances on distinct nodes, `checkNode` lets at most one of them
provision any version of the claim. -/
theorem becomeOwner_never_steals (hinj : Function.Injective nodeName) {w : World ι}
    (hw : Reachable (step nodeName) Initial w) :
    (∀ i hasCapacity apiError w', step nodeName w (.update i hasCapacity apiError) = some w' →
      w'.server ≠ w.server → selectedNode w.server = "" ∧ selectedNode w'.server = nodeName i) ∧
    (∀ e w', step nodeName w e = some w' → selectedNode w.server ≠ "" →
      selectedNode w'.server = selectedNode w.server ∨ selectedNode w'.server = "") ∧
    (∀ (immediateBinding compatible : ι → Bool) sc claim i j,
      checkNode (some (nodeName i)) (immediateBinding i) (compatible i) claim sc = .provision →
      checkNode (some (nodeName j)) (immediateBinding j) (compatible j) claim sc = .provision →
      i = j) := by
  have hinv := inv_of_reachable nodeName hw
  refine ⟨?update, ?stays, ?unique⟩
  case update =>
    intro i hasCapacity apiError w' h hchanged
    obtain ⟨claim, current, hphase, hsame | ⟨hsucc, hserver⟩⟩ := step_update nodeName h
    · exact absurd hsame hchanged
    · refine ⟨selectedNode_empty_of_update_succeeded nodeName hinv hphase hsucc, ?_⟩
      rw [hserver]
      exact selectedNode_withSelectedNode current (nodeName i)
  case stays =>
    intro e w' h hsel
    rcases step_cases nodeName h with ⟨_, _, _, rfl⟩ | ⟨_, _, _, rfl⟩ | rfl |
        ⟨i, _, _, _, _, hphase, hsucc, _⟩ | ⟨_, rfl⟩ | ⟨claim, hguard, rfl⟩
    all_goals try exact .inl rfl
    · exact absurd (selectedNode_empty_of_update_succeeded nodeName hinv hphase hsucc) hsel
    · -- another writer keeps the selected node or clears it
      exact hguard.symm
  case unique =>
    intro immediateBinding compatible sc claim i j hi hj
    exact checkNode_provision_unique nodeName hinj immediateBinding compatible claim sc hi hj

def twoNodes : Bool → String
  | true => "node-a"
  | false => "node-b"

def unownedClaim : PersistentVolumeClaim where
  name := "data"
  ns := "default"
  uid := "u-data"
  resourceVersion := 1
  annotations := ∅
  finalizers := []
  deleting := false
  phase := .pending
  spec := ⟨some "csi-local", "", none, 1, none, none⟩

def twoNodeWorld : World Bool where
  server := unownedClaim
  cache _ := unownedClaim
  phase _ := .idle

def immediateClass : StorageClass := ⟨"csi-local", "local.csi.k8s.io", ∅, some .immediate, []⟩

/-- Both instances start `becomeOwner` on their caches and pass its check. -/
def bothCheckedTrace : List (Event Bool) :=
  [.start true true true immediateClass, .start false true true immediateClass,
    .check true true, .check false true]

theorem becomeOwner_never_steals_two_nodes :
    Function.Injective twoNodes ∧ ∃ w w' w'', Reachable (step twoNodes) Initial w ∧
      w.phase true = .checked unownedClaim unownedClaim ∧
      step twoNodes w (.update true (some true) false) = some w' ∧ w'.server ≠ w.server ∧
      selectedNode w.server = "" ∧ selectedNode w'.server = "node-a" ∧
      w'.phase false = .checked unownedClaim unownedClaim ∧
      step twoNodes w' (.update false (some true) false) = some w'' ∧
      (selectedNode w''.server = "node-a" ∨ selectedNode w''.server = "") := by
  have hinj : Function.Injective twoNodes := by
    intro a b h
    cases a <;> cases b <;> first | rfl | exact absurd h (by decide)
  have hrun : (run (step twoNodes) twoNodeWorld bothCheckedTrace).map (fun w =>
      match step twoNodes w (.update true (some true) false) with
      | some w' =>
        match step twoNodes w' (.update false (some true) false) with
        | some _ => decide (w.phase true = .checked unownedClaim unownedClaim ∧
            w'.phase false = .checked unownedClaim unownedClaim ∧ w'.server ≠ w.server)
        | none => false
      | none => false) = some true := by
    decide
  obtain ⟨w, hreach, hw⟩ :=
    exists_reachable_of_run (show Initial twoNodeWorld from ⟨fun _ => rfl, fun _ => rfl⟩) hrun
  split at hw
  · rename_i w' hs
    split at hw
    · rename_i w'' hs'
      obtain ⟨hphase, hphase', hchanged⟩ := of_decide_eq_true hw
      -- the first `Update` changes the claim, and the second finds `node-a` selected
      obtain ⟨hempty, hselected⟩ := (becomeOwner_never_steals twoNodes hinj hreach).1 true
        (some true) false w' hs hchanged
      have hstays := (becomeOwner_never_steals twoNodes hinj (hreach.step hs)).2.1
        (.update false (some true) false) w'' hs' (by rw [hselected]; decide)
      rw [hselected] at hstays
      exact ⟨hinj, w, w', w'', hreach, hphase, hs, hchanged, hempty, hselected, hphase', hs',
        hstays⟩
    · cases hw
  · cases hw

end Steps

end CsiProvisioner.Controller.NodeOwnership
