import CsiProvisioner.Api.Storage
import CsiProvisioner.Lib.GoErrors
import CsiProvisioner.Lib.GoStrings

/-!
Walking up the ownership chain of an object (`pkg/owner/owner.go`), to find the object that
owns the CSIStorageCapacity objects of a provisioner: its pod, the pod's StatefulSet, or the
Deployment of the pod's ReplicaSet, as many levels up as configured.

The client answers a `Get` by namespace, name, group, version and kind with the object or an
error. `lookupRecursive` fetches the object and follows its first owner reference that is
marked as the controller: it parses the reference's API version into group and version and
fetches the owner by its name and kind, in the same namespace. The last level of a walk of at
least one level does not fetch the owner: it copies the reference.

An owner reference names its owner by UID as well, but the walk fetches owners by name: an
owner that was deleted and created again under the same name is followed as if it were the
owner. The levels are a natural number: `main` walks up only for a level of at least zero.
`GroupVersion.String` writes back what `ParseGroupVersion` parsed unless the string starts
with a `/`, so the copied reference agrees with the fetched owner's exactly when the owner
has the recorded UID and the API version has no leading `/`.
-/

namespace CsiProvisioner.Owner

open Go Api

/-- `metav1.GroupVersion`, and `schema.GroupVersion` that has the same fields. -/
structure GroupVersion where
  group : String
  version : String
  deriving DecidableEq, Repr

/-- `metav1.GroupVersion.String`: `group/version`, or the version alone for the core group. -/
def GroupVersion.String (gv : GroupVersion) : String :=
  if gv.group.length = 0 ∧ gv.version.length = 0 then ""
  else if gv.group.length = 0 ∧ gv.version = "v1" then gv.version
  else if gv.group.length > 0 then gv.group ++ "/" ++ gv.version
  else gv.version

/-- `schema.ParseGroupVersion`. -/
def ParseGroupVersion (gv : String) : Except String GroupVersion :=
  if gv.length = 0 ∨ gv = "/" then .ok ⟨"", ""⟩
  else
    match gv.toList.count '/' with
    | 0 => .ok ⟨"", gv⟩
    | 1 =>
      let i := gv.toList.idxOf '/'
      .ok ⟨String.ofList (gv.toList.take i), String.ofList (gv.toList.drop (i + 1))⟩
    | _ => .error ("unexpected GroupVersion string: " ++ gv)

lemma groupVersion_String_core {version : String} (h : version ≠ "") :
    GroupVersion.String ⟨"", version⟩ = version := by
  simp [GroupVersion.String, h]

lemma groupVersion_String_of_group_ne {group version : String} (h : group ≠ "") :
    GroupVersion.String ⟨group, version⟩ = group ++ "/" ++ version := by
  have hlen : group.length ≠ 0 := fun h0 => h (String.length_eq_zero_iff.mp h0)
  simp [GroupVersion.String, hlen, Nat.pos_of_ne_zero hlen]

lemma eq_take_idxOf_append {l : List Char} (h : '/' ∈ l) :
    l = l.take (l.idxOf '/') ++ '/' :: l.drop (l.idxOf '/' + 1) := by
  have hlt := List.idxOf_lt_length_iff.mpr h
  conv_lhs => rw [← List.take_append_drop (l.idxOf '/') l]
  rw [List.drop_eq_getElem_cons hlt, List.getElem_idxOf hlt]

lemma head?_eq_slash_iff {l : List Char} (h : '/' ∈ l) : l.head? = some '/' ↔ l.idxOf '/' = 0 := by
  cases l with
  | nil => cases h
  | cons c rest =>
    by_cases hc : c = '/'
    · simp [hc]
    · simp [hc]

/-- **`GroupVersion.String` writes back what `ParseGroupVersion` parsed** exactly when the
string does not start with a `/`: the parse of `/v1` or of a lone `/` gives an empty group,
which `GroupVersion.String` writes without the `/`. -/
theorem String_of_ParseGroupVersion {s : String} {gv : GroupVersion}
    (h : ParseGroupVersion s = .ok gv) : gv.String = s ↔ s.toList.head? ≠ some '/' := by
  unfold ParseGroupVersion at h
  split_ifs at h with hempty
  · -- the empty string, and a lone `/`
    cases h
    rcases hempty with hlen | rfl
    · rw [String.length_eq_zero_iff.mp hlen]
      decide
    · decide
  · have hne : s ≠ "" := fun h0 => hempty (.inl (String.length_eq_zero_iff.mpr h0))
    split at h
    · -- no `/`: the whole string is the version
      rename_i hcount
      cases h
      have hslash : '/' ∉ s.toList := List.count_eq_zero.mp hcount
      have hhead : s.toList.head? ≠ some '/' := fun hh => hslash (List.mem_of_head? hh)
      simp [groupVersion_String_core hne, hhead]
    · -- one `/`: the group before it and the version after it
      rename_i hcount
      cases h
      have hmem : '/' ∈ s.toList := List.count_pos_iff.mp (by omega)
      have hsplit := eq_take_idxOf_append hmem
      rw [Ne, head?_eq_slash_iff hmem, String.ext_iff]
      by_cases hi : s.toList.idxOf '/' = 0
      · -- a leading `/`: the group is empty, and what follows is the version
        rw [hi] at hsplit ⊢
        simp only [List.take_zero, String.ofList_nil, List.nil_append] at hsplit ⊢
        have hversion : String.ofList (s.toList.drop 1) ≠ "" := by
          intro hnil
          apply hempty (.inr (String.toList_injective _))
          rw [hsplit, ← String.toList_ofList (l := s.toList.drop 1), hnil]
          rfl
        rw [groupVersion_String_core hversion, String.toList_ofList]
        simp only [not_true_eq_false, iff_false]
        intro heq
        have hlen := congrArg List.length heq
        rw [List.length_drop] at hlen
        have hpos := List.length_pos_of_mem hmem
        omega
      · -- a group before the `/`, and the two are joined again by it
        have hgroup : String.ofList (s.toList.take (s.toList.idxOf '/')) ≠ "" := by
          intro hnil
          have htake := congrArg String.toList hnil
          rw [String.toList_ofList, String.toList_empty, List.take_eq_nil_iff] at htake
          exact htake.elim hi (List.ne_nil_of_mem hmem)
        rw [groupVersion_String_of_group_ne hgroup]
        simp only [hi, not_false_eq_true, iff_true, String.toList_append, String.toList_ofList]
        simpa using hsplit.symm
    · cases h

/-- `schema.GroupVersionKind`. -/
structure GroupVersionKind where
  group : String
  version : String
  kind : String
  deriving DecidableEq, Repr

/-- An object as `lookupRecursive` reads it: its UID and its owner references. -/
structure Object where
  uid : String
  ownerReferences : List OwnerReference
  deriving DecidableEq, Repr

/-- What `c.Get` is given: the namespace and name of the key, and the group, version and kind
set on the object it fills in. -/
structure ObjectKey where
  ns : String
  name : String
  group : String
  version : String
  kind : String
  deriving DecidableEq, Repr

/-- A client: the answer of `c.Get` for each key, the object or the error. -/
abbrev Client := ObjectKey → Except String Object

/-- The first owner reference marked as the controller, which the loop over the owners
follows. -/
def controllerOf (owners : List OwnerReference) : Option OwnerReference :=
  owners.find? fun owner => owner.controller == some true

def lookupRecursive (c : Client) (ns name group version kind : String) (levels : Nat) :
    Except String OwnerReference := do
  let apiVersion := GroupVersion.String ⟨group, version⟩
  let u ← (c ⟨ns, name, group, version, kind⟩).mapError ("get object: " ++ ·)
  match levels with
  | 0 => pure ⟨apiVersion, kind, name, u.uid, some true⟩
  | levels + 1 =>
    match controllerOf u.ownerReferences with
    | some owner => do
      let gv ← (ParseGroupVersion owner.apiVersion).mapError
        ("parse OwnerReference.APIVersion: " ++ ·)
      -- the last level copies the reference, without fetching the owner
      if levels = 0 then pure ⟨owner.apiVersion, owner.kind, owner.name, owner.uid, some true⟩
      else lookupRecursive c ns owner.name gv.group gv.version owner.kind levels
    | none =>
      throw (apiVersion ++ "/" ++ kind ++ " " ++ quote name ++ " in namespace " ++ quote ns ++
        " has no controlling owner, cannot unwind the ownership further")

/-- `Lookup`, with the client that `client.New` builds or its error. -/
def Lookup (client : Except String Client) (ns name : String) (gvk : GroupVersionKind)
    (levels : Nat) : Except String OwnerReference := do
  let c ← client.mapError ("build client: " ++ ·)
  lookupRecursive c ns name gvk.group gvk.version gvk.kind levels

/-! ### One level at a time -/

/-- One level of the walk: the object at `key` exists, and its controlling owner reference,
with an API version that parses, names `key'`, in the same namespace. -/
def OwnerStep (c : Client) (key key' : ObjectKey) : Prop :=
  ∃ u owner gv, c key = .ok u ∧ controllerOf u.ownerReferences = some owner ∧
    ParseGroupVersion owner.apiVersion = .ok gv ∧
    key' = ⟨key.ns, owner.name, gv.group, gv.version, owner.kind⟩

/-- `key'` is `n` levels above `key`, each level fetched by the name and kind of the owner. -/
inductive Above (c : Client) : Nat → ObjectKey → ObjectKey → Prop
  | refl (key : ObjectKey) : Above c 0 key key
  | step {n : Nat} {key key' key'' : ObjectKey} :
      OwnerStep c key key' → Above c n key' key'' → Above c (n + 1) key key''

/-- The reference the last level copies: the controlling owner reference of the object at
`key`, when its API version parses, marked as the controller. -/
def LastReference (c : Client) (key : ObjectKey) (ref : OwnerReference) : Prop :=
  ∃ u owner gv, c key = .ok u ∧ controllerOf u.ownerReferences = some owner ∧
    ParseGroupVersion owner.apiVersion = .ok gv ∧ ref = { owner with controller := some true }

section Walk

variable {c : Client} {key : ObjectKey} {ref : OwnerReference}

lemma lookupRecursive_zero_eq_ok {ns name group version kind : String} :
    lookupRecursive c ns name group version kind 0 = .ok ref ↔
      ∃ u, c ⟨ns, name, group, version, kind⟩ = .ok u ∧
        ref = ⟨GroupVersion.String ⟨group, version⟩, kind, name, u.uid, some true⟩ := by
  simp only [lookupRecursive, bind_eq_ok, mapError_eq_ok, pure_eq_ok]
  exact exists_congr fun u => and_congr_right fun _ => eq_comm

/-- **One level of a walk of at least one level**: the object is fetched, its controlling
owner reference taken and its API version parsed; the last level copies the reference, and
any other goes on from the owner fetched by its name and kind. -/
lemma lookupRecursive_succ_eq_ok_iff_fetch (levels : Nat) :
    lookupRecursive c key.ns key.name key.group key.version key.kind (levels + 1) = .ok ref ↔
      ∃ u owner gv, c key = .ok u ∧ controllerOf u.ownerReferences = some owner ∧
        ParseGroupVersion owner.apiVersion = .ok gv ∧
        if levels = 0 then ref = { owner with controller := some true }
        else lookupRecursive c key.ns owner.name gv.group gv.version owner.kind levels = .ok ref := by
  rw [lookupRecursive, bind_eq_ok]
  simp only [mapError_eq_ok]
  constructor
  · rintro ⟨u, hu, hrest⟩
    split at hrest
    · rename_i owner howner
      obtain ⟨gv, hgv, hnext⟩ := bind_eq_ok.mp hrest
      refine ⟨u, owner, gv, hu, howner, mapError_eq_ok.mp hgv, ?_⟩
      split_ifs at hnext ⊢
      · exact (pure_eq_ok.mp hnext).symm
      · exact hnext
    · exact absurd hrest throw_ne_ok
  · rintro ⟨u, owner, gv, hu, howner, hgv, hnext⟩
    refine ⟨u, hu, ?_⟩
    rw [howner]
    refine bind_eq_ok.mpr ⟨gv, mapError_eq_ok.mpr hgv, ?_⟩
    split_ifs at hnext ⊢
    · exact pure_eq_ok.mpr hnext.symm
    · exact hnext

lemma lookupRecursive_one_eq_ok :
    lookupRecursive c key.ns key.name key.group key.version key.kind 1 = .ok ref ↔
      LastReference c key ref := by
  rw [lookupRecursive_succ_eq_ok_iff_fetch 0]
  simp only [↓reduceIte]
  rfl

lemma lookupRecursive_succ_succ_eq_ok (levels : Nat) :
    lookupRecursive c key.ns key.name key.group key.version key.kind (levels + 2) = .ok ref ↔
      ∃ key', OwnerStep c key key' ∧
        lookupRecursive c key'.ns key'.name key'.group key'.version key'.kind (levels + 1) =
          .ok ref := by
  rw [lookupRecursive_succ_eq_ok_iff_fetch (levels + 1)]
  simp only [Nat.add_one_ne_zero, ↓reduceIte]
  constructor
  · rintro ⟨u, owner, gv, hu, howner, hgv, hnext⟩
    exact ⟨_, ⟨u, owner, gv, hu, howner, hgv, rfl⟩, hnext⟩
  · rintro ⟨key', ⟨u, owner, gv, hu, howner, hgv, rfl⟩, hnext⟩
    exact ⟨u, owner, gv, hu, howner, hgv, hnext⟩

/-- **Run lemma**: a walk of `levels + 1` levels succeeds exactly when the object `levels`
levels above the start, each fetched by name and kind, has a controlling owner reference; the
walk returns that reference. -/
theorem lookupRecursive_succ_eq_ok (levels : Nat) :
    lookupRecursive c key.ns key.name key.group key.version key.kind (levels + 1) = .ok ref ↔
      ∃ key', Above c levels key key' ∧ LastReference c key' ref := by
  -- induction on the levels, for every start
  induction levels generalizing key with
  | zero =>
    rw [lookupRecursive_one_eq_ok]
    constructor
    · exact fun hlast => ⟨key, .refl key, hlast⟩
    · rintro ⟨key', habove, hlast⟩
      cases habove
      exact hlast
  | succ levels ih =>
    rw [lookupRecursive_succ_succ_eq_ok]
    constructor
    · rintro ⟨key', hstep, hrest⟩
      obtain ⟨key'', habove, hlast⟩ := ih.mp hrest
      exact ⟨key'', .step hstep habove, hlast⟩
    · rintro ⟨key'', habove, hlast⟩
      cases habove with
      | step hstep habove => exact ⟨_, hstep, ih.mpr ⟨key'', habove, hlast⟩⟩

/-- **The walk by name, at every level**: level zero gives the start object's own reference,
and a walk of `levels + 1` levels the controlling owner reference of the object `levels`
levels above the start, each level fetched by the name and kind of its owner, whatever the
UID the reference records. -/
theorem lookupRecursive_walks_owners_by_name (levels : Nat) :
    lookupRecursive c key.ns key.name key.group key.version key.kind levels = .ok ref ↔
      (levels = 0 ∧ ∃ u, c key = .ok u ∧
        ref = ⟨GroupVersion.String ⟨key.group, key.version⟩, key.kind, key.name, u.uid, some true⟩) ∨
      ∃ n key', levels = n + 1 ∧ Above c n key key' ∧ LastReference c key' ref := by
  cases levels with
  | zero =>
    rw [lookupRecursive_zero_eq_ok]
    simp
  | succ n =>
    rw [lookupRecursive_succ_eq_ok]
    simp

/-- **When the shortcut of the last level agrees with fetching the owner.** With the owner
fetched by the name and kind of the controlling owner reference, the reference that the last
level copies is the one that fetching the owner at level zero gives exactly when the owner
has the UID the reference records and the reference's API version does not start with a
`/`, which the parse drops and `GroupVersion.String` does not write back. -/
theorem lookupRecursive_shortcut_agrees {u u' : Object} {owner : OwnerReference}
    {gv : GroupVersion} (hu : c key = .ok u) (howner : controllerOf u.ownerReferences = some owner)
    (hgv : ParseGroupVersion owner.apiVersion = .ok gv)
    (hu' : c ⟨key.ns, owner.name, gv.group, gv.version, owner.kind⟩ = .ok u') :
    lookupRecursive c key.ns key.name key.group key.version key.kind 1 =
        lookupRecursive c key.ns owner.name gv.group gv.version owner.kind 0 ↔
      u'.uid = owner.uid ∧ owner.apiVersion.toList.head? ≠ some '/' := by
  have hone : lookupRecursive c key.ns key.name key.group key.version key.kind 1 =
      .ok { owner with controller := some true } :=
    lookupRecursive_one_eq_ok.mpr ⟨u, owner, gv, hu, howner, hgv, rfl⟩
  have hzero : lookupRecursive c key.ns owner.name gv.group gv.version owner.kind 0 =
      .ok ⟨gv.String, owner.kind, owner.name, u'.uid, some true⟩ :=
    lookupRecursive_zero_eq_ok.mpr ⟨u', hu', rfl⟩
  rw [hone, hzero, ← String_of_ParseGroupVersion hgv]
  -- the two references have the owner's kind and name, and the controller mark
  constructor
  · intro h
    have href := Except.ok.inj h
    exact ⟨(congrArg OwnerReference.uid href).symm, (congrArg OwnerReference.apiVersion href).symm⟩
  · rintro ⟨huid, hapi⟩
    rw [huid, hapi]

end Walk

/-! ### An owner created again under the same name -/

-- when the owner was deleted and another object created under its name, a walk of two levels
-- goes on from that object instead of failing
lemma lookupRecursive_follows_owner_by_name {c : Client} {key : ObjectKey} {u u' : Object}
    {owner owner' : OwnerReference} {gv gv' : GroupVersion} (hu : c key = .ok u)
    (howner : controllerOf u.ownerReferences = some owner)
    (hgv : ParseGroupVersion owner.apiVersion = .ok gv)
    (hu' : c ⟨key.ns, owner.name, gv.group, gv.version, owner.kind⟩ = .ok u')
    (howner' : controllerOf u'.ownerReferences = some owner')
    (hgv' : ParseGroupVersion owner'.apiVersion = .ok gv') :
    lookupRecursive c key.ns key.name key.group key.version key.kind 2 =
      .ok { owner' with controller := some true } :=
  (lookupRecursive_succ_succ_eq_ok 0).mpr ⟨_, ⟨u, owner, gv, hu, howner, hgv, rfl⟩,
    lookupRecursive_one_eq_ok.mpr ⟨u', owner', gv', hu', howner', hgv', rfl⟩⟩

def recreatedOwnerClient : Client := fun key =>
  if key = ⟨"default", "foo", "", "v1", "Pod"⟩ then
    .ok ⟨"pod-1", [⟨"apps/v1", "ReplicaSet", "foo", "rs-1", some true⟩]⟩
  else if key = ⟨"default", "foo", "apps", "v1", "ReplicaSet"⟩ then
    .ok ⟨"rs-2", [⟨"apps/v1", "Deployment", "bar", "deploy-2", some true⟩]⟩
  else .error "not found"

theorem lookupRecursive_follows_recreated_replicaset :
    recreatedOwnerClient ⟨"default", "foo", "", "v1", "Pod"⟩ =
        .ok ⟨"pod-1", [⟨"apps/v1", "ReplicaSet", "foo", "rs-1", some true⟩]⟩ ∧
      (∀ key u, recreatedOwnerClient key = .ok u → u.uid ≠ "rs-1") ∧
      lookupRecursive recreatedOwnerClient "default" "foo" "" "v1" "Pod" 2 =
        .ok ⟨"apps/v1", "Deployment", "bar", "deploy-2", some true⟩ := by
  have hpod : recreatedOwnerClient ⟨"default", "foo", "", "v1", "Pod"⟩ =
      .ok ⟨"pod-1", [⟨"apps/v1", "ReplicaSet", "foo", "rs-1", some true⟩]⟩ := by decide
  have hreplicaset : recreatedOwnerClient ⟨"default", "foo", "apps", "v1", "ReplicaSet"⟩ =
      .ok ⟨"rs-2", [⟨"apps/v1", "Deployment", "bar", "deploy-2", some true⟩]⟩ := by decide
  have hgv : ParseGroupVersion "apps/v1" = .ok ⟨"apps", "v1"⟩ := by decide
  have hgone : ∀ key u, recreatedOwnerClient key = .ok u → u.uid ≠ "rs-1" := by
    intro key u h
    unfold recreatedOwnerClient at h
    split_ifs at h <;> cases h <;> decide
  exact ⟨hpod, hgone,
    lookupRecursive_follows_owner_by_name hpod rfl hgv hreplicaset rfl hgv⟩

def stableOwnerClient : Client := fun key =>
  if key = ⟨"default", "web-0", "", "v1", "Pod"⟩ then
    .ok ⟨"pod-1", [⟨"apps/v1", "ReplicaSet", "foo", "rs-1", some true⟩]⟩
  else if key = ⟨"default", "foo", "apps", "v1", "ReplicaSet"⟩ then .ok ⟨"rs-1", []⟩
  else .error "not found"

theorem lookupRecursive_shortcut_agrees_stable :
    lookupRecursive stableOwnerClient "default" "web-0" "" "v1" "Pod" 1 =
        lookupRecursive stableOwnerClient "default" "foo" "apps" "v1" "ReplicaSet" 0 ∧
      lookupRecursive recreatedOwnerClient "default" "foo" "" "v1" "Pod" 1 ≠
        lookupRecursive recreatedOwnerClient "default" "foo" "apps" "v1" "ReplicaSet" 0 := by
  have hpod : stableOwnerClient ⟨"default", "web-0", "", "v1", "Pod"⟩ =
      .ok ⟨"pod-1", [⟨"apps/v1", "ReplicaSet", "foo", "rs-1", some true⟩]⟩ := by decide
  have hreplicaset : stableOwnerClient ⟨"default", "foo", "apps", "v1", "ReplicaSet"⟩ =
      .ok ⟨"rs-1", []⟩ := by decide
  have hpod' : recreatedOwnerClient ⟨"default", "foo", "", "v1", "Pod"⟩ =
      .ok ⟨"pod-1", [⟨"apps/v1", "ReplicaSet", "foo", "rs-1", some true⟩]⟩ := by decide
  have hreplicaset' : recreatedOwnerClient ⟨"default", "foo", "apps", "v1", "ReplicaSet"⟩ =
      .ok ⟨"rs-2", [⟨"apps/v1", "Deployment", "bar", "deploy-2", some true⟩]⟩ := by decide
  have hgv : ParseGroupVersion "apps/v1" = .ok ⟨"apps", "v1"⟩ := by decide
  refine ⟨(lookupRecursive_shortcut_agrees hpod rfl hgv hreplicaset).mpr ⟨rfl, by decide⟩,
    fun h => ?_⟩
  have huid := ((lookupRecursive_shortcut_agrees hpod' rfl hgv hreplicaset').mp h).1
  exact absurd huid (by decide)

end CsiProvisioner.Owner
