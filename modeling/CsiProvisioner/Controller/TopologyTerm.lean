import CsiProvisioner.Api.Csi
import CsiProvisioner.Api.Storage
import CsiProvisioner.Lib.GoStrings
import Mathlib.Data.List.Rotate

/-!
The terms of a topology requirement (`topologyTerm` in `pkg/controller/topology.go`), and the
three operations `GenerateAccessibilityRequirements` builds a requirement with.

A term maps topology keys to values. Its hash joins its pairs `k#v`, sorted, with commas; the
terms are ordered by their hashes, and equal terms have equal hashes.

`flatten` turns the allowed topologies of a storage class, an OR of terms, each an AND of
requirements, each an OR of values, into an OR of terms: it distributes the values of each
requirement over the terms built from the requirements before it. A term without
requirements gives no term, and a requirement without values starts the distribution
afresh, as if the requirements before it had not been there.

`deduplicate` keeps one term of each hash, the last of the terms with that hash, and returns
them in the order a loop over a map visits them, which an `Arrangement` chooses. Label keys
have no `#`, and label keys and values no comma: for terms of such pairs the hash is
injective, and `deduplicate` keeps every map. Other strings collide: `rack#rackA,zone#zone1`
is the hash of a term with two pairs and of a term with one pair whose value has a comma.
`sortAndShift` sorts the terms by their hashes and rotates them, either by a given index or so
that the first term that is a subset of a primary term comes first.

The loops over the pairs of a term visit them in an order the runtime chooses; the hash sorts
what it collects and `subset` checks every pair, so that neither depends on that order, and
the model visits the entries in their order. `sort.Slice` is not stable: the model sorts by
insertion, which gives the order `sort.Slice` gives whenever no two hashes are equal, as after
`deduplicate`.
-/

namespace CsiProvisioner.Controller.Topology

open Go Api

/-- `topologyTerm`. -/
abbrev TopologyTerm := StrMap

namespace TopologyTerm

/-- `clone`: a map with the same pairs. -/
def clone (t : TopologyTerm) : TopologyTerm := t

/-- The pair `k#v` of the hash. -/
def hashSegment (e : Σ _ : String, String) : String := e.1 ++ "#" ++ e.2

/-- `hash`: the pairs `k#v`, sorted, joined with commas. -/
def hash (t : TopologyTerm) : String := ",".intercalate (sortStrings (t.entries.map hashSegment))

/-- `less`: the order of the hashes. -/
def less (t other : TopologyTerm) : Bool := decide (t.hash < other.hash)

/-- `subset`: every pair of the term is a pair of `other`. -/
def subset (t other : TopologyTerm) : Bool := t.entries.all fun e => other.lookup e.1 == some e.2

/-- `equal`: the hashes are the same. -/
def equal (t other : TopologyTerm) : Bool := t.hash == other.hash

end TopologyTerm

/-- `toCSITopology`: a CSI topology with each term as its segments. -/
def toCSITopology (terms : List TopologyTerm) : List Topology := terms.map fun term => ⟨some term⟩

/-! ### `flatten` -/

/-- One round of the loop of `flatten` over the requirements of a term: every value of the
requirement distributed over the terms so far, or a term of its own when there are none. -/
def distribute (oldTerms : List TopologyTerm)
    (selectorExpression : TopologySelectorLabelRequirement) : List TopologyTerm :=
  selectorExpression.values.flatMap fun v =>
    if oldTerms.length = 0 then [(∅ : TopologyTerm).insert selectorExpression.key v]
    else oldTerms.map fun oldTerm => oldTerm.clone.insert selectorExpression.key v

/-- The terms `flatten` makes of one term of the allowed topologies. -/
def flattenTerm (selectorTerm : TopologySelectorTerm) : List TopologyTerm :=
  selectorTerm.matchLabelExpressions.foldl distribute []

def flatten (allowedTopologies : List TopologySelectorTerm) : List TopologyTerm :=
  allowedTopologies.flatMap flattenTerm

/-! ### `deduplicate` and `sortAndShift` -/

/-- The map of `deduplicate` from hashes to terms: a later term replaces an earlier one of
the same hash. -/
def hashTerms (terms : List TopologyTerm) : AList fun _ : String => TopologyTerm :=
  terms.foldl (fun termMap term => termMap.insert term.hash term) ∅

/-- `deduplicate`: the terms of the map, in the order the loop over it visits them. -/
def deduplicate (mapOrder : Arrangement TopologyTerm) (terms : List TopologyTerm) :
    List TopologyTerm :=
  mapOrder.arrange ((hashTerms terms).entries.map Sigma.snd)

/-- The relation the sort of `sortAndShift` leaves between a term and every later one: the
later one is not `less`. -/
def NotLess (t other : TopologyTerm) : Prop := other.less t = false

instance : DecidableRel NotLess := fun t other => inferInstanceAs (Decidable (other.less t = false))

/-- The sort of `sortAndShift` by `less`. -/
def sortTerms (terms : List TopologyTerm) : List TopologyTerm := terms.insertionSort NotLess

/-- `sortAndShift`: the terms sorted, then rotated so that the first term that is a subset of
`primary` comes first, or without a primary term the term at `shiftIndex`; `none` for the
nil slice it returns when no term is a subset of `primary`. -/
def sortAndShift (terms : List TopologyTerm) (primary : Option TopologyTerm) (shiftIndex : Nat) :
    Option (List TopologyTerm) :=
  let terms := sortTerms terms
  match primary with
  | none => some (terms.drop shiftIndex ++ terms.take shiftIndex)
  | some primary =>
    match terms.findIdx? (·.subset primary) with
    | some i => some (terms.drop i ++ terms.take i)
    | none => none

/-! ### Subsets and hashes -/

namespace TopologyTerm

lemma subset_iff {t other : TopologyTerm} :
    t.subset other = true ↔ ∀ k v, t.lookup k = some v → other.lookup k = some v := by
  simp only [subset, List.all_eq_true, beq_iff_eq]
  constructor
  · intro h k v hkv
    exact h ⟨k, v⟩ (AList.mem_lookup_iff.mp hkv)
  · intro h e he
    exact h e.1 e.2 (AList.mem_lookup_iff.mpr he)

lemma subset_insert {t other : TopologyTerm} {k v : String} (hk : t.lookup k = none) :
    subset (t.insert k v) other = true ↔ t.subset other = true ∧ other.lookup k = some v := by
  rw [subset_iff, subset_iff]
  constructor
  · intro h
    refine ⟨fun k' v' hkv' => ?_, h k v (AList.lookup_insert _)⟩
    have hne : k' ≠ k := by
      rintro rfl
      rw [hk] at hkv'
      cases hkv'
    exact h k' v' (by rw [AList.lookup_insert_ne hne]; exact hkv')
  · rintro ⟨h, hv⟩ k' v' hkv'
    by_cases hne : k' = k
    · subst hne
      rw [AList.lookup_insert] at hkv'
      cases hkv'
      exact hv
    · exact h k' v' (by rwa [AList.lookup_insert_ne hne] at hkv')

lemma subset_self (t : TopologyTerm) : t.subset t = true := subset_iff.mpr fun _ _ h => h

lemma perm_of_subset {t t' : TopologyTerm} (h : t.subset t' = true)
    (hkeys : ∀ k, (t.lookup k).isSome ↔ (t'.lookup k).isSome) : t.entries.Perm t'.entries := by
  rw [List.perm_ext_iff_of_nodup t.nodupKeys.nodup t'.nodupKeys.nodup]
  intro e
  constructor
  · intro he
    exact AList.mem_lookup_iff.mp (subset_iff.mp h e.1 e.2 (AList.mem_lookup_iff.mpr he))
  · intro he
    have hlookup' : t'.lookup e.1 = some e.2 := AList.mem_lookup_iff.mpr he
    obtain ⟨v, hv⟩ := Option.isSome_iff_exists.mp ((hkeys e.1).mpr (by rw [hlookup']; rfl))
    have hsame := subset_iff.mp h e.1 v hv
    rw [hlookup'] at hsame
    cases hsame
    exact AList.mem_lookup_iff.mp hv

lemma hash_congr {t t' : TopologyTerm} (h : t.entries.Perm t'.entries) : t.hash = t'.hash := by
  have hperm : (sortStrings (t.entries.map hashSegment)).Perm
      (sortStrings (t'.entries.map hashSegment)) :=
    (sortStrings_perm _).trans ((h.map _).trans (sortStrings_perm _).symm)
  unfold hash
  rw [hperm.eq_of_pairwise' (sortStrings_sorted _) (sortStrings_sorted _)]

lemma not_perm_of_hash_ne {t t' : TopologyTerm} (h : t.hash ≠ t'.hash) :
    ¬ t.entries.Perm t'.entries :=
  fun hperm => h (hash_congr hperm)

end TopologyTerm

/-! ### The sort -/

lemma notLess_iff {t other : TopologyTerm} : NotLess t other ↔ t.hash ≤ other.hash := by
  unfold NotLess TopologyTerm.less
  rw [decide_eq_false_iff_not, not_lt]

instance : Std.Total NotLess where
  total t other := by
    rw [notLess_iff, notLess_iff]
    exact le_total _ _

instance : IsTrans TopologyTerm NotLess where
  trans _ _ _ h h' := notLess_iff.mpr (le_trans (notLess_iff.mp h) (notLess_iff.mp h'))

lemma sortTerms_perm (terms : List TopologyTerm) : (sortTerms terms).Perm terms :=
  List.perm_insertionSort _ terms

lemma sortTerms_pairwise (terms : List TopologyTerm) : (sortTerms terms).Pairwise NotLess :=
  List.pairwise_insertionSort _ terms

@[simp] lemma length_sortTerms (terms : List TopologyTerm) :
    (sortTerms terms).length = terms.length :=
  List.length_insertionSort _ terms

lemma rotate_sortTerms_perm (terms : List TopologyTerm) (i : Nat) :
    ((sortTerms terms).rotate i).Perm terms :=
  (List.rotate_perm _ i).trans (sortTerms_perm terms)

lemma sortTerms_pairwise_less {terms : List TopologyTerm} (h : (terms.map (·.hash)).Nodup) :
    (sortTerms terms).Pairwise fun t t' => t.less t' = true := by
  have hdistinct : (sortTerms terms).Pairwise fun t t' => t.hash ≠ t'.hash :=
    List.pairwise_map.mp (((sortTerms_perm terms).map _).nodup_iff.mpr h)
  refine ((sortTerms_pairwise terms).and hdistinct).imp ?_
  rintro t t' ⟨hle, hne⟩
  simpa [TopologyTerm.less] using lt_of_le_of_ne (notLess_iff.mp hle) hne

lemma sortAndShift_none {terms : List TopologyTerm} {shiftIndex : Nat}
    (h : shiftIndex ≤ terms.length) :
    sortAndShift terms none shiftIndex = some ((sortTerms terms).rotate shiftIndex) := by
  rw [List.rotate_eq_drop_append_take (by simpa using h)]
  rfl

lemma sortAndShift_eq_none_iff {terms : List TopologyTerm} {primary : TopologyTerm}
    {shiftIndex : Nat} :
    sortAndShift terms (some primary) shiftIndex = none ↔
      ∀ t ∈ terms, t.subset primary = false := by
  have hmem : ∀ t, t ∈ sortTerms terms ↔ t ∈ terms := fun t => (sortTerms_perm terms).mem_iff
  simp only [sortAndShift]
  split
  · next i hfind =>
    simp only [reduceCtorEq, false_iff, not_forall, Bool.not_eq_false]
    obtain ⟨hi, hidx⟩ := List.findIdx?_eq_some_iff_findIdx_eq.mp hfind
    subst hidx
    exact ⟨_, (hmem _).mp (List.getElem_mem hi), List.findIdx_getElem (p := fun x : TopologyTerm => x.subset primary)⟩
  · next hfind =>
    simp only [true_iff]
    intro t ht
    exact List.findIdx?_eq_none_iff.mp hfind t ((hmem t).mpr ht)

lemma sortAndShift_eq_some {terms preferred : List TopologyTerm} {primary : TopologyTerm}
    {shiftIndex : Nat} (h : sortAndShift terms (some primary) shiftIndex = some preferred) :
    ∃ i < terms.length, preferred = (sortTerms terms).rotate i ∧
      ∃ t, preferred.head? = some t ∧ t.subset primary = true := by
  simp only [sortAndShift] at h
  split at h
  · next i hfind =>
    cases h
    obtain ⟨hi, hidx⟩ := List.findIdx?_eq_some_iff_findIdx_eq.mp hfind
    have hlen : i < terms.length := by simpa using hi
    have hsubset : (sortTerms terms)[i].subset primary = true := by
      subst hidx
      exact List.findIdx_getElem (p := fun x : TopologyTerm => x.subset primary)
    refine ⟨i, hlen, (List.rotate_eq_drop_append_take hi.le).symm, _, ?_, hsubset⟩
    rw [← List.rotate_eq_drop_append_take hi.le, List.head?_rotate hi, List.getElem?_eq_getElem hi]
  · cases h

/-! ### `deduplicate` -/

lemma lookup_foldl_insert (terms : List TopologyTerm)
    (termMap : AList fun _ : String => TopologyTerm) (h : String) :
    (terms.foldl (fun termMap term => termMap.insert term.hash term) termMap).lookup h =
      (terms.filter (·.hash == h)).getLast?.or (termMap.lookup h) := by
  induction terms generalizing termMap with
  | nil => simp
  | cons t ts ih =>
    rw [List.foldl_cons, ih]
    by_cases ht : t.hash = h
    · subst ht
      cases hlast : (ts.filter (·.hash == t.hash)).getLast? <;>
        simp [AList.lookup_insert, List.getLast?_cons, hlast]
    · simp [AList.lookup_insert_ne (Ne.symm ht), ht]

lemma lookup_hashTerms (terms : List TopologyTerm) (h : String) :
    (hashTerms terms).lookup h = (terms.filter (·.hash == h)).getLast? := by
  rw [hashTerms, lookup_foldl_insert]
  cases (terms.filter (·.hash == h)).getLast? <;> rfl

lemma mem_hashTerms {terms : List TopologyTerm} {e : Σ _ : String, TopologyTerm}
    (he : e ∈ (hashTerms terms).entries) : e.2 ∈ terms ∧ e.2.hash = e.1 := by
  have hlookup : (hashTerms terms).lookup e.1 = some e.2 := AList.mem_lookup_iff.mpr he
  rw [lookup_hashTerms] at hlookup
  have hmem := List.mem_filter.mp (List.mem_of_getLast? hlookup)
  exact ⟨hmem.1, beq_iff_eq.mp hmem.2⟩

section

variable (mapOrder : Arrangement TopologyTerm) (terms : List TopologyTerm)

lemma deduplicate_perm :
    (deduplicate mapOrder terms).Perm ((hashTerms terms).entries.map Sigma.snd) :=
  mapOrder.perm _

lemma mem_of_mem_deduplicate {t : TopologyTerm} (ht : t ∈ deduplicate mapOrder terms) :
    t ∈ terms := by
  obtain ⟨e, he, rfl⟩ := List.mem_map.mp ((deduplicate_perm mapOrder terms).mem_iff.mp ht)
  exact (mem_hashTerms he).1

/-- **`deduplicate` leaves no two terms with one hash.** -/
lemma nodup_hash_deduplicate : ((deduplicate mapOrder terms).map (·.hash)).Nodup := by
  have hkeys : ((hashTerms terms).entries.map Sigma.snd).map (·.hash) = (hashTerms terms).keys := by
    rw [List.map_map, AList.keys, List.keys]
    exact List.map_congr_left fun e he => (mem_hashTerms he).2
  rw [((deduplicate_perm mapOrder terms).map _).nodup_iff, hkeys]
  exact (hashTerms terms).keys_nodup

lemma exists_hash_mem_deduplicate {t : TopologyTerm} (ht : t ∈ terms) :
    ∃ t' ∈ deduplicate mapOrder terms, t'.hash = t.hash := by
  obtain ⟨t', hlast⟩ : ∃ t', (terms.filter (·.hash == t.hash)).getLast? = some t' := by
    rw [← Option.isSome_iff_exists, List.getLast?_isSome, ne_eq, List.filter_eq_nil_iff]
    simp only [beq_iff_eq, not_forall, not_not]
    exact ⟨t, ht, rfl⟩
  have hentry : (⟨t.hash, t'⟩ : Σ _ : String, TopologyTerm) ∈ (hashTerms terms).entries :=
    AList.mem_lookup_iff.mp (by rw [lookup_hashTerms]; exact hlast)
  refine ⟨t', (deduplicate_perm mapOrder terms).mem_iff.mpr (List.mem_map_of_mem hentry), ?_⟩
  exact (mem_hashTerms hentry).2

lemma deduplicate_ne_nil (h : terms ≠ []) : deduplicate mapOrder terms ≠ [] := by
  obtain ⟨t, ht⟩ := List.exists_mem_of_ne_nil _ h
  obtain ⟨t', ht', -⟩ := exists_hash_mem_deduplicate mapOrder terms ht
  exact List.ne_nil_of_mem ht'

end

lemma deduplicate_singleton (mapOrder : Arrangement TopologyTerm) (t : TopologyTerm) :
    deduplicate mapOrder [t] = [t] :=
  List.perm_singleton.mp (mapOrder.perm [t])

/-! ### The hashes of plain terms -/

/-- A pair as a label has it: the key has no `#`, and neither the key nor the value has a
comma. -/
def PlainPair (k v : String) : Prop := '#' ∉ k.toList ∧ ',' ∉ k.toList ∧ ',' ∉ v.toList

instance (k v : String) : Decidable (PlainPair k v) :=
  inferInstanceAs (Decidable ('#' ∉ k.toList ∧ ',' ∉ k.toList ∧ ',' ∉ v.toList))

namespace TopologyTerm

/-- A term of plain pairs. -/
def Plain (t : TopologyTerm) : Prop := ∀ e ∈ t.entries, PlainPair e.1 e.2

instance (t : TopologyTerm) : Decidable (Plain t) :=
  inferInstanceAs (Decidable (∀ e ∈ t.entries, PlainPair e.1 e.2))

lemma hashSegment_toList (e : Σ _ : String, String) :
    (hashSegment e).toList = e.1.toList ++ '#' :: e.2.toList := by
  simp [hashSegment]

lemma hashSegment_inj {e e' : Σ _ : String, String} (he : '#' ∉ e.1.toList)
    (he' : '#' ∉ e'.1.toList) (h : hashSegment e = hashSegment e') : e = e' := by
  have hlist := congrArg String.toList h
  rw [hashSegment_toList, hashSegment_toList] at hlist
  obtain ⟨hkey, hvalue⟩ := append_cons_inj_of_not_mem he he' hlist
  obtain ⟨k, v⟩ := e
  obtain ⟨k', v'⟩ := e'
  cases String.toList_injective hkey
  cases String.toList_injective hvalue
  rfl

lemma hashSegment_plain {t : TopologyTerm} (ht : Plain t) :
    ∀ s ∈ sortStrings (t.entries.map hashSegment), s ≠ "" ∧ ',' ∉ s.toList := by
  intro s hs
  obtain ⟨e, he, rfl⟩ := List.mem_map.mp ((sortStrings_perm _).mem_iff.mp hs)
  obtain ⟨-, hkey, hvalue⟩ := ht e he
  refine ⟨fun hempty => ?_, ?_⟩
  · have hlist := congrArg String.toList hempty
    simp [hashSegment_toList] at hlist
  · rw [hashSegment_toList]
    simp [hkey, hvalue]

lemma mem_of_hashSegment_mem {t : TopologyTerm} (ht : Plain t) {e : Σ _ : String, String}
    (he : '#' ∉ e.1.toList) (h : hashSegment e ∈ t.entries.map hashSegment) :
    e ∈ t.entries := by
  obtain ⟨e', he', hsegment⟩ := List.mem_map.mp h
  rw [← hashSegment_inj (ht e' he').1 he hsegment]
  exact he'

/-- **Plain terms of one hash are one map**: the hash joins with commas segments that have
none, and a segment `k#v` is cut at the `#` its key does not have. -/
lemma perm_of_hash_eq {t t' : TopologyTerm} (ht : Plain t) (ht' : Plain t')
    (h : t.hash = t'.hash) : t.entries.Perm t'.entries := by
  have hcomma : "," = String.singleton ',' := by decide
  rw [hash, hash, hcomma] at h
  have hsegments := intercalate_inj (hashSegment_plain ht) (hashSegment_plain ht') h
  have hperm : (t.entries.map hashSegment).Perm (t'.entries.map hashSegment) :=
    (sortStrings_perm _).symm.trans (hsegments ▸ sortStrings_perm _)
  rw [List.perm_ext_iff_of_nodup t.nodupKeys.nodup t'.nodupKeys.nodup]
  intro e
  constructor
  · intro he
    exact mem_of_hashSegment_mem ht' (ht e he).1 (hperm.mem_iff.mp (List.mem_map_of_mem he))
  · intro he
    exact mem_of_hashSegment_mem ht (ht' e he).1 (hperm.mem_iff.mpr (List.mem_map_of_mem he))

lemma subset_congr {t t' : TopologyTerm} (h : t.entries.Perm t'.entries) (other : TopologyTerm) :
    t.subset other = t'.subset other := by
  rw [Bool.eq_iff_iff, subset_iff, subset_iff]
  simp only [AList.perm_lookup h]

lemma plain_empty : Plain ∅ := fun _ he => by cases he

lemma Plain.insert {t : TopologyTerm} (ht : Plain t) {k v : String} (hkv : PlainPair k v) :
    Plain (t.insert k v) := by
  intro e he
  rw [AList.entries_insert] at he
  rcases List.mem_cons.mp he with rfl | hold
  · exact hkv
  · exact ht e ((List.kerase_sublist _ _).subset hold)

lemma Plain.of_subset {t other : TopologyTerm} (h : t.subset other = true) (hother : Plain other) :
    Plain t := fun e he =>
  hother e (AList.mem_lookup_iff.mp (subset_iff.mp h e.1 e.2 (AList.mem_lookup_iff.mpr he)))

end TopologyTerm

/-- **Of plain terms `deduplicate` keeps every map.** -/
lemma exists_perm_mem_deduplicate (mapOrder : Arrangement TopologyTerm)
    {terms : List TopologyTerm} (hplain : ∀ t ∈ terms, TopologyTerm.Plain t) {t : TopologyTerm}
    (ht : t ∈ terms) : ∃ t' ∈ deduplicate mapOrder terms, t'.entries.Perm t.entries := by
  obtain ⟨t', ht', hhash⟩ := exists_hash_mem_deduplicate mapOrder terms ht
  have hplain' := hplain t' (mem_of_mem_deduplicate mapOrder terms ht')
  exact ⟨t', ht', TopologyTerm.perm_of_hash_eq hplain' (hplain t ht) hhash⟩

lemma exists_subset_deduplicate_iff (mapOrder : Arrangement TopologyTerm)
    {terms : List TopologyTerm} (hplain : ∀ t ∈ terms, TopologyTerm.Plain t)
    (other : TopologyTerm) :
    (∃ t ∈ deduplicate mapOrder terms, t.subset other = true) ↔
      ∃ t ∈ terms, t.subset other = true := by
  constructor
  · rintro ⟨t, ht, hsub⟩
    exact ⟨t, mem_of_mem_deduplicate mapOrder terms ht, hsub⟩
  · rintro ⟨t, ht, hsub⟩
    obtain ⟨t', ht', hperm⟩ := exists_perm_mem_deduplicate mapOrder hplain ht
    exact ⟨t', ht', by rw [TopologyTerm.subset_congr hperm, hsub]⟩

/-! ### The hash as a key -/

namespace TopologyTerm

lemma hash_eq_iff_perm {t t' : TopologyTerm} (ht : Plain t) (ht' : Plain t') :
    t.hash = t'.hash ↔ t.entries.Perm t'.entries :=
  ⟨perm_of_hash_eq ht ht', hash_congr⟩

/-- A key with a `#` collides with a value that has one. -/
example : hash ((∅ : TopologyTerm).insert "a#b" "c") = hash ((∅ : TopologyTerm).insert "a" "b#c") := by
  decide

lemma less_irrefl (t : TopologyTerm) : t.less t = false := by
  simp [less]

lemma less_trans {t₁ t₂ t₃ : TopologyTerm} (h₁₂ : t₁.less t₂ = true) (h₂₃ : t₂.less t₃ = true) :
    t₁.less t₃ = true := by
  simp only [less, decide_eq_true_eq] at *
  exact lt_trans h₁₂ h₂₃

lemma less_trichotomous {t₁ t₂ : TopologyTerm} (h₁ : Plain t₁) (h₂ : Plain t₂) :
    t₁.less t₂ = true ∨ t₁.entries.Perm t₂.entries ∨ t₂.less t₁ = true := by
  rcases lt_trichotomy t₁.hash t₂.hash with hlt | heq | hgt
  · exact .inl (decide_eq_true hlt)
  · exact .inr (.inl ((hash_eq_iff_perm h₁ h₂).mp heq))
  · exact .inr (.inr (decide_eq_true hgt))

end TopologyTerm

lemma countP_perm_deduplicate_le (mapOrder : Arrangement TopologyTerm) (terms : List TopologyTerm)
    (t : TopologyTerm) :
    (deduplicate mapOrder terms).countP (fun t' => decide (t'.entries.Perm t.entries)) ≤ 1 := by
  set same := (deduplicate mapOrder terms).filter fun t' => decide (t'.entries.Perm t.entries)
  -- the terms of one map have the hash of that map, and the hashes kept are distinct
  have hnodup : (same.map (·.hash)).Nodup :=
    (List.filter_sublist.map _).nodup (nodup_hash_deduplicate mapOrder terms)
  have hreplicate : same.map (·.hash) = List.replicate same.length t.hash := by
    refine List.eq_replicate_iff.mpr ⟨List.length_map _, fun h hh => ?_⟩
    obtain ⟨t', ht', rfl⟩ := List.mem_map.mp hh
    exact TopologyTerm.hash_congr (of_decide_eq_true (List.mem_filter.mp ht').2)
  rw [List.countP_eq_length_filter]
  rw [hreplicate] at hnodup
  exact List.nodup_replicate.mp hnodup

/-- **The hash is a faithful key for plain terms**: plain terms have one hash exactly when
they are one map; `less` is a strict order, total on plain terms up to equal maps; `equal` is
the equality of maps; and of plain terms `deduplicate` keeps each map once, and nothing
else. -/
theorem hash_is_faithful_key :
    (∀ t₁ t₂ : TopologyTerm, t₁.Plain → t₂.Plain →
      (t₁.hash = t₂.hash ↔ t₁.entries.Perm t₂.entries)) ∧
    (∀ t : TopologyTerm, t.less t = false) ∧
    (∀ t₁ t₂ t₃ : TopologyTerm, t₁.less t₂ = true → t₂.less t₃ = true → t₁.less t₃ = true) ∧
    (∀ t₁ t₂ : TopologyTerm, t₁.Plain → t₂.Plain →
      t₁.less t₂ = true ∨ t₁.entries.Perm t₂.entries ∨ t₂.less t₁ = true) ∧
    (∀ t₁ t₂ : TopologyTerm, t₁.Plain → t₂.Plain →
      (t₁.equal t₂ = true ↔ t₁.entries.Perm t₂.entries)) ∧
    ∀ (mapOrder : Arrangement TopologyTerm) (terms : List TopologyTerm), (∀ t ∈ terms, t.Plain) →
      (∀ t ∈ deduplicate mapOrder terms, t ∈ terms) ∧
      ∀ t ∈ terms,
        (deduplicate mapOrder terms).countP (fun t' => decide (t'.entries.Perm t.entries)) = 1 := by
  refine ⟨fun _ _ => TopologyTerm.hash_eq_iff_perm, TopologyTerm.less_irrefl,
    fun _ _ _ => TopologyTerm.less_trans, fun _ _ => TopologyTerm.less_trichotomous,
    fun t₁ t₂ h₁ h₂ => ?_, fun mapOrder terms hplain =>
      ⟨fun _ => mem_of_mem_deduplicate mapOrder terms, fun t ht => ?_⟩⟩
  · rw [TopologyTerm.equal, beq_iff_eq, TopologyTerm.hash_eq_iff_perm h₁ h₂]
  · -- the map of `t` is kept, and at most once
    obtain ⟨t', ht', hperm⟩ := exists_perm_mem_deduplicate mapOrder hplain ht
    have hpos : 0 < (deduplicate mapOrder terms).countP
        (fun t' => decide (t'.entries.Perm t.entries)) :=
      List.countP_pos_iff.mpr ⟨t', ht', decide_eq_true hperm⟩
    have hle := countP_perm_deduplicate_le mapOrder terms t
    omega

/-! ### What `flatten` means -/

/-- A label map satisfies a conjunction of requirements: for each it has a label of the key
with one of the values. -/
def Satisfies (labels : StrMap) (requirements : List TopologySelectorLabelRequirement) : Prop :=
  ∀ r ∈ requirements, ∃ v ∈ r.values, labels.lookup r.key = some v

instance (labels : StrMap) (requirements : List TopologySelectorLabelRequirement) :
    Decidable (Satisfies labels requirements) :=
  inferInstanceAs (Decidable (∀ r ∈ requirements, ∃ v ∈ r.values, labels.lookup r.key = some v))

/-- A term assigns one of its values to the key of each requirement, and has no other key. -/
def Assigns (t : TopologyTerm) (requirements : List TopologySelectorLabelRequirement) : Prop :=
  (∀ k, (t.lookup k).isSome ↔ k ∈ requirements.map (·.key)) ∧ Satisfies t requirements

/-- The checks of the API server on a term of the allowed topologies that `flatten` needs:
every requirement has a value, and no key is repeated. -/
structure Validated (selectorTerm : TopologySelectorTerm) : Prop where
  values_ne_nil : ∀ r ∈ selectorTerm.matchLabelExpressions, r.values ≠ []
  keys_nodup : (selectorTerm.matchLabelExpressions.map (·.key)).Nodup

lemma satisfies_append_singleton {labels : StrMap}
    {done : List TopologySelectorLabelRequirement} {r : TopologySelectorLabelRequirement} :
    Satisfies labels (done ++ [r]) ↔
      Satisfies labels done ∧ ∃ v ∈ r.values, labels.lookup r.key = some v := by
  simp [Satisfies, or_imp, forall_and]

lemma assigns_insert {t : TopologyTerm} {done : List TopologySelectorLabelRequirement}
    {r : TopologySelectorLabelRequirement} {v : String} (ht : Assigns t done)
    (hkey : r.key ∉ done.map (·.key)) (hv : v ∈ r.values) :
    Assigns (t.insert r.key v) (done ++ [r]) := by
  obtain ⟨hkeys, hsat⟩ := ht
  refine ⟨fun k => ?_, satisfies_append_singleton.mpr ⟨fun r' hr' => ?_, v, hv, AList.lookup_insert _⟩⟩
  · by_cases hk : k = r.key
    · subst hk
      simp [AList.lookup_insert]
    · rw [AList.lookup_insert_ne hk, hkeys k]
      simp [hk]
  · -- an earlier requirement has another key, whose pair stays
    have hne : r'.key ≠ r.key := fun h => hkey (h ▸ List.mem_map_of_mem hr')
    rw [AList.lookup_insert_ne hne]
    exact hsat r' hr'

lemma distribute_of_ne_nil {oldTerms : List TopologyTerm} (h : oldTerms ≠ [])
    (r : TopologySelectorLabelRequirement) :
    distribute oldTerms r = r.values.flatMap fun v => oldTerms.map fun t => t.insert r.key v := by
  have hlen : oldTerms.length ≠ 0 := fun hlen => h (List.length_eq_zero_iff.mp hlen)
  simp [distribute, hlen, TopologyTerm.clone]

lemma distribute_nil (r : TopologySelectorLabelRequirement) :
    distribute [] r = distribute [∅] r := by
  rw [distribute_of_ne_nil (List.cons_ne_nil _ _)]
  simp [distribute]

/-- What the loop of `flatten` over the requirements of a term keeps once it has gone through
the requirements `done`. -/
structure FlattenInv (done : List TopologySelectorLabelRequirement) (terms : List TopologyTerm) :
    Prop where
  ne_nil : terms ≠ []
  length_eq : terms.length = (done.map (·.values.length)).prod
  assigns : ∀ t ∈ terms, Assigns t done
  subset_iff : ∀ labels : StrMap, (∃ t ∈ terms, t.subset labels = true) ↔ Satisfies labels done

lemma flattenInv_nil : FlattenInv [] [∅] where
  ne_nil := List.cons_ne_nil _ _
  length_eq := rfl
  assigns t ht := by
    rw [List.mem_singleton.mp ht]
    exact ⟨fun k => by simp, fun r hr => by cases hr⟩
  subset_iff labels := by
    simp [Satisfies, TopologyTerm.subset]

/-- **One round of `flatten`.** A requirement with values and a new key is distributed over
the terms so far. -/
lemma FlattenInv.distribute {done : List TopologySelectorLabelRequirement}
    {terms : List TopologyTerm} {r : TopologySelectorLabelRequirement}
    (hinv : FlattenInv done terms) (hvalues : r.values ≠ []) (hkey : r.key ∉ done.map (·.key)) :
    FlattenInv (done ++ [r]) (Topology.distribute terms r) := by
  rw [distribute_of_ne_nil hinv.ne_nil]
  -- no term so far has the new key
  have hfresh : ∀ t ∈ terms, t.lookup r.key = none := fun t ht =>
    Option.not_isSome_iff_eq_none.mp fun hsome => hkey (((hinv.assigns t ht).1 r.key).mp hsome)
  refine ⟨?_, ?_, ?_, fun labels => ?_⟩
  · obtain ⟨v, hv⟩ := List.exists_mem_of_ne_nil _ hvalues
    obtain ⟨t, ht⟩ := List.exists_mem_of_ne_nil _ hinv.ne_nil
    exact List.ne_nil_of_mem (List.mem_flatMap.mpr ⟨v, hv, List.mem_map_of_mem ht⟩)
  · have hlen : (r.values.flatMap fun v => terms.map fun t => t.insert r.key v).length =
        r.values.length * terms.length := by
      simp [List.length_flatMap, List.map_const']
    rw [hlen, hinv.length_eq, List.map_append, List.prod_append]
    simp [Nat.mul_comm]
  · intro t' ht'
    obtain ⟨v, hv, t, ht, rfl⟩ : ∃ v ∈ r.values, ∃ t ∈ terms, t' = t.insert r.key v := by
      simpa [eq_comm] using ht'
    exact assigns_insert (hinv.assigns t ht) hkey hv
  · rw [satisfies_append_singleton, ← hinv.subset_iff labels]
    constructor
    · rintro ⟨t', ht', hsub⟩
      obtain ⟨v, hv, t, ht, rfl⟩ : ∃ v ∈ r.values, ∃ t ∈ terms, t' = t.insert r.key v := by
        simpa [eq_comm] using ht'
      obtain ⟨hsub, hlabel⟩ := (TopologyTerm.subset_insert (hfresh t ht)).mp hsub
      exact ⟨⟨t, ht, hsub⟩, v, hv, hlabel⟩
    · rintro ⟨⟨t, ht, hsub⟩, v, hv, hlabel⟩
      refine ⟨t.insert r.key v, List.mem_flatMap.mpr ⟨v, hv, List.mem_map_of_mem ht⟩, ?_⟩
      exact (TopologyTerm.subset_insert (hfresh t ht)).mpr ⟨hsub, hlabel⟩

/-- **The loop of `flatten` over the requirements of a term**, from any point on. -/
lemma FlattenInv.foldl {done rest : List TopologySelectorLabelRequirement}
    {terms : List TopologyTerm} (hinv : FlattenInv done terms)
    (hvalues : ∀ r ∈ rest, r.values ≠ []) (hkeys : ((done ++ rest).map (·.key)).Nodup) :
    FlattenInv (done ++ rest) (rest.foldl Topology.distribute terms) := by
  induction rest generalizing done terms with
  | nil => simpa using hinv
  | cons r rest ih =>
    have hkey : r.key ∉ done.map (·.key) := by
      rw [List.map_append, List.map_cons] at hkeys
      exact fun h => List.disjoint_of_nodup_append hkeys h List.mem_cons_self
    have hstep := hinv.distribute (hvalues r List.mem_cons_self) hkey
    rw [List.foldl_cons]
    simpa using ih hstep (fun r' hr' => hvalues r' (List.mem_cons_of_mem r hr')) (by simpa using hkeys)

lemma flattenTerm_spec {selectorTerm : TopologySelectorTerm} (hvalid : Validated selectorTerm)
    (hne : selectorTerm.matchLabelExpressions ≠ []) :
    FlattenInv selectorTerm.matchLabelExpressions (flattenTerm selectorTerm) := by
  obtain ⟨r, rest, hreqs⟩ := List.exists_cons_of_ne_nil hne
  have hloop : flattenTerm selectorTerm =
      selectorTerm.matchLabelExpressions.foldl Topology.distribute [∅] := by
    rw [flattenTerm, hreqs, List.foldl_cons, List.foldl_cons, distribute_nil]
  rw [hloop]
  simpa using flattenInv_nil.foldl hvalid.values_ne_nil (by simpa using hvalid.keys_nodup)

lemma flattenTerm_unconstrained : flattenTerm ⟨[]⟩ = [] := rfl

lemma satisfies_nil (labels : StrMap) : Satisfies labels [] := fun _ hr => by cases hr

/-- **`flatten` keeps the meaning of the allowed topologies** whose terms all have
requirements: a label map satisfies one of their terms exactly when one of the terms
`flatten` makes is a subset of it, and each term contributes one term for each choice of one
value per requirement, which assigns that value to the key. -/
theorem flatten_preserves_meaning {allowedTopologies : List TopologySelectorTerm}
    (hvalid : ∀ term ∈ allowedTopologies, Validated term)
    (hne : ∀ term ∈ allowedTopologies, term.matchLabelExpressions ≠ []) :
    (∀ labels : StrMap,
      (∃ term ∈ allowedTopologies, Satisfies labels term.matchLabelExpressions) ↔
        ∃ t ∈ flatten allowedTopologies, t.subset labels = true) ∧
    ∀ term ∈ allowedTopologies,
      (flattenTerm term).length = (term.matchLabelExpressions.map (·.values.length)).prod ∧
        ∀ t ∈ flattenTerm term, Assigns t term.matchLabelExpressions := by
  have hspec : ∀ term ∈ allowedTopologies,
      FlattenInv term.matchLabelExpressions (flattenTerm term) :=
    fun term hterm => flattenTerm_spec (hvalid term hterm) (hne term hterm)
  refine ⟨fun labels => ?_, fun term hterm => ⟨(hspec term hterm).length_eq, (hspec term hterm).assigns⟩⟩
  simp only [flatten, List.mem_flatMap]
  constructor
  · rintro ⟨term, hterm, hsat⟩
    obtain ⟨t, ht, hsub⟩ := ((hspec term hterm).subset_iff labels).mpr hsat
    exact ⟨t, ⟨term, hterm, ht⟩, hsub⟩
  · rintro ⟨t, ⟨term, hterm, ht⟩, hsub⟩
    exact ⟨term, hterm, ((hspec term hterm).subset_iff labels).mp ⟨t, ht, hsub⟩⟩

def zoneRackTopologies : List TopologySelectorTerm :=
  [⟨[⟨"zone", ["zone1", "zone2"]⟩, ⟨"rack", ["rackA", "rackB"]⟩]⟩]

example : (flatten zoneRackTopologies).map TopologyTerm.hash =
    ["rack#rackA,zone#zone1", "rack#rackA,zone#zone2", "rack#rackB,zone#zone1",
      "rack#rackB,zone#zone2"] := by decide

def zoneRackLabels : StrMap := ((∅ : StrMap).insert "zone" "zone1").insert "rack" "rackB"

theorem flatten_preserves_meaning_zoneRack :
    (∀ term ∈ zoneRackTopologies, Validated term) ∧
      (∀ term ∈ zoneRackTopologies, term.matchLabelExpressions ≠ []) ∧
      ((∀ labels : StrMap,
        (∃ term ∈ zoneRackTopologies, Satisfies labels term.matchLabelExpressions) ↔
          ∃ t ∈ flatten zoneRackTopologies, t.subset labels = true) ∧
      ∀ term ∈ zoneRackTopologies,
        (flattenTerm term).length = (term.matchLabelExpressions.map (·.values.length)).prod ∧
          ∀ t ∈ flattenTerm term, Assigns t term.matchLabelExpressions) := by
  have hvalid : ∀ term ∈ zoneRackTopologies, Validated term := by
    intro term hterm
    rw [zoneRackTopologies, List.mem_singleton] at hterm
    subst hterm
    exact ⟨by decide, by decide⟩
  have hne : ∀ term ∈ zoneRackTopologies, term.matchLabelExpressions ≠ [] := by
    intro term hterm
    rw [zoneRackTopologies, List.mem_singleton] at hterm
    subst hterm
    exact List.cons_ne_nil _ _
  exact ⟨hvalid, hne, flatten_preserves_meaning hvalid hne⟩

theorem flatten_drops_unconstrained_term :
    (∃ term ∈ [(⟨[]⟩ : TopologySelectorTerm)], Satisfies zoneRackLabels term.matchLabelExpressions) ∧
      ¬ ∃ t ∈ flatten [⟨[]⟩], t.subset zoneRackLabels = true := by
  refine ⟨⟨⟨[]⟩, List.mem_singleton_self _, satisfies_nil _⟩, ?_⟩
  rintro ⟨t, ht, -⟩
  rw [flatten, List.flatMap_singleton, flattenTerm_unconstrained] at ht
  cases ht

/-- The pairs of the requirements of a term of the allowed topologies are plain. -/
def PlainRequirements (selectorTerm : TopologySelectorTerm) : Prop :=
  ∀ r ∈ selectorTerm.matchLabelExpressions, ∀ v ∈ r.values, PlainPair r.key v

instance (selectorTerm : TopologySelectorTerm) : Decidable (PlainRequirements selectorTerm) :=
  inferInstanceAs
    (Decidable (∀ r ∈ selectorTerm.matchLabelExpressions, ∀ v ∈ r.values, PlainPair r.key v))

/-! ### An induction rule for `flatten` -/

section

variable {P : TopologyTerm → Prop}

lemma distribute_induction {terms : List TopologyTerm} {r : TopologySelectorLabelRequirement}
    (hinsert : ∀ v ∈ r.values, ∀ t, (t = ∅ ∨ P t) → P (t.insert r.key v))
    (hterms : ∀ t ∈ terms, P t) : ∀ t ∈ distribute terms r, P t := by
  intro t ht
  obtain ⟨v, hv, ht⟩ := List.mem_flatMap.mp ht
  split_ifs at ht
  · rw [List.mem_singleton.mp ht]
    exact hinsert v hv ∅ (.inl rfl)
  · obtain ⟨old, hold, rfl⟩ := List.mem_map.mp ht
    exact hinsert v hv old (.inr (hterms old hold))

/-- **An induction rule for `flatten`**: a property that each pair of a requirement gives the
empty term and keeps of every term holds of every term `flatten` makes. -/
lemma flatten_induction {allowedTopologies : List TopologySelectorTerm}
    (hinsert : ∀ term ∈ allowedTopologies, ∀ r ∈ term.matchLabelExpressions, ∀ v ∈ r.values,
      ∀ t, (t = ∅ ∨ P t) → P (t.insert r.key v)) :
    ∀ t ∈ flatten allowedTopologies, P t := by
  -- the loop over the requirements of a term keeps the property of its terms
  have hloop : ∀ (requirements : List TopologySelectorLabelRequirement)
      (terms : List TopologyTerm),
      (∀ r ∈ requirements, ∀ v ∈ r.values, ∀ t, (t = ∅ ∨ P t) →
        P (t.insert r.key v)) →
      (∀ t ∈ terms, P t) → ∀ t ∈ requirements.foldl distribute terms, P t := by
    intro requirements
    induction requirements with
    | nil => exact fun terms _ hterms => hterms
    | cons r rest ih =>
      intro terms hreqs hterms
      exact ih _ (fun r' hr' => hreqs r' (List.mem_cons_of_mem r hr'))
        (distribute_induction (hreqs r List.mem_cons_self) hterms)
  intro t ht
  obtain ⟨term, hterm, ht⟩ := List.mem_flatMap.mp ht
  exact hloop _ [] (hinsert term hterm) (fun _ h => by cases h) t ht

end

/-- **The terms `flatten` makes of plain requirements are plain**, whatever the requirements. -/
lemma plain_flatten {allowedTopologies : List TopologySelectorTerm}
    (h : ∀ term ∈ allowedTopologies, PlainRequirements term) :
    ∀ t ∈ flatten allowedTopologies, TopologyTerm.Plain t := by
  refine flatten_induction fun term hterm r hr v hv t ht => ?_
  rcases ht with rfl | ht
  · exact TopologyTerm.plain_empty.insert (h term hterm r hr v hv)
  · exact ht.insert (h term hterm r hr v hv)

lemma entries_ne_nil_of_mem_flatten {allowedTopologies : List TopologySelectorTerm} :
    ∀ t ∈ flatten allowedTopologies, t.entries ≠ [] :=
  flatten_induction fun _ _ _ _ _ _ _ _ => by simp [AList.entries_insert]

end CsiProvisioner.Controller.Topology
