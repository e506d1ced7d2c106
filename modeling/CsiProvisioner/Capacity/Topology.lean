import CsiProvisioner.Api.Storage
import Mathlib.Data.List.Sort
import Mathlib.Data.String.Basic

/-!
Topology segments (`pkg/capacity/topology/topology.go`).

A segment is a list of key/value pairs, meant to be sorted by key with unique keys. It is a
Go slice: a nil segment and an empty one are different values, which `GetLabelMap` keeps
apart (nil gives a nil map, empty an empty one) and `Compare` does not. The capacity
controller identifies segments by their address: a `SegmentRef` is a pointer to a segment,
and two pointers are the same when their addresses are; the content behind an address never
changes.

`strings.Compare` compares the UTF-8 bytes of two strings, which orders them as their code
points, the order `compare` has on Lean strings.
-/

namespace CsiProvisioner.Capacity.Topology

open Go Api

/-- `SegmentEntry`: one topology key/value pair. -/
structure SegmentEntry where
  key : String
  value : String
  deriving DecidableEq, Repr

/-- `SegmentEntry.Compare`: by key, then by value. -/
def SegmentEntry.Compare (se other : SegmentEntry) : Ordering :=
  match compare se.key other.key with
  | .eq => compare se.value other.value
  | cmp => cmp

/-- `Segment`: the pairs of a topology segment, nil or not. -/
abbrev Segment := Slice SegmentEntry

def compareEntries : List SegmentEntry → List SegmentEntry → Ordering
  | se :: rest, other :: others =>
    match se.Compare other with
    | .eq => compareEntries rest others
    | cmp => cmp
  | _, _ => .eq

/-- `Segment.Compare`: shorter segments first, then entry by entry. -/
def Segment.Compare (s other : Segment) : Ordering :=
  if s.toList.length < other.toList.length then .lt
  else if s.toList.length > other.toList.length then .gt
  else compareEntries s.toList other.toList

/-- `Segment.GetLabelMap`: nil for a nil segment, otherwise the map of its pairs. -/
def Segment.GetLabelMap (s : Segment) : Map String String :=
  s.map fun entries => entries.foldl (fun labels entry => labels.insert entry.key entry.value) ∅

def Segment.GetLabelSelector (s : Segment) : LabelSelector := ⟨s.GetLabelMap⟩

/-- The order of `sort.Sort` on a segment: `Less` is `Compare < 0`, so a sorted segment has
no entry greater than a later one. -/
def SegmentEntry.le (se other : SegmentEntry) : Prop := se.Compare other ≠ .gt

instance : DecidableRel SegmentEntry.le := fun se other =>
  inferInstanceAs (Decidable (se.Compare other ≠ .gt))

/-- `sort.Sort(&segment)`. The order is total and antisymmetric, so every sorting algorithm
gives the same result. -/
def Segment.sort (s : Segment) : Segment := s.map (List.insertionSort SegmentEntry.le)

structure SegmentRef where
  addr : Nat
  segment : Segment
  deriving DecidableEq, Repr

/-! ### Comparing entries -/

lemma SegmentEntry.Compare_swap (se other : SegmentEntry) :
    other.Compare se = (se.Compare other).swap := by
  unfold SegmentEntry.Compare
  rw [Std.OrientedOrd.eq_swap (a := other.key)]
  cases hkey : compare se.key other.key <;>
    simp [Std.OrientedOrd.eq_swap (a := other.value)]

@[simp] lemma SegmentEntry.Compare_eq_iff {se other : SegmentEntry} :
    se.Compare other = .eq ↔ se = other := by
  obtain ⟨key, value⟩ := se
  obtain ⟨key', value'⟩ := other
  simp only [SegmentEntry.Compare, SegmentEntry.mk.injEq]
  cases hkey : compare key key'
  · have hne : key ≠ key' := ne_of_lt (compare_lt_iff_lt.mp hkey)
    simp [hne]
  · simp [compare_eq_iff_eq.mp hkey]
  · have hne : key ≠ key' := ne_of_gt (compare_gt_iff_gt.mp hkey)
    simp [hne]

lemma SegmentEntry.ne_of_Compare_ne {se other : SegmentEntry} (h : se.Compare other ≠ .eq) :
    se ≠ other :=
  fun heq => h (SegmentEntry.Compare_eq_iff.mpr heq)

lemma SegmentEntry.le_iff {se other : SegmentEntry} :
    se.le other ↔ se.key < other.key ∨ (se.key = other.key ∧ se.value ≤ other.value) := by
  unfold SegmentEntry.le SegmentEntry.Compare
  cases hkey : compare se.key other.key
  · have hlt := compare_lt_iff_lt.mp hkey
    simp [hlt]
  · have heq := compare_eq_iff_eq.mp hkey
    simp only [Ne, compare_gt_iff_gt, not_lt, heq, lt_irrefl, false_or, true_and]
  · have hgt := compare_gt_iff_gt.mp hkey
    simp [not_lt.mpr hgt.le, hgt.ne']

instance : Std.Total SegmentEntry.le where
  total se other := by
    rw [SegmentEntry.le_iff, SegmentEntry.le_iff]
    rcases lt_trichotomy se.key other.key with h | h | h
    · exact .inl (.inl h)
    · exact (le_total se.value other.value).imp (fun hv => .inr ⟨h, hv⟩)
        (fun hv => .inr ⟨h.symm, hv⟩)
    · exact .inr (.inl h)

instance : IsTrans SegmentEntry SegmentEntry.le where
  trans a b c hab hbc := by
    rw [SegmentEntry.le_iff] at hab hbc ⊢
    rcases hab with hab | ⟨hab, hab'⟩ <;> rcases hbc with hbc | ⟨hbc, hbc'⟩
    · exact .inl (hab.trans hbc)
    · exact .inl (hbc ▸ hab)
    · exact .inl (hab ▸ hbc)
    · exact .inr ⟨hab.trans hbc, hab'.trans hbc'⟩

instance : Std.Antisymm SegmentEntry.le where
  antisymm se other h h' := by
    unfold SegmentEntry.le at h h'
    rw [SegmentEntry.Compare_swap] at h'
    cases hcmp : se.Compare other
    · simp [hcmp] at h'
    · exact SegmentEntry.Compare_eq_iff.mp hcmp
    · exact absurd hcmp h

/-! ### Comparing segments -/

lemma compareEntries_eq_iff {l l' : List SegmentEntry} (hlen : l.length = l'.length) :
    compareEntries l l' = .eq ↔ l = l' := by
  induction l generalizing l' with
  | nil =>
    cases l' with
    | nil => simp [compareEntries]
    | cons _ _ => simp at hlen
  | cons se rest ih =>
    cases l' with
    | nil => simp at hlen
    | cons other others =>
      have hrest : rest.length = others.length := by simpa using hlen
      unfold compareEntries
      cases hcmp : se.Compare other
      · have hne : se ≠ other := SegmentEntry.ne_of_Compare_ne (by rw [hcmp]; decide)
        simp [hne]
      · simp [SegmentEntry.Compare_eq_iff.mp hcmp, ih hrest]
      · have hne : se ≠ other := SegmentEntry.ne_of_Compare_ne (by rw [hcmp]; decide)
        simp [hne]

/-- **Two segments compare equal exactly when they hold the same entries in the same
order**, nil and empty alike. -/
theorem Segment.Compare_eq_iff {s other : Segment} :
    s.Compare other = .eq ↔ s.toList = other.toList := by
  unfold Segment.Compare
  by_cases hlt : s.toList.length < other.toList.length
  · simp only [hlt, if_true, reduceCtorEq, false_iff]
    exact fun h => absurd (h ▸ hlt) (lt_irrefl _)
  · by_cases hgt : s.toList.length > other.toList.length
    · simp only [hlt, hgt, if_true, if_false, reduceCtorEq, false_iff]
      exact fun h => absurd (h ▸ hgt) (lt_irrefl _)
    · simp only [hlt, hgt, if_false]
      exact compareEntries_eq_iff (by omega)

lemma eq_of_perm_of_sorted {l l' : List SegmentEntry} (hperm : l.Perm l')
    (hl : l.Pairwise SegmentEntry.le) (hl' : l'.Pairwise SegmentEntry.le) : l = l' :=
  hperm.eq_of_pairwise' hl hl'

lemma pairwise_sort (l : List SegmentEntry) :
    (List.insertionSort SegmentEntry.le l).Pairwise SegmentEntry.le :=
  List.pairwise_insertionSort _ l

/-! ### Label maps -/

@[simp] lemma GetLabelMap_none : Segment.GetLabelMap none = none := rfl

@[simp] lemma GetLabelMap_some_nil : Segment.GetLabelMap (some []) = some ∅ := rfl

lemma GetLabelMap_some_cons (entry : SegmentEntry) (rest : List SegmentEntry) :
    ∃ labels, Segment.GetLabelMap (some (entry :: rest)) = some labels ∧ labels.entries ≠ [] := by
  refine ⟨_, rfl, ?_⟩
  -- each `insert` leaves an entry for its key
  have hinserts : ∀ (l : List SegmentEntry) (labels : StrMap), labels.entries ≠ [] →
      (l.foldl (fun labels entry => labels.insert entry.key entry.value) labels).entries ≠ [] := by
    intro l
    induction l with
    | nil => exact fun _ h => h
    | cons e l ih => exact fun _ _ => ih _ (by simp [AList.entries_insert])
  exact hinserts rest _ (by simp)

end CsiProvisioner.Capacity.Topology
