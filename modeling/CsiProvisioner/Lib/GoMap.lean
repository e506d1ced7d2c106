import Mathlib.Data.List.AList
import Mathlib.Data.List.Sort

/-!
Go maps and slices as the runtime holds them.

A map is nil or a finite map with distinct keys. Indexing a nil map is allowed and gives
the zero value, and `reflect.DeepEqual` tells a nil map from an empty one; where a model
never depends on that difference it uses the finite map alone. A `range` loop visits the
entries in an order that the runtime chooses anew each time: a model of such a loop takes
the order as an argument, a permutation of the entries.

A slice is nil or a list; `append` to a nil slice gives a non-nil one.

An order the runtime chooses, of a `range` over a map or of `rand.Shuffle`, is an
`Arrangement`: a permutation of each list. A model that quantifies over every arrangement
covers every order the runtime may choose.
-/

namespace Go

instance reprAList {κ ν : Type*} [Repr κ] [Repr ν] : Repr (AList (fun _ : κ => ν)) where
  reprPrec m _ := repr (m.entries.map fun e => (e.1, e.2))

/-- Equality of finite maps, decided on their entries so that it evaluates. -/
instance (priority := high) decidableEqAList {κ : Type*} {ν : κ → Type*} [DecidableEq κ]
    [∀ k, DecidableEq (ν k)] : DecidableEq (AList ν) := fun m m' =>
  decidable_of_iff (m.entries = m'.entries) AList.ext_iff.symm

/-- A map from strings to strings that is never nil where it is used. -/
abbrev StrMap := AList (fun _ : String => String)

/-- A map value: `none` is the nil map. -/
abbrev Map (κ ν : Type*) := Option (AList (fun _ : κ => ν))

/-- A slice value: `none` is the nil slice. -/
abbrev Slice (α : Type*) := Option (List α)

namespace Map

variable {κ ν : Type*} [DecidableEq κ]

/-- `v, ok := m[k]`. -/
def find? (m : Map κ ν) (k : κ) : Option ν := m.bind (AList.lookup k)

/-- `reflect.DeepEqual` on two maps whose values compare with `==`: both nil, or both
non-nil with the same keys mapped to equal values. -/
def deepEqual [DecidableEq ν] : Map κ ν → Map κ ν → Bool
  | none, none => true
  | some a, some b => decide (a.entries.Perm b.entries)
  | _, _ => false

@[simp] lemma deepEqual_none_none [DecidableEq ν] : deepEqual (none : Map κ ν) none = true :=
  rfl

@[simp] lemma deepEqual_some_none [DecidableEq ν] (a : AList (fun _ : κ => ν)) :
    deepEqual (some a) none = false := rfl

@[simp] lemma deepEqual_none_some [DecidableEq ν] (b : AList (fun _ : κ => ν)) :
    deepEqual none (some b) = false := rfl

@[simp] lemma deepEqual_some_some [DecidableEq ν] (a b : AList (fun _ : κ => ν)) :
    deepEqual (some a) (some b) = decide (a.entries.Perm b.entries) := rfl

end Map

namespace Slice

variable {α : Type*}

def toList : Slice α → List α
  | none => []
  | some l => l

/-- `append(s, x)`. -/
def append (s : Slice α) (x : α) : Slice α := some (s.toList ++ [x])

@[simp] lemma toList_none : toList (none : Slice α) = [] := rfl

@[simp] lemma toList_some (l : List α) : toList (some l) = l := rfl

@[simp] lemma toList_append (s : Slice α) (x : α) : (append s x).toList = s.toList ++ [x] :=
  rfl

end Slice

/-- An order that the runtime chooses for the elements of each list. -/
structure Arrangement (α : Type*) where
  arrange : List α → List α
  perm : ∀ l, (arrange l).Perm l

def Arrangement.id (α : Type*) : Arrangement α := ⟨fun l => l, List.Perm.refl⟩

/-- The arrangement that puts `a` first in the list `l`, and keeps every other list. -/
def Arrangement.front {α : Type*} [DecidableEq α] (l : List α) (a : α) (h : a ∈ l) :
    Arrangement α where
  arrange l' := if l' = l then a :: l.erase a else l'
  perm l' := by
    split_ifs with hl
    · subst hl
      exact (List.perm_cons_erase h).symm
    · exact List.Perm.refl l'

lemma Arrangement.front_arrange {α : Type*} [DecidableEq α] {l : List α} {a : α} (h : a ∈ l) :
    (Arrangement.front l a h).arrange l = a :: l.erase a :=
  if_pos rfl

/-- `fmt.Sprintf("%v", m)` for a `map[string]string`: the pairs `k:v` in increasing order of
the keys, separated by blanks, between `map[` and `]`. -/
def formatStrMap (m : StrMap) : String :=
  "map[" ++ " ".intercalate ((m.entries.insertionSort (fun a b => a.1 ≤ b.1)).map
    fun e => e.1 ++ ":" ++ e.2) ++ "]"

end Go
