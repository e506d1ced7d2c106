import Mathlib.Logic.Function.Basic
import Mathlib.Order.Basic

/-!
Records that a server keeps in revisions: each revision carries the identity of its record and
a key that no revision of the record changes. A system holds revisions in several places at
once (the store, caches, messages in flight); it stays consistent when revisions held with one
identity have one key.

A step keeps that when every revision it holds afterwards revises one held before, with its
identity and key, or is the one new record it created. The server gives a new record an
identity it has never given out, and every identity held is one it gave out, so that the new
identity is held by no revision.
-/

namespace Revisions

variable {α ι κ : Type*} (id : α → ι) (key : α → κ)

/-- Held revisions with the same identity have the same key. -/
def Agree (held : α → Prop) : Prop :=
  ∀ a b, held a → held b → id a = id b → key a = key b

/-- Every held revision has an identity that was given out, one of `issued`. -/
def Fresh (held : α → Prop) (issued : List ι) : Prop :=
  ∀ a, held a → id a ∈ issued

variable {id key}

/-- `b` revises `a`: the same record, with the same key. -/
def Revises (id : α → ι) (key : α → κ) (a b : α) : Prop := id b = id a ∧ key b = key a

lemma Revises.refl (a : α) : Revises id key a a := ⟨rfl, rfl⟩

lemma Revises.trans {a b c : α} (h : Revises id key a b) (h' : Revises id key b c) :
    Revises id key a c :=
  ⟨h'.1.trans h.1, h'.2.trans h.2⟩

lemma Agree.of_revises {held held' : α → Prop} (h : Agree id key held)
    (hstep : ∀ b, held' b → ∃ a, held a ∧ Revises id key a b) : Agree id key held' := by
  intro b b' hb hb' hid
  obtain ⟨a, ha, hida, hkeya⟩ := hstep b hb
  obtain ⟨a', ha', hida', hkeya'⟩ := hstep b' hb'
  calc key b = key a := hkeya
    _ = key a' := h a a' ha ha' (hida.symm.trans (hid.trans hida'))
    _ = key b' := hkeya'.symm

lemma Agree.of_revises_or_new {held held' : α → Prop} (h : Agree id key held) {new : α}
    (hnew : ∀ a, held a → id a ≠ id new)
    (hstep : ∀ b, held' b → (∃ a, held a ∧ Revises id key a b) ∨ b = new) :
    Agree id key held' := by
  intro b b' hb hb' hid
  rcases hstep b hb with ⟨a, ha, hida, hkeya⟩ | rfl <;>
    rcases hstep b' hb' with ⟨a', ha', hida', hkeya'⟩ | rfl
  · calc key b = key a := hkeya
      _ = key a' := h a a' ha ha' (hida.symm.trans (hid.trans hida'))
      _ = key b' := hkeya'.symm
  · exact absurd (hida.symm.trans hid) (hnew a ha)
  · exact absurd (hida'.symm.trans hid.symm) (hnew a' ha')
  · rfl

lemma Fresh.ne {held : α → Prop} {issued : List ι} (h : Fresh id held issued) {a : α}
    (ha : held a) {i : ι} (hi : i ∉ issued) : id a ≠ i :=
  fun hid => hi (hid ▸ h a ha)

lemma Fresh.of_revises {held held' : α → Prop} {issued : List ι} (h : Fresh id held issued)
    (hstep : ∀ b, held' b → ∃ a, held a ∧ Revises id key a b) : Fresh id held' issued := by
  intro b hb
  obtain ⟨a, ha, hida, -⟩ := hstep b hb
  exact hida ▸ h a ha

lemma Fresh.of_revises_or_new {held held' : α → Prop} {issued : List ι}
    (h : Fresh id held issued) {new : α}
    (hstep : ∀ b, held' b → (∃ a, held a ∧ Revises id key a b) ∨ b = new) :
    Fresh id held' (issued ++ [id new]) := by
  intro b hb
  rcases hstep b hb with ⟨a, ha, hida, -⟩ | rfl
  · exact List.mem_append_left _ (hida ▸ h a ha)
  · exact List.mem_append_right _ (List.mem_singleton_self _)

end Revisions
