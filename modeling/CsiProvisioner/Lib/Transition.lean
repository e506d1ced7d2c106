import Mathlib.Logic.Relation

/-!
Systems given by a partial step function on events: their runs over lists of events, the
states reachable from an initial predicate, and the rule that a property kept by every
step holds in every reachable state.

Each controller of the development is such a system. Its events carry the choices that
the environment makes (which handler runs, which answer an API call gets, in which order
a map is iterated), so that one function computes the successor and a concrete run can be
evaluated.
-/

namespace Transition

variable {σ ε : Type*} (exec : σ → ε → Option σ)

def Step (s s' : σ) : Prop := ∃ e, exec s e = some s'

/-- The states reachable from a state satisfying `init`. -/
def Reachable (init : σ → Prop) (s : σ) : Prop :=
  ∃ s₀, init s₀ ∧ Relation.ReflTransGen (Step exec) s₀ s

/-- Runs the events of a list in order, and stops as soon as one is refused. -/
def run : σ → List ε → Option σ
  | s, [] => some s
  | s, e :: es => (exec s e).bind (run · es)

variable {exec}

@[simp] lemma run_nil (s : σ) : run exec s [] = some s := rfl

@[simp] lemma run_cons (s : σ) (e : ε) (es : List ε) :
    run exec s (e :: es) = (exec s e).bind (run exec · es) := rfl

theorem reflTransGen_of_run {s s' : σ} {es : List ε} (h : run exec s es = some s') :
    Relation.ReflTransGen (Step exec) s s' := by
  induction es generalizing s with
  | nil =>
    simp only [run_nil, Option.some.injEq] at h
    subst h
    exact Relation.ReflTransGen.refl
  | cons e es ih =>
    simp only [run_cons] at h
    cases he : exec s e with
    | none => simp [he] at h
    | some s₁ =>
      simp only [he, Option.bind_some] at h
      exact Relation.ReflTransGen.head ⟨e, he⟩ (ih h)

variable {init : σ → Prop}

lemma Reachable.of_init {s : σ} (h : init s) : Reachable exec init s :=
  ⟨s, h, Relation.ReflTransGen.refl⟩

lemma Reachable.step {s s' : σ} {e : ε} (hs : Reachable exec init s)
    (he : exec s e = some s') : Reachable exec init s' := by
  obtain ⟨s₀, h0, hr⟩ := hs
  exact ⟨s₀, h0, hr.tail ⟨e, he⟩⟩

lemma Reachable.of_run {s s' : σ} {es : List ε} (hs : Reachable exec init s)
    (h : run exec s es = some s') : Reachable exec init s' := by
  obtain ⟨s₀, h0, hr⟩ := hs
  exact ⟨s₀, h0, hr.trans (reflTransGen_of_run h)⟩

theorem exists_reachable_of_run {s₀ : σ} {es : List ε} {p : σ → Bool} (h0 : init s₀)
    (h : (run exec s₀ es).map p = some true) : ∃ s, Reachable exec init s ∧ p s = true := by
  cases hr : run exec s₀ es with
  | none => simp [hr] at h
  | some s =>
    simp only [hr, Option.map_some, Option.some.injEq] at h
    exact ⟨s, (Reachable.of_init h0).of_run hr, h⟩

/-- **Invariant rule**: a property of the initial states that every step keeps holds in
every reachable state. -/
theorem Reachable.invariant {P : σ → Prop} (h0 : ∀ s, init s → P s)
    (hstep : ∀ s e s', P s → exec s e = some s' → P s') {s : σ}
    (hs : Reachable exec init s) : P s := by
  obtain ⟨s₀, hi, hr⟩ := hs
  induction hr with
  | refl => exact h0 s₀ hi
  | tail _ hab ih =>
    obtain ⟨e, he⟩ := hab
    exact hstep _ e _ ih he

end Transition
