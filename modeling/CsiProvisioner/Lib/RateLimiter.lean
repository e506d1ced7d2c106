import Mathlib.Algebra.Group.Int.Defs
import Mathlib.Algebra.Group.Nat.Defs
import Mathlib.Data.List.Induction
import Mathlib.Logic.Function.Basic
import CsiProvisioner.Lib.WorkQueue

/-!
The rate limiter of a work queue, and the queue that asks it how long an item that failed
waits before it comes back (`k8s.io/client-go/util/workqueue`).

`ItemExponentialFailureRateLimiter` counts the failures of each item since it was last
forgotten, and lets an item with `n` failures wait `baseDelay * 2 ^ n`, capped at `maxDelay`.
Durations are nanoseconds. The code multiplies in float64: a base delay below 2^53 ns (about
104 days) and a power of two multiply exactly, and the model computes the product on
naturals. The cut-off at `math.MaxInt64`, which as a float64 is 2^63, stays as it is: a
product of exactly 2^63 passes it, and its conversion to a duration is out of range.

The queue's invariant is that an item with a failure on record is still held for a worker.
A worker that forgets an item when its handler succeeds and adds it back rate limited when
the handler fails keeps it; a worker that gives up on an item without forgetting it does
not.
-/

namespace WorkQueue

/-- `ItemExponentialFailureRateLimiter`: the failures of each item (an item never seen has
none), the delay after one failure, and the longest delay. -/
structure ItemExponentialFailureRateLimiter (α : Type*) where
  failures : α → Nat
  baseDelay : Nat
  maxDelay : Nat
  /-- Below 2^53 ns, `float64(baseDelay) * 2^n` is exact. -/
  baseDelay_lt : baseDelay < 2 ^ 53
  /-- A `time.Duration` is an int64. -/
  maxDelay_lt : maxDelay < 2 ^ 63

def NewItemExponentialFailureRateLimiter {α : Type*} (baseDelay maxDelay : Nat)
    (hbase : baseDelay < 2 ^ 53) (hmax : maxDelay < 2 ^ 63) :
    ItemExponentialFailureRateLimiter α :=
  ⟨fun _ => 0, baseDelay, maxDelay, hbase, hmax⟩

@[simp] lemma NewItemExponentialFailureRateLimiter_baseDelay {α : Type*} (baseDelay maxDelay : Nat)
    (hbase : baseDelay < 2 ^ 53) (hmax : maxDelay < 2 ^ 63) :
    (NewItemExponentialFailureRateLimiter baseDelay maxDelay hbase hmax :
      ItemExponentialFailureRateLimiter α).baseDelay = baseDelay := rfl

@[simp] lemma NewItemExponentialFailureRateLimiter_maxDelay {α : Type*} (baseDelay maxDelay : Nat)
    (hbase : baseDelay < 2 ^ 53) (hmax : maxDelay < 2 ^ 63) :
    (NewItemExponentialFailureRateLimiter baseDelay maxDelay hbase hmax :
      ItemExponentialFailureRateLimiter α).maxDelay = maxDelay := rfl

/-- `time.Duration(f)` of a float64 `f` that holds the whole number `x`: exact below 2^63.
Beyond, Go leaves the result to the implementation; amd64 gives `math.MinInt64`. -/
def durationOfFloat (x : Nat) : Int := if x < 2 ^ 63 then x else -2 ^ 63

/-- The delay of an item with `n` failures: `baseDelay * 2 ^ n` up to `maxDelay`, except
that a product of exactly 2^63 converts out of range. -/
def backoffDelay (baseDelay maxDelay n : Nat) : Int :=
  if baseDelay * 2 ^ n = 2 ^ 63 then -2 ^ 63 else min ((baseDelay * 2 ^ n : Nat) : Int) maxDelay

namespace ItemExponentialFailureRateLimiter

variable {α : Type*} [DecidableEq α]

/-- `When`: the delay before the item's next retry, and the limiter with one more failure
of the item. -/
def when (r : ItemExponentialFailureRateLimiter α) (item : α) :
    Int × ItemExponentialFailureRateLimiter α :=
  let exp := r.failures item
  let r' := { r with failures := Function.update r.failures item (exp + 1) }
  let backoff := r.baseDelay * 2 ^ exp
  if backoff > 2 ^ 63 then (r.maxDelay, r')
  else
    let calculated := durationOfFloat backoff
    if calculated > r.maxDelay then (r.maxDelay, r') else (calculated, r')

/-- `NumRequeues`. -/
def numRequeues (r : ItemExponentialFailureRateLimiter α) (item : α) : Nat := r.failures item

/-- `Forget`: the item's failures are deleted. -/
def forget (r : ItemExponentialFailureRateLimiter α) (item : α) :
    ItemExponentialFailureRateLimiter α :=
  { r with failures := Function.update r.failures item 0 }

lemma when_eq (r : ItemExponentialFailureRateLimiter α) (item : α) :
    r.when item = (backoffDelay r.baseDelay r.maxDelay (r.failures item),
      { r with failures := Function.update r.failures item (r.failures item + 1) }) := by
  have hmax := r.maxDelay_lt
  unfold when backoffDelay durationOfFloat
  dsimp only
  generalize r.baseDelay * 2 ^ r.failures item = backoff
  -- the three exits: beyond the cut-off, out of range at exactly 2^63, and below it
  split_ifs <;> refine Prod.ext ?_ rfl <;> simp only <;> omega

@[simp] lemma when_fst (r : ItemExponentialFailureRateLimiter α) (item : α) :
    (r.when item).1 = backoffDelay r.baseDelay r.maxDelay (r.failures item) := by
  rw [when_eq]

@[simp] lemma when_baseDelay (r : ItemExponentialFailureRateLimiter α) (item : α) :
    (r.when item).2.baseDelay = r.baseDelay := by
  rw [when_eq]

@[simp] lemma when_maxDelay (r : ItemExponentialFailureRateLimiter α) (item : α) :
    (r.when item).2.maxDelay = r.maxDelay := by
  rw [when_eq]

@[simp] lemma when_failures (r : ItemExponentialFailureRateLimiter α) (item : α) :
    (r.when item).2.failures = Function.update r.failures item (r.failures item + 1) := by
  rw [when_eq]

@[simp] lemma forget_baseDelay (r : ItemExponentialFailureRateLimiter α) (item : α) :
    (r.forget item).baseDelay = r.baseDelay := rfl

@[simp] lemma forget_maxDelay (r : ItemExponentialFailureRateLimiter α) (item : α) :
    (r.forget item).maxDelay = r.maxDelay := rfl

@[simp] lemma forget_failures (r : ItemExponentialFailureRateLimiter α) (item : α) :
    (r.forget item).failures = Function.update r.failures item 0 := rfl

lemma backoffDelay_le (baseDelay maxDelay n : Nat) :
    backoffDelay baseDelay maxDelay n ≤ maxDelay := by
  unfold backoffDelay
  split_ifs <;> omega

lemma backoffDelay_of_ne {baseDelay maxDelay n : Nat} (h : baseDelay * 2 ^ n ≠ 2 ^ 63) :
    backoffDelay baseDelay maxDelay n = min ((baseDelay * 2 ^ n : Nat) : Int) maxDelay := by
  rw [backoffDelay, if_neg h]

/-! ### Runs of calls -/

inductive Call (α : Type*)
  | when (item : α)
  | forget (item : α)
  deriving DecidableEq

def apply (r : ItemExponentialFailureRateLimiter α) : Call α → ItemExponentialFailureRateLimiter α
  | .when item => (r.when item).2
  | .forget item => r.forget item

/-- The limiter after the calls, in order. -/
def runCalls (r : ItemExponentialFailureRateLimiter α) (calls : List (Call α)) :
    ItemExponentialFailureRateLimiter α :=
  calls.foldl apply r

@[simp] lemma runCalls_append_singleton (r : ItemExponentialFailureRateLimiter α)
    (calls : List (Call α)) (c : Call α) :
    r.runCalls (calls ++ [c]) = (r.runCalls calls).apply c := by
  simp [runCalls]

/-- The `When` calls for an item since its last `Forget`, or since the start. -/
def sinceForget (item : α) (calls : List (Call α)) : Nat :=
  (calls.reverse.takeWhile (· != .forget item)).count (.when item)

@[simp] lemma sinceForget_nil (item : α) : sinceForget item ([] : List (Call α)) = 0 := rfl

lemma sinceForget_append_when (item : α) (calls : List (Call α)) (x : α) :
    sinceForget item (calls ++ [.when x]) =
      sinceForget item calls + if x = item then 1 else 0 := by
  have hne : (Call.when x != Call.forget item) = true := by simp
  unfold sinceForget
  rw [List.reverse_append, List.reverse_singleton, List.singleton_append,
    List.takeWhile_cons_of_pos (p := fun c => c != Call.forget item) hne, List.count_cons]
  by_cases hx : x = item <;> simp [hx]

lemma sinceForget_append_forget (item : α) (calls : List (Call α)) (x : α) :
    sinceForget item (calls ++ [.forget x]) =
      if x = item then 0 else sinceForget item calls := by
  unfold sinceForget
  rw [List.reverse_append, List.reverse_singleton, List.singleton_append]
  by_cases hx : x = item
  · subst hx
    simp
  · have hne : (Call.forget x != Call.forget item) = true := by simp [hx]
    rw [List.takeWhile_cons_of_pos (p := fun c => c != Call.forget item) hne, List.count_cons]
    simp [hx]

/-- **The failure count is the number of `When` calls since the last `Forget`.** After any
run of calls on a new limiter, `NumRequeues` of an item counts the `When` calls for it
since it was last forgotten, whatever was asked of the other items in between. -/
theorem numRequeues_runCalls (baseDelay maxDelay : Nat) (hbase : baseDelay < 2 ^ 53)
    (hmax : maxDelay < 2 ^ 63) (calls : List (Call α)) (item : α) :
    ((NewItemExponentialFailureRateLimiter baseDelay maxDelay hbase hmax).runCalls
      calls).numRequeues item = sinceForget item calls := by
  induction calls using List.reverseRecOn with
  | nil => rfl
  | append_singleton calls c ih =>
    rw [runCalls_append_singleton]
    cases c with
    | when x =>
      rw [sinceForget_append_when, ← ih]
      by_cases hx : x = item
      · subst hx
        simp [apply, numRequeues]
      · simp [apply, numRequeues, Function.update_of_ne (Ne.symm hx), hx]
    | forget x =>
      rw [sinceForget_append_forget, ← ih]
      by_cases hx : x = item
      · subst hx
        simp [apply, numRequeues]
      · simp [apply, numRequeues, Function.update_of_ne (Ne.symm hx), hx]

@[simp] lemma runCalls_baseDelay (r : ItemExponentialFailureRateLimiter α)
    (calls : List (Call α)) : (r.runCalls calls).baseDelay = r.baseDelay := by
  induction calls using List.reverseRecOn with
  | nil => rfl
  | append_singleton calls c ih =>
    cases c <;> simp [apply, ih]

@[simp] lemma runCalls_maxDelay (r : ItemExponentialFailureRateLimiter α)
    (calls : List (Call α)) : (r.runCalls calls).maxDelay = r.maxDelay := by
  induction calls using List.reverseRecOn with
  | nil => rfl
  | append_singleton calls c ih =>
    cases c <;> simp [apply, ih]

end ItemExponentialFailureRateLimiter

/-! ### The rate-limiting queue -/

/-- `rateLimitingType`: a work queue, and the rate limiter it asks for the delays. -/
structure RateLimitingQueue (α : Type*) where
  queue : Queue α
  rateLimiter : ItemExponentialFailureRateLimiter α

namespace RateLimitingQueue

variable {α : Type*} [DecidableEq α]

def add (q : RateLimitingQueue α) (x : α) : RateLimitingQueue α :=
  { q with queue := q.queue.add x }

def get (q : RateLimitingQueue α) : Option (α × RateLimitingQueue α) :=
  q.queue.get.map fun (x, queue) => (x, { q with queue := queue })

def done (q : RateLimitingQueue α) (x : α) : RateLimitingQueue α :=
  { q with queue := q.queue.done x }

/-- `AddRateLimited`: `AddAfter` the limiter's delay; with no delay the item is added at
once. -/
def addRateLimited (q : RateLimitingQueue α) (x : α) : RateLimitingQueue α :=
  let delay := (q.rateLimiter.when x).1
  { queue := if delay ≤ 0 then q.queue.add x else q.queue.addRateLimited x
    rateLimiter := (q.rateLimiter.when x).2 }

def forget (q : RateLimitingQueue α) (x : α) : RateLimitingQueue α :=
  { q with rateLimiter := q.rateLimiter.forget x }

def numRequeues (q : RateLimitingQueue α) (x : α) : Nat := q.rateLimiter.numRequeues x

def fire (q : RateLimitingQueue α) (x : α) : Option (RateLimitingQueue α) :=
  (q.queue.fire x).map fun queue => { q with queue := queue }

@[simp] lemma add_rateLimiter (q : RateLimitingQueue α) (x : α) :
    (q.add x).rateLimiter = q.rateLimiter := rfl

@[simp] lemma done_rateLimiter (q : RateLimitingQueue α) (x : α) :
    (q.done x).rateLimiter = q.rateLimiter := rfl

@[simp] lemma forget_queue (q : RateLimitingQueue α) (x : α) : (q.forget x).queue = q.queue := rfl

@[simp] lemma numRequeues_forget_self (q : RateLimitingQueue α) (x : α) :
    (q.forget x).numRequeues x = 0 := by
  simp [forget, numRequeues, ItemExponentialFailureRateLimiter.numRequeues]

lemma numRequeues_forget_of_ne (q : RateLimitingQueue α) {x y : α} (hyx : y ≠ x) :
    (q.forget x).numRequeues y = q.numRequeues y := by
  simp [forget, numRequeues, ItemExponentialFailureRateLimiter.numRequeues,
    Function.update_of_ne hyx]

@[simp] lemma numRequeues_addRateLimited_self (q : RateLimitingQueue α) (x : α) :
    (q.addRateLimited x).numRequeues x = q.numRequeues x + 1 := by
  simp [addRateLimited, numRequeues, ItemExponentialFailureRateLimiter.numRequeues]

lemma numRequeues_addRateLimited_of_ne (q : RateLimitingQueue α) {x y : α} (hyx : y ≠ x) :
    (q.addRateLimited x).numRequeues y = q.numRequeues y := by
  simp [addRateLimited, numRequeues, ItemExponentialFailureRateLimiter.numRequeues,
    Function.update_of_ne hyx]

@[simp] lemma numRequeues_add (q : RateLimitingQueue α) (x y : α) :
    (q.add x).numRequeues y = q.numRequeues y := rfl

@[simp] lemma numRequeues_done (q : RateLimitingQueue α) (x y : α) :
    (q.done x).numRequeues y = q.numRequeues y := rfl

lemma get_eq_some {q q' : RateLimitingQueue α} {x : α} (h : q.get = some (x, q')) :
    q.queue.get = some (x, q'.queue) ∧ q'.rateLimiter = q.rateLimiter := by
  unfold get at h
  obtain ⟨⟨y, queue⟩, hget, heq⟩ := Option.map_eq_some_iff.mp h
  simp only [Prod.mk.injEq] at heq
  obtain ⟨rfl, rfl⟩ := heq
  exact ⟨hget, rfl⟩

lemma fire_eq_some {q q' : RateLimitingQueue α} {x : α} (h : q.fire x = some q') :
    q.queue.fire x = some q'.queue ∧ q'.rateLimiter = q.rateLimiter := by
  unfold fire at h
  obtain ⟨queue, hfire, rfl⟩ := Option.map_eq_some_iff.mp h
  exact ⟨hfire, rfl⟩

lemma addRateLimited_queue (q : RateLimitingQueue α) (x : α) :
    (q.addRateLimited x).queue = q.queue.add x ∨
      (q.addRateLimited x).queue = q.queue.addRateLimited x := by
  unfold addRateLimited
  dsimp only
  split_ifs
  · exact .inl rfl
  · exact .inr rfl

/-! ### Every item with a failure on record is held for a worker -/

/-- The queue keeps its shape, and holds every item with a failure on record for a worker. -/
structure Retrying (q : RateLimitingQueue α) : Prop where
  wf : q.queue.WF
  pending : ∀ x, 0 < q.numRequeues x → q.queue.Pending x

lemma Retrying.add {q : RateLimitingQueue α} (h : Retrying q) (x : α) : Retrying (q.add x) :=
  ⟨h.wf.add x, fun y hy => (h.pending y hy).add x⟩

lemma Retrying.get {q q' : RateLimitingQueue α} {x : α} (h : Retrying q)
    (hget : q.get = some (x, q')) : Retrying q' := by
  obtain ⟨hqueue, hlimiter⟩ := get_eq_some hget
  refine ⟨h.wf.get hqueue, fun y hy => ?_⟩
  have hy' : 0 < q.numRequeues y := by rwa [numRequeues, ← hlimiter]
  exact (h.pending y hy').get hqueue

omit [DecidableEq α] in
lemma Retrying.of_grows {q q' : RateLimitingQueue α} (h : Retrying q)
    (hqueue : Queue.Grows q.queue q'.queue) (hlimiter : q'.rateLimiter = q.rateLimiter) :
    Retrying q' := by
  refine ⟨hqueue.wf h.wf, fun y hy => ?_⟩
  have hy' : 0 < q.numRequeues y := by rwa [numRequeues, ← hlimiter]
  exact hqueue.pending h.wf y (h.pending y hy')

lemma Retrying.fire {q q' : RateLimitingQueue α} {x : α} (h : Retrying q)
    (hfire : q.fire x = some q') : Retrying q' := by
  obtain ⟨hqueue, hlimiter⟩ := fire_eq_some hfire
  exact h.of_grows (Queue.grows_fire hqueue) hlimiter

lemma pending_done_add_self (q : Queue α) (x : α) : ((q.add x).done x).Pending x := by
  have hdirty : x ∈ (q.add x).dirty := Queue.mem_add_dirty q x
  unfold Queue.done
  rw [if_pos hdirty]
  exact .inl (List.mem_append_right _ (List.mem_singleton_self x))

lemma wf_addRateLimited_done {q : RateLimitingQueue α} (hwf : q.queue.WF) {x : α}
    (hx : x ∈ q.queue.processing) : ((q.addRateLimited x).done x).queue.WF := by
  rcases addRateLimited_queue q x with hq | hq <;> simp only [done, hq]
  · exact (hwf.add x).done (by simpa using hx)
  · exact (hwf.addRateLimited x).done (by simpa using hx)

lemma pending_addRateLimited_done_self (q : RateLimitingQueue α) (x : α) :
    ((q.addRateLimited x).done x).queue.Pending x := by
  rcases addRateLimited_queue q x with hq | hq <;> simp only [done, hq]
  · exact pending_done_add_self q.queue x
  · refine .inr (.inr ?_)
    unfold Queue.done
    split_ifs <;> exact Queue.mem_addRateLimited_waiting q.queue x

lemma pending_addRateLimited_done_of_ne {q : RateLimitingQueue α} {x y : α} (hyx : y ≠ x)
    (h : q.queue.Pending y) : ((q.addRateLimited x).done x).queue.Pending y := by
  refine Queue.Pending.done hyx ?_
  rcases addRateLimited_queue q x with hq | hq <;> rw [hq]
  · exact h.add x
  · exact h.addRateLimited x

end RateLimitingQueue

end WorkQueue
