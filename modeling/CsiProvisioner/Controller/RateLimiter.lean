import CsiProvisioner.Lib.RateLimiter

/-!
The rate limiter that a provisioner in node deployment asks how long to wait before it tries
to become the owner of a claim (`pkg/controller/ratelimiter.go`): the work queue's
exponential failure rate limiter, with a random jitter of up to one base delay taken off
each delay, so that the provisioners of many nodes do not all try at once.
-/

namespace CsiProvisioner.Controller

open WorkQueue ItemExponentialFailureRateLimiter

/-- `rateLimiterWithJitter`: the limiter it wraps, and the bound of the jitter. -/
structure RateLimiterWithJitter (α : Type*) where
  rateLimiter : ItemExponentialFailureRateLimiter α
  baseDelay : Nat

variable {α : Type*} [DecidableEq α]

def newItemExponentialFailureRateLimiterWithJitter (baseDelay maxDelay : Nat)
    (hbase : baseDelay < 2 ^ 53) (hmax : maxDelay < 2 ^ 63) : RateLimiterWithJitter α :=
  ⟨NewItemExponentialFailureRateLimiter baseDelay maxDelay hbase hmax, baseDelay⟩

namespace RateLimiterWithJitter

/-- `When`, with the jitter `int64(float64(baseDelay) * rd.Float64())` that the random
source gave, a whole number of nanoseconds from 0 to `baseDelay`. -/
def when (r : RateLimiterWithJitter α) (item : α) (jitter : Nat) :
    Int × RateLimiterWithJitter α :=
  let delay := (r.rateLimiter.when item).1
  let r' := { r with rateLimiter := (r.rateLimiter.when item).2 }
  if jitter > delay then (0, r') else (delay - jitter, r')

/-- The limiter after `When` and `Forget` calls, in order; the jitter of a call changes no
state. -/
def runCalls (r : RateLimiterWithJitter α) (calls : List (Call α)) : RateLimiterWithJitter α :=
  { r with rateLimiter := r.rateLimiter.runCalls calls }

lemma when_fst (r : RateLimiterWithJitter α) (item : α) (jitter : Nat) :
    (r.when item jitter).1 =
      if (jitter : Int) > backoffDelay r.rateLimiter.baseDelay r.rateLimiter.maxDelay
          (r.rateLimiter.failures item)
      then 0
      else backoffDelay r.rateLimiter.baseDelay r.rateLimiter.maxDelay
        (r.rateLimiter.failures item) - jitter := by
  unfold when
  dsimp only
  rw [ItemExponentialFailureRateLimiter.when_fst]
  split_ifs <;> rfl

/-- **The node-deployment back-off.** After any run of `When` and `Forget` calls on the
limiter that `NewCSIProvisioner` builds, the next `When` for an item that was asked `k`
times since it was last forgotten never waits a negative time or longer than `maxDelay`;
and unless `baseDelay * 2 ^ k` is exactly 2^63, it waits the capped back-off
`min (baseDelay * 2 ^ k) maxDelay` less at most one base delay. -/
theorem when_after_calls (baseDelay maxDelay : Nat) (hbase : baseDelay < 2 ^ 53)
    (hmax : maxDelay < 2 ^ 63) (calls : List (Call α)) (item : α) (jitter : Nat)
    (hjitter : jitter ≤ baseDelay) :
    0 ≤ (((newItemExponentialFailureRateLimiterWithJitter baseDelay maxDelay hbase hmax).runCalls
        calls).when item jitter).1 ∧
      (((newItemExponentialFailureRateLimiterWithJitter baseDelay maxDelay hbase hmax).runCalls
        calls).when item jitter).1 ≤ maxDelay ∧
      (baseDelay * 2 ^ sinceForget item calls ≠ 2 ^ 63 →
        min ((baseDelay * 2 ^ sinceForget item calls : Nat) : Int) maxDelay - baseDelay ≤
          (((newItemExponentialFailureRateLimiterWithJitter baseDelay maxDelay hbase
            hmax).runCalls calls).when item jitter).1 ∧
        (((newItemExponentialFailureRateLimiterWithJitter baseDelay maxDelay hbase hmax).runCalls
            calls).when item jitter).1 ≤
          min ((baseDelay * 2 ^ sinceForget item calls : Nat) : Int) maxDelay) := by
  -- the failures on record are the `When` calls since the last `Forget`
  have hcount := numRequeues_runCalls baseDelay maxDelay hbase hmax calls item
  have hle := backoffDelay_le baseDelay maxDelay (sinceForget item calls)
  rw [numRequeues] at hcount
  simp only [newItemExponentialFailureRateLimiterWithJitter, runCalls, when_fst,
    runCalls_baseDelay, runCalls_maxDelay, NewItemExponentialFailureRateLimiter_baseDelay,
    NewItemExponentialFailureRateLimiter_maxDelay, hcount]
  refine ⟨by split_ifs <;> omega, by split_ifs <;> omega, fun hne => ?_⟩
  rw [backoffDelay_of_ne hne]
  split_ifs <;> omega

end RateLimiterWithJitter

theorem when_after_calls_node_defaults :
    (((newItemExponentialFailureRateLimiterWithJitter 20000000000 60000000000 (by decide)
      (by decide)).runCalls [.when "uid-1", .forget "uid-2", .when "uid-1"]).when "uid-1"
        5000000000).1 ≤ 60000000000 :=
  (RateLimiterWithJitter.when_after_calls 20000000000 60000000000 (by decide) (by decide)
    [.when "uid-1", .forget "uid-2", .when "uid-1"] "uid-1" 5000000000 (by decide)).2.1

end CsiProvisioner.Controller
