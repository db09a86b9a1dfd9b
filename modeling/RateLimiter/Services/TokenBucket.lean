import RateLimiter.Go.Int64
import RateLimiter.Services.Call

open rate_limiter.go

namespace rate_limiter.services

/-- The package's `min` helper on `int64`. -/
def min (a b : Int) : Int := if a < b then a else b

@[simp] theorem min_eq_min (a b : Int) : min a b = Min.min a b := by
  unfold min
  split <;> omega

/-- In-memory token bucket (`tokenBucket`), the fallback used when Redis is unavailable.
    Times are monotonic clock readings in nanoseconds, on which Go's `Time.Sub` is exact. The
    model runs the operations one at a time, so it covers serial runs only: `TryConsume` holds
    the write lock, but `GetStatus` holds only the read lock while its `refill` writes, and two
    concurrent status reads may interleave their writes. -/
structure tokenBucket where
  capacity : Int
  tokens : Int
  refillRate : Int
  lastRefill : Int
  deriving Repr, DecidableEq

/-- `NewTokenBucket`: a full bucket whose refill clock starts at `now`. -/
def NewTokenBucket (capacity refillRate now : Int) : tokenBucket :=
  { capacity := capacity, tokens := capacity, refillRate := refillRate, lastRefill := now }

/-- `tokenBucket.refill`: one token per whole `refillRate` elapsed since `lastRefill` (Go's
    truncating division), added by an unchecked `int64` addition and capped at the capacity;
    `lastRefill` advances by exactly the periods counted. -/
def tokenBucket.refill (tb : tokenBucket) (now : Int) : tokenBucket :=
  let refillPeriods := (now - tb.lastRefill).tdiv tb.refillRate
  if refillPeriods > 0 then
    { tb with
      tokens := min tb.capacity (addInt64 tb.tokens refillPeriods)
      lastRefill := tb.lastRefill + refillPeriods * tb.refillRate }
  else tb

/-- `tokenBucket.TryConsume`: a negative request is rejected before the bucket is touched;
    otherwise the bucket refills and gives the tokens if it holds enough. -/
def tokenBucket.TryConsume (tb : tokenBucket) (tokens now : Int) : Bool × tokenBucket :=
  if tokens < 0 then (false, tb)
  else
    let tb := tb.refill now
    if tb.tokens ≥ tokens then (true, { tb with tokens := tb.tokens - tokens }) else (false, tb)

/-- `tokenBucket.GetStatus`: refills, keeping the write, then reports the tokens left, the
    capacity and the next refill time `lastRefill + refillRate`. -/
def tokenBucket.GetStatus (tb : tokenBucket) (now : Int) : (Int × Int × Int) × tokenBucket :=
  let tb := tb.refill now
  ((tb.tokens, tb.capacity, tb.lastRefill + tb.refillRate), tb)

/-- A call on an in-memory token bucket; a status read admits nothing. -/
def tokenBucket.call (tb : tokenBucket) : Call → Bool × tokenBucket
  | .request n now => tb.TryConsume n now
  | .status now => (false, (tb.GetStatus now).2)

section Refill

variable {tb : tokenBucket} {now : Int}

@[simp] theorem tokenBucket.refill_capacity : (tb.refill now).capacity = tb.capacity := by
  dsimp only [tokenBucket.refill]; split <;> rfl

@[simp] theorem tokenBucket.refill_refillRate : (tb.refill now).refillRate = tb.refillRate := by
  dsimp only [tokenBucket.refill]; split <;> rfl

/-- On a clock that has not gone backwards, `refill` counts the whole periods elapsed by
    floor division. -/
theorem tokenBucket.refill_eq (hle : tb.lastRefill ≤ now) (hP : 0 < tb.refillRate) :
    tb.refill now =
      if 0 < (now - tb.lastRefill) / tb.refillRate then
        { tb with
          tokens := Min.min tb.capacity (addInt64 tb.tokens ((now - tb.lastRefill) / tb.refillRate))
          lastRefill := tb.lastRefill + (now - tb.lastRefill) / tb.refillRate * tb.refillRate }
      else tb := by
  rw [tokenBucket.refill, Int.tdiv_eq_ediv (by omega) hP.le]
  simp only [gt_iff_lt, min_eq_min]

/-- After a refill at `now` the refill clock lies within one period before `now`, and it has
    advanced by a whole number of periods. -/
theorem tokenBucket.refill_lastRefill (hle : tb.lastRefill ≤ now) (hP : 0 < tb.refillRate) :
    (tb.refill now).lastRefill = tb.lastRefill + (now - tb.lastRefill) / tb.refillRate * tb.refillRate ∧
      now - tb.refillRate < (tb.refill now).lastRefill ∧ (tb.refill now).lastRefill ≤ now := by
  have hlo := Int.lt_ediv_add_one_mul_self (now - tb.lastRefill) hP
  have hhi := Int.ediv_mul_le (now - tb.lastRefill) hP.ne'
  rw [tokenBucket.refill_eq hle hP]
  split
  · refine ⟨rfl, ?_, ?_⟩ <;> dsimp only <;> linarith
  · have hzero : (now - tb.lastRefill) / tb.refillRate = 0 := by
      have := Int.ediv_nonneg (by omega : 0 ≤ now - tb.lastRefill) hP.le
      omega
    rw [hzero] at hlo ⊢
    refine ⟨by simp, by linarith, hle⟩

theorem tokenBucket.refill_tokens_le (h : tb.tokens ≤ tb.capacity) :
    (tb.refill now).tokens ≤ tb.capacity := by
  dsimp only [tokenBucket.refill]
  split
  · exact (min_eq_min _ _).symm ▸ min_le_left _ _
  · exact h

theorem tokenBucket.refill_tokens_ge (hC : -2 ^ 63 ≤ tb.capacity) (h : -2 ^ 63 ≤ tb.tokens) :
    -2 ^ 63 ≤ (tb.refill now).tokens := by
  dsimp only [tokenBucket.refill]
  split
  · simp only [min_eq_min, le_min_iff]
    exact ⟨hC, addInt64_ge _ _⟩
  · exact h

/-- A refill adds at most one token per period counted, even when the `int64` addition
    wraps; it never creates tokens below zero either. -/
theorem tokenBucket.refill_tokens_pos_le (hle : tb.lastRefill ≤ now) (hP : 0 < tb.refillRate)
    (h : -2 ^ 63 ≤ tb.tokens) :
    Max.max 0 (tb.refill now).tokens ≤
      Max.max 0 tb.tokens + (now - tb.lastRefill) / tb.refillRate := by
  have hp := Int.ediv_nonneg (by omega : 0 ≤ now - tb.lastRefill) hP.le
  rw [tokenBucket.refill_eq hle hP]
  split
  · have hwrap := addInt64_le (a := tb.tokens) (b := (now - tb.lastRefill) / tb.refillRate) (by omega)
    simp only [max_le_iff]
    constructor
    · omega
    · have := min_le_right tb.capacity (addInt64 tb.tokens ((now - tb.lastRefill) / tb.refillRate))
      omega
  · omega

/-- A clock reading before the refill clock counts no period. -/
theorem tokenBucket.refill_of_lt (hP : 0 < tb.refillRate) (h : now < tb.lastRefill) :
    tb.refill now = tb := by
  have := tdiv_nonpos_of_neg (by omega : now - tb.lastRefill < 0) hP
  rw [tokenBucket.refill, if_neg (by omega)]

/-- Two refills compose into one: catching up at `t1` and then at `t2` is catching up at `t2`,
    while the tokens plus the whole periods up to `t2` fit `int64`. -/
theorem tokenBucket.refill_refill (hP : 0 < tb.refillRate) (hge : -2 ^ 63 ≤ tb.tokens)
    (hC : -2 ^ 63 ≤ tb.capacity) {t1 t2 : Int} (ht : t1 ≤ t2)
    (hfit : tb.tokens + (t2 - tb.lastRefill) / tb.refillRate < 2 ^ 63) :
    (tb.refill t1).refill t2 = tb.refill t2 := by
  by_cases hL : t1 < tb.lastRefill
  · rw [tokenBucket.refill_of_lt hP hL]
  obtain ⟨C, x, P, L⟩ := tb
  simp only at hP hge hC hL hfit ⊢
  have hadv := Int.ediv_mul_le (t1 - L) hP.ne'
  have hmono : (t1 - L) / P ≤ (t2 - L) / P := Int.ediv_le_ediv hP (by omega)
  rw [@tokenBucket.refill_eq ⟨C, x, P, L⟩ t1 (by simp only; omega) hP]
  simp only
  split
  · rw [@tokenBucket.refill_eq ⟨C, x, P, L⟩ t2 (by simp only; omega) hP,
      tokenBucket.refill_eq (by simp only; omega) hP]
    -- the second refill counts the periods the first one left, and neither sum wraps
    simp only [sub_add_mul_ediv hP, if_pos (show 0 < (t2 - L) / P by omega),
      addInt64_of_lt (a := x) (b := (t1 - L) / P) (by omega) (by omega),
      addInt64_of_lt (a := x) (b := (t2 - L) / P) (by omega) (by omega),
      addInt64_of_lt (a := Min.min C (x + (t1 - L) / P)) (b := (t2 - L) / P - (t1 - L) / P)
        (by omega) (by omega)]
    split
    · simp only [tokenBucket.mk.injEq, true_and]
      exact ⟨by omega, by ring⟩
    · have hp : (t2 - L) / P = (t1 - L) / P := by omega
      simp only [hp]
  · rfl

end Refill

end rate_limiter.services
