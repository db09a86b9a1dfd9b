import RateLimiter.Services.TokenBucket

open rate_limiter.go

namespace rate_limiter.services

/-- What a bucket made by `NewTokenBucket C P t0` keeps along every run at non-decreasing
    times: its configuration, tokens at most the capacity and not below `int64`'s minimum,
    and a refill clock on the grid `t0 + k * P`. Non-negative tokens are not part of it. -/
structure tokenBucket.Valid (C P t0 : Int) (tb : tokenBucket) : Prop where
  capacity_eq : tb.capacity = C
  refillRate_eq : tb.refillRate = P
  tokens_le : tb.tokens ≤ C
  tokens_ge : -2 ^ 63 ≤ tb.tokens
  start_le : t0 ≤ tb.lastRefill
  grid : P ∣ tb.lastRefill - t0

theorem NewTokenBucket_valid {C P t0 : Int} (hC : 1 ≤ C) :
    (NewTokenBucket C P t0).Valid C P t0 :=
  ⟨rfl, rfl, le_rfl, by simp only [NewTokenBucket]; omega, le_rfl, by simp [NewTokenBucket]⟩

section Calls

variable {C P t0 : Int} {tb : tokenBucket} {n now : Int}

theorem tokenBucket.call_request_of_neg (h : n < 0) :
    tb.call (.request n now) = (false, tb) := by
  simp [tokenBucket.call, tokenBucket.TryConsume, h]

theorem tokenBucket.call_request (h : 0 ≤ n) :
    tb.call (.request n now) =
      if n ≤ (tb.refill now).tokens then (true, { tb.refill now with tokens := (tb.refill now).tokens - n })
      else (false, tb.refill now) := by
  simp only [tokenBucket.call, tokenBucket.TryConsume, if_neg (not_lt.mpr h), ge_iff_le]

theorem tokenBucket.call_status : tb.call (.status now) = (false, tb.refill now) := rfl

/-- A refill at a clock reading not before the refill clock keeps the bucket valid and puts
    the refill clock within one period before the reading. -/
theorem tokenBucket.refill_valid (hv : tb.Valid C P t0) (hC : 1 ≤ C) (hP : 0 < P)
    (hle : tb.lastRefill ≤ now) :
    (tb.refill now).Valid C P t0 ∧ now - P < (tb.refill now).lastRefill ∧
      (tb.refill now).lastRefill ≤ now := by
  obtain ⟨hcap, hrate, hle', hge, hstart, hgrid⟩ := hv
  subst hcap hrate
  obtain ⟨heq, hlo, hhi⟩ := tokenBucket.refill_lastRefill hle hP
  have hp := Int.ediv_nonneg (by omega : 0 ≤ now - tb.lastRefill) hP.le
  refine ⟨⟨by simp, by simp, tokenBucket.refill_tokens_le hle',
    tokenBucket.refill_tokens_ge (by omega) hge, ?_, ?_⟩, hlo, hhi⟩
  · rw [heq]; nlinarith
  · rw [heq, show tb.lastRefill + (now - tb.lastRefill) / tb.refillRate * tb.refillRate - t0 =
      (tb.lastRefill - t0) + tb.refillRate * ((now - tb.lastRefill) / tb.refillRate) by ring]
    exact dvd_add hgrid (dvd_mul_right _ _)

/-- One call at a clock reading not before the refill clock keeps the bucket valid and the
    refill clock not after the reading. -/
theorem tokenBucket.call_valid (hv : tb.Valid C P t0) (hC : 1 ≤ C) (hP : 0 < P) (c : Call)
    (hle : tb.lastRefill ≤ c.now) :
    (tb.call c).2.Valid C P t0 ∧ (tb.call c).2.lastRefill ≤ c.now := by
  cases c with
  | request n now =>
    simp only [Call.now] at hle ⊢
    obtain ⟨hr, -, hhi⟩ := tokenBucket.refill_valid hv hC hP hle
    by_cases hn : n < 0
    · rw [tokenBucket.call_request_of_neg hn]
      exact ⟨hv, hle⟩
    · rw [tokenBucket.call_request (by omega)]
      split
      · have := hr.tokens_le
        exact ⟨⟨hr.capacity_eq, hr.refillRate_eq, by dsimp only; omega, by dsimp only; omega,
          hr.start_le, hr.grid⟩, hhi⟩
      · exact ⟨hr, hhi⟩
  | status now =>
    simp only [Call.now] at hle ⊢
    obtain ⟨hr, -, hhi⟩ := tokenBucket.refill_valid hv hC hP hle
    exact ⟨hr, hhi⟩

end Calls

/-- The `int64` refill overflows: a bucket of capacity `math.MaxInt64` refilling one token
    per nanosecond reports `math.MinInt64` tokens one nanosecond after it was created. -/
theorem tokenBucket_refill_overflow :
    (NewTokenBucket (2 ^ 63 - 1) 1 0).GetStatus 1 =
      ((-2 ^ 63, 2 ^ 63 - 1, 2),
        { capacity := 2 ^ 63 - 1, tokens := -2 ^ 63, refillRate := 1, lastRefill := 1 }) := by
  decide

end rate_limiter.services
