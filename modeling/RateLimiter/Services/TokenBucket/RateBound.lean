import RateLimiter.Services.TokenBucket.Invariant

open rate_limiter.go

namespace rate_limiter.services

section Window

variable {C P t0 t1 t2 : Int} {tb : tokenBucket}

/-- What a bucket can still admit inside the window `[t1, t2]`: while its refill clock lags
    a period or more behind `t1`, a full bucket and one token per period of the window
    rounded up; afterwards the tokens it holds and one per whole period left before `t2`. -/
def tokenBucket.windowBudget (C P t1 t2 : Int) (tb : tokenBucket) : Int :=
  if t1 - P < tb.lastRefill then Max.max 0 tb.tokens + Max.max 0 ((t2 - tb.lastRefill) / P)
  else C + (t2 - t1 + P - 1) / P

theorem tokenBucket.windowBudget_nonneg (hC : 0 ≤ C) (hP : 0 < P) (ht : t1 ≤ t2) :
    0 ≤ tb.windowBudget C P t1 t2 := by
  have := Int.ediv_nonneg (by omega : 0 ≤ t2 - t1 + P - 1) hP.le
  unfold tokenBucket.windowBudget
  split <;> omega

/-- Once the refill clock is within a period of `t1`, the budget loses exactly what the
    bucket gives away. -/
theorem tokenBucket.windowBudget_take (h : t1 - P < tb.lastRefill) {n : Int} (hn : 0 ≤ n)
    (hnt : n ≤ tb.tokens) :
    n + { tb with tokens := tb.tokens - n }.windowBudget C P t1 t2 = tb.windowBudget C P t1 t2 := by
  simp only [tokenBucket.windowBudget, if_pos h]
  omega

theorem tokenBucket.windowBudget_take_le {n : Int} (hn : 0 ≤ n) :
    { tb with tokens := tb.tokens - n }.windowBudget C P t1 t2 ≤ tb.windowBudget C P t1 t2 := by
  unfold tokenBucket.windowBudget
  dsimp only
  split
  · omega
  · exact le_rfl

/-- A refill at a reading inside or before the window never raises the budget: the periods
    it adds were already counted, and a refill that catches up from a lag is capped at a full
    bucket. -/
theorem tokenBucket.windowBudget_refill (hv : tb.Valid C P t0) (hC : 1 ≤ C) (hP : 0 < P)
    {s : Int} (hle : tb.lastRefill ≤ s) (hs : s ≤ t2) :
    (tb.refill s).windowBudget C P t1 t2 ≤ tb.windowBudget C P t1 t2 := by
  obtain ⟨hr, hlo, hhi⟩ := tokenBucket.refill_valid hv hC hP hle
  have hrate := hv.refillRate_eq
  obtain ⟨heq, -, -⟩ := tokenBucket.refill_lastRefill hle (hrate ▸ hP)
  have htok := tokenBucket.refill_tokens_pos_le hle (hrate ▸ hP) hv.tokens_ge
  rw [hrate] at heq htok
  have hp := Int.ediv_nonneg (by omega : 0 ≤ s - tb.lastRefill) hP.le
  have hshift : (t2 - (tb.refill s).lastRefill) / P = (t2 - tb.lastRefill) / P - (s - tb.lastRefill) / P := by
    rw [heq, sub_add_mul_ediv hP]
  have hrest := Int.ediv_nonneg (by omega : 0 ≤ t2 - (tb.refill s).lastRefill) hP.le
  have hadv : 0 ≤ (s - tb.lastRefill) / P * P := mul_nonneg hp hP.le
  have hcap := hr.tokens_le
  unfold tokenBucket.windowBudget
  by_cases h1 : t1 - P < tb.lastRefill
  · rw [if_pos h1, if_pos (by omega)]
    omega
  · rw [if_neg h1]
    by_cases h2 : t1 - P < (tb.refill s).lastRefill
    · have hK : (t2 - (tb.refill s).lastRefill) / P ≤ (t2 - t1 + P - 1) / P :=
        Int.ediv_le_ediv hP (by omega)
      rw [if_pos h2]
      omega
    · rw [if_neg h2]

/-- One call at a reading not after `t2`: what it admits inside the window plus the budget
    left afterwards is at most the budget before. -/
theorem tokenBucket.windowBudget_call (hv : tb.Valid C P t0) (hC : 1 ≤ C) (hP : 0 < P) (c : Call)
    (hle : tb.lastRefill ≤ c.now) (hs : c.now ≤ t2) :
    (if (tb.call c).1 ∧ t1 ≤ c.now ∧ c.now ≤ t2 then c.units else 0) +
      (tb.call c).2.windowBudget C P t1 t2 ≤ tb.windowBudget C P t1 t2 := by
  have hrefill := @tokenBucket.windowBudget_refill C P t0 t1 t2 tb hv hC hP _ hle hs
  cases c with
  | request n now =>
    simp only [Call.now, Call.units] at hle hs hrefill ⊢
    by_cases hn : n < 0
    · simp [tokenBucket.call_request_of_neg hn]
    rw [tokenBucket.call_request (by omega)]
    split
    · rename_i hnt
      by_cases hin : t1 ≤ now
      · obtain ⟨-, hlo, -⟩ := tokenBucket.refill_valid hv hC hP hle
        have := @tokenBucket.windowBudget_take C P t1 t2 (tb.refill now) (by omega) _ (by omega) hnt
        simp only [hin, hs, and_self, if_true]
        omega
      · have := @tokenBucket.windowBudget_take_le C P t1 t2 (tb.refill now) _ (by omega : 0 ≤ n)
        simp only [hin, false_and, and_false, if_false]
        omega
    · simpa using hrefill
  | status now =>
    simpa [tokenBucket.call_status] using hrefill

theorem NewTokenBucket_windowBudget_le (hC : 1 ≤ C) (hP : 0 < P) (ht : t1 ≤ t2) :
    (NewTokenBucket C P t0).windowBudget C P t1 t2 ≤ C + (t2 - t1 + P - 1) / P := by
  have hK := Int.ediv_nonneg (by omega : 0 ≤ t2 - t1 + P - 1) hP.le
  simp only [tokenBucket.windowBudget, NewTokenBucket]
  split
  · have : (t2 - t0) / P ≤ (t2 - t1 + P - 1) / P := Int.ediv_le_ediv hP (by omega)
    omega
  · exact le_rfl

end Window

/-- Token-bucket rate bound: on every run of an in-memory bucket made by
    `NewTokenBucket C P t0`, with calls at non-decreasing times and requests of any size, the
    requests that return true at times in a window `[t1, t2]` total at most a full bucket plus
    one token per period of the window, rounded up. -/
theorem tokenBucket_window_admitted_le (C P t0 t1 t2 : Int) (calls : List Call) (hC : 1 ≤ C)
    (hP : 0 < P) (htimes : List.Chain (· ≤ ·) t0 (calls.map Call.now)) (ht : t1 ≤ t2) :
    admittedIn tokenBucket.call t1 t2 (NewTokenBucket C P t0) calls ≤
      C + ⌈((t2 - t1 : Int) : ℚ) / P⌉ := by
  have hrun := admittedIn_le_budget tokenBucket.call t1 t2 (fun _ => True)
    (fun t tb => tb.Valid C P t0 ∧ tb.lastRefill ≤ t) (tokenBucket.windowBudget C P t1 t2)
    (fun _ _ _ => tokenBucket.windowBudget_nonneg (by omega) hP ht)
    (fun _ _ c _ h ht' hs => ⟨tokenBucket.call_valid h.1 hC hP c (le_trans h.2 ht'),
      tokenBucket.windowBudget_call h.1 hC hP c (le_trans h.2 ht') hs⟩)
    calls _ t0 (fun _ _ => trivial) ⟨NewTokenBucket_valid hC, le_rfl⟩ htimes
  have hnew := @NewTokenBucket_windowBudget_le C P t0 t1 t2 hC hP ht
  have hceil : (t2 - t1 + P - 1) / P ≤ ⌈((t2 - t1 : Int) : ℚ) / P⌉ :=
    le_ceil_div hP (by have := Int.ediv_mul_le (t2 - t1 + P - 1) hP.ne'; nlinarith)
  omega

theorem tokenBucket_window_admitted_le_run :
    (1 : Int) ≤ 2 ∧ (0 : Int) < 10 ∧
      List.Chain (· ≤ ·) 0 ([Call.request 2 0, Call.request 1 10].map Call.now) ∧ (0 : Int) ≤ 10 ∧
      admittedIn tokenBucket.call 0 10 (NewTokenBucket 2 10 0) [Call.request 2 0, Call.request 1 10] ≤
        2 + ⌈((10 - 0 : Int) : ℚ) / 10⌉ :=
  have htimes : List.Chain (· ≤ ·) 0 ([Call.request 2 0, Call.request 1 10].map Call.now) := by
    simp [Call.now]
  ⟨by decide, by decide, htimes, by decide,
    tokenBucket_window_admitted_le 2 10 0 0 10 _ (by decide) (by decide) htimes (by decide)⟩

end rate_limiter.services
