import RateLimiter.Services.LeakyBucket

open rate_limiter.go

namespace rate_limiter.services

/-- What a queue of `q` whose leak clock reads `l` can still admit up to `t2`: the room left
    plus one request per whole period before `t2`. -/
def leakBudget (C P t2 q l : Int) : Int := C - q + Max.max 0 ((t2 - l) / P)

section Budget

variable {C P t2 q l r n : Int}

/-- Draining `r` requests while the leak clock advances `r` periods, not past `t2`, leaves
    the budget as it was: a drained request is one period of the budget spent. -/
theorem leakBudget_drain (hP : 0 < P) (hr : 0 ≤ r) (hle : l + r * P ≤ t2) :
    leakBudget C P t2 (q - r) (l + r * P) = leakBudget C P t2 q l := by
  have hshift := sub_add_mul_ediv hP t2 l r
  have h0 := Int.ediv_nonneg (by omega : 0 ≤ t2 - (l + r * P)) hP.le
  unfold leakBudget
  omega

/-- Admitting `n` units moves them from the budget to what was admitted. -/
theorem leakBudget_add (n : Int) : n + leakBudget C P t2 (q + n) l = leakBudget C P t2 q l := by
  unfold leakBudget
  ring

theorem leakBudget_nonneg (hq : q ≤ C) : 0 ≤ leakBudget C P t2 q l := by
  unfold leakBudget
  omega

end Budget

/-- What a bucket made by `NewLeakyBucket C P t0` keeps while no `int64` sum wraps: its
    configuration, a queue in `[0, C]`, and a leak clock not before `t0`. -/
structure leakyBucket.Valid (C P t0 : Int) (lb : leakyBucket) : Prop where
  capacity_eq : lb.capacity = C
  leakRate_eq : lb.leakRate = P
  queue_nonneg : 0 ≤ lb.queue
  queue_le : lb.queue ≤ C
  start_le : t0 ≤ lb.lastLeak

section InMemory

variable {C P t0 t1 t2 : Int} {lb : leakyBucket}

/-- A leak keeps a valid bucket valid and its budget unchanged. -/
theorem leakyBucket.leak_budget (hv : lb.Valid C P t0) (hP : 0 < P) {now : Int}
    (hle : lb.lastLeak ≤ now) (hs : now ≤ t2) :
    (lb.leak now).Valid C P t0 ∧ (lb.leak now).lastLeak ≤ now ∧
      leakBudget C P t2 (lb.leak now).queue (lb.leak now).lastLeak =
        leakBudget C P t2 lb.queue lb.lastLeak := by
  obtain ⟨r, hr, hq, hl, hlnow, hnn⟩ := leakyBucket.leak_drained hle (hv.leakRate_eq ▸ hP)
  rw [hv.leakRate_eq] at hl
  have hrP : 0 ≤ r * P := mul_nonneg hr hP.le
  refine ⟨⟨by simp [hv.capacity_eq], by simp [hv.leakRate_eq], hnn hv.queue_nonneg,
    by have := hv.queue_le; omega, by have := hv.start_le; omega⟩, hlnow, ?_⟩
  rw [hq, hl]
  exact leakBudget_drain hP hr (by omega)

/-- One call with a request of at most `C`, while `2C` fits `int64`: what it admits plus the
    budget left is at most the budget before. -/
theorem leakyBucket.call_budget (hv : lb.Valid C P t0) (hP : 0 < P) (hC : C < 2 ^ 62) (c : Call)
    (hn : c.units ≤ C) (hle : lb.lastLeak ≤ c.now) (hs : c.now ≤ t2) :
    ((lb.call c).2.Valid C P t0 ∧ (lb.call c).2.lastLeak ≤ c.now) ∧
      (if (lb.call c).1 ∧ t1 ≤ c.now ∧ c.now ≤ t2 then c.units else 0) +
        leakBudget C P t2 (lb.call c).2.queue (lb.call c).2.lastLeak ≤
          leakBudget C P t2 lb.queue lb.lastLeak := by
  cases c with
  | request n now =>
    simp only [Call.now, Call.units] at hn hle hs ⊢
    obtain ⟨hv', hl', hb⟩ := leakyBucket.leak_budget hv hP hle hs
    by_cases hneg : n < 0
    · simp [leakyBucket.call, leakyBucket.TryAdd, hneg, hv, hle]
    have hq0 := hv'.queue_nonneg
    have hqC := hv'.queue_le
    have hcall := @leakyBucket.TryAdd_of_lt lb now n (by omega) (by omega) (by omega)
    rw [hv.capacity_eq] at hcall
    simp only [leakyBucket.call, hcall]
    by_cases hfit : (lb.leak now).queue + n ≤ C
    · simp only [if_pos hfit]
      refine ⟨⟨⟨hv'.capacity_eq, hv'.leakRate_eq, by dsimp only; omega, hfit, hv'.start_le⟩, hl'⟩, ?_⟩
      have := @leakBudget_add C P t2 (lb.leak now).queue (lb.leak now).lastLeak n
      split <;> omega
    · simp only [if_neg hfit]
      exact ⟨⟨hv', hl'⟩, by simp [hb]⟩
  | status now =>
    simp only [Call.now] at hle hs ⊢
    obtain ⟨hv', hl', hb⟩ := leakyBucket.leak_budget hv hP hle hs
    exact ⟨⟨hv', hl'⟩, by simp [leakyBucket.call, leakyBucket.GetStatus, hb]⟩

end InMemory

/-- Leaky-bucket admission bound counted from the bucket's creation: along calls at
    non-decreasing times from `t0`, each asking at most a full queue, the requests the in-memory
    bucket admits in a window ending at `t2` total at most a full queue plus one request per
    whole period since `t0`, while `queue + requests` cannot wrap `int64`. -/
theorem leakyBucket_admitted_le_since_creation (C P t0 t1 t2 : Int) (calls : List Call)
    (hC : 1 ≤ C) (hP : 0 < P) (htimes : List.Chain (· ≤ ·) t0 (calls.map Call.now))
    (ht : t0 ≤ t2) (hC62 : C < 2 ^ 62) (hcalls : ∀ c ∈ calls, c.units ≤ C) :
    admittedIn leakyBucket.call t1 t2 (NewLeakyBucket C P t0) calls ≤ C + (t2 - t0) / P := by
  have hbase := Int.ediv_nonneg (by omega : 0 ≤ t2 - t0) hP.le
  refine (admittedIn_le_budget leakyBucket.call t1 t2 (fun c => c.units ≤ C)
    (fun t lb => lb.Valid C P t0 ∧ lb.lastLeak ≤ t)
    (fun lb => leakBudget C P t2 lb.queue lb.lastLeak)
    (fun _ _ h => leakBudget_nonneg h.1.queue_le)
    (fun _ _ c hc h ht' hs => leakyBucket.call_budget h.1 hP hC62 c hc (le_trans h.2 ht') hs)
    calls (NewLeakyBucket C P t0) t0 hcalls
    ⟨⟨rfl, rfl, le_rfl, show (0 : Int) ≤ C by omega, le_rfl⟩, le_rfl⟩ htimes).trans ?_
  show C - 0 + Max.max 0 ((t2 - t0) / P) ≤ C + (t2 - t0) / P
  omega

theorem leakyBucket_admitted_le_since_creation_run :
    (1 : Int) ≤ 5 ∧ (0 : Int) < 200000000 ∧
      List.Chain (· ≤ ·) 0 ([Call.request 5 0, Call.request 5 1000000000].map Call.now) ∧
      (0 : Int) ≤ 1000000000 ∧ (5 : Int) < 2 ^ 62 ∧
      (∀ c ∈ [Call.request 5 0, Call.request 5 1000000000], c.units ≤ 5) ∧
      admittedIn leakyBucket.call 0 1000000000 (NewLeakyBucket 5 200000000 0)
        [Call.request 5 0, Call.request 5 1000000000] ≤ 5 + (1000000000 - 0) / 200000000 := by
  have htimes : List.Chain (· ≤ ·) 0
      ([Call.request 5 0, Call.request 5 1000000000].map Call.now) := by simp [Call.now]
  have hcalls : ∀ c ∈ [Call.request 5 0, Call.request 5 1000000000], c.units ≤ 5 := by
    simp [Call.units]
  exact ⟨by decide, by decide, htimes, by decide, by decide, hcalls,
    leakyBucket_admitted_le_since_creation 5 200000000 0 0 1000000000 _ (by decide) (by decide)
      htimes (by decide) (by decide) hcalls⟩

/-- Idle time is banked as drain credit: a queue of five that sat empty for a second (five
    periods) takes two requests of five at one instant, more than `C + ⌈0 / P⌉ = 5`. -/
theorem leakyBucket_idle_burst :
    List.Chain (· ≤ ·) 0 ([Call.request 5 1000000000, Call.request 5 1000000000].map Call.now) ∧
      5 + ⌈((1000000000 - 1000000000 : Int) : ℚ) / 200000000⌉ <
        admittedIn leakyBucket.call 1000000000 1000000000 (NewLeakyBucket 5 200000000 0)
          [Call.request 5 1000000000, Call.request 5 1000000000] := by
  have hrun : admittedIn leakyBucket.call 1000000000 1000000000 (NewLeakyBucket 5 200000000 0)
      [Call.request 5 1000000000, Call.request 5 1000000000] = 10 := by decide
  refine ⟨by simp [Call.now], ?_⟩
  rw [hrun]
  norm_num

end rate_limiter.services
