import RateLimiter.Services.TokenBucket.Invariant
import RateLimiter.Services.LeakyBucket

open rate_limiter.go

namespace rate_limiter.services

/-- A probe: a call that only looks at a bucket, `GetStatus` or a request for zero units
    (`TryConsume(0)`, `TryAdd(0)`). -/
def Call.isProbe : Call → Bool
  | .request n _ => n == 0
  | .status _ => true

/-- A call of a run into which probes have been inserted: one of the run's own calls, or an
    inserted probe. -/
inductive Probed where
  | call (c : Call)
  | probe (c : Call)
  deriving Repr, DecidableEq

/-- The call the bucket receives. -/
def Probed.toCall : Probed → Call
  | .call c => c
  | .probe c => c

/-- The run's own calls, the inserted probes taken out. -/
def Probed.calls : List Probed → List Call
  | [] => []
  | .call c :: es => c :: Probed.calls es
  | .probe _ :: es => Probed.calls es

section LazyCatchUp

variable {σ : Type} (step : σ → Call → Bool × σ) (norm : σ → Int → σ) (Inv : Int → σ → Prop)
  (Reach : Int → Prop)

/-- What the run's own calls return along a run with probes, in order. -/
def probedOutcomes : σ → List Probed → List Bool
  | _, [] => []
  | s, .call c :: es => (step s c).1 :: probedOutcomes (step s c).2 es
  | s, .probe c :: es => probedOutcomes (step s c).2 es

/-- Two states that a catch-up at any reachable reading from `t` on makes equal. -/
def SameAfter (t : Int) (a b : σ) : Prop :=
  ∀ t', t ≤ t' → Reach t' → norm a t' = norm b t'

/-- A bucket that catches up lazily: `norm s t` is its catch-up at reading `t`, `Inv t s` what
    a state reached by calls up to `t` keeps, and `Reach` the readings a run may take. A call
    sees a state only through its catch-up at the call's reading, a probe is that catch-up, and
    catch-ups compose. -/
structure LazyCatchUp : Prop where
  call_congr : ∀ t a b c, t ≤ c.now → Reach c.now → SameAfter norm Reach t a b →
    (step a c).1 = (step b c).1 ∧ SameAfter norm Reach c.now (step a c).2 (step b c).2
  probe_eq : ∀ t s c, Inv t s → c.isProbe → (step s c).2 = norm s c.now
  norm_norm : ∀ t s t1 t2, Inv t s → t ≤ t1 → t1 ≤ t2 → Reach t2 → norm (norm s t1) t2 = norm s t2
  inv_step : ∀ t s c, Inv t s → t ≤ c.now → Reach c.now → Inv c.now (step s c).2
  inv_mono : ∀ t t' s, Inv t s → t ≤ t' → Inv t' s

variable {step norm Inv Reach}

/-- Probes are invisible: from two states that catch up alike, a run with probes inserted at
    non-decreasing readings gives the run's own calls the results the run without them gives,
    and ends in a state that catches up alike at every reachable reading after the run. -/
theorem LazyCatchUp.probes_invisible (h : LazyCatchUp step norm Inv Reach) :
    ∀ (es : List Probed) (a b : σ) (t : Int), Inv t a → Inv t b → SameAfter norm Reach t a b →
      (∀ c ∈ es.map Probed.toCall, Reach c.now) → (∀ c, Probed.probe c ∈ es → c.isProbe) →
      List.Chain (· ≤ ·) t ((es.map Probed.toCall).map Call.now) →
      outcomes step a (Probed.calls es) = probedOutcomes step b es ∧
        ∀ t', t ≤ t' → Reach t' → (∀ c ∈ es.map Probed.toCall, c.now ≤ t') →
          norm (runCalls step a (Probed.calls es)) t' =
            norm (runCalls step b (es.map Probed.toCall)) t'
  | [], _, _, _, _, _, hsame, _, _, _ => ⟨rfl, fun t' ht hr _ => hsame t' ht hr⟩
  | .call c :: es, a, b, t, ha, hb, hsame, hreach, hprobe, hchain => by
    rw [List.map_cons, List.map_cons, List.chain_cons] at hchain
    obtain ⟨hc, hreach⟩ := List.forall_mem_cons.1 hreach
    obtain ⟨hres, hsame'⟩ := h.call_congr t a b c hchain.1 hc hsame
    obtain ⟨ih, ihs⟩ := h.probes_invisible es _ _ c.now (h.inv_step t a c ha hchain.1 hc)
      (h.inv_step t b c hb hchain.1 hc) hsame' hreach
      (fun p hp => hprobe p (List.mem_cons_of_mem _ hp)) hchain.2
    refine ⟨by rw [Probed.calls, outcomes, probedOutcomes, hres, ih], fun t' ht hr hle => ?_⟩
    obtain ⟨hct, hle⟩ := List.forall_mem_cons.1 hle
    exact ihs t' hct hr hle
  | .probe p :: es, a, b, t, ha, hb, hsame, hreach, hprobe, hchain => by
    rw [List.map_cons, List.map_cons, List.chain_cons] at hchain
    obtain ⟨hp, hreach⟩ := List.forall_mem_cons.1 hreach
    -- the probe is a catch-up, which the later catch-ups absorb
    have hsame' : SameAfter norm Reach p.now a (step b p).2 := fun t' ht hr => by
      rw [h.probe_eq t b p hb (hprobe p (List.mem_cons_self _ _)),
        h.norm_norm t b p.now t' hb hchain.1 ht hr]
      exact hsame t' (le_trans hchain.1 ht) hr
    obtain ⟨ih, ihs⟩ := h.probes_invisible es a _ p.now (h.inv_mono t p.now a ha hchain.1)
      (h.inv_step t b p hb hchain.1 hp) hsame' hreach
      (fun q hq => hprobe q (List.mem_cons_of_mem _ hq)) hchain.2
    refine ⟨ih, fun t' ht hr hle => ?_⟩
    obtain ⟨hpt, hle⟩ := List.forall_mem_cons.1 hle
    exact ihs t' hpt hr hle

end LazyCatchUp

section Instances

variable {C P t0 T : Int}

/-- The in-memory token bucket catches up by `refill`, on runs from a valid bucket up to a
    reading `T` at which a full bucket plus the periods since `t0` still fits `int64`. -/
theorem tokenBucket.lazyCatchUp (hC : 1 ≤ C) (hP : 0 < P) (hfit : C + (T - t0) / P < 2 ^ 63) :
    LazyCatchUp tokenBucket.call tokenBucket.refill
      (fun t tb => tb.Valid C P t0 ∧ tb.lastRefill ≤ t) (· ≤ T) where
  call_congr t a b c ht hT hsame := by
    cases c with
    | request n now =>
      by_cases hn : n < 0
      · rw [tokenBucket.call_request_of_neg hn, tokenBucket.call_request_of_neg hn]
        exact ⟨rfl, fun t' ht' hr => hsame t' (le_trans ht ht') hr⟩
      · rw [tokenBucket.call_request (by omega), tokenBucket.call_request (by omega),
          hsame now ht hT]
        exact ⟨rfl, fun _ _ _ => rfl⟩
    | status now =>
      rw [tokenBucket.call_status, tokenBucket.call_status, hsame now ht hT]
      exact ⟨rfl, fun _ _ _ => rfl⟩
  probe_eq t s c _ hc := by
    cases c with
    | request n now =>
      obtain rfl : n = 0 := by simpa [Call.isProbe] using hc
      rw [tokenBucket.call_request le_rfl]
      split
      · simp only [Int.sub_zero]; rfl
      · rfl
    | status now => rfl
  norm_norm t s t1 t2 hs _ ht12 hT := by
    obtain ⟨hv, -⟩ := hs
    have hmono := Int.ediv_le_ediv hP (show t2 - s.lastRefill ≤ T - t0 by
      have := hv.start_le; omega)
    have := hv.tokens_le
    exact tokenBucket.refill_refill (hv.refillRate_eq ▸ hP) hv.tokens_ge
      (by rw [hv.capacity_eq]; omega) ht12 (by rw [hv.refillRate_eq]; omega)
  inv_step t s c hs ht _ := tokenBucket.call_valid hs.1 hC hP c (le_trans hs.2 ht)
  inv_mono t t' s hs ht := ⟨hs.1, le_trans hs.2 ht⟩

/-- The in-memory leaky bucket catches up by `leak` on every run with a positive leak rate,
    whatever the requests: its queue stays an `int64` value. -/
theorem leakyBucket.lazyCatchUp :
    LazyCatchUp leakyBucket.call leakyBucket.leak
      (fun _ lb => 0 < lb.leakRate ∧ -2 ^ 63 ≤ lb.queue ∧ lb.queue < 2 ^ 63) (fun _ => True) where
  call_congr t a b c ht _ hsame := by
    cases c with
    | request n now =>
      by_cases hn : n < 0
      · simp only [leakyBucket.call, leakyBucket.TryAdd, if_pos hn]
        exact ⟨trivial, fun t' ht' hr => hsame t' (le_trans ht ht') hr⟩
      · simp only [leakyBucket.call, leakyBucket.TryAdd, if_neg hn, hsame now ht trivial]
        exact ⟨trivial, fun _ _ _ => rfl⟩
    | status now =>
      simp only [leakyBucket.call, leakyBucket.GetStatus, hsame now ht trivial]
      exact ⟨trivial, fun _ _ _ => rfl⟩
  probe_eq t s c hs hc := by
    cases c with
    | request n now =>
      obtain rfl : n = 0 := by simpa [Call.isProbe] using hc
      obtain ⟨hle, hge⟩ := @leakyBucket.leak_queue_le s now
      -- the leaked queue is an `int64`, so adding zero to it is exact
      simp only [leakyBucket.call, leakyBucket.TryAdd, lt_irrefl, if_false,
        addInt64_of_lt (a := (s.leak now).queue) (b := 0) (by omega) (by omega), Int.add_zero]
      split <;> rfl
    | status now => rfl
  norm_norm _ _ _ _ hs _ ht12 _ := leakyBucket.leak_leak hs.1 ht12
  inv_step _ _ c hs _ _ := leakyBucket.call_int64 hs.1 hs.2.1 hs.2.2 c
  inv_mono _ _ _ hs _ := hs

end Instances


/-- Lazy catch-up composes for a positive rate, for the token bucket while the tokens plus the
    periods up to the later reading fit `int64`: two refills are one refill, two leaks one leak.
    Hence along calls at non-decreasing readings from a new bucket, inserting `GetStatus` or
    zero-unit requests anywhere changes no result of the run's own calls and no later status. -/
theorem lazy_catch_up_composes :
    (∀ (tb : tokenBucket) (t1 t2 : Int), 0 < tb.refillRate → -2 ^ 63 ≤ tb.tokens →
      -2 ^ 63 ≤ tb.capacity → t1 ≤ t2 →
      tb.tokens + (t2 - tb.lastRefill) / tb.refillRate < 2 ^ 63 →
      (tb.refill t1).refill t2 = tb.refill t2) ∧
    (∀ (lb : leakyBucket) (t1 t2 : Int), 0 < lb.leakRate → t1 ≤ t2 →
      (lb.leak t1).leak t2 = lb.leak t2) ∧
    (∀ (C P t0 T : Int) (es : List Probed), 1 ≤ C → 0 < P → C + (T - t0) / P < 2 ^ 63 →
      (∀ c, Probed.probe c ∈ es → c.isProbe) →
      List.Chain (· ≤ ·) t0 ((es.map Probed.toCall).map Call.now) →
      (∀ c ∈ es.map Probed.toCall, c.now ≤ T) →
      probedOutcomes tokenBucket.call (NewTokenBucket C P t0) es =
          outcomes tokenBucket.call (NewTokenBucket C P t0) (Probed.calls es) ∧
        ∀ t', t0 ≤ t' → t' ≤ T → (∀ c ∈ es.map Probed.toCall, c.now ≤ t') →
          (runCalls tokenBucket.call (NewTokenBucket C P t0) (es.map Probed.toCall)).GetStatus t' =
            (runCalls tokenBucket.call (NewTokenBucket C P t0) (Probed.calls es)).GetStatus t') ∧
    (∀ (C P t0 : Int) (es : List Probed), 0 < P → (∀ c, Probed.probe c ∈ es → c.isProbe) →
      List.Chain (· ≤ ·) t0 ((es.map Probed.toCall).map Call.now) →
      probedOutcomes leakyBucket.call (NewLeakyBucket C P t0) es =
          outcomes leakyBucket.call (NewLeakyBucket C P t0) (Probed.calls es) ∧
        ∀ t', t0 ≤ t' → (∀ c ∈ es.map Probed.toCall, c.now ≤ t') →
          (runCalls leakyBucket.call (NewLeakyBucket C P t0) (es.map Probed.toCall)).GetStatus t' =
            (runCalls leakyBucket.call (NewLeakyBucket C P t0) (Probed.calls es)).GetStatus t') := by
  refine ⟨fun _ _ _ hP hge hC ht hfit => tokenBucket.refill_refill hP hge hC ht hfit,
    fun _ _ _ hP ht => leakyBucket.leak_leak hP ht,
    fun C P t0 T es hC hP hfit hprobe hchain hT => ?_, fun C P t0 es hP hprobe hchain => ?_⟩
  · have hnew : (NewTokenBucket C P t0).Valid C P t0 ∧ (NewTokenBucket C P t0).lastRefill ≤ t0 :=
      ⟨NewTokenBucket_valid hC, le_rfl⟩
    obtain ⟨hres, hlater⟩ := (tokenBucket.lazyCatchUp hC hP hfit).probes_invisible es _ _ t0
      hnew hnew (fun _ _ _ => rfl) hT hprobe hchain
    exact ⟨hres.symm, fun t' ht hT' hle => by
      rw [tokenBucket.GetStatus, tokenBucket.GetStatus, hlater t' ht hT' hle]⟩
  · have hnew : 0 < (NewLeakyBucket C P t0).leakRate ∧ -2 ^ 63 ≤ (NewLeakyBucket C P t0).queue ∧
        (NewLeakyBucket C P t0).queue < 2 ^ 63 := ⟨hP, by simp [NewLeakyBucket], by simp [NewLeakyBucket]⟩
    obtain ⟨hres, hlater⟩ := leakyBucket.lazyCatchUp.probes_invisible es _ _ t0 hnew hnew
      (fun _ _ _ => rfl) (fun _ _ => trivial) hprobe hchain
    exact ⟨hres.symm, fun t' ht hle => by
      rw [leakyBucket.GetStatus, leakyBucket.GetStatus, hlater t' ht trivial hle]⟩

theorem lazy_catch_up_composes_run :
    ((0 : Int) < (NewTokenBucket 10 1000000000 0).refillRate ∧
      -2 ^ 63 ≤ (NewTokenBucket 10 1000000000 0).tokens ∧
      -2 ^ 63 ≤ (NewTokenBucket 10 1000000000 0).capacity ∧ (1500000000 : Int) ≤ 3500000000 ∧
      (NewTokenBucket 10 1000000000 0).tokens + (3500000000 - 0) / 1000000000 < 2 ^ 63 ∧
      ((NewTokenBucket 10 1000000000 0).refill 1500000000).refill 3500000000 =
        (NewTokenBucket 10 1000000000 0).refill 3500000000) ∧
    ((0 : Int) < 1000000000 ∧ (2500000000 : Int) ≤ 9000000000 ∧
      ((⟨10, 5, 1000000000, 0⟩ : leakyBucket).leak 2500000000).leak 9000000000 =
        (⟨10, 5, 1000000000, 0⟩ : leakyBucket).leak 9000000000) ∧
    ((1 : Int) ≤ 2 ∧ (0 : Int) < 10 ∧ (2 : Int) + (100 - 0) / 10 < 2 ^ 63 ∧
      (∀ c, Probed.probe c ∈ [Probed.call (.request 2 0), .probe (.status 5), .call (.request 1 10), .probe (.request 0 15)] → c.isProbe) ∧
      List.Chain (· ≤ ·) 0 ((([Probed.call (.request 2 0), .probe (.status 5), .call (.request 1 10), .probe (.request 0 15)]).map Probed.toCall).map Call.now) ∧
      (∀ c ∈ ([Probed.call (.request 2 0), .probe (.status 5), .call (.request 1 10), .probe (.request 0 15)]).map Probed.toCall, c.now ≤ 100) ∧
      (probedOutcomes tokenBucket.call (NewTokenBucket 2 10 0) [Probed.call (.request 2 0), .probe (.status 5), .call (.request 1 10), .probe (.request 0 15)] =
          outcomes tokenBucket.call (NewTokenBucket 2 10 0) (Probed.calls [Probed.call (.request 2 0), .probe (.status 5), .call (.request 1 10), .probe (.request 0 15)]) ∧
        ∀ t', 0 ≤ t' → t' ≤ 100 → (∀ c ∈ ([Probed.call (.request 2 0), .probe (.status 5), .call (.request 1 10), .probe (.request 0 15)]).map Probed.toCall, c.now ≤ t') →
          (runCalls tokenBucket.call (NewTokenBucket 2 10 0) (([Probed.call (.request 2 0), .probe (.status 5), .call (.request 1 10), .probe (.request 0 15)]).map Probed.toCall)).GetStatus t' =
            (runCalls tokenBucket.call (NewTokenBucket 2 10 0) (Probed.calls [Probed.call (.request 2 0), .probe (.status 5), .call (.request 1 10), .probe (.request 0 15)])).GetStatus t')) ∧
    ((0 : Int) < 10 ∧ (∀ c, Probed.probe c ∈ [Probed.call (.request 2 0), .probe (.status 5), .call (.request 1 10), .probe (.request 0 15)] → c.isProbe) ∧
      List.Chain (· ≤ ·) 0 ((([Probed.call (.request 2 0), .probe (.status 5), .call (.request 1 10), .probe (.request 0 15)]).map Probed.toCall).map Call.now) ∧
      (probedOutcomes leakyBucket.call (NewLeakyBucket 2 10 0) [Probed.call (.request 2 0), .probe (.status 5), .call (.request 1 10), .probe (.request 0 15)] =
          outcomes leakyBucket.call (NewLeakyBucket 2 10 0) (Probed.calls [Probed.call (.request 2 0), .probe (.status 5), .call (.request 1 10), .probe (.request 0 15)]) ∧
        ∀ t', 0 ≤ t' → (∀ c ∈ ([Probed.call (.request 2 0), .probe (.status 5), .call (.request 1 10), .probe (.request 0 15)]).map Probed.toCall, c.now ≤ t') →
          (runCalls leakyBucket.call (NewLeakyBucket 2 10 0) (([Probed.call (.request 2 0), .probe (.status 5), .call (.request 1 10), .probe (.request 0 15)]).map Probed.toCall)).GetStatus t' =
            (runCalls leakyBucket.call (NewLeakyBucket 2 10 0) (Probed.calls [Probed.call (.request 2 0), .probe (.status 5), .call (.request 1 10), .probe (.request 0 15)])).GetStatus t')) := by
  have hprobe : ∀ c, Probed.probe c ∈ [Probed.call (.request 2 0), .probe (.status 5), .call (.request 1 10), .probe (.request 0 15)] → c.isProbe := by
    simp [Call.isProbe]
  have hchain : List.Chain (· ≤ ·) 0 ((([Probed.call (.request 2 0), .probe (.status 5), .call (.request 1 10), .probe (.request 0 15)]).map Probed.toCall).map Call.now) := by
    simp [Probed.toCall, Call.now]
  exact ⟨⟨by decide, by decide, by decide, by decide, by decide,
      lazy_catch_up_composes.1 _ _ _ (by decide) (by decide) (by decide) (by decide) (by decide)⟩,
    ⟨by decide, by decide, lazy_catch_up_composes.2.1 _ _ _ (by decide) (by decide)⟩,
    ⟨by decide, by decide, by decide, hprobe, hchain, by decide,
      lazy_catch_up_composes.2.2.1 2 10 0 100 _ (by decide) (by decide) (by decide) hprobe hchain
        (by decide)⟩,
    ⟨by decide, hprobe, hchain, lazy_catch_up_composes.2.2.2 2 10 0 _ (by decide) hprobe hchain⟩⟩

/-- At capacity `math.MaxInt64 - 1` with a 1 ns period, one refill over two periods wraps to
    `math.MinInt64` while two refills of one period each stop at the cap; so a status read
    inserted before a request turns its refusal into an admission. With a negative leak rate,
    which `DEFAULT_REFILL_RATE` accepts, a leak at a reading before the leak clock drains the
    queue that a later leak alone would only halve. -/
theorem lazy_catch_up_breaks :
    ((NewTokenBucket (2 ^ 63 - 2) 1 0).refill 1).refill 2 =
        { capacity := 2 ^ 63 - 2, tokens := 2 ^ 63 - 2, refillRate := 1, lastRefill := 2 } ∧
      (NewTokenBucket (2 ^ 63 - 2) 1 0).refill 2 =
        { capacity := 2 ^ 63 - 2, tokens := -2 ^ 63, refillRate := 1, lastRefill := 2 } ∧
      outcomes tokenBucket.call (NewTokenBucket (2 ^ 63 - 2) 1 0) [.request 1 2] = [false] ∧
      probedOutcomes tokenBucket.call (NewTokenBucket (2 ^ 63 - 2) 1 0)
        [.probe (.status 1), .call (.request 1 2)] = [true] ∧
      (((NewLeakyBucket 10 (-1) 10).TryAdd 10 10).2.leak 0).leak 5 =
        { capacity := 10, queue := 0, leakRate := -1, lastLeak := 0 } ∧
      ((NewLeakyBucket 10 (-1) 10).TryAdd 10 10).2.leak 5 =
        { capacity := 10, queue := 5, leakRate := -1, lastLeak := 5 } := by
  decide

end rate_limiter.services
