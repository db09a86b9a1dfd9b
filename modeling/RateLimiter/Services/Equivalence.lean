import RateLimiter.Services.TokenBucket.Invariant
import RateLimiter.Services.LeakyBucket.RateBound
import RateLimiter.Services.Shard

open rate_limiter.go rate_limiter.redis

namespace rate_limiter.services

section Agreement

variable {C P t0 T m now : Int}

end Agreement

/-- Record values the scripts carry exactly: a level and clock below `10 ^ 14`. -/
def RecordExact : Option (Int × Int) → Prop
  | none => True
  | some (level, anchor) => Lua.Exact level ∧ Lua.Exact anchor

section Exact

variable {C P : Int}

/-- The integer record model keeps exact records exact at exact stamps. -/
theorem TokenBucketRedis.recordCall_exact (hP : 0 < P) (hC : Lua.Exact C)
    {record : Option (Int × Int)} (hrec : RecordExact record) {n now : Int}
    (hnow : Lua.Exact now) : RecordExact (TokenBucketRedis.recordCall C P record (.request n now)).2 := by
  by_cases hn : n < 0
  · simp only [TokenBucketRedis.recordCall, if_pos hn]
    exact hrec
  obtain ⟨ht, hl⟩ : Lua.Exact (record.getD (C, now)).1 ∧ Lua.Exact (record.getD (C, now)).2 := by
    cases record with
    | none => exact ⟨hC, hnow⟩
    | some r => exact hrec
  simp only [TokenBucketRedis.recordCall, if_neg hn, TokenBucketRedis.refillAndTake]
  generalize record.getD (C, now) = s at ht hl ⊢
  obtain ⟨ht', hl'⟩ := TokenBucketRedis.refillInt_exact hP hC hnow ht hl
  generalize TokenBucketRedis.refillInt C P now s.1 s.2 = r at ht' hl' ⊢
  unfold Lua.Exact at ht'
  split_ifs <;> exact ⟨by unfold Lua.Exact; omega, hl'⟩

theorem LeakyBucketRedis.recordCall_exact (hP : 0 < P) (hC : Lua.Exact C)
    {record : Option (Int × Int)} (hrec : RecordExact record) {n now : Int}
    (hnow : Lua.Exact now) : RecordExact (LeakyBucketRedis.recordCall C P record (.request n now)).2 := by
  by_cases hn : n < 0
  · simp only [LeakyBucketRedis.recordCall, if_pos hn]
    exact hrec
  obtain ⟨hq, hl⟩ : Lua.Exact (record.getD (0, now)).1 ∧ Lua.Exact (record.getD (0, now)).2 := by
    cases record with
    | none => exact ⟨show Lua.Exact 0 by decide, hnow⟩
    | some r => exact hrec
  simp only [LeakyBucketRedis.recordCall, if_neg hn, LeakyBucketRedis.leakAndAdd]
  generalize record.getD (0, now) = s at hq hl ⊢
  obtain ⟨hq', hl'⟩ := LeakyBucketRedis.leakInt_exact hP hnow hq hl
  generalize LeakyBucketRedis.leakInt P now s.1 s.2 = r at hq' hl' ⊢
  unfold Lua.Exact at hq' hC
  split_ifs <;> exact ⟨by unfold Lua.Exact; omega, hl'⟩

end Exact

section Redis

variable (tbr : TokenBucketRedis) (lbr : LeakyBucketRedis)

/-- What an instance holds at the bucket's key `idle` seconds after the last write, read as the
    record model reads it: nothing live, or a record the script saved with these tokens and
    refill clock, expiring `3600 - idle` seconds on. -/
def TokenBucketRedis.Holds (idle : Nat) (inst : Instance) : Option (Int × Int) → Prop
  | none => inst.get tbr.key = none
  | some (tokens, lastRefillNs) => idle < 3600 ∧ ∃ nowNs, inst.store tbr.key =
      some ⟨TokenBucketRedis.encodeRecord tbr.capacity tokens tbr.refillRate lastRefillNs nowNs,
        inst.clock + 3600 - idle⟩

/-- What an instance holds at the bucket's key `idle` seconds after the last write, read as the
    record model reads it. -/
def LeakyBucketRedis.Holds (idle : Nat) (inst : Instance) : Option (Int × Int) → Prop
  | none => inst.get lbr.key = none
  | some (queueLength, lastLeakNs) => idle < 3600 ∧ ∃ nowNs, inst.store lbr.key =
      some ⟨LeakyBucketRedis.encodeRecord lbr.capacity queueLength lbr.leakRate lastLeakNs nowNs,
        inst.clock + 3600 - idle⟩

variable {tbr lbr} {inst : Instance} {record : Option (Int × Int)} {idle : Nat}

/-- The wrapper's test `result == 1` reads back the script's reply of 1 or 0. -/
theorem script_reply_beq_one (b : Bool) : ((if b then (1 : Int) else 0) == 1) = b := by
  cases b <;> rfl

/-- A record written less than an hour ago is live. -/
theorem live_of_store {key : String} {v : Stored} (h : idle < 3600)
    (hs : inst.store key = some ⟨v, inst.clock + 3600 - idle⟩) : inst.get key = some v := by
  simp only [Instance.get, hs]
  rw [if_pos (by omega)]

/-- A record written `3600` seconds on and read back just now is `0` seconds idle. -/
theorem store_setEx (key : String) (v : Stored) :
    (inst.setEx key v 3600).store key = some ⟨v, (inst.setEx key v 3600).clock + 3600 - (0 : Nat)⟩ := by
  simp [Instance.setEx]

/-- Ticks within the hour keep what the instance holds, the record an hour from its write. -/
theorem TokenBucketRedis.Holds.tick {seconds : Nat} (h : tbr.Holds idle inst record)
    (hs : idle + seconds < 3600) : tbr.Holds (idle + seconds) (inst.tick seconds) record := by
  cases record with
  | none =>
    cases hv : (inst.tick seconds).get tbr.key with
    | none => exact hv
    | some v => exact absurd (Instance.get_tick seconds hv) (by rw [show inst.get tbr.key = none from h]; simp)
  | some r =>
    obtain ⟨-, nowNs, hstore⟩ := h
    exact ⟨hs, nowNs, by simp only [Instance.tick, hstore]; congr 2; push_cast; ring⟩

theorem LeakyBucketRedis.Holds.tick {seconds : Nat} (h : lbr.Holds idle inst record)
    (hs : idle + seconds < 3600) : lbr.Holds (idle + seconds) (inst.tick seconds) record := by
  cases record with
  | none =>
    cases hv : (inst.tick seconds).get lbr.key with
    | none => exact hv
    | some v => exact absurd (Instance.get_tick seconds hv) (by rw [show inst.get lbr.key = none from h]; simp)
  | some r =>
    obtain ⟨-, nowNs, hstore⟩ := h
    exact ⟨hs, nowNs, by simp only [Instance.tick, hstore]; congr 2; push_cast; ring⟩

/-- One exact request on a reachable instance is the record model's call: the same answer, and
    the record it leaves, just written, is the one the model keeps. -/
theorem TokenBucketRedis.request_recordCall (hup : inst.up = true) (h : tbr.Holds idle inst record)
    (hrec : RecordExact record) (hP : 0 < tbr.refillRate) (hC : Lua.Exact tbr.capacity)
    (hPx : Lua.Exact tbr.refillRate) {n now : Int} (hn : 0 ≤ n) (hnow : Lua.Exact now) :
    (tbr.TryConsume inst n now).1 =
        (TokenBucketRedis.recordCall tbr.capacity tbr.refillRate record (.request n now)).1 ∧
      (tbr.TryConsume inst n now).2.up = true ∧
      tbr.Holds 0 (tbr.TryConsume inst n now).2
        (TokenBucketRedis.recordCall tbr.capacity tbr.refillRate record (.request n now)).2 := by
  obtain ⟨hload, ht, hl⟩ : TokenBucketRedis.loadState tbr.capacity now (inst.get tbr.key) =
      .ok (record.getD (tbr.capacity, now)) ∧ Lua.Exact (record.getD (tbr.capacity, now)).1 ∧
      Lua.Exact (record.getD (tbr.capacity, now)).2 := by
    cases record with
    | none => exact ⟨by rw [show inst.get tbr.key = none from h]; rfl, hC, hnow⟩
    | some r =>
      obtain ⟨hidle, nowNs, hstore⟩ := h
      rw [live_of_store hidle hstore]
      exact ⟨TokenBucketRedis.decodeRecord_encodeRecord_of_exact hrec.1 hrec.2, hrec⟩
  rw [TokenBucketRedis.TryConsume, Instance.tryEval_of_ok hn hup
    (TokenBucketRedis.luaScript_eq hload hn hP hC hPx hnow ht hl)]
  simp only [TokenBucketRedis.recordCall, if_neg (not_lt.2 hn), Instance.setEx_up, hup, true_and]
  exact ⟨script_reply_beq_one _, by decide, now, store_setEx _ _⟩

theorem LeakyBucketRedis.request_recordCall (hup : inst.up = true) (h : lbr.Holds idle inst record)
    (hrec : RecordExact record) (hP : 0 < lbr.leakRate) (hC : Lua.Exact lbr.capacity)
    (hPx : Lua.Exact lbr.leakRate) {n now : Int} (hn : 0 ≤ n) (hnow : Lua.Exact now) :
    (lbr.TryAdd inst n now).1 =
        (LeakyBucketRedis.recordCall lbr.capacity lbr.leakRate record (.request n now)).1 ∧
      (lbr.TryAdd inst n now).2.up = true ∧
      lbr.Holds 0 (lbr.TryAdd inst n now).2
        (LeakyBucketRedis.recordCall lbr.capacity lbr.leakRate record (.request n now)).2 := by
  obtain ⟨hload, hq, hl⟩ : LeakyBucketRedis.loadState now (inst.get lbr.key) =
      .ok (record.getD (0, now)) ∧ Lua.Exact (record.getD (0, now)).1 ∧
      Lua.Exact (record.getD (0, now)).2 := by
    cases record with
    | none => exact ⟨by rw [show inst.get lbr.key = none from h]; rfl, show Lua.Exact 0 by decide,
        hnow⟩
    | some r =>
      obtain ⟨hidle, nowNs, hstore⟩ := h
      rw [live_of_store hidle hstore]
      exact ⟨LeakyBucketRedis.decodeRecord_encodeRecord_of_exact hrec.1 hrec.2, hrec⟩
  rw [LeakyBucketRedis.TryAdd, Instance.tryEval_of_ok hn hup
    (LeakyBucketRedis.luaScript_eq hload hn hP hC hPx hnow hq hl)]
  simp only [LeakyBucketRedis.recordCall, if_neg (not_lt.2 hn), Instance.setEx_up, hup, true_and]
  exact ⟨script_reply_beq_one _, by decide, now, store_setEx _ _⟩

/-- Along exact requests and ticks that never let the record sit an hour, a reachable shard
    answers as the record model of its script, token bucket. -/
theorem TokenBucketRedis.shardResults_eq_recordCall (hP : 0 < tbr.refillRate)
    (hC : Lua.Exact tbr.capacity) (hPx : Lua.Exact tbr.refillRate) :
    ∀ (events : List ShardEvent) (inst : Instance) (idle : Nat) (record : Option (Int × Int)),
      inst.up = true → tbr.Holds idle inst record → RecordExact record →
      (∀ c ∈ events.filterMap ShardEvent.toCall, ∃ m now, c = .request m now ∧ 0 ≤ m ∧ Lua.Exact now) →
      ShardEvent.quietBelow 3600 idle events = true →
      shardResults tbr.TryConsume inst events =
        outcomes (TokenBucketRedis.recordCall tbr.capacity tbr.refillRate) record
          (events.filterMap ShardEvent.toCall)
  | [], _, _, _, _, _, _, _, _ => rfl
  | .tick seconds :: events, inst, idle, record, hup, h, hrec, hreq, hquiet => by
    simp only [ShardEvent.quietBelow, Bool.and_eq_true, decide_eq_true_eq] at hquiet
    exact TokenBucketRedis.shardResults_eq_recordCall hP hC hPx events _ _ record hup
      (h.tick hquiet.1) hrec hreq hquiet.2
  | .request n now :: events, inst, idle, record, hup, h, hrec, hreq, hquiet => by
    obtain ⟨m, now', hc, hn, hnow⟩ := hreq _ (List.mem_cons_self _ _)
    cases hc
    obtain ⟨hres, hup', h'⟩ := TokenBucketRedis.request_recordCall hup h hrec hP hC hPx hn hnow
    simp only [shardResults, List.filterMap_cons, ShardEvent.toCall, outcomes, hres]
    exact congrArg _ (TokenBucketRedis.shardResults_eq_recordCall hP hC hPx events _ 0 _ hup' h'
      (TokenBucketRedis.recordCall_exact hP hC hrec hnow)
      (fun c hc => hreq c (List.mem_cons_of_mem _ hc)) hquiet)

/-- Along exact requests and ticks that never let the record sit an hour, a reachable shard
    answers as the record model of its script, leaky bucket. -/
theorem LeakyBucketRedis.shardResults_eq_recordCall (hP : 0 < lbr.leakRate)
    (hC : Lua.Exact lbr.capacity) (hPx : Lua.Exact lbr.leakRate) :
    ∀ (events : List ShardEvent) (inst : Instance) (idle : Nat) (record : Option (Int × Int)),
      inst.up = true → lbr.Holds idle inst record → RecordExact record →
      (∀ c ∈ events.filterMap ShardEvent.toCall, ∃ m now, c = .request m now ∧ 0 ≤ m ∧ Lua.Exact now) →
      ShardEvent.quietBelow 3600 idle events = true →
      shardResults lbr.TryAdd inst events =
        outcomes (LeakyBucketRedis.recordCall lbr.capacity lbr.leakRate) record
          (events.filterMap ShardEvent.toCall)
  | [], _, _, _, _, _, _, _, _ => rfl
  | .tick seconds :: events, inst, idle, record, hup, h, hrec, hreq, hquiet => by
    simp only [ShardEvent.quietBelow, Bool.and_eq_true, decide_eq_true_eq] at hquiet
    exact LeakyBucketRedis.shardResults_eq_recordCall hP hC hPx events _ _ record hup
      (h.tick hquiet.1) hrec hreq hquiet.2
  | .request n now :: events, inst, idle, record, hup, h, hrec, hreq, hquiet => by
    obtain ⟨m, now', hc, hn, hnow⟩ := hreq _ (List.mem_cons_self _ _)
    cases hc
    obtain ⟨hres, hup', h'⟩ := LeakyBucketRedis.request_recordCall hup h hrec hP hC hPx hn hnow
    simp only [shardResults, List.filterMap_cons, ShardEvent.toCall, outcomes, hres]
    exact congrArg _ (LeakyBucketRedis.shardResults_eq_recordCall hP hC hPx events _ 0 _ hup' h'
      (LeakyBucketRedis.recordCall_exact hP hC hrec hnow)
      (fun c hc => hreq c (List.mem_cons_of_mem _ hc)) hquiet)

end Redis

/-- At capacity `math.MaxInt64` with a 1 ns period, the script and the in-memory fallback part
    ways on the second of two zero-token requests one nanosecond apart: the script refills to
    the cap and admits, while the in-memory refill wraps to `math.MinInt64` and refuses. -/
theorem tokenBucket_fallback_diverges :
    outcomes (NewTokenBucketRedis "user1" (2 ^ 63 - 1) 1).call ⟨true, 0, fun _ => none⟩
        [.request 0 0, .request 0 1] = [true, true] ∧
      outcomes tokenBucket.call (NewTokenBucket (2 ^ 63 - 1) 1 0)
        [.request 0 0, .request 0 1] = [true, false] ∧
      (runCalls tokenBucket.call (NewTokenBucket (2 ^ 63 - 1) 1 0)
        [.request 0 0, .request 0 1]).tokens = -2 ^ 63 := by
  decide

/-- The status readers part ways with the scripts they read after. On a record read by a clock
    five periods behind its anchor, as another server's may be, the token script would keep
    the level at 0 and the leaky script the queue at 2, while the readers add Go's truncated
    quotient of the negative elapsed time and report 0 - 5 tokens, outside `[0, C]`, and a
    queue of 2 + 5. Three and a half periods after the anchor the token script's state has
    its anchor three periods on, while the reader still reports the next refill one period
    after the stored anchor, in the past. -/
theorem redis_status_disagrees_with_script :
    ((NewTokenBucketRedis "user1" 10 1000000000).GetStatus
        ⟨true, 0, fun _ => some ⟨TokenBucketRedis.encodeRecord 10 0 1000000000 100000000000
          100000000000, 3600⟩⟩ 95000000000).toOption = some (-5, 10, 101000000000) ∧
      ((TokenBucketRedis.luaScript 0 10 1000000000 95000000000
        (some (TokenBucketRedis.encodeRecord 10 0 1000000000 100000000000
          100000000000))).toOption.map fun r => (TokenBucketRedis.decodeRecord r.2.1).toOption) =
        some (some (0, 100000000000)) ∧
    ((NewTokenBucketRedis "user1" 10 1000000000).GetStatus
        ⟨true, 0, fun _ => some ⟨TokenBucketRedis.encodeRecord 10 0 1000000000 100000000000
          100000000000, 3600⟩⟩ 103500000000).toOption = some (3, 10, 101000000000) ∧
      ((TokenBucketRedis.luaScript 0 10 1000000000 103500000000
        (some (TokenBucketRedis.encodeRecord 10 0 1000000000 100000000000
          100000000000))).toOption.map fun r => (TokenBucketRedis.decodeRecord r.2.1).toOption) =
        some (some (3, 103000000000)) ∧
    ((NewLeakyBucketRedis "user1" 10 1000000000).GetStatus
        ⟨true, 0, fun _ => some ⟨LeakyBucketRedis.encodeRecord 10 2 1000000000 100000000000
          100000000000, 3600⟩⟩ 95000000000).toOption = some (7, 10, 101000000000) ∧
      ((LeakyBucketRedis.luaScript 0 10 1000000000 95000000000
        (some (LeakyBucketRedis.encodeRecord 10 2 1000000000 100000000000
          100000000000))).toOption.map fun r => (LeakyBucketRedis.decodeRecord r.2.1).toOption) =
        some (some (2, 100000000000)) := by
  decide

end rate_limiter.services
