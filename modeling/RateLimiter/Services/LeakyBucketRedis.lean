import RateLimiter.Go.Int64
import RateLimiter.Redis.Instance
import RateLimiter.Redis.Lua
import RateLimiter.Services.Call

open rate_limiter.float rate_limiter.go rate_limiter.redis

namespace rate_limiter.services

/-- `LeakyBucketRedis`: the namespaced key and the configuration passed to the script. The
    client is the instance the operations are given. -/
structure LeakyBucketRedis where
  key : String
  capacity : Int
  leakRate : Int

/-- `NewLeakyBucketRedis`: the caller's key under the `rate_limit:leaky_bucket:` prefix. -/
def NewLeakyBucketRedis (key : String) (capacity leakRate : Int) : LeakyBucketRedis :=
  { key := "rate_limit:leaky_bucket:" ++ key, capacity := capacity, leakRate := leakRate }

/-- The drain of the leaky-bucket script read over the integers: `math.min(leak_periods,
    current_queue)` requests leave, guarded by `leak_periods > 0 and current_queue > 0`. Returns
    the queue and leak clock. -/
def LeakyBucketRedis.leakInt (leakRateNs nowNs currentQueue lastLeakNs : Int) : Int × Int :=
  let leakPeriods := (nowNs - lastLeakNs).fdiv leakRateNs
  if leakPeriods > 0 ∧ currentQueue > 0 then
    let requestsToLeak := Min.min leakPeriods currentQueue
    (currentQueue - requestsToLeak, lastLeakNs + requestsToLeak * leakRateNs)
  else (currentQueue, lastLeakNs)

/-- The arithmetic of the leaky-bucket script read over the integers, from `current_queue` and
    `last_leak_ns`: the drain, then the add if the queue stays within capacity. Returns whether
    it succeeded and the queue and leak clock it saves. The script computes this on doubles
    while every value is exact (`LeakyBucketRedis.luaScript_eq`). -/
def LeakyBucketRedis.leakAndAdd (currentQueue lastLeakNs requestsToAdd capacity leakRateNs
    nowNs : Int) : Bool × Int × Int :=
  let (currentQueue, lastLeakNs) :=
    LeakyBucketRedis.leakInt leakRateNs nowNs currentQueue lastLeakNs
  if currentQueue + requestsToAdd ≤ capacity then (true, currentQueue + requestsToAdd, lastLeakNs)
  else (false, currentQueue, lastLeakNs)

/-- The record `cjson.encode(updated_data)` the leaky-bucket script saves; readers look its
    fields up by name. -/
def LeakyBucketRedis.encodeRecord (capacity queueLength leakRateNs lastLeakNs nowNs : Int) :
    Stored :=
  .json (.obj [("algorithm", .str "leaky_bucket"), ("capacity", .cjsonNumber capacity),
    ("queue_length", .cjsonNumber queueLength), ("leak_rate_ns", .cjsonNumber leakRateNs),
    ("last_leak_ns", .cjsonNumber lastLeakNs), ("last_updated", .cjsonNumber nowNs)])

/-- `data.queue_length` and `data.last_leak_ns` of a stored record, as `cjson.decode` reads them;
    the script's arithmetic raises on a field that is missing or not a number. -/
def LeakyBucketRedis.decodeRecord (bucketData : Stored) : Except String (Int × Int) := do
  let data ← bucketData.cjsonDecode
  match (data.field? "queue_length").bind Json.number?,
    (data.field? "last_leak_ns").bind Json.number? with
  | some queueLength, some lastLeakNs => .ok (queueLength, lastLeakNs)
  | _, _ => .error "attempt to perform arithmetic on a nil value"

/-- The state the leaky-bucket script starts from: the decoded record, or for a missing record
    an empty queue whose leak clock starts at `now_ns`. -/
def LeakyBucketRedis.loadState (nowNs : Int) : Option Stored → Except String (Int × Int)
  | some data => LeakyBucketRedis.decodeRecord data
  | none => .ok (0, nowNs)

/-- The drain of the leaky-bucket script on doubles: `leak_periods`, the floor of the rounded
    quotient, and when it and the queue are positive `math.min(leak_periods, current_queue)`
    requests leave while the clock moves on by that many periods. A zero rate makes
    `leak_periods` infinite, and the whole queue leaves with the clock unmoved. -/
def LeakyBucketRedis.scriptLeak (leakRateNs nowNs currentQueue lastLeakNs : Int) : Int × Int :=
  let leak (requestsToLeak : Int) : Int × Int :=
    (Lua.sub currentQueue requestsToLeak,
      Lua.add lastLeakNs (Lua.mul requestsToLeak leakRateNs))
  match Lua.floorDiv (Lua.sub nowNs lastLeakNs) leakRateNs with
  | .finite leakPeriods =>
    if leakPeriods > 0 ∧ currentQueue > 0 then leak (Lua.min leakPeriods currentQueue)
    else (currentQueue, lastLeakNs)
  | .posInf => if currentQueue > 0 then leak currentQueue else (currentQueue, lastLeakNs)
  | .negInf | .nan => (currentQueue, lastLeakNs)

/-- The Lua script of `LeakyBucketRedis.TryAdd`, on Lua's doubles: the arguments come in
    through `tonumber` and the record through `cjson.decode`. Success and failure both save the
    state and refresh the one-hour expiry. -/
def LeakyBucketRedis.luaScript (requestsToAdd capacity leakRateNs nowNs : Int) : Script :=
  fun bucketData => do
    let requestsToAdd := Lua.tonumber requestsToAdd
    let capacity := Lua.tonumber capacity
    let leakRateNs := Lua.tonumber leakRateNs
    let nowNs := Lua.tonumber nowNs
    let (currentQueue, lastLeakNs) ← LeakyBucketRedis.loadState nowNs bucketData
    let (currentQueue, lastLeakNs) :=
      LeakyBucketRedis.scriptLeak leakRateNs nowNs currentQueue lastLeakNs
    if Lua.add currentQueue requestsToAdd ≤ capacity then
      .ok (1, LeakyBucketRedis.encodeRecord capacity (Lua.add currentQueue requestsToAdd)
        leakRateNs lastLeakNs nowNs, 3600)
    else
      .ok (0, LeakyBucketRedis.encodeRecord capacity currentQueue leakRateNs lastLeakNs nowNs,
        3600)

/-- `LeakyBucketRedis.TryAdd` at wall-clock `now`: a negative request is refused without a
    call; otherwise the script runs, and any error reads as a refusal. -/
def LeakyBucketRedis.TryAdd (lbr : LeakyBucketRedis) (inst : Instance) (requests now : Int) :
    Bool × Instance :=
  inst.tryEval lbr.key requests (LeakyBucketRedis.luaScript requests lbr.capacity lbr.leakRate now)

/-- A call on a Redis leaky bucket; a status read writes nothing and admits nothing. -/
def LeakyBucketRedis.call (lbr : LeakyBucketRedis) (inst : Instance) : Call → Bool × Instance
  | .request n now => lbr.TryAdd inst n now
  | .status _ => (false, inst)

/-- The struct `LeakyBucketRedis.GetStatus` unmarshals the record into; the two clocks are
    `float64` fields. -/
structure LeakyBucketRedis.Data where
  Algorithm : String
  Capacity : Int
  QueueLength : Int
  LeakRateNs : Int
  LastLeakNs : Int
  LastUpdated : Int

/-- `json.Unmarshal` of a stored record into `LeakyBucketRedis.Data`. -/
def LeakyBucketRedis.unmarshal (bucketData : Stored) : Except String LeakyBucketRedis.Data := do
  let doc ← bucketData.structDoc
  pure { Algorithm := ← doc.stringField "algorithm", Capacity := ← doc.int64Field "capacity",
         QueueLength := ← doc.int64Field "queue_length",
         LeakRateNs := ← doc.int64Field "leak_rate_ns",
         LastLeakNs := ← doc.float64Field "last_leak_ns",
         LastUpdated := ← doc.float64Field "last_updated" }

/-- `LeakyBucketRedis.GetStatus` at wall-clock `now`: reads the record without writing it and
    simulates the leak with Go's truncating division and no guard on its sign, the difference
    floored at zero; the next leak comes from the stored `last_leak_ns`, converted from
    `float64` by `int64(...)`. A missing or
    undecodable record reads as an empty queue. The error is Go's panic on a zero rate. -/
def LeakyBucketRedis.GetStatus (lbr : LeakyBucketRedis) (inst : Instance) (now : Int) :
    Except String (Int × Int × Int) :=
  match inst.Get lbr.key with
  | .error _ => .ok (0, lbr.capacity, now + lbr.leakRate)
  | .ok bucketData =>
    match LeakyBucketRedis.unmarshal bucketData with
    | .error _ => .ok (0, lbr.capacity, now + lbr.leakRate)
    | .ok data => do
      let lastLeakNs := int64OfFloat64 data.LastLeakNs
      let timePassed := subInt64 now lastLeakNs
      let leakPeriods ← divInt64 timePassed data.LeakRateNs
      let currentQueue := subInt64 data.QueueLength leakPeriods
      let currentQueue := if currentQueue < 0 then 0 else currentQueue
      .ok (currentQueue, data.Capacity, lastLeakNs + data.LeakRateNs)

/-- `LeakyBucketRedis.HasState`: whether `GET` of the key succeeds. -/
def LeakyBucketRedis.HasState (lbr : LeakyBucketRedis) (inst : Instance) : Bool :=
  inst.getOk lbr.key

/-- A call on one key's leaky-bucket record, the script read over the integers: `TryAdd` runs
    `leakAndAdd` (a missing record starting empty at the request's time) and a status read
    writes nothing. -/
def LeakyBucketRedis.recordCall (capacity leakRate : Int) (record : Option (Int × Int)) :
    Call → Bool × Option (Int × Int)
  | .request n now =>
    if n < 0 then (false, record)
    else
      let (currentQueue, lastLeakNs) := record.getD (0, now)
      let r := LeakyBucketRedis.leakAndAdd currentQueue lastLeakNs n capacity leakRate now
      (r.1, some r.2)
  | .status _ => (false, record)

section Record

variable {capacity queueLength leakRateNs lastLeakNs nowNs : Int}

/-- `cjson.decode` reads back the queue and clock of a record the script saved as the doubles
    nearest their 14-digit decimals. -/
@[simp] theorem LeakyBucketRedis.decodeRecord_encodeRecord :
    LeakyBucketRedis.decodeRecord
      (LeakyBucketRedis.encodeRecord capacity queueLength leakRateNs lastLeakNs nowNs) =
      .ok (binary64 (decimal14 queueLength), binary64 (decimal14 lastLeakNs)) := by
  simp only [LeakyBucketRedis.decodeRecord, LeakyBucketRedis.encodeRecord, Stored.cjsonDecode,
    Json.field?, List.lookup_cons, Bool.beq_eq_decide_eq, String.reduceEq, decide_True,
    decide_False, if_true, if_false, Option.bind, Json.number?_cjsonNumber, bind, Except.bind]

theorem LeakyBucketRedis.decodeRecord_encodeRecord_of_exact (hq : Lua.Exact queueLength)
    (hl : Lua.Exact lastLeakNs) :
    LeakyBucketRedis.decodeRecord
      (LeakyBucketRedis.encodeRecord capacity queueLength leakRateNs lastLeakNs nowNs) =
      .ok (queueLength, lastLeakNs) := by
  rw [LeakyBucketRedis.decodeRecord_encodeRecord, binary64_decimal14_of_exact hq,
    binary64_decimal14_of_exact hl]

end Record

section Exact

variable {C P now q l n : Int} {x : Option Stored}

/-- The integer drain keeps exact values exact: the queue does not grow and, from a
    non-negative queue, stays non-negative; the clock stays between the old one and `now_ns`. -/
theorem LeakyBucketRedis.leakInt_exact (hP : 0 < P) (hnow : Lua.Exact now) (hq : Lua.Exact q)
    (hl : Lua.Exact l) :
    Lua.Exact (LeakyBucketRedis.leakInt P now q l).1 ∧
      Lua.Exact (LeakyBucketRedis.leakInt P now q l).2 := by
  unfold Lua.Exact at *
  have hhi := Int.ediv_mul_le (now - l) hP.ne'
  dsimp only [LeakyBucketRedis.leakInt]
  rw [Int.fdiv_eq_ediv _ hP.le]
  split_ifs with h
  · have h1 : 0 < Min.min ((now - l) / P) q := lt_min h.1 h.2
    have h2 : Min.min ((now - l) / P) q * P ≤ (now - l) / P * P :=
      Int.mul_le_mul_of_nonneg_right (min_le_left _ _) hP.le
    have h3 : 0 < Min.min ((now - l) / P) q * P := Int.mul_pos h1 hP
    have h4 := min_le_right ((now - l) / P) q
    omega
  · exact ⟨hq, hl⟩

/-- While the clocks, the queue and the rate are exact, the drain on doubles is the integer
    drain. -/
theorem LeakyBucketRedis.scriptLeak_of_exact (hP : 0 < P) (hnow : Lua.Exact now)
    (hq : Lua.Exact q) (hl : Lua.Exact l) :
    LeakyBucketRedis.scriptLeak P now q l = LeakyBucketRedis.leakInt P now q l := by
  unfold Lua.Exact at *
  have hsub : Lua.sub now l = now - l := binary64_of_bounds (by omega) (by omega)
  unfold LeakyBucketRedis.scriptLeak LeakyBucketRedis.leakInt
  rw [hsub, Int.fdiv_eq_ediv _ hP.le]
  rcases le_or_lt 0 (now - l) with hpos | hneg
  · rw [Lua.floorDiv_of_lt hpos (by omega) hP]
    dsimp only
    have hhi := Int.ediv_mul_le (now - l) hP.ne'
    split_ifs with h
    · have h1 : 0 < Min.min ((now - l) / P) q := lt_min h.1 h.2
      have h2 : Min.min ((now - l) / P) q * P ≤ (now - l) / P * P :=
        Int.mul_le_mul_of_nonneg_right (min_le_left _ _) hP.le
      have h3 : 0 < Min.min ((now - l) / P) q * P := Int.mul_pos h1 hP
      have h4 := min_le_right ((now - l) / P) q
      have hmin : Lua.min ((now - l) / P) q = Min.min ((now - l) / P) q := by
        rw [Lua.min, min_def]
        split_ifs <;> omega
      simp only [Lua.sub, Lua.add, Lua.mul, hmin,
        binary64_of_bounds (show -2 ^ 53 < q - Min.min ((now - l) / P) q by omega) (by omega),
        binary64_of_bounds (show -2 ^ 53 < Min.min ((now - l) / P) q * P by omega) (by omega),
        binary64_of_bounds (show -2 ^ 53 < l + Min.min ((now - l) / P) q * P by omega) (by omega)]
    · rfl
  · obtain ⟨k, hk, hfloor⟩ := Lua.floorDiv_of_nonpos hneg.le hP
    have : (now - l) / P < 0 := Int.ediv_neg' hneg hP
    rw [hfloor]
    dsimp only
    rw [if_neg (by omega), if_neg (by omega)]

/-- The script on doubles is `leakAndAdd` saved as a fresh record while the capacity, rate,
    stamp and loaded state are exact. A request that would pass `2 ^ 53` arrives rounded, but
    still over every exact capacity, and is refused as over the integers. -/
theorem LeakyBucketRedis.luaScript_eq (h : LeakyBucketRedis.loadState now x = .ok (q, l))
    (hn : 0 ≤ n) (hP : 0 < P) (hC : Lua.Exact C) (hPx : Lua.Exact P) (hnow : Lua.Exact now)
    (hq : Lua.Exact q) (hl : Lua.Exact l) :
    LeakyBucketRedis.luaScript n C P now x =
      let r := LeakyBucketRedis.leakAndAdd q l n C P now
      .ok (if r.1 then 1 else 0, LeakyBucketRedis.encodeRecord C r.2.1 P r.2.2 now, 3600) := by
  obtain ⟨hq', hl'⟩ := LeakyBucketRedis.leakInt_exact hP hnow hq hl
  have hleak := @LeakyBucketRedis.scriptLeak_of_exact P now q l hP hnow hq hl
  generalize hr : LeakyBucketRedis.leakInt P now q l = r at hq' hl' hleak
  obtain ⟨q', l'⟩ := r
  simp only [LeakyBucketRedis.luaScript, Lua.tonumber_of_exact hC, Lua.tonumber_of_exact hPx,
    Lua.tonumber_of_exact hnow, h, hleak, bind, Except.bind, LeakyBucketRedis.leakAndAdd, hr]
  by_cases hfit : q' + n ≤ C
  · unfold Lua.Exact at hq' hC
    have hn' : Lua.tonumber n = n := binary64_of_bounds (by omega) (by omega)
    rw [hn', Lua.add, binary64_of_bounds (by omega) (by omega), if_pos hfit, if_pos hfit]
    rfl
  · rw [if_neg (by rwa [Lua.add_tonumber_le_iff hq' hC hn]), if_neg hfit]
    rfl

end Exact

end rate_limiter.services
