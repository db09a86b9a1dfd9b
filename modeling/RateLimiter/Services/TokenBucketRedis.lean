import RateLimiter.Go.Int64
import RateLimiter.Redis.Instance
import RateLimiter.Redis.Lua
import RateLimiter.Services.Call

open rate_limiter.float rate_limiter.go rate_limiter.redis

namespace rate_limiter.services

/-- `TokenBucketRedis`: the namespaced key and the configuration passed to the script. The
    client is the instance the operations are given. -/
structure TokenBucketRedis where
  key : String
  capacity : Int
  refillRate : Int

/-- `NewTokenBucketRedis`: the caller's key under the `rate_limit:token_bucket:` prefix. -/
def NewTokenBucketRedis (key : String) (capacity refillRate : Int) : TokenBucketRedis :=
  { key := "rate_limit:token_bucket:" ++ key, capacity := capacity, refillRate := refillRate }

/-- The refill of the token-bucket script read over the integers: whole periods by
    `math.floor`, a refill guarded by `tokens_to_add > 0` and capped by `math.min`. Returns the
    level and refill clock. -/
def TokenBucketRedis.refillInt (capacity refillRateNs nowNs currentTokens lastRefillNs : Int) :
    Int × Int :=
  let tokensToAdd := (nowNs - lastRefillNs).fdiv refillRateNs
  if tokensToAdd > 0 then
    (Min.min capacity (currentTokens + tokensToAdd), lastRefillNs + tokensToAdd * refillRateNs)
  else (currentTokens, lastRefillNs)

/-- The arithmetic of the token-bucket script read over the integers, from `current_tokens` and
    `last_refill_ns`: the refill, then the take. Returns whether it succeeded and the tokens and
    refill clock it saves. The script computes this on doubles while every value is exact
    (`TokenBucketRedis.luaScript_eq`). -/
def TokenBucketRedis.refillAndTake (currentTokens lastRefillNs tokensNeeded capacity refillRateNs
    nowNs : Int) : Bool × Int × Int :=
  let (currentTokens, lastRefillNs) :=
    TokenBucketRedis.refillInt capacity refillRateNs nowNs currentTokens lastRefillNs
  if currentTokens ≥ tokensNeeded then (true, currentTokens - tokensNeeded, lastRefillNs)
  else (false, currentTokens, lastRefillNs)

/-- The record `cjson.encode(updated_data)` the token-bucket script saves; readers look its fields
    up by name. -/
def TokenBucketRedis.encodeRecord (capacity tokens refillRateNs lastRefillNs nowNs : Int) :
    Stored :=
  .json (.obj [("algorithm", .str "token_bucket"), ("capacity", .cjsonNumber capacity),
    ("tokens", .cjsonNumber tokens), ("refill_rate_ns", .cjsonNumber refillRateNs),
    ("last_refill_ns", .cjsonNumber lastRefillNs), ("last_updated", .cjsonNumber nowNs)])

/-- `data.tokens` and `data.last_refill_ns` of a stored record, as `cjson.decode` reads them; the
    script's arithmetic raises on a field that is missing or not a number. -/
def TokenBucketRedis.decodeRecord (bucketData : Stored) : Except String (Int × Int) := do
  let data ← bucketData.cjsonDecode
  match (data.field? "tokens").bind Json.number?, (data.field? "last_refill_ns").bind Json.number? with
  | some tokens, some lastRefillNs => .ok (tokens, lastRefillNs)
  | _, _ => .error "attempt to perform arithmetic on a nil value"

/-- The state the token-bucket script starts from: the decoded record, or for a missing
    record a full bucket whose refill clock starts at `now_ns`. -/
def TokenBucketRedis.loadState (capacity nowNs : Int) : Option Stored → Except String (Int × Int)
  | some data => TokenBucketRedis.decodeRecord data
  | none => .ok (capacity, nowNs)

/-- The refill of the token-bucket script on doubles: `tokens_to_add`, the floor of the rounded
    quotient, and when it is positive the level `math.min(capacity, current_tokens +
    tokens_to_add)` and the clock moved on by `tokens_to_add * refill_rate_ns`. A zero rate
    makes `tokens_to_add` infinite and the clock `inf * 0`, NaN, which `cjson.encode` refuses. -/
def TokenBucketRedis.scriptRefill (capacity refillRateNs nowNs currentTokens lastRefillNs : Int) :
    Except String (Int × Int) :=
  match Lua.floorDiv (Lua.sub nowNs lastRefillNs) refillRateNs with
  | .finite tokensToAdd =>
    if tokensToAdd > 0 then
      .ok (Lua.min capacity (Lua.add currentTokens tokensToAdd),
        Lua.add lastRefillNs (Lua.mul tokensToAdd refillRateNs))
    else .ok (currentTokens, lastRefillNs)
  | .posInf => .error "Cannot serialise number: must not be NaN or Inf"
  | .negInf | .nan => .ok (currentTokens, lastRefillNs)

/-- The Lua script of `TokenBucketRedis.TryConsume`, on Lua's doubles: the arguments come in
    through `tonumber` and the record through `cjson.decode`. Success and failure both save the
    state and refresh the one-hour expiry. -/
def TokenBucketRedis.luaScript (tokensNeeded capacity refillRateNs nowNs : Int) : Script :=
  fun bucketData => do
    let tokensNeeded := Lua.tonumber tokensNeeded
    let capacity := Lua.tonumber capacity
    let refillRateNs := Lua.tonumber refillRateNs
    let nowNs := Lua.tonumber nowNs
    let (currentTokens, lastRefillNs) ← TokenBucketRedis.loadState capacity nowNs bucketData
    let (currentTokens, lastRefillNs) ←
      TokenBucketRedis.scriptRefill capacity refillRateNs nowNs currentTokens lastRefillNs
    if currentTokens ≥ tokensNeeded then
      .ok (1, TokenBucketRedis.encodeRecord capacity (Lua.sub currentTokens tokensNeeded)
        refillRateNs lastRefillNs nowNs, 3600)
    else
      .ok (0, TokenBucketRedis.encodeRecord capacity currentTokens refillRateNs lastRefillNs
        nowNs, 3600)

/-- `TokenBucketRedis.TryConsume` at wall-clock `now` (`UnixNano`): a negative request is
    refused without a call; otherwise the script runs, and any error reads as a refusal. -/
def TokenBucketRedis.TryConsume (tbr : TokenBucketRedis) (inst : Instance) (tokens now : Int) :
    Bool × Instance :=
  inst.tryEval tbr.key tokens (TokenBucketRedis.luaScript tokens tbr.capacity tbr.refillRate now)

/-- A call on a Redis token bucket; a status read writes nothing and admits nothing. -/
def TokenBucketRedis.call (tbr : TokenBucketRedis) (inst : Instance) : Call → Bool × Instance
  | .request n now => tbr.TryConsume inst n now
  | .status _ => (false, inst)

/-- A call on one key's token-bucket record, the script read over the integers: `TryConsume`
    runs `refillAndTake` (a missing record starting full at the request's time) and a status
    read writes nothing. -/
def TokenBucketRedis.recordCall (capacity refillRate : Int) (record : Option (Int × Int)) :
    Call → Bool × Option (Int × Int)
  | .request n now =>
    if n < 0 then (false, record)
    else
      let (currentTokens, lastRefillNs) := record.getD (capacity, now)
      let r := TokenBucketRedis.refillAndTake currentTokens lastRefillNs n capacity refillRate now
      (r.1, some r.2)
  | .status _ => (false, record)

/-- The struct `TokenBucketRedis.GetStatus` unmarshals the record into; the two clocks are
    `float64` fields. -/
structure TokenBucketRedis.Data where
  Algorithm : String
  Capacity : Int
  Tokens : Int
  RefillRateNs : Int
  LastRefillNs : Int
  LastUpdated : Int

/-- `json.Unmarshal` of a stored record into `TokenBucketRedis.Data`. -/
def TokenBucketRedis.unmarshal (bucketData : Stored) : Except String TokenBucketRedis.Data := do
  let doc ← bucketData.structDoc
  pure { Algorithm := ← doc.stringField "algorithm", Capacity := ← doc.int64Field "capacity",
         Tokens := ← doc.int64Field "tokens", RefillRateNs := ← doc.int64Field "refill_rate_ns",
         LastRefillNs := ← doc.float64Field "last_refill_ns",
         LastUpdated := ← doc.float64Field "last_updated" }

/-- `TokenBucketRedis.GetStatus` at wall-clock `now`: reads the record without writing it and
    simulates the refill with Go's truncating division and no guard on its sign, the sum capped
    above by the stored capacity; the next refill comes from the stored `last_refill_ns`,
    converted from `float64` by `int64(...)`. A
    missing or undecodable record reads as a full bucket. The error is Go's panic on a zero
    rate. -/
def TokenBucketRedis.GetStatus (tbr : TokenBucketRedis) (inst : Instance) (now : Int) :
    Except String (Int × Int × Int) :=
  match inst.Get tbr.key with
  | .error _ => .ok (tbr.capacity, tbr.capacity, now + tbr.refillRate)
  | .ok bucketData =>
    match TokenBucketRedis.unmarshal bucketData with
    | .error _ => .ok (tbr.capacity, tbr.capacity, now + tbr.refillRate)
    | .ok data => do
      let lastRefillNs := int64OfFloat64 data.LastRefillNs
      let timePassed := subInt64 now lastRefillNs
      let tokensToAdd ← divInt64 timePassed data.RefillRateNs
      let currentTokens := addInt64 data.Tokens tokensToAdd
      let currentTokens := if currentTokens > data.Capacity then data.Capacity else currentTokens
      .ok (currentTokens, data.Capacity, lastRefillNs + data.RefillRateNs)

/-- `TokenBucketRedis.HasState`: whether `GET` of the key succeeds. -/
def TokenBucketRedis.HasState (tbr : TokenBucketRedis) (inst : Instance) : Bool :=
  inst.getOk tbr.key

section Record

variable {capacity tokens refillRateNs lastRefillNs nowNs : Int}

/-- `cjson.decode` reads back the level and clock of a record the script saved as the doubles
    nearest their 14-digit decimals. -/
@[simp] theorem TokenBucketRedis.decodeRecord_encodeRecord :
    TokenBucketRedis.decodeRecord
      (TokenBucketRedis.encodeRecord capacity tokens refillRateNs lastRefillNs nowNs) =
      .ok (binary64 (decimal14 tokens), binary64 (decimal14 lastRefillNs)) := by
  simp only [TokenBucketRedis.decodeRecord, TokenBucketRedis.encodeRecord, Stored.cjsonDecode,
    Json.field?, List.lookup_cons, Bool.beq_eq_decide_eq, String.reduceEq, decide_True,
    decide_False, if_true, if_false, Option.bind, Json.number?_cjsonNumber, bind, Except.bind]

theorem TokenBucketRedis.decodeRecord_encodeRecord_of_exact (ht : Lua.Exact tokens)
    (hl : Lua.Exact lastRefillNs) :
    TokenBucketRedis.decodeRecord
      (TokenBucketRedis.encodeRecord capacity tokens refillRateNs lastRefillNs nowNs) =
      .ok (tokens, lastRefillNs) := by
  rw [TokenBucketRedis.decodeRecord_encodeRecord, binary64_decimal14_of_exact ht,
    binary64_decimal14_of_exact hl]

end Record

section Exact

variable {C P now t l n : Int} {x : Option Stored}

/-- The integer refill keeps exact values exact: the level stays between the old one and the
    capacity, the clock between the old one and `now_ns`. -/
theorem TokenBucketRedis.refillInt_exact (hP : 0 < P) (hC : Lua.Exact C) (hnow : Lua.Exact now)
    (ht : Lua.Exact t) (hl : Lua.Exact l) :
    Lua.Exact (TokenBucketRedis.refillInt C P now t l).1 ∧
      Lua.Exact (TokenBucketRedis.refillInt C P now t l).2 := by
  unfold Lua.Exact at *
  have hhi := Int.ediv_mul_le (now - l) hP.ne'
  dsimp only [TokenBucketRedis.refillInt]
  rw [Int.fdiv_eq_ediv _ hP.le]
  split_ifs with h
  · have : 0 < (now - l) / P * P := Int.mul_pos h hP
    simp only [min_def]
    split_ifs <;> omega
  · exact ⟨ht, hl⟩

/-- While the clocks, the level and the rate are exact, the refill on doubles is the integer
    refill: the elapsed time and the quotient's floor are exact below `2 ^ 52`, a negative
    elapsed time floors to no refill on both, and the sums stay doubles. -/
theorem TokenBucketRedis.scriptRefill_of_exact (hP : 0 < P) (hnow : Lua.Exact now)
    (ht : Lua.Exact t) (hl : Lua.Exact l) :
    TokenBucketRedis.scriptRefill C P now t l = .ok (TokenBucketRedis.refillInt C P now t l) := by
  unfold Lua.Exact at *
  have hsub : Lua.sub now l = now - l := binary64_of_bounds (by omega) (by omega)
  unfold TokenBucketRedis.scriptRefill TokenBucketRedis.refillInt
  rw [hsub, Int.fdiv_eq_ediv _ hP.le]
  rcases le_or_lt 0 (now - l) with hpos | hneg
  · rw [Lua.floorDiv_of_lt hpos (by omega) hP]
    dsimp only
    have hhi := Int.ediv_mul_le (now - l) hP.ne'
    split_ifs with h
    · have : 0 < (now - l) / P * P := Int.mul_pos h hP
      have hk : (now - l) / P ≤ now - l := Int.ediv_le_self _ hpos
      simp only [Lua.add, Lua.mul, Lua.min,
        binary64_of_bounds (show -2 ^ 53 < t + (now - l) / P by omega) (by omega),
        binary64_of_bounds (show -2 ^ 53 < (now - l) / P * P by omega) (by omega),
        binary64_of_bounds (show -2 ^ 53 < l + (now - l) / P * P by omega) (by omega), min_def]
      split_ifs <;> first | rfl | omega
    · rfl
  · obtain ⟨k, hk, hfloor⟩ := Lua.floorDiv_of_nonpos hneg.le hP
    have : (now - l) / P < 0 := Int.ediv_neg' hneg hP
    rw [hfloor]
    dsimp only
    rw [if_neg (by omega), if_neg (by omega)]

/-- The script on doubles is `refillAndTake` saved as a fresh record while the capacity, rate,
    stamp and loaded state are exact: this is the range where the integer reading of the script
    is the script. A request of `2 ^ 53` or more arrives rounded, but above every exact level,
    and is refused as over the integers. -/
theorem TokenBucketRedis.luaScript_eq
    (h : TokenBucketRedis.loadState C now x = .ok (t, l)) (hn : 0 ≤ n) (hP : 0 < P)
    (hC : Lua.Exact C) (hPx : Lua.Exact P) (hnow : Lua.Exact now) (ht : Lua.Exact t)
    (hl : Lua.Exact l) :
    TokenBucketRedis.luaScript n C P now x =
      let r := TokenBucketRedis.refillAndTake t l n C P now
      .ok (if r.1 then 1 else 0, TokenBucketRedis.encodeRecord C r.2.1 P r.2.2 now, 3600) := by
  obtain ⟨ht', hl'⟩ := TokenBucketRedis.refillInt_exact hP hC hnow ht hl
  have hrefill := @TokenBucketRedis.scriptRefill_of_exact C P now t l hP hnow ht hl
  generalize hr : TokenBucketRedis.refillInt C P now t l = r at ht' hl' hrefill
  obtain ⟨t', l'⟩ := r
  simp only [TokenBucketRedis.luaScript, Lua.tonumber_of_exact hC, Lua.tonumber_of_exact hPx,
    Lua.tonumber_of_exact hnow, h, hrefill, bind, Except.bind, TokenBucketRedis.refillAndTake, hr]
  by_cases hfit : n ≤ t'
  · unfold Lua.Exact at ht'
    have hn' : Lua.tonumber n = n := Lua.tonumber_of_exact ⟨by omega, by omega⟩
    rw [hn', if_pos hfit, if_pos hfit, Lua.sub, binary64_of_bounds (by omega) (by omega)]
    rfl
  · rw [if_neg (by rwa [ge_iff_le, Lua.tonumber_le_iff ht']), if_neg hfit]
    rfl

end Exact

end rate_limiter.services
