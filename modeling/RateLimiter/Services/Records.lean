import RateLimiter.Services.TokenBucketRedis
import RateLimiter.Services.LeakyBucketRedis

open rate_limiter.float rate_limiter.go rate_limiter.redis

namespace rate_limiter.services

section TokenBucket

variable (tbr : TokenBucketRedis) {inst : Instance} {v : Stored}

/-- A record the script cannot read (not JSON, or `tokens` or `last_refill_ns` missing or not a
    number) makes it raise before writing anything. -/
theorem TokenBucketRedis.luaScript_of_undecodable {e : String}
    (h : TokenBucketRedis.decodeRecord v = .error e) (tokensNeeded capacity refillRateNs nowNs : Int) :
    TokenBucketRedis.luaScript tokensNeeded capacity refillRateNs nowNs (some v) = .error e := by
  simp only [TokenBucketRedis.luaScript, TokenBucketRedis.loadState, h]
  rfl

/-- `TryConsume` on a record the script cannot read is refused and leaves the instance as it
    was, so the record stays and refuses every later request until it expires. -/
theorem TokenBucketRedis.TryConsume_of_undecodable {e : String} (hget : inst.get tbr.key = some v)
    (h : TokenBucketRedis.decodeRecord v = .error e) (tokens now : Int) :
    tbr.TryConsume inst tokens now = (false, inst) :=
  Instance.tryEval_of_script_error (by rw [hget]; exact TokenBucketRedis.luaScript_of_undecodable h ..)

/-- On a key with no live record the script starts from a full bucket: an exact request within
    an exact capacity is admitted and saves the capacity less the request. -/
theorem TokenBucketRedis.TryConsume_of_absent (hup : inst.up = true)
    (hget : inst.get tbr.key = none) {tokens now : Int} (hn : 0 ≤ tokens)
    (hC : tokens ≤ tbr.capacity) (hP : 0 < tbr.refillRate) (hCx : Lua.Exact tbr.capacity)
    (hPx : Lua.Exact tbr.refillRate) (hnow : Lua.Exact now) :
    tbr.TryConsume inst tokens now =
      (true, inst.setEx tbr.key (TokenBucketRedis.encodeRecord tbr.capacity (tbr.capacity - tokens)
        tbr.refillRate now now) 3600) := by
  -- a missing record loads as a full bucket refilled just now, which covers the request
  have hscript : TokenBucketRedis.luaScript tokens tbr.capacity tbr.refillRate now (inst.get tbr.key) =
      .ok (1, TokenBucketRedis.encodeRecord tbr.capacity (tbr.capacity - tokens) tbr.refillRate now
        now, 3600) := by
    rw [hget, TokenBucketRedis.luaScript_eq
      (show TokenBucketRedis.loadState tbr.capacity now none = .ok (tbr.capacity, now) from rfl)
      hn hP hCx hPx hnow hCx hnow]
    simp [TokenBucketRedis.refillAndTake, TokenBucketRedis.refillInt, hC]
  rw [TokenBucketRedis.TryConsume, Instance.tryEval_of_ok hn hup hscript]
  rfl

/-- A record `json.Unmarshal` rejects (not JSON, not an object, a mistyped field) reads as a
    full bucket. -/
theorem TokenBucketRedis.GetStatus_of_unmarshal_error {e : String} (hget : inst.get tbr.key = some v)
    (h : TokenBucketRedis.unmarshal v = .error e) (now : Int) :
    tbr.GetStatus inst now = .ok (tbr.capacity, tbr.capacity, now + tbr.refillRate) := by
  unfold TokenBucketRedis.GetStatus Instance.Get
  cases inst.up <;> simp [hget, h]

/-- The reader divides by the record's `refill_rate_ns`, which `json.Unmarshal` leaves at 0 when
    the field is missing: such a record makes `GetStatus` panic. -/
theorem TokenBucketRedis.GetStatus_of_zero_rate {data : TokenBucketRedis.Data}
    (hup : inst.up = true) (hget : inst.get tbr.key = some v)
    (hdata : TokenBucketRedis.unmarshal v = .ok data) (hrate : data.RefillRateNs = 0) (now : Int) :
    tbr.GetStatus inst now = .error "runtime error: integer divide by zero" := by
  simp only [TokenBucketRedis.GetStatus, Instance.Get, hup, hget, if_true, hdata, divInt64, hrate]
  rfl


end TokenBucket

section LeakyBucket

variable (lbr : LeakyBucketRedis) {inst : Instance} {v : Stored}

/-- A record the script cannot read (not JSON, or `queue_length` or `last_leak_ns` missing or
    not a number) makes it raise before writing anything. -/
theorem LeakyBucketRedis.luaScript_of_undecodable {e : String}
    (h : LeakyBucketRedis.decodeRecord v = .error e) (requestsToAdd capacity leakRateNs nowNs : Int) :
    LeakyBucketRedis.luaScript requestsToAdd capacity leakRateNs nowNs (some v) = .error e := by
  simp only [LeakyBucketRedis.luaScript, LeakyBucketRedis.loadState, h]
  rfl

/-- `TryAdd` on a record the script cannot read is refused and leaves the instance as it was,
    so the record stays and refuses every later request until it expires. -/
theorem LeakyBucketRedis.TryAdd_of_undecodable {e : String} (hget : inst.get lbr.key = some v)
    (h : LeakyBucketRedis.decodeRecord v = .error e) (requests now : Int) :
    lbr.TryAdd inst requests now = (false, inst) :=
  Instance.tryEval_of_script_error (by rw [hget]; exact LeakyBucketRedis.luaScript_of_undecodable h ..)

/-- On a key with no live record the script starts from an empty queue: an exact request within
    an exact capacity is admitted and saves a queue of that request. -/
theorem LeakyBucketRedis.TryAdd_of_absent (hup : inst.up = true)
    (hget : inst.get lbr.key = none) {requests now : Int} (hn : 0 ≤ requests)
    (hC : requests ≤ lbr.capacity) (hP : 0 < lbr.leakRate) (hCx : Lua.Exact lbr.capacity)
    (hPx : Lua.Exact lbr.leakRate) (hnow : Lua.Exact now) :
    lbr.TryAdd inst requests now =
      (true, inst.setEx lbr.key (LeakyBucketRedis.encodeRecord lbr.capacity requests lbr.leakRate now
        now) 3600) := by
  -- a missing record loads as an empty queue leaked just now, which has room for the request
  have hscript : LeakyBucketRedis.luaScript requests lbr.capacity lbr.leakRate now (inst.get lbr.key) =
      .ok (1, LeakyBucketRedis.encodeRecord lbr.capacity requests lbr.leakRate now now, 3600) := by
    rw [hget, LeakyBucketRedis.luaScript_eq
      (show LeakyBucketRedis.loadState now none = .ok (0, now) from rfl) hn hP hCx hPx hnow
      (by decide) hnow]
    simp [LeakyBucketRedis.leakAndAdd, LeakyBucketRedis.leakInt, hC]
  rw [LeakyBucketRedis.TryAdd, Instance.tryEval_of_ok hn hup hscript]
  rfl

/-- A record `json.Unmarshal` rejects (not JSON, not an object, a mistyped field) reads as an
    empty queue. -/
theorem LeakyBucketRedis.GetStatus_of_unmarshal_error {e : String} (hget : inst.get lbr.key = some v)
    (h : LeakyBucketRedis.unmarshal v = .error e) (now : Int) :
    lbr.GetStatus inst now = .ok (0, lbr.capacity, now + lbr.leakRate) := by
  unfold LeakyBucketRedis.GetStatus Instance.Get
  cases inst.up <;> simp [hget, h]

/-- The reader divides by the record's `leak_rate_ns`, which `json.Unmarshal` leaves at 0 when
    the field is missing: such a record makes `GetStatus` panic. -/
theorem LeakyBucketRedis.GetStatus_of_zero_rate {data : LeakyBucketRedis.Data}
    (hup : inst.up = true) (hget : inst.get lbr.key = some v)
    (hdata : LeakyBucketRedis.unmarshal v = .ok data) (hrate : data.LeakRateNs = 0) (now : Int) :
    lbr.GetStatus inst now = .error "runtime error: integer divide by zero" := by
  simp only [LeakyBucketRedis.GetStatus, Instance.Get, hup, hget, if_true, hdata, divInt64, hrate]
  rfl


end LeakyBucket

/-- Corrupt records do not read as fresh buckets. Under any bytes that are not JSON both scripts
    raise, so `TryConsume(1)` and `TryAdd(1)` are refused and the record stays, where an absent
    record admits them, although the status readers report such a record as a fresh bucket; and
    the record `{}` makes both status readers divide by its zero rate. -/
theorem redis_malformed_record_not_fresh (raw : String) :
    (NewTokenBucketRedis "user1" 10 1000000000).TryConsume
        ⟨true, 0, fun _ => some ⟨.text raw, 3600⟩⟩ 1 0 =
        (false, ⟨true, 0, fun _ => some ⟨.text raw, 3600⟩⟩) ∧
      ((NewTokenBucketRedis "user1" 10 1000000000).TryConsume ⟨true, 0, fun _ => none⟩ 1 0).1 =
        true ∧
      (NewTokenBucketRedis "user1" 10 1000000000).GetStatus
        ⟨true, 0, fun _ => some ⟨.text raw, 3600⟩⟩ 0 = .ok (10, 10, 1000000000) ∧
      (NewTokenBucketRedis "user1" 10 1000000000).GetStatus
        ⟨true, 0, fun _ => some ⟨.json (.obj []), 3600⟩⟩ 0 =
        .error "runtime error: integer divide by zero" ∧
      (NewLeakyBucketRedis "user1" 10 1000000000).TryAdd
        ⟨true, 0, fun _ => some ⟨.text raw, 3600⟩⟩ 1 0 =
        (false, ⟨true, 0, fun _ => some ⟨.text raw, 3600⟩⟩) ∧
      ((NewLeakyBucketRedis "user1" 10 1000000000).TryAdd ⟨true, 0, fun _ => none⟩ 1 0).1 = true ∧
      (NewLeakyBucketRedis "user1" 10 1000000000).GetStatus
        ⟨true, 0, fun _ => some ⟨.text raw, 3600⟩⟩ 0 = .ok (0, 10, 1000000000) ∧
      (NewLeakyBucketRedis "user1" 10 1000000000).GetStatus
        ⟨true, 0, fun _ => some ⟨.json (.obj []), 3600⟩⟩ 0 =
        .error "runtime error: integer divide by zero" :=
  ⟨TokenBucketRedis.TryConsume_of_undecodable _ (by rfl) (by rfl) 1 0,
    by rw [TokenBucketRedis.TryConsume_of_absent _ (by rfl) (by rfl) (by decide) (by decide)
      (by decide) (by decide) (by decide) (by decide)],
    TokenBucketRedis.GetStatus_of_unmarshal_error _ (by rfl) (by rfl) 0,
    TokenBucketRedis.GetStatus_of_zero_rate _ (by rfl) (by rfl) (by rfl) (by rfl) 0,
    LeakyBucketRedis.TryAdd_of_undecodable _ (by rfl) (by rfl) 1 0,
    by rw [LeakyBucketRedis.TryAdd_of_absent _ (by rfl) (by rfl) (by decide) (by decide)
      (by decide) (by decide) (by decide) (by decide)],
    LeakyBucketRedis.GetStatus_of_unmarshal_error _ (by rfl) (by rfl) 0,
    LeakyBucketRedis.GetStatus_of_zero_rate _ (by rfl) (by rfl) (by rfl) (by rfl) 0⟩

end rate_limiter.services
