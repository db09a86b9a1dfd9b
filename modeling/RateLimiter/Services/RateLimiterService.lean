import RateLimiter.Services.RedisManager
import RateLimiter.Services.TokenBucket
import RateLimiter.Services.LeakyBucket
import RateLimiter.Services.TokenBucketRedis
import RateLimiter.Services.LeakyBucketRedis

open rate_limiter.go rate_limiter.redis

namespace rate_limiter.services

/-- The rate-limit settings of `config.Config` that the service reads; the default refill is
    also the leaky bucket's leak period. -/
structure RateLimitConfig where
  DefaultCapacity : Int
  DefaultRefill : Int
  deriving Repr, DecidableEq

/-- `models.AlgorithmStatus`; times in nanoseconds. -/
structure AlgorithmStatus where
  Algorithm : String
  TokensLeft : Int
  Capacity : Int
  RefillRate : Int
  NextRefillTime : Int
  IsBlocked : Bool
  HasState : Bool
  deriving Repr, DecidableEq

/-- `models.StatusResponse`; a `nil` detail pointer is `none`. -/
structure StatusResponse where
  Key : String
  Algorithm : String
  TokensLeft : Int
  Capacity : Int
  RefillRate : Int
  NextRefillTime : Int
  IsBlocked : Bool
  TokenBucketStatus : Option AlgorithmStatus
  LeakyBucketStatus : Option AlgorithmStatus
  deriving Repr, DecidableEq

/-- The request counters of `MetricsCollector`, each an `Int` where Go's is an `int64`: one
    counter wraps only after `2 ^ 63` calls, out of reach of any run, so the model leaves the
    wrap out. -/
structure MetricsCollector where
  totalRequests : Int
  successfulRequests : Int
  rateLimitedRequests : Int
  errorRequests : Int
  deriving Repr, DecidableEq

def NewMetricsCollector : MetricsCollector := ⟨0, 0, 0, 0⟩

/-- `RecordRequest`: counts the request, then as successful, as rate limited, or as an
    error. -/
def MetricsCollector.RecordRequest (mc : MetricsCollector) (success rateLimited : Bool) :
    MetricsCollector :=
  let mc := { mc with totalRequests := mc.totalRequests + 1 }
  if success then { mc with successfulRequests := mc.successfulRequests + 1 }
  else if rateLimited then { mc with rateLimitedRequests := mc.rateLimitedRequests + 1 }
  else { mc with errorRequests := mc.errorRequests + 1 }

/-- The bucket a request's `algorithm` selects: the `switch` of `Acquire` and
    `acquireInMemoryFallback` sends `"leaky_bucket"` to the leaky bucket and anything else,
    `"token_bucket"` included, to the token bucket. -/
inductive Kind
  | tokenBucket
  | leakyBucket
  deriving Repr, DecidableEq

def Kind.ofAlgorithm (algorithm : String) : Kind :=
  if algorithm = "leaky_bucket" then .leakyBucket else .tokenBucket

/-- The Redis key of a caller key's bucket of this kind, as `NewTokenBucketRedis` and
    `NewLeakyBucketRedis` build it. -/
def Kind.redisKey : Kind → String → String
  | .tokenBucket, key => "rate_limit:token_bucket:" ++ key
  | .leakyBucket, key => "rate_limit:leaky_bucket:" ++ key

@[simp] theorem NewTokenBucketRedis_key (key : String) (capacity refillRate : Int) :
    (NewTokenBucketRedis key capacity refillRate).key = Kind.tokenBucket.redisKey key := rfl

@[simp] theorem NewLeakyBucketRedis_key (key : String) (capacity leakRate : Int) :
    (NewLeakyBucketRedis key capacity leakRate).key = Kind.leakyBucket.redisKey key := rfl

/-- The Redis keys of all caller keys under both kinds are pairwise distinct: the two prefixes
    have the same length and differ. -/
theorem Kind.redisKey_inj {kind kind' : Kind} {key key' : String}
    (h : kind.redisKey key = kind'.redisKey key') : kind = kind' ∧ key = key' := by
  have hdata := congrArg String.data h
  cases kind <;> cases kind' <;>
    simp [Kind.redisKey, String.ext_iff] at hdata ⊢ <;> exact hdata

/-- `RedisRateLimiterService`: the Redis instances reached through its manager, its
    configuration, its counters, and the in-memory fallback maps, a missing entry as `none`. -/
structure RedisRateLimiterService where
  redisManager : RedisManager
  config : RateLimitConfig
  metrics : MetricsCollector
  tokenBuckets : String → Option tokenBucket
  leakyBuckets : String → Option leakyBucket

/-- `NewRedisRateLimiterService`: no fallback buckets and zero counters. -/
def NewRedisRateLimiterService (redisManager : RedisManager) (config : RateLimitConfig) :
    RedisRateLimiterService :=
  { redisManager := redisManager, config := config, metrics := NewMetricsCollector,
    tokenBuckets := fun _ => none, leakyBuckets := fun _ => none }

namespace RedisRateLimiterService

variable (rrs : RedisRateLimiterService)

/-- `getOrCreateTokenBucket`: the key's fallback token bucket, or a full one created at
    `now`. The caller stores it back after using it. -/
def getOrCreateTokenBucket (key : String) (now : Int) : tokenBucket :=
  (rrs.tokenBuckets key).getD
    (NewTokenBucket rrs.config.DefaultCapacity rrs.config.DefaultRefill now)

/-- `getOrCreateLeakyBucket`: the key's fallback leaky bucket, or an empty one created at
    `now`. -/
def getOrCreateLeakyBucket (key : String) (now : Int) : leakyBucket :=
  (rrs.leakyBuckets key).getD
    (NewLeakyBucket rrs.config.DefaultCapacity rrs.config.DefaultRefill now)

/-- `acquireInMemoryFallback`: the selected fallback bucket, created on first use, serves the
    request and is stored back. -/
def acquireInMemoryFallback (key : String) (tokens : Int) (algorithm : String) (now : Int) :
    Bool × RedisRateLimiterService :=
  match Kind.ofAlgorithm algorithm with
  | .leakyBucket =>
    let r := (rrs.getOrCreateLeakyBucket key now).TryAdd tokens now
    (r.1, { rrs with leakyBuckets := Function.update rrs.leakyBuckets key (some r.2) })
  | .tokenBucket =>
    let r := (rrs.getOrCreateTokenBucket key now).TryConsume tokens now
    (r.1, { rrs with tokenBuckets := Function.update rrs.tokenBuckets key (some r.2) })

/-- The Redis bucket of `kind` for `key`, built from the configured defaults, serving a
    request on the instance `inst`. -/
def tryRedis (kind : Kind) (key : String) (inst : Instance) (tokens now : Int) :
    Bool × Instance :=
  match kind with
  | .leakyBucket =>
    (NewLeakyBucketRedis key rrs.config.DefaultCapacity rrs.config.DefaultRefill).TryAdd inst
      tokens now
  | .tokenBucket =>
    (NewTokenBucketRedis key rrs.config.DefaultCapacity rrs.config.DefaultRefill).TryConsume
      inst tokens now

/-- `Acquire` at wall-clock `now`: the key's shard serves the request through the selected
    Redis bucket, or the fallback does when the manager returns no client; either way the
    outcome is recorded, a refusal always as rate limited. -/
def Acquire (key : String) (tokens : Int) (algorithm : String) (now : Int) :
    Bool × RedisRateLimiterService :=
  let r :=
    match rrs.redisManager.GetClient key with
    | none => rrs.acquireInMemoryFallback key tokens algorithm now
    | some i =>
      let s := rrs.tryRedis (Kind.ofAlgorithm algorithm) key (rrs.redisManager.clients.get i)
        tokens now
      (s.1, { rrs with redisManager := rrs.redisManager.setClient i s.2 })
  (r.1, { r.2 with metrics := r.2.metrics.RecordRequest r.1 (!r.1) })

/-- The status reported for a bucket with no state: the configured defaults, the next refill
    one period from `now`. -/
def defaultStatus (algorithm : String) (now : Int) : AlgorithmStatus :=
  { Algorithm := algorithm, TokensLeft := rrs.config.DefaultCapacity,
    Capacity := rrs.config.DefaultCapacity, RefillRate := rrs.config.DefaultRefill,
    NextRefillTime := now + rrs.config.DefaultRefill, IsBlocked := false, HasState := false }

/-- `getInMemoryTokenBucketStatus`: the fallback bucket's status, its refill written back. -/
def getInMemoryTokenBucketStatus (key : String) (now : Int) :
    AlgorithmStatus × RedisRateLimiterService :=
  match rrs.tokenBuckets key with
  | some bucket =>
    let ((tokensLeft, capacity, nextRefill), bucket) := bucket.GetStatus now
    ({ Algorithm := "token_bucket", TokensLeft := tokensLeft, Capacity := capacity,
       RefillRate := rrs.config.DefaultRefill, NextRefillTime := nextRefill,
       IsBlocked := tokensLeft == 0, HasState := true },
     { rrs with tokenBuckets := Function.update rrs.tokenBuckets key (some bucket) })
  | none => (rrs.defaultStatus "token_bucket" now, rrs)

/-- `getInMemoryLeakyBucketStatus`: the fallback bucket's status, its leak written back; the
    tokens left are the `int64` difference `capacity - queueLength`. -/
def getInMemoryLeakyBucketStatus (key : String) (now : Int) :
    AlgorithmStatus × RedisRateLimiterService :=
  match rrs.leakyBuckets key with
  | some bucket =>
    let ((queueLength, capacity, nextLeak), bucket) := bucket.GetStatus now
    ({ Algorithm := "leaky_bucket", TokensLeft := subInt64 capacity queueLength,
       Capacity := capacity, RefillRate := rrs.config.DefaultRefill, NextRefillTime := nextLeak,
       IsBlocked := decide (queueLength ≥ capacity), HasState := true },
     { rrs with leakyBuckets := Function.update rrs.leakyBuckets key (some bucket) })
  | none => (rrs.defaultStatus "leaky_bucket" now, rrs)

/-- The status of `key`'s token bucket read from the Redis instance `inst`: the defaults when
    the key has no record, and otherwise the record as `TokenBucketRedis.GetStatus` reads it. -/
def redisTokenBucketStatus (key : String) (inst : Instance) (now : Int) :
    Except String AlgorithmStatus :=
  let tokenBucketRedis :=
    NewTokenBucketRedis key rrs.config.DefaultCapacity rrs.config.DefaultRefill
  if !tokenBucketRedis.HasState inst then .ok (rrs.defaultStatus "token_bucket" now)
  else do
    let (tokensLeft, capacity, nextRefill) ← tokenBucketRedis.GetStatus inst now
    pure { Algorithm := "token_bucket", TokensLeft := tokensLeft, Capacity := capacity,
           RefillRate := rrs.config.DefaultRefill, NextRefillTime := nextRefill,
           IsBlocked := tokensLeft == 0, HasState := true }

/-- The status of `key`'s leaky bucket read from the Redis instance `inst`, reporting
    `capacity - queueLength` as the tokens left. -/
def redisLeakyBucketStatus (key : String) (inst : Instance) (now : Int) :
    Except String AlgorithmStatus :=
  let leakyBucketRedis :=
    NewLeakyBucketRedis key rrs.config.DefaultCapacity rrs.config.DefaultRefill
  if !leakyBucketRedis.HasState inst then .ok (rrs.defaultStatus "leaky_bucket" now)
  else do
    let (queueLength, capacity, nextLeak) ← leakyBucketRedis.GetStatus inst now
    pure { Algorithm := "leaky_bucket", TokensLeft := subInt64 capacity queueLength,
           Capacity := capacity, RefillRate := rrs.config.DefaultRefill,
           NextRefillTime := nextLeak, IsBlocked := decide (queueLength ≥ capacity),
           HasState := true }

/-- `getTokenBucketStatus`: the in-memory status when the manager returns no client, and
    otherwise the status read from the key's shard. -/
def getTokenBucketStatus (key : String) (now : Int) :
    Except String AlgorithmStatus × RedisRateLimiterService :=
  match rrs.redisManager.GetClient key with
  | none =>
    let r := rrs.getInMemoryTokenBucketStatus key now
    (.ok r.1, r.2)
  | some i => (rrs.redisTokenBucketStatus key (rrs.redisManager.clients.get i) now, rrs)

/-- `getLeakyBucketStatus`: as `getTokenBucketStatus`, for the leaky bucket. -/
def getLeakyBucketStatus (key : String) (now : Int) :
    Except String AlgorithmStatus × RedisRateLimiterService :=
  match rrs.redisManager.GetClient key with
  | none =>
    let r := rrs.getInMemoryLeakyBucketStatus key now
    (.ok r.1, r.2)
  | some i => (rrs.redisLeakyBucketStatus key (rrs.redisManager.clients.get i) now, rrs)

section Lemmas

variable {rrs} {kind : Kind} {key other : String} {tokens now : Int} {algorithm : String}
  {inst a b : Instance}

theorem tryRedis_of_down (hdown : inst.up = false) :
    rrs.tryRedis kind key inst tokens now = (false, inst) := by
  cases kind <;> exact Instance.tryEval_of_down hdown

theorem tryRedis_of_neg (hn : tokens < 0) : rrs.tryRedis kind key inst tokens now = (false, inst) := by
  cases kind <;> exact Instance.tryEval_of_neg hn

/-- The bucket's call, seen from any other Redis key, changes nothing. -/
theorem tryRedis_sameAt_of_ne (h : other ≠ kind.redisKey key) :
    (rrs.tryRedis kind key inst tokens now).2.SameAt other inst := by
  cases kind <;> exact Instance.tryEval_sameAt_of_ne h

/-- From instances that look the same from the bucket's Redis key, its call replies the same
    and leaves them looking the same from there. -/
theorem tryRedis_sameAt (h : a.SameAt (kind.redisKey key) b) :
    (rrs.tryRedis kind key a tokens now).1 = (rrs.tryRedis kind key b tokens now).1 ∧
      (rrs.tryRedis kind key a tokens now).2.SameAt (kind.redisKey key)
        (rrs.tryRedis kind key b tokens now).2 := by
  cases kind <;> exact Instance.tryEval_sameAt h

/-- `Acquire` always takes the Redis path: the key's shard serves the request through the
    bucket the algorithm selects, and the outcome is counted. -/
theorem Acquire_eq :
    rrs.Acquire key tokens algorithm now =
      let s := rrs.tryRedis (Kind.ofAlgorithm algorithm) key (rrs.redisManager.clientFor key)
        tokens now
      (s.1, { rrs with
        redisManager := rrs.redisManager.setClient (rrs.redisManager.GetClientIndex key) s.2
        metrics := rrs.metrics.RecordRequest s.1 (!s.1) }) := rfl

/-- A request the bucket refuses without touching the shard leaves everything but the
    counters as it was. -/
theorem Acquire_of_tryRedis_unchanged
    (h : rrs.tryRedis (Kind.ofAlgorithm algorithm) key (rrs.redisManager.clientFor key) tokens
      now = (false, rrs.redisManager.clientFor key)) :
    rrs.Acquire key tokens algorithm now =
      (false, { rrs with metrics := rrs.metrics.RecordRequest false true }) := by
  rw [Acquire_eq]
  simp only [h, RedisManager.setClient_self]
  rfl

/-- An unreachable shard refuses every request: `Acquire` returns false, counts it as rate
    limited, and leaves the shards and both fallback maps as they were. -/
theorem Acquire_of_down (hdown : (rrs.redisManager.clientFor key).up = false) :
    rrs.Acquire key tokens algorithm now =
      (false, { rrs with metrics := rrs.metrics.RecordRequest false true }) :=
  Acquire_of_tryRedis_unchanged (tryRedis_of_down hdown)

/-- A negative request is refused and leaves everything but the counters as it was. -/
theorem Acquire_of_neg (hn : tokens < 0) :
    rrs.Acquire key tokens algorithm now =
      (false, { rrs with metrics := rrs.metrics.RecordRequest false true }) :=
  Acquire_of_tryRedis_unchanged (tryRedis_of_neg hn)

theorem getTokenBucketStatus_eq :
    rrs.getTokenBucketStatus key now =
      (rrs.redisTokenBucketStatus key (rrs.redisManager.clientFor key) now, rrs) := rfl

theorem getLeakyBucketStatus_eq :
    rrs.getLeakyBucketStatus key now =
      (rrs.redisLeakyBucketStatus key (rrs.redisManager.clientFor key) now, rrs) := rfl

/-- `Acquire` never counts an error: a refusal is always recorded as rate limited. -/
theorem Acquire_errorRequests :
    (rrs.Acquire key tokens algorithm now).2.metrics.errorRequests = rrs.metrics.errorRequests := by
  rw [Acquire_eq]
  dsimp only
  cases (rrs.tryRedis (Kind.ofAlgorithm algorithm) key (rrs.redisManager.clientFor key) tokens
    now).1 <;> rfl

end Lemmas

end RedisRateLimiterService

/-- `GetStatus`'s choice of the primary algorithm: the one bucket with state; of two, the
    token bucket unless only the leaky bucket is below capacity; token-bucket defaults when
    neither has state. -/
def selectPrimary (tokenBucketStatus leakyBucketStatus : AlgorithmStatus) :
    String × AlgorithmStatus :=
  if tokenBucketStatus.HasState ∧ leakyBucketStatus.HasState then
    if tokenBucketStatus.TokensLeft < tokenBucketStatus.Capacity then
      ("token_bucket", tokenBucketStatus)
    else if leakyBucketStatus.TokensLeft < leakyBucketStatus.Capacity then
      ("leaky_bucket", leakyBucketStatus)
    else ("token_bucket", tokenBucketStatus)
  else if tokenBucketStatus.HasState then ("token_bucket", tokenBucketStatus)
  else if leakyBucketStatus.HasState then ("leaky_bucket", leakyBucketStatus)
  else ("token_bucket", tokenBucketStatus)

/-- The response `GetStatus` builds from the two statuses: the primary's summary fields and
    a detail entry for each bucket with state. -/
def StatusResponse.build (key : String) (tokenBucketStatus leakyBucketStatus : AlgorithmStatus) :
    StatusResponse :=
  let (primaryAlgorithm, primaryStatus) := selectPrimary tokenBucketStatus leakyBucketStatus
  { Key := key, Algorithm := primaryAlgorithm, TokensLeft := primaryStatus.TokensLeft,
    Capacity := primaryStatus.Capacity, RefillRate := primaryStatus.RefillRate,
    NextRefillTime := primaryStatus.NextRefillTime, IsBlocked := primaryStatus.IsBlocked,
    TokenBucketStatus := if tokenBucketStatus.HasState then some tokenBucketStatus else none,
    LeakyBucketStatus := if leakyBucketStatus.HasState then some leakyBucketStatus else none }

/-- `GetStatus`: both buckets' statuses, token bucket first, combined into one response. A
    panic while reading either (a zero rate in a record) is the error. -/
def RedisRateLimiterService.GetStatus (rrs : RedisRateLimiterService) (key : String)
    (now : Int) : Except String StatusResponse × RedisRateLimiterService :=
  match rrs.getTokenBucketStatus key now with
  | (.error e, rrs) => (.error e, rrs)
  | (.ok tokenBucketStatus, rrs) =>
    match rrs.getLeakyBucketStatus key now with
    | (.error e, rrs) => (.error e, rrs)
    | (.ok leakyBucketStatus, rrs) =>
      (.ok (StatusResponse.build key tokenBucketStatus leakyBucketStatus), rrs)

set_option maxRecDepth 20000 in
/-- With the key's only shard unreachable, `Acquire` refuses a one-token request that the
    fallback, holding nothing for the key, would admit: the client is never `nil`, so the
    fallback is never reached. -/
theorem RedisRateLimiterService.Acquire_unreachable_refuses :
    ((NewRedisRateLimiterService ⟨[⟨false, 0, fun _ => none⟩], by simp⟩ ⟨100, 1000000000⟩).Acquire
        "user1" 1 "token_bucket" 0).1 = false ∧
      ((NewRedisRateLimiterService ⟨[⟨false, 0, fun _ => none⟩], by simp⟩
        ⟨100, 1000000000⟩).acquireInMemoryFallback "user1" 1 "token_bucket" 0).1 = true :=
  ⟨congrArg Prod.fst (RedisRateLimiterService.Acquire_of_down (by decide)), by decide⟩

set_option maxRecDepth 20000 in
/-- A zero request creates state: on a key with no record it returns true but writes a full
    bucket, so the next `GetStatus` gains a token-bucket detail entry. A negative request
    served by the fallback likewise creates a fallback bucket before refusing. -/
theorem RedisRateLimiterService.Acquire_zero_creates_state :
    ((NewRedisRateLimiterService ⟨[⟨true, 0, fun _ => none⟩], by simp⟩ ⟨100, 1000000000⟩).GetStatus
        "user1" 0).1.toOption =
      some ⟨"user1", "token_bucket", 100, 100, 1000000000, 1000000000, false, none, none⟩ ∧
    ((NewRedisRateLimiterService ⟨[⟨true, 0, fun _ => none⟩], by simp⟩ ⟨100, 1000000000⟩).Acquire
        "user1" 0 "token_bucket" 0).1 = true ∧
    (((NewRedisRateLimiterService ⟨[⟨true, 0, fun _ => none⟩], by simp⟩ ⟨100, 1000000000⟩).Acquire
        "user1" 0 "token_bucket" 0).2.GetStatus "user1" 0).1.toOption =
      some ⟨"user1", "token_bucket", 100, 100, 1000000000, 1000000000, false,
        some ⟨"token_bucket", 100, 100, 1000000000, 1000000000, false, true⟩, none⟩ ∧
    ((NewRedisRateLimiterService ⟨[⟨true, 0, fun _ => none⟩], by simp⟩
        ⟨100, 1000000000⟩).getInMemoryTokenBucketStatus "user1" 0).1.HasState = false ∧
    (((NewRedisRateLimiterService ⟨[⟨true, 0, fun _ => none⟩], by simp⟩
        ⟨100, 1000000000⟩).acquireInMemoryFallback "user1" (-1) "token_bucket" 0).2.getInMemoryTokenBucketStatus
        "user1" 0).1.HasState = true := by
  decide

end rate_limiter.services
