import RateLimiter.Services.RateLimiterService

open rate_limiter.redis

namespace rate_limiter.services

/-- What reaches the service: an `Acquire` call, or time passing on every Redis instance. -/
inductive ServiceEvent
  | acquire (key : String) (tokens : Int) (algorithm : String) (now : Int)
  | tick (seconds : Nat)

/-- Whether an event stays in the run of `key` under `kind`: its own calls and the ticks. -/
def ServiceEvent.keptFor (key : String) (kind : Kind) : ServiceEvent → Bool
  | .acquire k _ algorithm _ => k == key && Kind.ofAlgorithm algorithm == kind
  | .tick _ => true

namespace RedisRateLimiterService

/-- Time passing on every Redis instance. -/
def tick (rrs : RedisRateLimiterService) (seconds : Nat) : RedisRateLimiterService :=
  { rrs with redisManager := rrs.redisManager.tick seconds }

/-- The service after one event. -/
def step (rrs : RedisRateLimiterService) : ServiceEvent → RedisRateLimiterService
  | .acquire key tokens algorithm now => (rrs.Acquire key tokens algorithm now).2
  | .tick seconds => rrs.tick seconds

/-- The service after a run. -/
def run (rrs : RedisRateLimiterService) (events : List ServiceEvent) : RedisRateLimiterService :=
  events.foldl step rrs

/-- What the `Acquire` calls on `key` under `kind` return along a run, in order. -/
def resultsFor (key : String) (kind : Kind) :
    RedisRateLimiterService → List ServiceEvent → List Bool
  | _, [] => []
  | rrs, .acquire k tokens algorithm now :: events =>
    let r := rrs.Acquire k tokens algorithm now
    if k = key ∧ Kind.ofAlgorithm algorithm = kind then r.1 :: resultsFor key kind r.2 events
    else resultsFor key kind r.2 events
  | rrs, .tick seconds :: events => resultsFor key kind (rrs.tick seconds) events

/-- The status of `key`'s bucket of `kind`, as `getTokenBucketStatus` or
    `getLeakyBucketStatus` reports it. -/
def statusFor (rrs : RedisRateLimiterService) (key : String) (now : Int) :
    Kind → Except String AlgorithmStatus × RedisRateLimiterService
  | .tokenBucket => rrs.getTokenBucketStatus key now
  | .leakyBucket => rrs.getLeakyBucketStatus key now

/-- Two services that hold the same for `key` under `kind`: the configuration, the number of
    shards, the key's shard as seen from the bucket's Redis key, and the bucket's fallback
    entry. -/
structure SameFor (key : String) (kind : Kind) (r₁ r₂ : RedisRateLimiterService) : Prop where
  config : r₁.config = r₂.config
  length : r₁.redisManager.clients.length = r₂.redisManager.clients.length
  shard : (r₁.redisManager.clientFor key).SameAt (kind.redisKey key) (r₂.redisManager.clientFor key)
  tokenBucket : kind = .tokenBucket → r₁.tokenBuckets key = r₂.tokenBuckets key
  leakyBucket : kind = .leakyBucket → r₁.leakyBuckets key = r₂.leakyBuckets key

section Frame

variable {key : String} {kind : Kind} {r₁ r₂ : RedisRateLimiterService}

theorem SameFor.refl (rrs : RedisRateLimiterService) : SameFor key kind rrs rrs :=
  ⟨rfl, rfl, Instance.SameAt.refl _, fun _ => rfl, fun _ => rfl⟩

theorem SameFor.symm (h : SameFor key kind r₁ r₂) : SameFor key kind r₂ r₁ :=
  ⟨h.config.symm, h.length.symm, h.shard.symm, fun hk => (h.tokenBucket hk).symm,
    fun hk => (h.leakyBucket hk).symm⟩

theorem SameFor.trans {r₃ : RedisRateLimiterService} (h₁₂ : SameFor key kind r₁ r₂)
    (h₂₃ : SameFor key kind r₂ r₃) : SameFor key kind r₁ r₃ :=
  ⟨h₁₂.config.trans h₂₃.config, h₁₂.length.trans h₂₃.length, h₁₂.shard.trans h₂₃.shard,
    fun hk => (h₁₂.tokenBucket hk).trans (h₂₃.tokenBucket hk),
    fun hk => (h₁₂.leakyBucket hk).trans (h₂₃.leakyBucket hk)⟩

theorem tryRedis_congr (h : r₁.config = r₂.config) : r₁.tryRedis = r₂.tryRedis := by
  unfold tryRedis
  rw [h]

theorem SameFor.tick (h : SameFor key kind r₁ r₂) (seconds : Nat) :
    SameFor key kind (r₁.tick seconds) (r₂.tick seconds) where
  config := h.config
  length := by simp only [RedisRateLimiterService.tick, RedisManager.tick_clients, List.length_map, h.length]
  shard := by
    simp only [RedisRateLimiterService.tick, RedisManager.tick_clientFor]
    exact h.shard.tick seconds
  tokenBucket := h.tokenBucket
  leakyBucket := h.leakyBucket

/-- A call on the pair itself, from services that hold the same for it, returns the same and
    leaves them holding the same. -/
theorem SameFor.acquire_self (h : SameFor key kind r₁ r₂) (tokens now : Int) {algorithm : String}
    (hkind : Kind.ofAlgorithm algorithm = kind) :
    (r₁.Acquire key tokens algorithm now).1 = (r₂.Acquire key tokens algorithm now).1 ∧
      SameFor key kind (r₁.Acquire key tokens algorithm now).2
        (r₂.Acquire key tokens algorithm now).2 := by
  subst hkind
  obtain ⟨hres, hshard⟩ := @tryRedis_sameAt r₂ _ _ tokens now _ _ h.shard
  simp only [Acquire_eq, tryRedis_congr h.config] at hres hshard ⊢
  refine ⟨hres, h.config, by simp only [RedisManager.setClient_length, h.length], ?_,
    h.tokenBucket, h.leakyBucket⟩
  simp only [RedisManager.setClient_clientFor, if_true]
  exact hshard

/-- A call on any other pair leaves what a service holds for the pair alone. -/
theorem SameFor.acquire_other (h : SameFor key kind r₁ r₂) {k : String} (tokens now : Int)
    {algorithm : String} (hne : ¬(k = key ∧ Kind.ofAlgorithm algorithm = kind)) :
    SameFor key kind (r₁.Acquire k tokens algorithm now).2 r₂ := by
  have hkey : kind.redisKey key ≠ (Kind.ofAlgorithm algorithm).redisKey k := fun heq =>
    hne ⟨(Kind.redisKey_inj heq).2.symm, (Kind.redisKey_inj heq).1.symm⟩
  refine ⟨h.config, by simp only [Acquire_eq, RedisManager.setClient_length, h.length], ?_,
    h.tokenBucket, h.leakyBucket⟩
  simp only [Acquire_eq, RedisManager.setClient_clientFor]
  split
  · rename_i hidx
    refine Instance.SameAt.trans (tryRedis_sameAt_of_ne hkey) ?_
    rw [RedisManager.clientFor_eq_of_index hidx]
    exact h.shard
  · exact h.shard

/-- The bucket's status depends only on what a service holds for the pair. -/
theorem SameFor.statusFor_eq (h : SameFor key kind r₁ r₂) (now : Int) :
    (r₁.statusFor key now kind).1 = (r₂.statusFor key now kind).1 := by
  have hGet := h.shard.Get_eq
  cases kind <;>
    simp only [statusFor, getTokenBucketStatus_eq, getLeakyBucketStatus_eq,
      redisTokenBucketStatus, redisLeakyBucketStatus, defaultStatus, h.config,
      TokenBucketRedis.HasState, LeakyBucketRedis.HasState, Instance.getOk,
      TokenBucketRedis.GetStatus, LeakyBucketRedis.GetStatus, NewTokenBucketRedis_key,
      NewLeakyBucketRedis_key] <;>
    rw [hGet]

end Frame

/-- Simulation: the run of every event from `r₁` and the run of the pair's own calls and
    the ticks from `r₂`, started from services that hold the same for the pair, give the pair's
    calls the same results and end holding the same for it. -/
theorem SameFor.run (key : String) (kind : Kind) :
    ∀ (events : List ServiceEvent) (r₁ r₂ : RedisRateLimiterService), SameFor key kind r₁ r₂ →
      resultsFor key kind r₁ events =
          resultsFor key kind r₂ (events.filter (ServiceEvent.keptFor key kind)) ∧
        SameFor key kind (r₁.run events) (r₂.run (events.filter (ServiceEvent.keptFor key kind)))
  | [], _, _, h => ⟨rfl, h⟩
  | .tick seconds :: events, r₁, r₂, h => by
    simpa [resultsFor, run, step, ServiceEvent.keptFor] using
      SameFor.run key kind events _ _ (h.tick seconds)
  | .acquire k tokens algorithm now :: events, r₁, r₂, h => by
    by_cases hpair : k = key ∧ Kind.ofAlgorithm algorithm = kind
    · obtain ⟨rfl, hkind⟩ := hpair
      obtain ⟨hres, hsame⟩ := h.acquire_self tokens now hkind
      have ih := SameFor.run k kind events _ _ hsame
      simp only [List.filter_cons, ServiceEvent.keptFor, beq_self_eq_true, hkind, Bool.and_self,
        if_true, resultsFor, and_self, run, List.foldl_cons, step] at ih ⊢
      exact ⟨by rw [hres, ih.1], ih.2⟩
    · have ih := SameFor.run key kind events _ _ (h.acquire_other tokens now hpair)
      have hkeep : ServiceEvent.keptFor key kind (.acquire k tokens algorithm now) = false := by
        simpa [ServiceEvent.keptFor] using hpair
      simp only [List.filter_cons, hkeep, resultsFor, if_neg hpair, run, List.foldl_cons, step]
        at ih ⊢
      exact ih

/-- Isolation between keys and bucket kinds. The Redis keys of all caller keys under both kinds
    are pairwise distinct, and along any run of `Acquire` calls and clock ticks the calls on one
    caller key under one kind return what they would with every call on any other key or kind
    taken out of the run, and that bucket's status reads the same afterwards. -/
theorem Acquire_isolated (key : String) (kind : Kind) (rrs : RedisRateLimiterService)
    (events : List ServiceEvent) (now : Int) :
    (∀ kind' key', kind'.redisKey key' = kind.redisKey key → kind' = kind ∧ key' = key) ∧
      resultsFor key kind rrs events =
        resultsFor key kind rrs (events.filter (ServiceEvent.keptFor key kind)) ∧
      ((rrs.run events).statusFor key now kind).1 =
        ((rrs.run (events.filter (ServiceEvent.keptFor key kind))).statusFor key now kind).1 := by
  obtain ⟨hres, hsame⟩ := SameFor.run key kind events rrs rrs (SameFor.refl rrs)
  exact ⟨fun _ _ h => Kind.redisKey_inj h, hres, hsame.statusFor_eq now⟩

end RedisRateLimiterService

end rate_limiter.services
