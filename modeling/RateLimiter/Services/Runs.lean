import RateLimiter.Services.Isolation
import RateLimiter.Services.Shard

open rate_limiter.float rate_limiter.redis

namespace rate_limiter.services

/-- What a service event puts before the shard holding the Redis key of `key` under `kind`:
    the pair's own `Acquire` calls arrive there as requests and the ticks move its clock; every
    other call is not seen from that key. -/
def ServiceEvent.toShard (key : String) (kind : Kind) : ServiceEvent → Option ShardEvent
  | .acquire k tokens algorithm now =>
    if k = key ∧ Kind.ofAlgorithm algorithm = kind then some (.request tokens now) else none
  | .tick seconds => some (.tick seconds)

/-- A record as the bucket script of `kind` saves it with capacity `C` and period `P`, both
    through `tonumber`: its level (the tokens left, or the queue length), as a reader reads it
    back, within `[0, C]` as read back, and any clocks. -/
def Kind.ScriptRecord (C P : Int) : Kind → Stored → Prop
  | .tokenBucket, v => ∃ tokens lastRefillNs nowNs,
      v = TokenBucketRedis.encodeRecord (Lua.tonumber C) tokens (Lua.tonumber P) lastRefillNs
        nowNs ∧
      0 ≤ binary64 (decimal14 tokens) ∧
      binary64 (decimal14 tokens) ≤ binary64 (decimal14 (Lua.tonumber C))
  | .leakyBucket, v => ∃ queueLength lastLeakNs nowNs,
      v = LeakyBucketRedis.encodeRecord (Lua.tonumber C) queueLength (Lua.tonumber P) lastLeakNs
        nowNs ∧
      0 ≤ binary64 (decimal14 queueLength) ∧
      binary64 (decimal14 queueLength) ≤ binary64 (decimal14 (Lua.tonumber C))

/-- A level a bucket script holds at capacity `C'` (after `tonumber`): a double, non-negative,
    and read back from a record no higher than the capacity is. It may sit above `C'` itself,
    by what `%.14g` rounds up. -/
structure ScriptLevel (C' t : Int) : Prop where
  double : binary64 t = t
  nonneg : 0 ≤ t
  read_le : binary64 (decimal14 t) ≤ binary64 (decimal14 C')

section Levels

variable {C' t u : Int}

theorem read_mono {x y : Int} (h : x ≤ y) : binary64 (decimal14 x) ≤ binary64 (decimal14 y) :=
  binary64_mono (decimal14_mono h)

theorem binary64_nonneg {x : Int} (h : 0 ≤ x) : 0 ≤ binary64 x := binary64_zero ▸ binary64_mono h

/-- The capacity itself, a non-negative double. -/
theorem ScriptLevel.capacity (hC : 0 ≤ C') (hd : binary64 C' = C') : ScriptLevel C' C' :=
  ⟨hd, hC, le_rfl⟩

/-- A level read back from a record whose level reads back within `[0, C']`. -/
theorem ScriptLevel.read (h0 : 0 ≤ binary64 (decimal14 t))
    (h1 : binary64 (decimal14 t) ≤ binary64 (decimal14 C')) :
    ScriptLevel C' (binary64 (decimal14 t)) :=
  ⟨binary64_binary64 _, h0, by rw [binary64_decimal14_idem]; exact h1⟩

/-- A double at most the capacity. -/
theorem ScriptLevel.of_le_capacity (h0 : 0 ≤ u) (hu : binary64 u ≤ C') :
    ScriptLevel C' (binary64 u) :=
  ⟨binary64_binary64 _, binary64_nonneg h0, read_mono hu⟩

/-- A non-negative amount at most a level, rounded, is a level. -/
theorem ScriptLevel.of_le (h : ScriptLevel C' t) (h0 : 0 ≤ u) (hu : u ≤ t) :
    ScriptLevel C' (binary64 u) :=
  ⟨binary64_binary64 _, binary64_nonneg h0,
    (read_mono (h.double ▸ binary64_mono hu)).trans h.read_le⟩

/-- A level reads back within `[0, C']` as read back. -/
theorem ScriptLevel.readBack (h : ScriptLevel C' t) :
    0 ≤ binary64 (decimal14 t) ∧ binary64 (decimal14 t) ≤ binary64 (decimal14 C') :=
  ⟨binary64_nonneg (decimal14_zero ▸ decimal14_mono h.nonneg), h.read_le⟩

end Levels

section Scripts

variable {C P n now : Int} {x : Option Stored} {reply seconds : Int} {w : Stored}

/-- The refill on doubles keeps a level a level: capped by `math.min` at the capacity, or left
    as it was. -/
theorem TokenBucketRedis.scriptRefill_level {C' P' now' t l t' l' : Int} (ht : ScriptLevel C' t)
    (hC : ScriptLevel C' C')
    (h : TokenBucketRedis.scriptRefill C' P' now' t l = .ok (t', l')) : ScriptLevel C' t' := by
  unfold TokenBucketRedis.scriptRefill at h
  split at h
  · rename_i k _
    split_ifs at h with hk <;> cases h
    · unfold Lua.min Lua.add
      split_ifs with hlt
      · exact ScriptLevel.of_le_capacity (by linarith [ht.nonneg]) hlt.le
      · exact hC
    · exact ht
  · cases h
  all_goals (cases h; exact ht)

/-- The drain on doubles keeps a level a level: it removes at most the queue. -/
theorem LeakyBucketRedis.scriptLeak_level {C' P' now' q l : Int} (hq : ScriptLevel C' q) :
    ScriptLevel C' (LeakyBucketRedis.scriptLeak P' now' q l).1 := by
  unfold LeakyBucketRedis.scriptLeak
  split
  · split_ifs with hk
    · unfold Lua.min Lua.sub
      split_ifs <;> exact hq.of_le (by omega) (by omega)
    · exact hq
  · split_ifs
    · exact hq.of_le (by omega) (by omega)
    · exact hq
  all_goals exact hq

/-- From a missing record or one it saved itself, the token-bucket script saves a record of
    its own with the level within `[0, C]`. -/
theorem TokenBucketRedis.luaScript_scriptRecord (hC : 0 ≤ C) (hn : 0 ≤ n)
    (hx : ∀ v, x = some v → Kind.tokenBucket.ScriptRecord C P v)
    (h : TokenBucketRedis.luaScript n C P now x = .ok (reply, w, seconds)) :
    Kind.tokenBucket.ScriptRecord C P w := by
  have hcap : ScriptLevel (Lua.tonumber C) (Lua.tonumber C) :=
    .capacity (binary64_nonneg hC) (binary64_binary64 C)
  -- the level the script loads
  obtain ⟨t, l, hload, ht⟩ : ∃ t l,
      TokenBucketRedis.loadState (Lua.tonumber C) (Lua.tonumber now) x = .ok (t, l) ∧
        ScriptLevel (Lua.tonumber C) t := by
    cases x with
    | none => exact ⟨_, _, rfl, hcap⟩
    | some v =>
      obtain ⟨t, l, _, rfl, ht0, htC⟩ := hx v rfl
      exact ⟨_, _, TokenBucketRedis.decodeRecord_encodeRecord, .read ht0 htC⟩
  -- the level after the refill
  simp only [TokenBucketRedis.luaScript, hload, bind, Except.bind] at h
  cases hrefill : TokenBucketRedis.scriptRefill (Lua.tonumber C) (Lua.tonumber P)
    (Lua.tonumber now) t l with
  | error e => rw [hrefill] at h; cases h
  | ok r =>
    obtain ⟨t', l'⟩ := r
    have ht' := TokenBucketRedis.scriptRefill_level ht hcap hrefill
    rw [hrefill] at h
    dsimp only at h
    -- the take
    split_ifs at h with hfit <;> cases h
    · have hn' : 0 ≤ Lua.tonumber n := binary64_nonneg hn
      exact ⟨_, _, _, rfl,
        (@ScriptLevel.of_le _ _ (t' - Lua.tonumber n) ht' (by omega) (by omega)).readBack⟩
    · exact ⟨_, _, _, rfl, ht'.readBack⟩

/-- From a missing record or one it saved itself, the leaky-bucket script saves a record of
    its own with the queue within `[0, C]`. -/
theorem LeakyBucketRedis.luaScript_scriptRecord (hC : 0 ≤ C) (hn : 0 ≤ n)
    (hx : ∀ v, x = some v → Kind.leakyBucket.ScriptRecord C P v)
    (h : LeakyBucketRedis.luaScript n C P now x = .ok (reply, w, seconds)) :
    Kind.leakyBucket.ScriptRecord C P w := by
  -- the queue the script loads
  obtain ⟨q, l, hload, hq⟩ : ∃ q l, LeakyBucketRedis.loadState (Lua.tonumber now) x = .ok (q, l) ∧
      ScriptLevel (Lua.tonumber C) q := by
    cases x with
    | none => exact ⟨_, _, rfl, ⟨rfl, le_rfl, read_mono (binary64_nonneg hC)⟩⟩
    | some v =>
      obtain ⟨q, l, _, rfl, hq0, hqC⟩ := hx v rfl
      exact ⟨_, _, LeakyBucketRedis.decodeRecord_encodeRecord, .read hq0 hqC⟩
  -- the queue after the drain, then the add
  have hq' := @LeakyBucketRedis.scriptLeak_level _ (Lua.tonumber P) (Lua.tonumber now) q l hq
  have hn' : 0 ≤ Lua.tonumber n := binary64_nonneg hn
  have hq0 := hq'.nonneg
  simp only [LeakyBucketRedis.luaScript, hload, bind, Except.bind] at h
  split_ifs at h with hfit <;> cases h
  · exact ⟨_, _, _, rfl,
      (@ScriptLevel.of_le_capacity _ (_ + Lua.tonumber n) (by omega) hfit).readBack⟩
  · exact ⟨_, _, _, rfl, hq'.readBack⟩

end Scripts

namespace RedisRateLimiterService

section Steps

variable {rrs : RedisRateLimiterService} {key : String} {kind : Kind} {tokens now : Int}
  {algorithm : String}

@[simp] theorem step_config (e : ServiceEvent) : (rrs.step e).config = rrs.config := by
  cases e <;> rfl

/-- The pair's own call is its bucket's call on the key's shard, and leaves there what that
    call leaves. -/
theorem Acquire_self (hkind : Kind.ofAlgorithm algorithm = kind) :
    (rrs.Acquire key tokens algorithm now).1 =
        (rrs.tryRedis kind key (rrs.redisManager.clientFor key) tokens now).1 ∧
      (rrs.Acquire key tokens algorithm now).2.redisManager.clientFor key =
        (rrs.tryRedis kind key (rrs.redisManager.clientFor key) tokens now).2 := by
  subst hkind
  simp only [Acquire_eq, RedisManager.setClient_clientFor, if_true, and_self]

/-- The bucket's call on a shard whose records of `kind` are the script's own keeps them so. -/
theorem tryRedis_scriptRecord (hC : 0 ≤ rrs.config.DefaultCapacity) {inst : Instance}
    (h : ∀ v, inst.get (kind.redisKey key) = some v →
      kind.ScriptRecord rrs.config.DefaultCapacity rrs.config.DefaultRefill v) :
    ∀ v, (rrs.tryRedis kind key inst tokens now).2.get (kind.redisKey key) = some v →
      kind.ScriptRecord rrs.config.DefaultCapacity rrs.config.DefaultRefill v := by
  intro v hv
  have hcases : (rrs.tryRedis kind key inst tokens now).2 = inst ∨
      ∃ reply w seconds, 0 ≤ tokens ∧
        (match kind with
          | .tokenBucket => TokenBucketRedis.luaScript tokens rrs.config.DefaultCapacity
              rrs.config.DefaultRefill now
          | .leakyBucket => LeakyBucketRedis.luaScript tokens rrs.config.DefaultCapacity
              rrs.config.DefaultRefill now) (inst.get (kind.redisKey key)) = .ok (reply, w, seconds) ∧
        (rrs.tryRedis kind key inst tokens now).2 = inst.setEx (kind.redisKey key) w seconds := by
    by_cases hn : tokens < 0
    · exact .inl (by rw [tryRedis_of_neg hn])
    cases kind <;>
      rcases Instance.tryEval_cases with heq | ⟨reply, w, seconds, hs, heq⟩
    all_goals first
      | exact .inl heq
      | exact .inr ⟨reply, w, seconds, Int.not_lt.1 hn, hs, heq⟩
  rcases hcases with heq | ⟨reply, w, seconds, hn, hs, heq⟩
  · rw [heq] at hv
    exact h v hv
  · rw [heq] at hv
    cases Instance.get_setEx_self_eq hv
    cases kind
    · exact TokenBucketRedis.luaScript_scriptRecord hC hn h hs
    · exact LeakyBucketRedis.luaScript_scriptRecord hC hn h hs

end Steps

/-- Simulation of the pair's shard. From an instance that looks the same from the pair's
    Redis key as the key's shard, a shard serving only the pair's calls and the ticks returns
    what the pair's calls return along any service run, and ends looking the same from that
    key as the service's shard. -/
theorem resultsFor_shardResults (key : String) (kind : Kind) :
    ∀ (events : List ServiceEvent) (rrs : RedisRateLimiterService) (s : Instance × Option Lifetime),
      (rrs.redisManager.clientFor key).SameAt (kind.redisKey key) s.1 →
      resultsFor key kind rrs events =
          shardResults (rrs.tryRedis kind key) s.1
            (events.filterMap (ServiceEvent.toShard key kind)) ∧
        ((rrs.run events).redisManager.clientFor key).SameAt (kind.redisKey key)
          (shardRun (kind.redisKey key) (rrs.tryRedis kind key) s
            (events.filterMap (ServiceEvent.toShard key kind))).1
  | [], _, _, h => ⟨rfl, h⟩
  | .tick seconds :: events, rrs, (inst, life), h =>
    resultsFor_shardResults key kind events (rrs.tick seconds) (inst.tick seconds, life)
      (by rw [show (rrs.tick seconds).redisManager = rrs.redisManager.tick seconds from rfl,
        RedisManager.tick_clientFor]; exact h.tick seconds)
  | .acquire k tokens algorithm now :: events, rrs, (inst, life), h => by
    by_cases hpair : k = key ∧ Kind.ofAlgorithm algorithm = kind
    · obtain ⟨rfl, hkind⟩ := hpair
      obtain ⟨hres, hshard⟩ := @Acquire_self rrs k kind tokens now algorithm hkind
      obtain ⟨hres', hsame⟩ := @tryRedis_sameAt rrs kind k tokens now _ _ h
      have ih := resultsFor_shardResults k kind events (rrs.Acquire k tokens algorithm now).2
        (shardStep (kind.redisKey k) (rrs.tryRedis kind k) (inst, life) (.request tokens now))
        (hshard ▸ hsame)
      rw [tryRedis_congr (show (rrs.Acquire k tokens algorithm now).2.config = rrs.config from rfl)]
        at ih
      simp only [resultsFor, hkind, and_self, if_true, ServiceEvent.toShard, List.filterMap_cons,
        run, List.foldl_cons, step] at ih ⊢
      exact ⟨by rw [hres, hres', ih.1]; rfl, ih.2⟩
    · have ih := resultsFor_shardResults key kind events (rrs.Acquire k tokens algorithm now).2
        (inst, life) ((SameFor.acquire_other (SameFor.refl rrs) tokens now hpair).shard.trans h)
      rw [tryRedis_congr (show (rrs.Acquire k tokens algorithm now).2.config = rrs.config from rfl)]
        at ih
      simp only [resultsFor, if_neg hpair, ServiceEvent.toShard, List.filterMap_cons, run,
        List.foldl_cons, step] at ih ⊢
      exact ih

/-- Every live bucket record a shard model keeps is the script's own, with its level in
    `[0, C]`, when it started so. -/
theorem shardRun_scriptRecord (rrs : RedisRateLimiterService) (key : String) (kind : Kind)
    (hC : 0 ≤ rrs.config.DefaultCapacity) (events : List ShardEvent)
    (s : Instance × Option Lifetime)
    (h : ∀ v, s.1.get (kind.redisKey key) = some v →
      kind.ScriptRecord rrs.config.DefaultCapacity rrs.config.DefaultRefill v) :
    ∀ v, (shardRun (kind.redisKey key) (rrs.tryRedis kind key) s events).1.get (kind.redisKey key) =
        some v → kind.ScriptRecord rrs.config.DefaultCapacity rrs.config.DefaultRefill v :=
  shardRun_inv _ _ (fun _ => True) (fun s => ∀ v, s.1.get (kind.redisKey key) = some v →
      kind.ScriptRecord rrs.config.DefaultCapacity rrs.config.DefaultRefill v)
    (fun ⟨inst, life⟩ e _ hs => by
      cases e with
      | request n now => exact tryRedis_scriptRecord hC hs
      | tick seconds => exact fun v hv => hs v (Instance.get_tick seconds hv))
    events s (fun _ _ => trivial) h

/-- Refinement of the service by the shard model. Along any run of `Acquire` calls on any keys
    and kinds and clock ticks, the calls on one key under one kind return what a single shard
    returns serving only that pair's requests, with their stamps, and the ticks, from the key's
    shard as it was; and the service's shard ends looking the same from the pair's Redis key as
    that shard. -/
theorem Acquire_refines_shard (key : String) (kind : Kind) (rrs : RedisRateLimiterService)
    (events : List ServiceEvent) :
    resultsFor key kind rrs events =
        shardResults (rrs.tryRedis kind key) (rrs.redisManager.clientFor key)
          (events.filterMap (ServiceEvent.toShard key kind)) ∧
      ((rrs.run events).redisManager.clientFor key).SameAt (kind.redisKey key)
        (shardRun (kind.redisKey key) (rrs.tryRedis kind key) (rrs.redisManager.clientFor key, none)
          (events.filterMap (ServiceEvent.toShard key kind))).1 :=
  resultsFor_shardResults key kind events rrs (rrs.redisManager.clientFor key, none)
    (Instance.SameAt.refl _)

/-- The service keeps its bucket records the scripts' own. Along any run of `Acquire` calls on
    any keys and kinds and clock ticks, from shards whose live bucket records are each as the
    script of its kind saves it, with the configured capacity and period and its level within
    `[0, C]` (as when the shards hold none), every live bucket record stays so. -/
theorem run_keeps_script_records (rrs : RedisRateLimiterService)
    (hC : 0 ≤ rrs.config.DefaultCapacity)
    (h : ∀ key (kind : Kind) v, (rrs.redisManager.clientFor key).get (kind.redisKey key) = some v →
      kind.ScriptRecord rrs.config.DefaultCapacity rrs.config.DefaultRefill v)
    (events : List ServiceEvent) (key : String) (kind : Kind) (v : Stored)
    (hv : ((rrs.run events).redisManager.clientFor key).get (kind.redisKey key) = some v) :
    kind.ScriptRecord rrs.config.DefaultCapacity rrs.config.DefaultRefill v := by
  obtain ⟨-, hsame⟩ := resultsFor_shardResults key kind events rrs
    (rrs.redisManager.clientFor key, none) (Instance.SameAt.refl _)
  rw [hsame.get_eq] at hv
  exact shardRun_scriptRecord rrs key kind hC _ _ (h key kind) v hv

set_option maxRecDepth 20000 in
theorem run_keeps_script_records_run :
    (0 : Int) ≤ 100 ∧
      (∀ key (kind : Kind) v, ((NewRedisRateLimiterService ⟨[⟨true, 0, fun _ => none⟩], by simp⟩
          ⟨100, 1000000000⟩).redisManager.clientFor key).get (kind.redisKey key) = some v →
        kind.ScriptRecord 100 1000000000 v) ∧
      (((NewRedisRateLimiterService ⟨[⟨true, 0, fun _ => none⟩], by simp⟩ ⟨100, 1000000000⟩).run
          [.acquire "user1" 1 "token_bucket" 0]).redisManager.clientFor "user1").get
          (Kind.tokenBucket.redisKey "user1") =
        some (TokenBucketRedis.encodeRecord 100 99 1000000000 0 0) ∧
      Kind.tokenBucket.ScriptRecord 100 1000000000
        (TokenBucketRedis.encodeRecord 100 99 1000000000 0 0) := by
  have h : ∀ key (kind : Kind) v, ((NewRedisRateLimiterService ⟨[⟨true, 0, fun _ => none⟩],
      by simp⟩ ⟨100, 1000000000⟩).redisManager.clientFor key).get (kind.redisKey key) = some v →
      kind.ScriptRecord 100 1000000000 v := by
    intro key kind v hv
    simp [RedisManager.clientFor, Instance.get, NewRedisRateLimiterService] at hv
  exact ⟨by decide, h, rfl, run_keeps_script_records _ (by decide) h
    [.acquire "user1" 1 "token_bucket" 0] "user1" .tokenBucket _ rfl⟩

section Counters

/-- What every `Acquire` call of a run returns, in order. -/
def results : RedisRateLimiterService → List ServiceEvent → List Bool
  | _, [] => []
  | rrs, .acquire key tokens algorithm now :: events =>
    let r := rrs.Acquire key tokens algorithm now
    r.1 :: results r.2 events
  | rrs, .tick seconds :: events => results (rrs.tick seconds) events

/-- What `Acquire` records: one request, successful or rate limited as it returned. -/
theorem Acquire_metrics (rrs : RedisRateLimiterService) (key : String) (tokens : Int)
    (algorithm : String) (now : Int) :
    (rrs.Acquire key tokens algorithm now).2.metrics =
      { totalRequests := rrs.metrics.totalRequests + 1
        successfulRequests := rrs.metrics.successfulRequests +
          if (rrs.Acquire key tokens algorithm now).1 then 1 else 0
        rateLimitedRequests := rrs.metrics.rateLimitedRequests +
          if (rrs.Acquire key tokens algorithm now).1 then 0 else 1
        errorRequests := rrs.metrics.errorRequests } := by
  rw [Acquire_eq]
  dsimp only
  cases (rrs.tryRedis (Kind.ofAlgorithm algorithm) key (rrs.redisManager.clientFor key) tokens
    now).1 <;> simp [MetricsCollector.RecordRequest]

/-- The counters account for every call of every run, and a run changes nothing but the
    shards and the counters: each `Acquire` adds one request and one success or one rate-limited
    request, as it returned, never an error, and the configuration and both in-memory fallback
    maps stay as they were. -/
theorem run_metrics : ∀ (rrs : RedisRateLimiterService) (events : List ServiceEvent),
    (rrs.run events).metrics =
        { totalRequests := rrs.metrics.totalRequests + (results rrs events).length
          successfulRequests := rrs.metrics.successfulRequests + (results rrs events).count true
          rateLimitedRequests :=
            rrs.metrics.rateLimitedRequests + (results rrs events).count false
          errorRequests := rrs.metrics.errorRequests } ∧
      (rrs.run events).config = rrs.config ∧ (rrs.run events).tokenBuckets = rrs.tokenBuckets ∧
      (rrs.run events).leakyBuckets = rrs.leakyBuckets
  | rrs, [] => by simp [results, run]
  | rrs, .tick seconds :: events => run_metrics (rrs.tick seconds) events
  | rrs, .acquire key tokens algorithm now :: events => by
    obtain ⟨hm, hc, ht, hl⟩ := run_metrics (rrs.Acquire key tokens algorithm now).2 events
    have hstep := Acquire_metrics rrs key tokens algorithm now
    refine ⟨?_, hc, ht, hl⟩
    simp only [run, List.foldl_cons, step, results, List.length_cons, List.count_cons] at hm ⊢
    rw [hm, hstep]
    cases (rrs.Acquire key tokens algorithm now).1 <;> simp only [MetricsCollector.mk.injEq] <;>
      push_cast <;> simp <;> omega

end Counters

end RedisRateLimiterService

end rate_limiter.services
