import RateLimiter.Services.Runs

open rate_limiter.redis

namespace rate_limiter.services

/-- A request counter of `MetricsCollector`, as one `atomic.AddInt64` of `RecordRequest` names
    it. -/
inductive Counter
  | totalRequests
  | successfulRequests
  | rateLimitedRequests
  | errorRequests
  deriving Repr, DecidableEq

/-- One `atomic.AddInt64(&mc.counter, 1)`. -/
def MetricsCollector.add (mc : MetricsCollector) : Counter → MetricsCollector
  | .totalRequests => { mc with totalRequests := mc.totalRequests + 1 }
  | .successfulRequests => { mc with successfulRequests := mc.successfulRequests + 1 }
  | .rateLimitedRequests => { mc with rateLimitedRequests := mc.rateLimitedRequests + 1 }
  | .errorRequests => { mc with errorRequests := mc.errorRequests + 1 }

/-- The counter additions of `RecordRequest success rateLimited`, in order; the response-time
    total it also adds to is not modelled. -/
def recordRequestAdds (success rateLimited : Bool) : List Counter :=
  [.totalRequests,
    if success then .successfulRequests
    else if rateLimited then .rateLimitedRequests
    else .errorRequests]

namespace MetricsCollector

/-- `RecordRequest` is its additions made one after the other. -/
theorem RecordRequest_eq_foldl (mc : MetricsCollector) (success rateLimited : Bool) :
    mc.RecordRequest success rateLimited = (recordRequestAdds success rateLimited).foldl add mc := by
  cases success <;> cases rateLimited <;> rfl

/-- Two additions commute. -/
theorem add_right_comm (mc : MetricsCollector) (a b : Counter) :
    (mc.add a).add b = (mc.add b).add a := by
  cases a <;> cases b <;> rfl

/-- The additions reach the same counters in any order. -/
theorem foldl_add_perm {l₁ l₂ : List Counter} (h : l₁.Perm l₂) (mc : MetricsCollector) :
    l₁.foldl add mc = l₂.foldl add mc :=
  h.foldl_eq' (fun a _ b _ mc => add_right_comm mc a b) mc

end MetricsCollector

namespace RedisRateLimiterService

/-- `Acquire` up to its `RecordRequest`: what the call returns, and the service with the
    counters not yet updated. -/
def acquireUncounted (rrs : RedisRateLimiterService) (key : String) (tokens : Int)
    (algorithm : String) (now : Int) : Bool × RedisRateLimiterService :=
  match rrs.redisManager.GetClient key with
  | none => rrs.acquireInMemoryFallback key tokens algorithm now
  | some i =>
    let s := rrs.tryRedis (Kind.ofAlgorithm algorithm) key (rrs.redisManager.clients.get i)
      tokens now
    (s.1, { rrs with redisManager := rrs.redisManager.setClient i s.2 })

variable (rrs : RedisRateLimiterService) (key : String) (tokens : Int) (algorithm : String)
  (now : Int)

theorem Acquire_eq_acquireUncounted :
    rrs.Acquire key tokens algorithm now =
      ((rrs.acquireUncounted key tokens algorithm now).1,
        { (rrs.acquireUncounted key tokens algorithm now).2 with
          metrics := (rrs.acquireUncounted key tokens algorithm now).2.metrics.RecordRequest
            (rrs.acquireUncounted key tokens algorithm now).1
            (!(rrs.acquireUncounted key tokens algorithm now).1) }) := rfl

/-- Up to its `RecordRequest`, `Acquire` neither reads nor writes the counters. -/
theorem acquireUncounted_with_metrics (m : MetricsCollector) :
    ({ rrs with metrics := m }).acquireUncounted key tokens algorithm now =
      ((rrs.acquireUncounted key tokens algorithm now).1,
        { (rrs.acquireUncounted key tokens algorithm now).2 with metrics := m }) := by
  unfold acquireUncounted
  cases rrs.redisManager.GetClient key with
  | none =>
    unfold acquireInMemoryFallback
    cases Kind.ofAlgorithm algorithm <;> rfl
  | some i => rfl

@[simp]
theorem acquireUncounted_metrics :
    (rrs.acquireUncounted key tokens algorithm now).2.metrics = rrs.metrics := by
  simpa using congrArg (fun r => r.2.metrics) (acquireUncounted_with_metrics rrs key tokens
    algorithm now rrs.metrics).symm

end RedisRateLimiterService

/-- A step of concurrent `Acquire` calls that happens at once: the `EVAL` of one call's bucket
    script on its key's shard (Redis runs a script atomically), one `atomic.AddInt64` of a call
    whose script has run, or time passing on every Redis instance. A call reads its `now`
    before its `EVAL`, so calls may reach Redis out of clock order; the service shares no
    other state between calls. -/
inductive AtomicStep
  | eval (key : String) (tokens : Int) (algorithm : String) (now : Int)
  | add (counter : Counter)
  | tick (seconds : Nat)

/-- The event a step is in the serial run that its `EVAL`s order: a call at its `EVAL`, a
    tick as itself, and no event for a counter addition. -/
def AtomicStep.toEvent : AtomicStep → Option ServiceEvent
  | .eval key tokens algorithm now => some (.acquire key tokens algorithm now)
  | .add _ => none
  | .tick seconds => some (.tick seconds)

/-- Concurrent `Acquire` calls: the service, and the counter additions still to be made by the
    calls whose script has run. -/
structure Interleaving where
  service : RedisRateLimiterService
  pending : List Counter

namespace Interleaving

/-- One atomic step, with the result of the call whose `EVAL` it is. An addition no call still
    has to make is not a step any call takes, and changes nothing. -/
def step (c : Interleaving) : AtomicStep → Option Bool × Interleaving
  | .eval key tokens algorithm now =>
    let r := c.service.acquireUncounted key tokens algorithm now
    (some r.1, ⟨r.2, c.pending ++ recordRequestAdds r.1 (!r.1)⟩)
  | .add counter =>
    if counter ∈ c.pending then
      (none, ⟨{ c.service with metrics := c.service.metrics.add counter },
        c.pending.erase counter⟩)
    else (none, c)
  | .tick seconds => (none, ⟨c.service.tick seconds, c.pending⟩)

/-- The calls' results in the order of their `EVAL`s, and the state after the steps. -/
def run : Interleaving → List AtomicStep → List Bool × Interleaving
  | c, [] => ([], c)
  | c, a :: steps =>
    let r := c.step a
    let rest := run r.2 steps
    (r.1.toList ++ rest.1, rest.2)

/-- An interleaving that stands where the serial run `s` does, from counters `base`: the same
    service but for the counters, the additions made so far applied to `base`, and `s`'s
    counters those and the pending ones. -/
structure Tracks (base : MetricsCollector) (c : Interleaving) (s : RedisRateLimiterService) :
    Prop where
  made : ∃ applied : List Counter,
    c.service = { s with metrics := applied.foldl MetricsCollector.add base } ∧
      s.metrics = (applied ++ c.pending).foldl MetricsCollector.add base

variable {base : MetricsCollector} {c : Interleaving} {s : RedisRateLimiterService}

/-- An `EVAL` answers as `Acquire` does in the serial run, and keeps the two in step. -/
theorem Tracks.eval (h : Tracks base c s) (key : String) (tokens : Int) (algorithm : String)
    (now : Int) :
    (c.step (.eval key tokens algorithm now)).1 = some (s.Acquire key tokens algorithm now).1 ∧
      Tracks base (c.step (.eval key tokens algorithm now)).2
        (s.Acquire key tokens algorithm now).2 := by
  obtain ⟨applied, hc, hs⟩ := h.made
  have hu := s.acquireUncounted_with_metrics key tokens algorithm now
    (applied.foldl MetricsCollector.add base)
  simp only [step, hc, hu, RedisRateLimiterService.Acquire_eq_acquireUncounted,
    RedisRateLimiterService.acquireUncounted_metrics, MetricsCollector.RecordRequest_eq_foldl]
  refine ⟨trivial, ⟨applied, rfl, ?_⟩⟩
  rw [hs, ← List.foldl_append, List.append_assoc]

/-- A counter addition changes nothing in the serial run. -/
theorem Tracks.add (h : Tracks base c s) (counter : Counter) :
    (c.step (.add counter)).1 = none ∧ Tracks base (c.step (.add counter)).2 s := by
  obtain ⟨applied, hc, hs⟩ := h.made
  by_cases hmem : counter ∈ c.pending
  · simp only [step, if_pos hmem]
    refine ⟨trivial, ⟨applied ++ [counter], by rw [hc, List.foldl_append]; rfl, ?_⟩⟩
    rw [hs, List.append_assoc, List.singleton_append]
    exact MetricsCollector.foldl_add_perm ((List.perm_cons_erase hmem).append_left applied) base
  · simp only [step, if_neg hmem]
    exact ⟨trivial, h⟩

theorem Tracks.tick (h : Tracks base c s) (seconds : Nat) :
    (c.step (.tick seconds)).1 = none ∧ Tracks base (c.step (.tick seconds)).2 (s.tick seconds) := by
  obtain ⟨applied, hc, hs⟩ := h.made
  exact ⟨rfl, ⟨applied, by simp only [step, hc]; rfl, hs⟩⟩

/-- Along any steps, the interleaving keeps standing where the serial run of its `EVAL`s and
    ticks does, and its calls return what they return there. -/
theorem Tracks.along_run (base : MetricsCollector) :
    ∀ (c : Interleaving) (s : RedisRateLimiterService) (steps : List AtomicStep),
      Tracks base c s →
      Tracks base (c.run steps).2 (s.run (steps.filterMap AtomicStep.toEvent)) ∧
        (c.run steps).1 = RedisRateLimiterService.results s (steps.filterMap AtomicStep.toEvent)
  | c, s, [], h => ⟨h, rfl⟩
  | c, s, .eval key tokens algorithm now :: steps, h => by
    obtain ⟨hr, h'⟩ := h.eval key tokens algorithm now
    obtain ⟨ht, hres⟩ := Tracks.along_run base _ _ steps h'
    refine ⟨ht, ?_⟩
    simp only [Interleaving.run, hr, hres]
    rfl
  | c, s, .add counter :: steps, h => by
    obtain ⟨hr, h'⟩ := h.add counter
    obtain ⟨ht, hres⟩ := Tracks.along_run base _ _ steps h'
    exact ⟨ht, by simp only [Interleaving.run, hr, hres]; rfl⟩
  | c, s, .tick seconds :: steps, h => by
    obtain ⟨hr, h'⟩ := h.tick seconds
    obtain ⟨ht, hres⟩ := Tracks.along_run base _ _ steps h'
    exact ⟨ht, by simp only [Interleaving.run, hr, hres]; rfl⟩

/-- Concurrent `Acquire` calls are linearizable at their `EVAL`s: however their scripts and
    their counter additions interleave, with ticks between them and clocks read in any order,
    each call returns what it returns in the serial run of the calls in the order their scripts
    ran, and once every call has made its additions the service is exactly as that serial run
    leaves it, counters included. -/
theorem run_linearizable (rrs : RedisRateLimiterService) (steps : List AtomicStep)
    (hdone : (run ⟨rrs, []⟩ steps).2.pending = []) :
    (run ⟨rrs, []⟩ steps).1 =
        RedisRateLimiterService.results rrs (steps.filterMap AtomicStep.toEvent) ∧
      (run ⟨rrs, []⟩ steps).2.service = rrs.run (steps.filterMap AtomicStep.toEvent) := by
  have h0 : Tracks rrs.metrics ⟨rrs, []⟩ rrs := ⟨⟨[], rfl, rfl⟩⟩
  obtain ⟨⟨applied, hc, hs⟩, hres⟩ := Tracks.along_run rrs.metrics _ _ steps h0
  rw [hdone, List.append_nil] at hs
  exact ⟨hres, by rw [hc, ← hs]⟩

set_option maxRecDepth 20000 in
theorem run_linearizable_out_of_order :
    (Interleaving.run ⟨NewRedisRateLimiterService ⟨[⟨true, 0, fun _ => none⟩], by simp⟩
        ⟨100, 1000000000⟩, []⟩
      [.eval "user1" 1 "token_bucket" 2000000000, .eval "user1" 1 "token_bucket" 1000000000,
        .add .totalRequests, .add .totalRequests, .add .successfulRequests,
        .add .successfulRequests]).2.pending = [] ∧
    (Interleaving.run ⟨NewRedisRateLimiterService ⟨[⟨true, 0, fun _ => none⟩], by simp⟩
        ⟨100, 1000000000⟩, []⟩
      [.eval "user1" 1 "token_bucket" 2000000000, .eval "user1" 1 "token_bucket" 1000000000,
        .add .totalRequests, .add .totalRequests, .add .successfulRequests,
        .add .successfulRequests]).1 =
        RedisRateLimiterService.results (NewRedisRateLimiterService
          ⟨[⟨true, 0, fun _ => none⟩], by simp⟩ ⟨100, 1000000000⟩)
          [.acquire "user1" 1 "token_bucket" 2000000000,
            .acquire "user1" 1 "token_bucket" 1000000000] ∧
      (Interleaving.run ⟨NewRedisRateLimiterService ⟨[⟨true, 0, fun _ => none⟩], by simp⟩
        ⟨100, 1000000000⟩, []⟩
      [.eval "user1" 1 "token_bucket" 2000000000, .eval "user1" 1 "token_bucket" 1000000000,
        .add .totalRequests, .add .totalRequests, .add .successfulRequests,
        .add .successfulRequests]).2.service =
        (NewRedisRateLimiterService ⟨[⟨true, 0, fun _ => none⟩], by simp⟩ ⟨100, 1000000000⟩).run
          [.acquire "user1" 1 "token_bucket" 2000000000,
            .acquire "user1" 1 "token_bucket" 1000000000] :=
  ⟨rfl, run_linearizable _ _ rfl⟩

end Interleaving

end rate_limiter.services
