import RateLimiter.Services.TokenBucketRedis
import RateLimiter.Services.LeakyBucketRedis

open rate_limiter.go rate_limiter.redis

namespace rate_limiter.services

/-- What reaches the shard holding one bucket key, in the order it arrives: a request for `n`
    units sent by some application server and stamped with that server's own `now_ns`, or the
    shard's clock moving on by whole seconds. Stamps need not grow in arrival order. -/
inductive ShardEvent
  | request (n now : Int)
  | tick (seconds : Nat)
  deriving Repr, DecidableEq

/-- The call a shard event makes on the bucket: a request is one, a tick none. -/
def ShardEvent.toCall : ShardEvent → Option Call
  | .request n now => some (.request n now)
  | .tick _ => none

/-- Whether the key is written often enough not to expire: from `idle` seconds after the last
    request, the ticks between two requests never add up to `limit` seconds. -/
def ShardEvent.quietBelow (limit : Nat) : Nat → List ShardEvent → Bool
  | _, [] => true
  | idle, .tick seconds :: events =>
    idle + seconds < limit && ShardEvent.quietBelow limit (idle + seconds) events
  | _, .request _ _ :: events => ShardEvent.quietBelow limit 0 events

/-- One lifetime of a bucket record, from the request that found the key absent and so created
    it: that request's stamp, the largest stamp applied since, and the units admitted since. -/
structure Lifetime where
  start : Int
  latest : Int
  admitted : Int
  deriving Repr, DecidableEq

/-- The lifetime a request at `now` begins when it finds the key absent. -/
def Lifetime.fresh (now : Int) : Lifetime := { start := now, latest := now, admitted := 0 }

/-- A request applied at `now` within a lifetime, admitting `units`. -/
def Lifetime.apply (l : Lifetime) (now units : Int) : Lifetime :=
  { l with latest := Max.max l.latest now, admitted := l.admitted + units }

/-- The lifetime a request at `now` is applied in: that of the live record it reads, or a
    fresh one when the key is absent. -/
def Lifetime.current (live : Option Stored) (life : Option Lifetime) (now : Int) : Lifetime :=
  match live, life with
  | some _, some l => l
  | _, _ => Lifetime.fresh now

section Run

variable (key : String) (tryRequest : Instance → Int → Int → Bool × Instance)

/-- One event at the shard, with the lifetime of the key's record. A request goes through the
    bucket's Go wrapper (`TryConsume` or `TryAdd` on the shard's client); when the wrapper sends
    it to a reachable shard it is applied within the lifetime of a live record, or begins a new
    lifetime. -/
def shardStep : Instance × Option Lifetime → ShardEvent → Instance × Option Lifetime
  | (inst, life), .request n now =>
    let r := tryRequest inst n now
    (r.2,
      if inst.up ∧ 0 ≤ n then
        some ((Lifetime.current (inst.get key) life now).apply now (if r.1 then n else 0))
      else life)
  | (inst, life), .tick seconds => (inst.tick seconds, life)

/-- The shard after `events`, in arrival order. -/
def shardRun (s : Instance × Option Lifetime) (events : List ShardEvent) :
    Instance × Option Lifetime :=
  events.foldl (shardStep key tryRequest) s

/-- What the requests of a run return, in arrival order. -/
def shardResults : Instance → List ShardEvent → List Bool
  | _, [] => []
  | inst, .request n now :: events =>
    let r := tryRequest inst n now
    r.1 :: shardResults r.2 events
  | inst, .tick seconds :: events => shardResults (inst.tick seconds) events

/-- What every allowed event keeps holds after every run of allowed events. -/
theorem shardRun_inv (Ok : ShardEvent → Prop) (Inv : Instance × Option Lifetime → Prop)
    (hstep : ∀ s e, Ok e → Inv s → Inv (shardStep key tryRequest s e)) :
    ∀ events s, (∀ e ∈ events, Ok e) → Inv s → Inv (shardRun key tryRequest s events)
  | [], _, _, h => h
  | e :: events, s, hok, h => shardRun_inv Ok Inv hstep events _
      (fun e' he' => hok e' (List.mem_cons_of_mem _ he')) (hstep s e (hok e (List.mem_cons_self _ _)) h)

end Run

section Account

variable (key : String) (decode : Stored → Except String (Int × Int)) (credit : Int → Int)
  (C P : Int)

end Account

end rate_limiter.services
