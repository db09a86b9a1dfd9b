import RateLimiter.Services.RateLimiterService

namespace rate_limiter.services

/-- `models.AcquireRequest`, the body of `POST /acquire` as `encoding/json` decodes it. -/
structure AcquireRequest where
  Key : String
  Tokens : Int
  Algorithm : String
  deriving Repr, DecidableEq

/-- `AcquireRequest.Validate`: a token count of zero or less becomes 1, an empty algorithm
    becomes `"token_bucket"`, and so does any algorithm other than the two buckets. Its error
    result is always `nil`. -/
def AcquireRequest.Validate (ar : AcquireRequest) : AcquireRequest :=
  let ar := if ar.Tokens ≤ 0 then { ar with Tokens := 1 } else ar
  let ar := if ar.Algorithm = "" then { ar with Algorithm := "token_bucket" } else ar
  if ar.Algorithm ≠ "token_bucket" ∧ ar.Algorithm ≠ "leaky_bucket" then
    { ar with Algorithm := "token_bucket" }
  else ar

/-- `IsMultiAlgorithm`: both detail pointers are non-`nil`. -/
def StatusResponse.IsMultiAlgorithm (sr : StatusResponse) : Bool :=
  sr.TokenBucketStatus.isSome && sr.LeakyBucketStatus.isSome

/-- `HasTokenBucketState`: a non-`nil` token-bucket detail that has state. -/
def StatusResponse.HasTokenBucketState (sr : StatusResponse) : Bool :=
  sr.TokenBucketStatus.any (·.HasState)

/-- `HasLeakyBucketState`: a non-`nil` leaky-bucket detail that has state. -/
def StatusResponse.HasLeakyBucketState (sr : StatusResponse) : Bool :=
  sr.LeakyBucketStatus.any (·.HasState)

/-- `GetAlgorithmCount`: the number of details that are non-`nil` and have state. -/
def StatusResponse.GetAlgorithmCount (sr : StatusResponse) : Nat :=
  let count := 0
  let count := if sr.TokenBucketStatus.any (·.HasState) then count + 1 else count
  if sr.LeakyBucketStatus.any (·.HasState) then count + 1 else count

/-- `GetActiveAlgorithms`: the algorithms whose details are non-`nil` and have state, token
    bucket first. -/
def StatusResponse.GetActiveAlgorithms (sr : StatusResponse) : List String :=
  let algorithms : List String := []
  let algorithms :=
    if sr.TokenBucketStatus.any (·.HasState) then algorithms ++ ["token_bucket"] else algorithms
  if sr.LeakyBucketStatus.any (·.HasState) then algorithms ++ ["leaky_bucket"] else algorithms

section Validate

variable (ar : AcquireRequest)

/-- `Validate` always leaves a positive token count: the one it was given, or 1. -/
theorem AcquireRequest.Validate_Tokens :
    ar.Validate.Tokens = if ar.Tokens ≤ 0 then 1 else ar.Tokens := by
  dsimp only [AcquireRequest.Validate]
  split_ifs <;> rfl

/-- `Validate` selects the bucket the service would select for the request as it came: its
    algorithm rewrite never changes `Kind.ofAlgorithm`. -/
theorem AcquireRequest.Validate_kind :
    Kind.ofAlgorithm ar.Validate.Algorithm = Kind.ofAlgorithm ar.Algorithm := by
  dsimp only [AcquireRequest.Validate, Kind.ofAlgorithm]
  split_ifs <;> simp_all

end Validate

/-- `GetStatus`'s choice of primary: the token bucket, when it has state or the leaky bucket
    has none, or the leaky bucket, which then has state. -/
theorem selectPrimary_cases (tokenBucketStatus leakyBucketStatus : AlgorithmStatus) :
    (selectPrimary tokenBucketStatus leakyBucketStatus = ("token_bucket", tokenBucketStatus) ∧
        (tokenBucketStatus.HasState = true ∨ leakyBucketStatus.HasState = false)) ∨
      (selectPrimary tokenBucketStatus leakyBucketStatus = ("leaky_bucket", leakyBucketStatus) ∧
        leakyBucketStatus.HasState = true) := by
  unfold selectPrimary
  split_ifs <;> simp_all

/-- What every response `GetStatus` gives for `key` satisfies, with `defaults` the status of a
    bucket without state: a detail entry only for a bucket with state; the token bucket as the
    primary unless the leaky bucket's entry is there and chosen, and then with its own entry
    there or no entry at all; the summary fields those of the primary's entry, or with no entry
    at all those of `defaults`. -/
structure StatusResponse.Consistent (key : String) (defaults : AlgorithmStatus)
    (sr : StatusResponse) : Prop where
  key_eq : sr.Key = key
  tokenBucket_hasState : ∀ s, sr.TokenBucketStatus = some s → s.HasState = true
  leakyBucket_hasState : ∀ s, sr.LeakyBucketStatus = some s → s.HasState = true
  primary : (sr.Algorithm = "token_bucket" ∧
      (sr.TokenBucketStatus.isSome = true ∨ sr.LeakyBucketStatus = none)) ∨
    (sr.Algorithm = "leaky_bucket" ∧ sr.LeakyBucketStatus.isSome = true)
  summary : ∀ s, (if sr.Algorithm = "leaky_bucket" then sr.LeakyBucketStatus
      else sr.TokenBucketStatus) = some s →
    s.TokensLeft = sr.TokensLeft ∧ s.Capacity = sr.Capacity ∧ s.RefillRate = sr.RefillRate ∧
      s.NextRefillTime = sr.NextRefillTime ∧ s.IsBlocked = sr.IsBlocked
  no_entries : sr.TokenBucketStatus = none → sr.LeakyBucketStatus = none →
    defaults.TokensLeft = sr.TokensLeft ∧ defaults.Capacity = sr.Capacity ∧
      defaults.RefillRate = sr.RefillRate ∧ defaults.NextRefillTime = sr.NextRefillTime ∧
      defaults.IsBlocked = sr.IsBlocked

theorem StatusResponse.build_consistent (key : String) {defaults : AlgorithmStatus}
    (tokenBucketStatus leakyBucketStatus : AlgorithmStatus)
    (hdef : tokenBucketStatus.HasState = false → tokenBucketStatus = defaults) :
    (StatusResponse.build key tokenBucketStatus leakyBucketStatus).Consistent key defaults := by
  unfold StatusResponse.build
  rcases selectPrimary_cases tokenBucketStatus leakyBucketStatus with ⟨hp, hs⟩ | ⟨hp, hs⟩ <;>
    rw [hp] <;> constructor <;> simp only [Option.ite_none_right_eq_some, Option.some.injEq,
      and_imp, Option.isSome_ite, if_true, String.reduceEq, if_false] <;> aesop

/-- A token-bucket status read without state is the configured defaults. -/
theorem RedisRateLimiterService.redisTokenBucketStatus_default {rrs : RedisRateLimiterService}
    {key : String} {inst : redis.Instance} {now : Int} {s : AlgorithmStatus}
    (h : rrs.redisTokenBucketStatus key inst now = .ok s) (hs : s.HasState = false) :
    s = rrs.defaultStatus "token_bucket" now := by
  unfold RedisRateLimiterService.redisTokenBucketStatus at h
  dsimp only at h
  split_ifs at h
  · exact (Except.ok.inj h).symm
  · cases hg : (NewTokenBucketRedis key rrs.config.DefaultCapacity
      rrs.config.DefaultRefill).GetStatus inst now with
    | error e => simp only [hg, bind, Except.bind] at h; cases h
    | ok r =>
      simp only [hg, bind, Except.bind, pure, Except.pure, Except.ok.injEq] at h
      subst h
      cases hs

section Consistent

variable {key : String} {defaults : AlgorithmStatus} {sr : StatusResponse}

theorem StatusResponse.Consistent.hasTokenBucketState (h : sr.Consistent key defaults) :
    sr.HasTokenBucketState = sr.TokenBucketStatus.isSome := by
  unfold StatusResponse.HasTokenBucketState
  cases hs : sr.TokenBucketStatus with
  | none => rfl
  | some s => simp [h.tokenBucket_hasState s hs]

theorem StatusResponse.Consistent.hasLeakyBucketState (h : sr.Consistent key defaults) :
    sr.HasLeakyBucketState = sr.LeakyBucketStatus.isSome := by
  unfold StatusResponse.HasLeakyBucketState
  cases hs : sr.LeakyBucketStatus with
  | none => rfl
  | some s => simp [h.leakyBucket_hasState s hs]

/-- The count of algorithms with state is the number of detail entries. -/
theorem StatusResponse.Consistent.GetAlgorithmCount_eq (h : sr.Consistent key defaults) :
    sr.GetAlgorithmCount =
      (if sr.TokenBucketStatus.isSome then 1 else 0) + (if sr.LeakyBucketStatus.isSome then 1 else 0) := by
  unfold StatusResponse.GetAlgorithmCount
  rw [show sr.TokenBucketStatus.any (·.HasState) = _ from h.hasTokenBucketState,
    show sr.LeakyBucketStatus.any (·.HasState) = _ from h.hasLeakyBucketState]
  split_ifs <;> rfl

/-- The active algorithms are those with a detail entry, token bucket first. -/
theorem StatusResponse.Consistent.GetActiveAlgorithms_eq (h : sr.Consistent key defaults) :
    sr.GetActiveAlgorithms =
      (if sr.TokenBucketStatus.isSome then ["token_bucket"] else []) ++
        (if sr.LeakyBucketStatus.isSome then ["leaky_bucket"] else []) := by
  unfold StatusResponse.GetActiveAlgorithms
  rw [show sr.TokenBucketStatus.any (·.HasState) = _ from h.hasTokenBucketState,
    show sr.LeakyBucketStatus.any (·.HasState) = _ from h.hasLeakyBucketState]
  split_ifs <;> rfl

theorem StatusResponse.Consistent.isMultiAlgorithm_iff (h : sr.Consistent key defaults) :
    sr.IsMultiAlgorithm = true ↔ sr.GetAlgorithmCount = 2 := by
  rw [h.GetAlgorithmCount_eq, StatusResponse.IsMultiAlgorithm]
  cases sr.TokenBucketStatus.isSome <;> cases sr.LeakyBucketStatus.isSome <;> decide

theorem StatusResponse.Consistent.GetActiveAlgorithms_length (h : sr.Consistent key defaults) :
    sr.GetActiveAlgorithms.length = sr.GetAlgorithmCount := by
  rw [h.GetActiveAlgorithms_eq, h.GetAlgorithmCount_eq]
  split_ifs <;> rfl

/-- When any bucket has state, the primary algorithm is an active one. -/
theorem StatusResponse.Consistent.Algorithm_mem (h : sr.Consistent key defaults)
    (hpos : 0 < sr.GetAlgorithmCount) : sr.Algorithm ∈ sr.GetActiveAlgorithms := by
  rw [h.GetAlgorithmCount_eq] at hpos
  rw [h.GetActiveAlgorithms_eq]
  rcases h.primary with ⟨halg, hsome | hnone⟩ | ⟨halg, hsome⟩ <;> rw [halg]
  · simp [hsome]
  · simp only [hnone, Option.isSome_none] at hpos ⊢
    split_ifs at hpos ⊢ <;> simp_all
  · simp [hsome]

end Consistent

/-- Every response `GetStatus` gives is consistent, with the configured defaults when no bucket
    has state, and so the helpers of `StatusResponse` agree on it although they test different
    things: `IsMultiAlgorithm`, which only tests the detail entries for `nil`, holds exactly
    when `GetAlgorithmCount`, which also tests `HasState`, is 2; `GetActiveAlgorithms` lists
    that many algorithms; and whenever any bucket has state the primary algorithm is one of
    them. -/
theorem RedisRateLimiterService.GetStatus_consistent (rrs : RedisRateLimiterService)
    (key : String) (now : Int) {resp : StatusResponse} (h : (rrs.GetStatus key now).1 = .ok resp) :
    resp.Consistent key (rrs.defaultStatus "token_bucket" now) ∧
      (resp.IsMultiAlgorithm = true ↔ resp.GetAlgorithmCount = 2) ∧
      resp.GetActiveAlgorithms.length = resp.GetAlgorithmCount ∧
      (0 < resp.GetAlgorithmCount → resp.Algorithm ∈ resp.GetActiveAlgorithms) := by
  obtain ⟨tokenBucketStatus, leakyBucketStatus, htb, rfl⟩ : ∃ tb lb,
      rrs.redisTokenBucketStatus key (rrs.redisManager.clientFor key) now = .ok tb ∧
        resp = StatusResponse.build key tb lb := by
    simp only [RedisRateLimiterService.GetStatus, RedisRateLimiterService.getTokenBucketStatus_eq,
      RedisRateLimiterService.getLeakyBucketStatus_eq] at h
    cases htb : rrs.redisTokenBucketStatus key (rrs.redisManager.clientFor key) now <;>
      rw [htb] at h
    · cases h
    · cases hlb : rrs.redisLeakyBucketStatus key (rrs.redisManager.clientFor key) now <;>
        simp only [hlb, Except.ok.injEq, reduceCtorEq] at h
      exact ⟨_, _, rfl, h.symm⟩
  have hc := StatusResponse.build_consistent key tokenBucketStatus leakyBucketStatus
    (RedisRateLimiterService.redisTokenBucketStatus_default htb)
  exact ⟨hc, hc.isMultiAlgorithm_iff, hc.GetActiveAlgorithms_length, hc.Algorithm_mem⟩

set_option maxRecDepth 20000 in
theorem RedisRateLimiterService.GetStatus_consistent_fresh :
    ((NewRedisRateLimiterService ⟨[⟨true, 0, fun _ => none⟩], by simp⟩ ⟨100, 1000000000⟩).GetStatus
        "user1" 0).1 =
      .ok ⟨"user1", "token_bucket", 100, 100, 1000000000, 1000000000, false, none, none⟩ ∧
    StatusResponse.Consistent "user1"
      ((NewRedisRateLimiterService ⟨[⟨true, 0, fun _ => none⟩], by simp⟩
        ⟨100, 1000000000⟩).defaultStatus "token_bucket" 0)
      ⟨"user1", "token_bucket", 100, 100, 1000000000, 1000000000, false, none, none⟩ ∧
    (StatusResponse.IsMultiAlgorithm
        ⟨"user1", "token_bucket", 100, 100, 1000000000, 1000000000, false, none, none⟩ = true ↔
      StatusResponse.GetAlgorithmCount
        ⟨"user1", "token_bucket", 100, 100, 1000000000, 1000000000, false, none, none⟩ = 2) ∧
    (StatusResponse.GetActiveAlgorithms
        ⟨"user1", "token_bucket", 100, 100, 1000000000, 1000000000, false, none, none⟩).length =
      StatusResponse.GetAlgorithmCount
        ⟨"user1", "token_bucket", 100, 100, 1000000000, 1000000000, false, none, none⟩ ∧
    (0 < StatusResponse.GetAlgorithmCount
        ⟨"user1", "token_bucket", 100, 100, 1000000000, 1000000000, false, none, none⟩ →
      "token_bucket" ∈ StatusResponse.GetActiveAlgorithms
        ⟨"user1", "token_bucket", 100, 100, 1000000000, 1000000000, false, none, none⟩) :=
  ⟨rfl, RedisRateLimiterService.GetStatus_consistent
    (NewRedisRateLimiterService ⟨[⟨true, 0, fun _ => none⟩], by simp⟩ ⟨100, 1000000000⟩) "user1" 0
    (by rfl)⟩

end rate_limiter.services
