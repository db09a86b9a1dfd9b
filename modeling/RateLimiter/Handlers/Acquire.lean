import RateLimiter.Models.Request
import RateLimiter.Services.Isolation

namespace rate_limiter.handlers

open rate_limiter.services

/-- `http.StatusText` for the status codes the handlers and the JWT middleware send. -/
def StatusText : Nat → String
  | 200 => "OK"
  | 400 => "Bad Request"
  | 401 => "Unauthorized"
  | 405 => "Method Not Allowed"
  | 429 => "Too Many Requests"
  | 500 => "Internal Server Error"
  | _ => ""

/-- `models.AcquireResponse`; a `nil` retry hint is `none`. -/
structure AcquireResponse where
  Allowed : Bool
  Message : String
  RetryAfter : Option Int
  deriving Repr, DecidableEq

/-- `models.ErrorResponse`. -/
structure ErrorResponse where
  Error : String
  Code : Nat
  Message : String
  deriving Repr, DecidableEq

/-- The value `SendJSON` encodes as the body. -/
inductive Body
  | acquire (response : AcquireResponse)
  | error (response : ErrorResponse)
  | status (response : StatusResponse)
  deriving Repr, DecidableEq

/-- A response: the status code written and the body. -/
structure Response where
  status : Nat
  body : Body
  deriving Repr, DecidableEq

/-- `utils.SendError`: the status, with its status text, code and message in the body. -/
def SendError (status : Nat) (message : String) : Response :=
  ⟨status, .error ⟨StatusText status, status, message⟩⟩

/-- `utils.SendAcquireSuccess`. -/
def SendAcquireSuccess : Response :=
  ⟨200, .acquire ⟨true, "Request allowed", none⟩⟩

/-- `utils.SendRateLimited`: 429, with the retry hint when one is given. -/
def SendRateLimited (retryAfter : Option Int) : Response :=
  ⟨429, .acquire ⟨false, "Rate limit exceeded", retryAfter⟩⟩

/-- `JWTMiddleware` with the server's secret: the user ID it puts in the context for the next
    handler, or the 401 it sends. `parseToken` is `jwt.ParseWithClaims` with the secret, giving
    the `user_id` claim of a valid token or the library's error; `strings.Split(authHeader, " ")`
    cuts the header at every space. -/
def JWTMiddleware (parseToken : String → Except String String) (authHeader : String) :
    Except Response String :=
  if authHeader = "" then .error (SendError 401 "Authorization header required")
  else
    let tokenParts := authHeader.split (· == ' ')
    if tokenParts.length ≠ 2 ∨ tokenParts.head? ≠ some "Bearer" then
      .error (SendError 401 "Authorization header must be \x27Bearer <token>\x27")
    else
      match parseToken (tokenParts.getD 1 "") with
      | .error _ => .error (SendError 401 "Invalid token")
      | .ok userID =>
        if userID = "" then .error (SendError 401 "Invalid token claims") else .ok userID

/-- `AcquireHandler` at wall-clock `now`, given the request's method, the user ID in its
    context (`""` when there is none) and its body as `json.Decoder` decodes it. The key the
    body names is overwritten by the user ID, and the defaults are set inline, not by
    `Validate`. -/
def AcquireHandler (rrs : RedisRateLimiterService) (method userID : String)
    (body : Except String AcquireRequest) (now : Int) : Response × RedisRateLimiterService :=
  if method ≠ "POST" then (SendError 405 "Only POST method allowed", rrs)
  else if userID = "" then (SendError 500 "Internal server error", rrs)
  else
    match body with
    | .error _ => (SendError 400 "Invalid JSON body", rrs)
    | .ok req =>
      let req : AcquireRequest := { req with Key := userID }
      let req : AcquireRequest := if req.Tokens ≤ 0 then { req with Tokens := 1 } else req
      let req : AcquireRequest :=
        if req.Algorithm = "" then { req with Algorithm := "token_bucket" } else req
      let r := rrs.Acquire req.Key req.Tokens req.Algorithm now
      (if r.1 then SendAcquireSuccess else SendRateLimited none, r.2)

/-- `StatusHandler` at wall-clock `now`: the user's status as `GetStatus` reports it. A panic in
    `GetStatus` (a zero rate in a record) ends the request without a response: the error. -/
def StatusHandler (rrs : RedisRateLimiterService) (method userID : String) (now : Int) :
    Except String Response × RedisRateLimiterService :=
  if method ≠ "GET" then (.ok (SendError 405 "Only GET method allowed"), rrs)
  else if userID = "" then (.ok (SendError 500 "Internal server error"), rrs)
  else
    match rrs.GetStatus userID now with
    | (.ok response, rrs) => (.ok ⟨200, .status response⟩, rrs)
    | (.error e, rrs) => (.error e, rrs)

section Service

variable (rrs : RedisRateLimiterService) {key : String} {tokens now : Int} {a b : String}

/-- `Acquire` reads the algorithm only through the bucket it selects. -/
theorem Acquire_congr_kind (h : Kind.ofAlgorithm a = Kind.ofAlgorithm b) :
    rrs.Acquire key tokens a now = rrs.Acquire key tokens b now := by
  simp only [RedisRateLimiterService.Acquire_eq, h]

/-- A status read writes nothing. -/
theorem GetStatus_snd (key : String) (now : Int) : (rrs.GetStatus key now).2 = rrs := by
  simp only [RedisRateLimiterService.GetStatus, RedisRateLimiterService.getTokenBucketStatus_eq,
    RedisRateLimiterService.getLeakyBucketStatus_eq]
  cases rrs.redisTokenBucketStatus key (rrs.redisManager.clientFor key) now
  · rfl
  · dsimp only
    cases rrs.redisLeakyBucketStatus key (rrs.redisManager.clientFor key) now <;> rfl

/-- The response of `GetStatus` is made from the statuses of the two buckets. -/
theorem GetStatus_fst (key : String) (now : Int) :
    (rrs.GetStatus key now).1 =
      match (rrs.statusFor key now .tokenBucket).1, (rrs.statusFor key now .leakyBucket).1 with
      | .error e, _ => .error e
      | .ok _, .error e => .error e
      | .ok tokenBucketStatus, .ok leakyBucketStatus =>
        .ok (StatusResponse.build key tokenBucketStatus leakyBucketStatus) := by
  simp only [RedisRateLimiterService.GetStatus, RedisRateLimiterService.statusFor,
    RedisRateLimiterService.getTokenBucketStatus_eq, RedisRateLimiterService.getLeakyBucketStatus_eq]
  cases rrs.redisTokenBucketStatus key (rrs.redisManager.clientFor key) now
  · rfl
  · dsimp only
    cases rrs.redisLeakyBucketStatus key (rrs.redisManager.clientFor key) now <;> rfl

end Service

section Handlers

variable (rrs : RedisRateLimiterService) (method userID : String) (now : Int)

/-- Every answer `AcquireHandler` gives is the success, the refusal with no retry hint, or an
    error that names its status's text and code and leaves the service as it was. -/
theorem AcquireHandler_cases (body : Except String AcquireRequest) :
    (AcquireHandler rrs method userID body now).1 = SendAcquireSuccess ∨
      (AcquireHandler rrs method userID body now).1 = SendRateLimited none ∨
      ((AcquireHandler rrs method userID body now).2 = rrs ∧
        ∃ message, (AcquireHandler rrs method userID body now).1.body =
          .error ⟨StatusText (AcquireHandler rrs method userID body now).1.status,
            (AcquireHandler rrs method userID body now).1.status, message⟩) := by
  unfold AcquireHandler
  by_cases hm : method ≠ "POST"
  · rw [if_pos hm]
    exact .inr (.inr ⟨rfl, _, rfl⟩)
  rw [if_neg hm]
  by_cases hu : userID = ""
  · rw [if_pos hu]
    exact .inr (.inr ⟨rfl, _, rfl⟩)
  rw [if_neg hu]
  cases body with
  | error e => exact .inr (.inr ⟨rfl, _, rfl⟩)
  | ok req => exact (ite_eq_or_eq _ _ _).imp_right .inl

/-- A `POST /acquire` from a user with a decodable body calls `Acquire` on the user's key with
    the defaults set inline. -/
theorem AcquireHandler_ok (huser : userID ≠ "") (req : AcquireRequest) :
    AcquireHandler rrs "POST" userID (.ok req) now =
      (if (rrs.Acquire userID (if req.Tokens ≤ 0 then 1 else req.Tokens)
          (if req.Algorithm = "" then "token_bucket" else req.Algorithm) now).1
        then SendAcquireSuccess else SendRateLimited none,
        (rrs.Acquire userID (if req.Tokens ≤ 0 then 1 else req.Tokens)
          (if req.Algorithm = "" then "token_bucket" else req.Algorithm) now).2) := by
  simp only [AcquireHandler, ne_eq, not_true_eq_false, if_false, huser]
  split_ifs <;> rfl

/-- The handler's inline defaults act as `Validate`, which it never calls: a `POST /acquire`
    from an authenticated user with a decodable body is answered, and leaves the service, as
    `Acquire` on the user's own key with the request validated, whatever key the body names;
    the answer is 200 exactly when `Acquire` admits. -/
theorem AcquireHandler_validates (huser : userID ≠ "") (req : AcquireRequest) :
    AcquireHandler rrs "POST" userID (.ok req) now =
      (if (rrs.Acquire userID req.Validate.Tokens req.Validate.Algorithm now).1
        then SendAcquireSuccess else SendRateLimited none,
        (rrs.Acquire userID req.Validate.Tokens req.Validate.Algorithm now).2) := by
  have hkind : Kind.ofAlgorithm (if req.Algorithm = "" then "token_bucket" else req.Algorithm) =
      Kind.ofAlgorithm req.Validate.Algorithm := by
    rw [AcquireRequest.Validate_kind]
    split_ifs with h <;> simp [h, Kind.ofAlgorithm]
  rw [AcquireHandler_ok rrs userID now huser, AcquireRequest.Validate_Tokens,
    Acquire_congr_kind rrs hkind]

theorem AcquireHandler_validates_run :
    "user1" ≠ "" ∧
      AcquireHandler (NewRedisRateLimiterService ⟨[⟨true, 0, fun _ => none⟩], by simp⟩
          ⟨100, 1000000000⟩) "POST" "user1" (.ok ⟨"user2", 0, "sliding_window"⟩) 0 =
        (if ((NewRedisRateLimiterService ⟨[⟨true, 0, fun _ => none⟩], by simp⟩
              ⟨100, 1000000000⟩).Acquire "user1" (AcquireRequest.Validate ⟨"user2", 0, "sliding_window"⟩).Tokens
              (AcquireRequest.Validate ⟨"user2", 0, "sliding_window"⟩).Algorithm 0).1
          then SendAcquireSuccess else SendRateLimited none,
          ((NewRedisRateLimiterService ⟨[⟨true, 0, fun _ => none⟩], by simp⟩
              ⟨100, 1000000000⟩).Acquire "user1" (AcquireRequest.Validate ⟨"user2", 0, "sliding_window"⟩).Tokens
              (AcquireRequest.Validate ⟨"user2", 0, "sliding_window"⟩).Algorithm 0).2) :=
  ⟨by decide, AcquireHandler_validates _ "user1" 0 (by decide) _⟩

/-- `StatusHandler` never changes the service. -/
theorem StatusHandler_snd : (StatusHandler rrs method userID now).2 = rrs := by
  unfold StatusHandler
  split_ifs
  · rfl
  · rfl
  · have h := GetStatus_snd rrs userID now
    split <;> rename_i heq <;> rw [heq] at h <;> exact h

end Handlers

end rate_limiter.handlers
