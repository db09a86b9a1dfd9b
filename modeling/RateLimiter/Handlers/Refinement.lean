import RateLimiter.Handlers.Server
import RateLimiter.Services.Runs

namespace rate_limiter.handlers

open rate_limiter.services

section Calls

variable (parseToken : String → Except String String)

/-- The `Acquire` call a request to `/acquire` makes, as key, tokens and algorithm: a `POST`
    that the JWT middleware lets through with a body that decodes calls it on the token's user
    with the handler's inline defaults; any other request makes none. -/
def acquireCall (method authHeader : String) (body : Except String AcquireRequest) :
    Option (String × Int × String) :=
  match JWTMiddleware parseToken authHeader, body with
  | .ok userID, .ok req =>
    if method = "POST" then
      some (userID, if req.Tokens ≤ 0 then 1 else req.Tokens,
        if req.Algorithm = "" then "token_bucket" else req.Algorithm)
    else none
  | _, _ => none

/-- The service event a request is: its `Acquire` call, if it makes one; a tick is itself; a
    status read is none. -/
def HttpEvent.toService : HttpEvent → Option ServiceEvent
  | .acquire method authHeader body now =>
    (acquireCall parseToken method authHeader body).map fun call =>
      .acquire call.1 call.2.1 call.2.2 now
  | .status _ _ _ => none
  | .tick seconds => some (.tick seconds)

/-- The service after the server has handled a run of requests. -/
def serveRun (rrs : RedisRateLimiterService) (events : List HttpEvent) :
    RedisRateLimiterService :=
  events.foldl (fun rrs e => (serve parseToken rrs e).2) rrs

/-- The responses to the requests of a run that call `Acquire`, in order. -/
def acquireResponses : RedisRateLimiterService → List HttpEvent → List Response
  | _, [] => []
  | rrs, .acquire method authHeader body now :: events =>
    let r := acquireRoute parseToken rrs method authHeader body now
    match acquireCall parseToken method authHeader body with
    | some _ => r.1 :: acquireResponses r.2 events
    | none => acquireResponses r.2 events
  | rrs, .status method authHeader now :: events =>
    acquireResponses (statusRoute parseToken rrs method authHeader now).2 events
  | rrs, .tick seconds :: events => acquireResponses (rrs.tick seconds) events

/-- What `acquireRoute` does: the `Acquire` call the request makes, answered 200 exactly when it
    admits and refused otherwise, or, when it makes none, nothing to the service. -/
theorem acquireRoute_call (rrs : RedisRateLimiterService) (method authHeader : String)
    (body : Except String AcquireRequest) (now : Int) :
    match acquireCall parseToken method authHeader body with
    | some (key, tokens, algorithm) =>
      acquireRoute parseToken rrs method authHeader body now =
        (if (rrs.Acquire key tokens algorithm now).1 then SendAcquireSuccess
          else SendRateLimited none, (rrs.Acquire key tokens algorithm now).2)
    | none => (acquireRoute parseToken rrs method authHeader body now).2 = rrs := by
  unfold acquireCall acquireRoute
  cases hjwt : JWTMiddleware parseToken authHeader with
  | error response => rfl
  | ok userID =>
    cases body with
    | error e =>
      show (AcquireHandler rrs method userID (.error e) now).2 = rrs
      unfold AcquireHandler
      split_ifs <;> rfl
    | ok req =>
      dsimp only
      by_cases hm : method = "POST"
      · subst hm
        rw [if_pos rfl]
        exact AcquireHandler_ok rrs userID now (JWTMiddleware_ne_empty hjwt) req
      · rw [if_neg hm]
        show (AcquireHandler rrs method userID (.ok req) now).2 = rrs
        rw [AcquireHandler, if_pos hm]

/-- A status read writes nothing. -/
theorem statusRoute_snd (rrs : RedisRateLimiterService) (method authHeader : String)
    (now : Int) : (statusRoute parseToken rrs method authHeader now).2 = rrs := by
  unfold statusRoute
  split
  · rfl
  · exact StatusHandler_snd _ _ _ _

end Calls

/-- Refinement of the server by the service. Along any run of requests to `/acquire` and
    `/status`, with any methods, `Authorization` headers and bodies, and clock ticks, the server
    leaves the service as the service's own run of the `Acquire` calls the handlers make and the
    ticks; and the requests that call `Acquire` are answered, in order, 200 for each call that
    run admits and 429 with no retry hint for each it refuses. -/
theorem serve_refines_service (parseToken : String → Except String String) :
    ∀ (rrs : RedisRateLimiterService) (events : List HttpEvent),
      serveRun parseToken rrs events = rrs.run (events.filterMap (HttpEvent.toService parseToken)) ∧
        acquireResponses parseToken rrs events =
          (RedisRateLimiterService.results rrs
              (events.filterMap (HttpEvent.toService parseToken))).map
            fun admitted => if admitted then SendAcquireSuccess else SendRateLimited none
  | rrs, [] => ⟨rfl, rfl⟩
  | rrs, .acquire method authHeader body now :: events => by
    have hroute := acquireRoute_call parseToken rrs method authHeader body now
    have ih := serve_refines_service parseToken
      (acquireRoute parseToken rrs method authHeader body now).2 events
    show serveRun parseToken (acquireRoute parseToken rrs method authHeader body now).2 events = _ ∧ _
    simp only [acquireResponses, List.filterMap_cons, HttpEvent.toService]
    cases hcall : acquireCall parseToken method authHeader body with
    | none =>
      rw [hcall] at hroute
      rw [hroute] at ih ⊢
      exact ih
    | some call =>
      obtain ⟨key, tokens, algorithm⟩ := call
      rw [hcall] at hroute
      rw [hroute] at ih ⊢
      exact ⟨ih.1, by rw [ih.2]; rfl⟩
  | rrs, .status method authHeader now :: events => by
    have ih := serve_refines_service parseToken
      (statusRoute parseToken rrs method authHeader now).2 events
    show serveRun parseToken (statusRoute parseToken rrs method authHeader now).2 events = _ ∧
      acquireResponses parseToken (statusRoute parseToken rrs method authHeader now).2 events = _
    rw [statusRoute_snd] at ih ⊢
    exact ih
  | rrs, .tick seconds :: events => serve_refines_service parseToken (rrs.tick seconds) events

end rate_limiter.handlers
