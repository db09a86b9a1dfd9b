import Mathlib.Data.String.Basic
import RateLimiter.Handlers.Acquire

namespace rate_limiter.handlers

open rate_limiter.services

/-- A request the router hands to a protected route, or time passing on every Redis instance:
    `/acquire` and `/status`, each with the request's method and `Authorization` header, and for
    `/acquire` the body as `json.Decoder` decodes it, at the server's wall-clock `now`. -/
inductive HttpEvent
  | acquire (method authHeader : String) (body : Except String AcquireRequest) (now : Int)
  | status (method authHeader : String) (now : Int)
  | tick (seconds : Nat)

section Server

variable (parseToken : String → Except String String)

/-- The route `/acquire`: `ContextMiddleware(JWTMiddleware(secret)(AcquireHandler))`; the
    context middleware only logs. -/
def acquireRoute (rrs : RedisRateLimiterService) (method authHeader : String)
    (body : Except String AcquireRequest) (now : Int) : Response × RedisRateLimiterService :=
  match JWTMiddleware parseToken authHeader with
  | .error response => (response, rrs)
  | .ok userID => AcquireHandler rrs method userID body now

/-- The route `/status`: `ContextMiddleware(JWTMiddleware(secret)(StatusHandler))`. -/
def statusRoute (rrs : RedisRateLimiterService) (method authHeader : String) (now : Int) :
    Except String Response × RedisRateLimiterService :=
  match JWTMiddleware parseToken authHeader with
  | .error response => (.ok response, rrs)
  | .ok userID => StatusHandler rrs method userID now

/-- The user a request is served for: the one its token names, when the JWT middleware lets
    it through. -/
def HttpEvent.user : HttpEvent → Option String
  | .acquire _ authHeader _ _ => (JWTMiddleware parseToken authHeader).toOption
  | .status _ authHeader _ => (JWTMiddleware parseToken authHeader).toOption
  | .tick _ => none

/-- Whether an event stays in the run of `user`: the user's own requests and the ticks. -/
def HttpEvent.keptFor (user : String) : HttpEvent → Bool
  | .tick _ => true
  | e => e.user parseToken == some user

/-- The server after one event, with the response it sends; a tick sends none. -/
def serve (rrs : RedisRateLimiterService) :
    HttpEvent → Option (Except String Response) × RedisRateLimiterService
  | .acquire method authHeader body now =>
    let r := acquireRoute parseToken rrs method authHeader body now
    (some (.ok r.1), r.2)
  | .status method authHeader now =>
    let r := statusRoute parseToken rrs method authHeader now
    (some r.1, r.2)
  | .tick seconds => (none, rrs.tick seconds)

/-- The responses to `user`'s requests along a run, in order. -/
def responsesTo (user : String) :
    RedisRateLimiterService → List HttpEvent → List (Except String Response)
  | _, [] => []
  | rrs, e :: events =>
    let r := serve parseToken rrs e
    if e.user parseToken = some user then r.1.toList ++ responsesTo user r.2 events
    else responsesTo user r.2 events

end Server

section Frame

variable {parseToken : String → Except String String} {authHeader userID : String}

/-- The middleware never lets a request through without a user. -/
theorem JWTMiddleware_ne_empty (h : JWTMiddleware parseToken authHeader = .ok userID) :
    userID ≠ "" := by
  dsimp only [JWTMiddleware] at h
  split_ifs at h
  split at h
  · cases h
  · split_ifs at h with hu
    cases h
    exact hu

/-- No part `splitOnP` cuts a list into holds a separator. -/
theorem splitOnP_no_sep {α : Type} (p : α → Bool) :
    ∀ (xs : List α), ∀ l ∈ xs.splitOnP p, ∀ c ∈ l, p c = false
  | [] => by simp
  | x :: xs => by
    have ih := splitOnP_no_sep p xs
    rw [List.splitOnP_cons]
    split_ifs with hx
    · simpa using ih
    · obtain ⟨hd, tl, heq⟩ := List.exists_cons_of_ne_nil (List.splitOnP_ne_nil p xs)
      rw [heq] at ih ⊢
      simp only [List.modifyHead, List.mem_cons, forall_eq_or_imp] at ih ⊢
      exact ⟨⟨by simpa using hx, ih.1⟩, ih.2⟩

/-- Cutting at every space gives two parts exactly for the strings `a ++ " " ++ b` with no space
    in either part. -/
theorem split_space_eq_pair {s a b : String} :
    s.split (· == ' ') = [a, b] ↔ s.data = a.data ++ ' ' :: b.data ∧ ' ' ∉ a.data ∧ ' ' ∉ b.data := by
  rw [String.split_of_valid, show [a, b] = [a.data, b.data].map String.mk from rfl,
    (List.map_injective_iff.2 fun _ _ h => congrArg String.data h).eq_iff]
  change s.data.splitOn ' ' = _ ↔ _
  constructor
  · intro h
    have hdata := List.intercalate_splitOn s.data ' '
    have hsep : ∀ l ∈ s.data.splitOn ' ', ∀ c ∈ l, (c == ' ') = false :=
      splitOnP_no_sep (· == ' ') s.data
    rw [h] at hdata hsep
    refine ⟨by simpa [List.intercalate] using hdata.symm, fun ha => ?_, fun hb => ?_⟩
    · simpa using hsep _ (by simp) _ ha
    · simpa using hsep _ (by simp) _ hb
  · rintro ⟨h, ha, hb⟩
    rw [h]
    simpa [List.intercalate] using
      List.splitOn_intercalate [a.data, b.data] ' ' (by simp [ha, hb]) (by simp)

/-- The header check of the middleware passes exactly for `Bearer <token>`, one space between and
    no space in the token. -/
theorem split_eq_bearer {authHeader token : String} :
    authHeader.split (· == ' ') = ["Bearer", token] ↔
      authHeader = "Bearer " ++ token ∧ ' ' ∉ token.data := by
  rw [split_space_eq_pair, String.ext_iff]
  simp only [String.data_append, List.append_assoc, List.singleton_append]
  exact ⟨fun h => ⟨h.1, h.2.2⟩, fun h => ⟨h.1, by decide, h.2⟩⟩

/-- The JWT middleware lets a request through exactly when its header is `Bearer <token>`: the
    word `Bearer`, one space, and a token with no space in it that the parser accepts with a
    non-empty user, who is then the request's user. -/
theorem JWTMiddleware_eq_ok_iff :
    JWTMiddleware parseToken authHeader = .ok userID ↔
      ∃ token, authHeader = "Bearer " ++ token ∧ ' ' ∉ token.data ∧
        parseToken token = .ok userID ∧ userID ≠ "" := by
  constructor
  · intro h
    have huser := JWTMiddleware_ne_empty h
    dsimp only [JWTMiddleware] at h
    split_ifs at h with hempty hparts
    obtain ⟨token, htoken⟩ : ∃ token, authHeader.split (· == ' ') = ["Bearer", token] := by
      rcases hsplit : authHeader.split (· == ' ') with _ | ⟨a, _ | ⟨b, _ | ⟨c, rest⟩⟩⟩ <;>
        simp_all
    rw [htoken] at h
    obtain ⟨hheader, hspace⟩ := split_eq_bearer.1 htoken
    refine ⟨token, hheader, hspace, ?_, huser⟩
    dsimp only [List.getD_cons_succ, List.getD_cons_zero] at h
    split at h
    · cases h
    · split_ifs at h
      cases h
      assumption
  · rintro ⟨token, rfl, hspace, hparse, huser⟩
    have htoken := split_eq_bearer.2 ⟨rfl, hspace⟩
    have hne : "Bearer " ++ token ≠ "" := fun h => by
      have h7 : "Bearer ".length = 7 := by decide
      simpa [h7] using congrArg String.length h
    simp [JWTMiddleware, hne, htoken, hparse, huser]

variable (rrs : RedisRateLimiterService) (method : String) (now : Int)

/-- `AcquireHandler` changes the service only through `Acquire` on the user's own key. -/
theorem AcquireHandler_snd (body : Except String AcquireRequest) :
    (AcquireHandler rrs method userID body now).2 = rrs ∨
      ∃ tokens algorithm, (AcquireHandler rrs method userID body now).2 =
        (rrs.Acquire userID tokens algorithm now).2 := by
  unfold AcquireHandler
  split_ifs
  · exact .inl rfl
  · exact .inl rfl
  · cases body with
    | error e => exact .inl rfl
    | ok req =>
      dsimp only
      split_ifs <;> exact .inr ⟨_, _, rfl⟩

/-- A `GET /status` from a user is the user's status, and writes nothing. -/
theorem StatusHandler_get (huser : userID ≠ "") :
    StatusHandler rrs "GET" userID now =
      (match (rrs.GetStatus userID now).1 with
        | .ok response => .ok ⟨200, .status response⟩
        | .error e => .error e, rrs) := by
  have hsnd := GetStatus_snd rrs userID now
  simp only [StatusHandler, ne_eq, not_true_eq_false, if_false, huser]
  split <;> rename_i heq <;> rw [heq] at hsnd ⊢ <;> rw [← hsnd]

end Frame

/-- Two services that hold the same for both buckets of `user`. -/
structure SameForUser (user : String) (r₁ r₂ : RedisRateLimiterService) : Prop where
  tokenBucket : RedisRateLimiterService.SameFor user .tokenBucket r₁ r₂
  leakyBucket : RedisRateLimiterService.SameFor user .leakyBucket r₁ r₂

section Steps

variable {user : String} {r₁ r₂ : RedisRateLimiterService}

theorem SameForUser.kind (h : SameForUser user r₁ r₂) :
    ∀ kind, RedisRateLimiterService.SameFor user kind r₁ r₂
  | .tokenBucket => h.tokenBucket
  | .leakyBucket => h.leakyBucket

theorem SameForUser.of_kind (h : ∀ kind, RedisRateLimiterService.SameFor user kind r₁ r₂) :
    SameForUser user r₁ r₂ :=
  ⟨h .tokenBucket, h .leakyBucket⟩

/-- A call on any other key leaves what a service holds for the user alone. -/
theorem SameForUser.acquire_other (h : SameForUser user r₁ r₂) {k : String} (hk : k ≠ user)
    (tokens : Int) (algorithm : String) (now : Int) :
    SameForUser user (r₁.Acquire k tokens algorithm now).2 r₂ :=
  .of_kind fun kind => (h.kind kind).acquire_other tokens now fun hc => hk hc.1

/-- The user's own call, from services that hold the same for the user, returns the same and
    leaves them holding the same: the selected bucket as `SameFor.acquire_self` says, the other
    untouched on both sides. -/
theorem SameForUser.acquire_self (h : SameForUser user r₁ r₂) (tokens : Int) (algorithm : String)
    (now : Int) :
    (r₁.Acquire user tokens algorithm now).1 = (r₂.Acquire user tokens algorithm now).1 ∧
      SameForUser user (r₁.Acquire user tokens algorithm now).2
        (r₂.Acquire user tokens algorithm now).2 := by
  refine ⟨((h.kind _).acquire_self tokens now rfl).1, .of_kind fun kind => ?_⟩
  by_cases hkind : Kind.ofAlgorithm algorithm = kind
  · exact ((h.kind kind).acquire_self tokens now hkind).2
  · have hne : ¬(user = user ∧ Kind.ofAlgorithm algorithm = kind) := fun hc => hkind hc.2
    exact (((h.kind kind).acquire_other tokens now hne).trans
      ((RedisRateLimiterService.SameFor.refl r₂).acquire_other tokens now hne).symm)

variable (parseToken : String → Except String String)

/-- A request served for anyone but the user leaves what a service holds for the user alone. -/
theorem SameForUser.serve_other (h : SameForUser user r₁ r₂) (e : HttpEvent)
    (he : e.user parseToken ≠ some user) (hnt : ∀ seconds, e ≠ .tick seconds) :
    SameForUser user (serve parseToken r₁ e).2 r₂ := by
  cases e with
  | acquire method authHeader body now =>
    simp only [serve, acquireRoute]
    split
    · exact h
    · rename_i userID hjwt
      have hk : userID ≠ user := fun hu => he (by simp [HttpEvent.user, hjwt, hu, Except.toOption])
      rcases @AcquireHandler_snd userID r₁ method now body with heq | ⟨tokens, algorithm, heq⟩
      · rw [heq]; exact h
      · rw [heq]; exact h.acquire_other hk tokens algorithm now
  | status method authHeader now =>
    simp only [serve, statusRoute]
    split
    · exact h
    · rw [StatusHandler_snd]; exact h
  | tick seconds => exact absurd rfl (hnt seconds)

theorem JWTMiddleware_of_user {authHeader : String}
    (h : (JWTMiddleware parseToken authHeader).toOption = some user) :
    JWTMiddleware parseToken authHeader = .ok user := by
  revert h
  cases JWTMiddleware parseToken authHeader <;> simp [Except.toOption]

/-- A request served for the user, from services that hold the same for the user, gets the
    same response and leaves them holding the same. -/
theorem SameForUser.serve_self (h : SameForUser user r₁ r₂) (e : HttpEvent)
    (he : e.user parseToken = some user) :
    (serve parseToken r₁ e).1 = (serve parseToken r₂ e).1 ∧
      SameForUser user (serve parseToken r₁ e).2 (serve parseToken r₂ e).2 := by
  cases e with
  | acquire method authHeader body now =>
    have hjwt := JWTMiddleware_of_user parseToken he
    have huser := JWTMiddleware_ne_empty hjwt
    simp only [serve, acquireRoute, hjwt]
    by_cases hm : method = "POST"
    · subst hm
      cases body with
      | error e =>
        simp only [AcquireHandler, ne_eq, not_true_eq_false, if_false, huser]
        exact ⟨trivial, h⟩
      | ok req =>
        rw [AcquireHandler_ok r₁ user now huser, AcquireHandler_ok r₂ user now huser]
        obtain ⟨hres, hsame⟩ := h.acquire_self (if req.Tokens ≤ 0 then 1 else req.Tokens)
          (if req.Algorithm = "" then "token_bucket" else req.Algorithm) now
        exact ⟨by rw [hres], hsame⟩
    · simp only [AcquireHandler, if_pos hm]
      exact ⟨trivial, h⟩
  | status method authHeader now =>
    have hjwt := JWTMiddleware_of_user parseToken he
    have huser := JWTMiddleware_ne_empty hjwt
    simp only [serve, statusRoute, hjwt]
    by_cases hm : method = "GET"
    · subst hm
      rw [StatusHandler_get r₁ now huser, StatusHandler_get r₂ now huser, GetStatus_fst,
        GetStatus_fst, h.tokenBucket.statusFor_eq, h.leakyBucket.statusFor_eq]
      exact ⟨rfl, h⟩
    · simp only [StatusHandler, if_pos hm]
      exact ⟨trivial, h⟩
  | tick seconds => cases he

end Steps

/-- Simulation of the server for one user: from services that hold the same for the user, the
    run of every request and the run of the user's own requests and the ticks give the user the
    same responses. -/
theorem SameForUser.run (parseToken : String → Except String String) (user : String) :
    ∀ (events : List HttpEvent) (r₁ r₂ : RedisRateLimiterService), SameForUser user r₁ r₂ →
      responsesTo parseToken user r₁ events =
        responsesTo parseToken user r₂ (events.filter (HttpEvent.keptFor parseToken user))
  | [], _, _, _ => rfl
  | e :: events, r₁, r₂, h => by
    by_cases he : e.user parseToken = some user
    · have hkeep : HttpEvent.keptFor parseToken user e = true := by
        cases e <;> simp [HttpEvent.keptFor, he]
      obtain ⟨hres, hsame⟩ := h.serve_self parseToken e he
      simp only [responsesTo, List.filter_cons, hkeep, if_true, he]
      rw [hres, SameForUser.run parseToken user events _ _ hsame]
    · cases e with
      | tick seconds =>
        simp only [responsesTo, List.filter_cons, HttpEvent.keptFor, if_true, he, if_false]
        exact SameForUser.run parseToken user events _ _
          ⟨h.tokenBucket.tick seconds, h.leakyBucket.tick seconds⟩
      | acquire method authHeader body now =>
        have hkeep : HttpEvent.keptFor parseToken user (.acquire method authHeader body now) =
            false := by simpa [HttpEvent.keptFor] using he
        simp only [responsesTo, List.filter_cons, hkeep, he, if_false]
        exact SameForUser.run parseToken user events _ _
          (h.serve_other parseToken _ he fun _ => HttpEvent.noConfusion)
      | status method authHeader now =>
        have hkeep : HttpEvent.keptFor parseToken user (.status method authHeader now) =
            false := by simpa [HttpEvent.keptFor] using he
        simp only [responsesTo, List.filter_cons, hkeep, he, if_false]
        exact SameForUser.run parseToken user events _ _
          (h.serve_other parseToken _ he fun _ => HttpEvent.noConfusion)

/-- Isolation between users at the HTTP layer. Along any sequence of requests to `/acquire` and
    `/status` from any clients, with any methods, `Authorization` headers and bodies, and any
    clock ticks, the responses one user gets are those the user would get with every request
    not authenticated as that user taken out. A body naming the user's key, sent with another
    user's token, never reaches the user's buckets: the handler keys every call by the token's
    user. -/
theorem responsesTo_isolated (parseToken : String → Except String String) (user : String)
    (rrs : RedisRateLimiterService) (events : List HttpEvent) :
    responsesTo parseToken user rrs events =
      responsesTo parseToken user rrs (events.filter (HttpEvent.keptFor parseToken user)) :=
  SameForUser.run parseToken user events rrs rrs
    ⟨RedisRateLimiterService.SameFor.refl rrs, RedisRateLimiterService.SameFor.refl rrs⟩

end rate_limiter.handlers
