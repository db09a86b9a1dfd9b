import Mathlib.Data.List.Chain

namespace rate_limiter.services

/-- One call on an in-memory bucket with the clock reading it takes: a request for `n`
    units (`TryConsume` or `TryAdd`) or a status read (`GetStatus`). -/
inductive Call where
  | request (n now : Int)
  | status (now : Int)
  deriving Repr, DecidableEq

def Call.now : Call → Int
  | .request _ now => now
  | .status now => now

/-- Units a call asks for; a status read asks for none. -/
def Call.units : Call → Int
  | .request n _ => n
  | .status _ => 0

/-- Calls at non-decreasing times from `t` are all at or after `t`. -/
theorem Call.now_le_of_chain {t : Int} {calls : List Call}
    (h : List.Chain (· ≤ ·) t (calls.map Call.now)) : ∀ d ∈ calls, t ≤ d.now :=
  fun _ hd => h.rel (List.mem_map_of_mem _ hd)

section Runs

variable {σ : Type} (step : σ → Call → Bool × σ)

/-- The state after running `calls` in order from `s`. -/
def runCalls : σ → List Call → σ
  | s, [] => s
  | s, c :: cs => runCalls (step s c).2 cs

/-- What each call of the run from `s` returns, in order. -/
def outcomes : σ → List Call → List Bool
  | _, [] => []
  | s, c :: cs => (step s c).1 :: outcomes (step s c).2 cs

/-- Units admitted along the run from `s` by the calls that returned true at a time in
    `[t1, t2]`. -/
def admittedIn (t1 t2 : Int) : σ → List Call → Int
  | _, [] => 0
  | s, c :: cs =>
    (if (step s c).1 ∧ t1 ≤ c.now ∧ c.now ≤ t2 then c.units else 0) +
      admittedIn t1 t2 (step s c).2 cs

/-- Calls all made after `t2` admit nothing in a window ending at `t2`. -/
theorem admittedIn_of_after {t1 t2 : Int} :
    ∀ (s : σ) (calls : List Call), (∀ c ∈ calls, t2 < c.now) → admittedIn step t1 t2 s calls = 0
  | _, [], _ => rfl
  | s, c :: cs, h => by
    obtain ⟨hc, h⟩ := List.forall_mem_cons.1 h
    rw [admittedIn, if_neg (by omega), admittedIn_of_after _ cs h]
    rfl

/-- A budget that never goes negative and that each allowed call at or before `t2` pays for
    what it admits in `[t1, t2]` bounds what a run of allowed calls admits there. `Inv t s` is
    what holds of a state reached by calls up to time `t`. -/
theorem admittedIn_le_budget (t1 t2 : Int) (Allowed : Call → Prop) (Inv : Int → σ → Prop)
    (budget : σ → Int) (hnonneg : ∀ t s, Inv t s → 0 ≤ budget s)
    (hstep : ∀ t s c, Allowed c → Inv t s → t ≤ c.now → c.now ≤ t2 →
      Inv c.now (step s c).2 ∧
        (if (step s c).1 ∧ t1 ≤ c.now ∧ c.now ≤ t2 then c.units else 0) + budget (step s c).2 ≤
          budget s) :
    ∀ (calls : List Call) (s : σ) (t : Int), (∀ c ∈ calls, Allowed c) → Inv t s →
      List.Chain (· ≤ ·) t (calls.map Call.now) → admittedIn step t1 t2 s calls ≤ budget s
  | [], s, t, _, hs, _ => hnonneg t s hs
  | c :: cs, s, t, hall, hs, hchain => by
    rw [List.map_cons, List.chain_cons] at hchain
    obtain ⟨hc, hall⟩ := List.forall_mem_cons.1 hall
    by_cases hle : c.now ≤ t2
    · obtain ⟨hs', hpay⟩ := hstep t s c hc hs hchain.1 hle
      have ih := admittedIn_le_budget t1 t2 Allowed Inv budget hnonneg hstep cs _ c.now hall hs'
        hchain.2
      rw [admittedIn]
      omega
    · have hlater := Call.now_le_of_chain hchain.2
      rw [admittedIn_of_after step _ _
        (List.forall_mem_cons.2 ⟨by omega, fun d hd => by have := hlater d hd; omega⟩)]
      exact hnonneg t s hs

end Runs

section Simulation

variable {σ τ : Type} (step₁ : σ → Call → Bool × σ) (step₂ : τ → Call → Bool × τ)

end Simulation

end rate_limiter.services
