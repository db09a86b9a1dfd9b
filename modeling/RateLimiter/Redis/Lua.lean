import RateLimiter.Float.Rounding

open rate_limiter.float

namespace rate_limiter.redis

/-! Lua 5.1 numbers are IEEE doubles. Every value the bucket scripts keep is a whole number, so a
    double is modelled by its integer value, and each operation rounds its exact result to the
    nearest double. -/

/-- `tonumber` of the decimal text go-redis sends for an `int64` argument: the nearest double. -/
def Lua.tonumber (x : Int) : Int := binary64 x

/-- `a + b` on two doubles. -/
def Lua.add (a b : Int) : Int := binary64 (a + b)

/-- `a - b` on two doubles. -/
def Lua.sub (a b : Int) : Int := binary64 (a - b)

/-- `a * b` on two doubles. -/
def Lua.mul (a b : Int) : Int := binary64 (a * b)

/-- `math.min(a, b)`: the first argument unless the second is smaller. -/
def Lua.min (a b : Int) : Int := if b < a then b else a

/-- What `math.floor(a / b)` can be: a whole double, or for a zero divisor an infinity or NaN. -/
inductive Lua.Floor where
  | finite (n : Int)
  | posInf
  | negInf
  | nan
  deriving Repr, DecidableEq

/-- `math.floor(a / b)`: Lua's `/` rounds the quotient to the nearest double and `math.floor`
    takes its floor; `x / 0` is `inf` or `-inf` by the sign of `x`, and `0 / 0` is NaN. -/
def Lua.floorDiv (a b : Int) : Lua.Floor :=
  if b = 0 then (if 0 < a then .posInf else if a < 0 then .negInf else .nan)
  else .finite (floorDivBinary64 a b)

/-- A number the scripts carry exactly: below `10 ^ 14` in magnitude it is a double, `cjson`
    writes it as an integer literal, and sums and differences of a few of them stay doubles. -/
def Lua.Exact (x : Int) : Prop := -10 ^ 14 < x ∧ x < 10 ^ 14

instance : DecidablePred Lua.Exact := fun _ => inferInstanceAs (Decidable (_ ∧ _))

section Exact

variable {a b x : Int}

/-- Integers below `2 ^ 53` in magnitude are doubles. -/
theorem binary64_of_bounds (hlo : -2 ^ 53 < x) (hhi : x < 2 ^ 53) : binary64 x = x :=
  binary64_of_lt (by omega)

theorem Lua.tonumber_of_exact (h : Lua.Exact x) : Lua.tonumber x = x :=
  binary64_of_bounds (by unfold Lua.Exact at h; omega) (by unfold Lua.Exact at h; omega)

/-- An exact number written by `cjson.encode` reads back as itself. -/
theorem binary64_decimal14_of_exact (h : Lua.Exact x) : binary64 (decimal14 x) = x := by
  unfold Lua.Exact at h
  rw [decimal14_of_lt (by omega), binary64_of_bounds (by omega) (by omega)]

/-- A request of `2 ^ 53` or more arrives as at least `2 ^ 53`, above every exact level. -/
theorem Lua.tonumber_le_iff (hx : Lua.Exact x) : Lua.tonumber a ≤ x ↔ a ≤ x := by
  unfold Lua.Exact at hx
  unfold Lua.tonumber
  by_cases hlo : -2 ^ 53 < a
  · by_cases hhi : a < 2 ^ 53
    · rw [binary64_of_bounds hlo hhi]
    · -- at least `2 ^ 53`, above `x` before and after rounding
      have := binary64_mono (show (2 : Int) ^ 53 ≤ a by omega)
      rw [show binary64 (2 ^ 53) = 2 ^ 53 by decide] at this
      constructor <;> intro <;> omega
  · have := binary64_mono (show a ≤ -2 ^ 53 by omega)
    rw [show binary64 (-2 ^ 53) = -2 ^ 53 by decide] at this
    constructor <;> intro <;> omega

/-- A sum with a request that would pass `2 ^ 53` stays over every exact capacity after
    rounding. -/
theorem Lua.add_tonumber_le_iff {q C : Int} (hq : Lua.Exact q) (hC : Lua.Exact C) (hn : 0 ≤ a) :
    Lua.add q (Lua.tonumber a) ≤ C ↔ q + a ≤ C := by
  unfold Lua.Exact at hq hC
  unfold Lua.add Lua.tonumber
  by_cases ha : a < 2 ^ 53 - 10 ^ 14
  · rw [@binary64_of_bounds a (by omega) (by omega)]
    by_cases hs : q + a < 2 ^ 53
    · rw [binary64_of_bounds (by omega) hs]
    · -- at least `2 ^ 53` before and after rounding
      have := binary64_mono (show (2 : Int) ^ 53 ≤ q + a by omega)
      rw [show binary64 (2 ^ 53) = 2 ^ 53 by decide] at this
      constructor <;> intro <;> omega
  · -- the request rounds to at least `2 ^ 53 - 10 ^ 14`, and the sum stays above the capacity
    have h1 := binary64_mono (show (2 : Int) ^ 53 - 10 ^ 14 ≤ a by omega)
    rw [show binary64 (2 ^ 53 - 10 ^ 14) = 2 ^ 53 - 10 ^ 14 by decide] at h1
    have h2 := binary64_mono (show (2 : Int) ^ 53 - 2 * 10 ^ 14 ≤ q + binary64 a by omega)
    rw [show binary64 (2 ^ 53 - 2 * 10 ^ 14) = 2 ^ 53 - 2 * 10 ^ 14 by decide] at h2
    constructor <;> intro <;> omega

/-- Lua's floored quotient of a non-negative number below `2 ^ 52` by a positive one is the
    integer quotient. -/
theorem Lua.floorDiv_of_lt (ha0 : 0 ≤ a) (ha : a < 2 ^ 52) (hb : 0 < b) :
    Lua.floorDiv a b = .finite (a / b) := by
  rw [Lua.floorDiv, if_neg hb.ne', floorDivBinary64_of_lt ha0 ha hb]

/-- A non-positive number by a positive one floors to at most 0. -/
theorem Lua.floorDiv_of_nonpos (ha : a ≤ 0) (hb : 0 < b) :
    ∃ n, n ≤ 0 ∧ Lua.floorDiv a b = .finite n :=
  ⟨_, floorDivBinary64_nonpos ha hb, by rw [Lua.floorDiv, if_neg hb.ne']⟩

end Exact

end rate_limiter.redis
