import Mathlib.Data.Rat.Floor

namespace rate_limiter.go

/-- Addition of two Go `int64` values: the exact sum wrapped to 64-bit two's complement,
    as Go's `+` does without any overflow check. -/
def addInt64 (a b : Int) : Int := (a + b).bmod (2 ^ 64)

theorem addInt64_def (a b : Int) : addInt64 a b =
    if (a + b) % 2 ^ 64 < 2 ^ 63 then (a + b) % 2 ^ 64 else (a + b) % 2 ^ 64 - 2 ^ 64 := by
  rw [addInt64, Int.bmod_def]
  norm_num

/-- A sum inside the `int64` range does not wrap. -/
theorem addInt64_of_lt {a b : Int} (hlo : -2 ^ 63 ≤ a + b) (hhi : a + b < 2 ^ 63) :
    addInt64 a b = a + b := by
  rw [addInt64_def]
  split <;> omega

/-- Wrapping never increases a sum that is not below the `int64` range. -/
theorem addInt64_le {a b : Int} (hlo : -2 ^ 63 ≤ a + b) : addInt64 a b ≤ a + b := by
  rw [addInt64_def]
  split <;> omega

theorem addInt64_ge (a b : Int) : -2 ^ 63 ≤ addInt64 a b := by
  rw [addInt64_def]
  split <;> omega

theorem addInt64_lt (a b : Int) : addInt64 a b < 2 ^ 63 := by
  rw [addInt64_def]
  split <;> omega

/-- Subtraction of two Go `int64` values, wrapped like `addInt64`. -/
def subInt64 (a b : Int) : Int := (a - b).bmod (2 ^ 64)

/-- Division of two Go `int64` values: truncating toward zero, wrapping on
    `math.MinInt64 / -1`, and a run-time panic on a zero divisor. -/
def divInt64 (a b : Int) : Except String Int :=
  if b = 0 then .error "runtime error: integer divide by zero" else .ok ((a.tdiv b).bmod (2 ^ 64))

/-- Go's conversion `int64(f)` of a whole-valued `float64`: exact inside the `int64` range;
    outside it the result is implementation-specific, and on amd64 (`CVTTSD2SQ`) it is
    `math.MinInt64`. -/
def int64OfFloat64 (x : Int) : Int := if -2 ^ 63 ≤ x ∧ x < 2 ^ 63 then x else -2 ^ 63

/-- Go's truncating quotient of a negative duration by a positive one counts no period. -/
theorem tdiv_nonpos_of_neg {a b : Int} (ha : a < 0) (hb : 0 < b) : a.tdiv b ≤ 0 := by
  have := Int.tdiv_nonneg (by omega : 0 ≤ -a) hb.le
  rw [Int.neg_tdiv] at this
  omega

/-- A clock moved on by `k` whole periods of `P` has `k` fewer periods left before `t`. -/
theorem sub_add_mul_ediv {P : Int} (hP : 0 < P) (t a k : Int) :
    (t - (a + k * P)) / P = (t - a) / P - k := by
  rw [show t - (a + k * P) = t - a + -k * P by ring, Int.add_mul_ediv_right _ _ hP.ne']
  ring

/-- An integer `k` with `(k - 1) * P < x` is at most the ceiling of `x / P`. -/
theorem le_ceil_div {k x P : Int} (hP : 0 < P) (h : (k - 1) * P < x) :
    k ≤ ⌈(x : ℚ) / P⌉ := by
  have hq : ((k - 1 : Int) : ℚ) < (x : ℚ) / P := by
    rw [lt_div_iff₀ (by exact_mod_cast hP)]
    exact_mod_cast h
  have := Int.lt_ceil.mpr hq
  omega

end rate_limiter.go
