import Mathlib.Data.Rat.Floor

namespace rate_limiter.float

/-- The exponent of the leading digit of `x` in base `b`, found by dividing by `b`; `fuel`
    bounds the number of divisions. -/
def leadExp (b : Nat) : Nat → Nat → Nat
  | 0, _ => 0
  | fuel + 1, x => if x < b then 0 else leadExp b fuel (x / b) + 1

/-- `N / D` rounded to the nearest whole number, ties to even: the quotient, plus one when twice
    the remainder passes the divisor or equals it on an odd quotient. -/
def roundHalfEven (N D : Nat) : Nat :=
  let q := N / D
  let r := N % D
  if 2 * r > D ∨ (2 * r = D ∧ q % 2 = 1) then q + 1 else q

section Lead

variable {b : Nat}

theorem leadExp_spec (hb : 2 ≤ b) :
    ∀ fuel x, 0 < x → x < b ^ (fuel + 1) →
      b ^ leadExp b fuel x ≤ x ∧ x < b ^ (leadExp b fuel x + 1)
  | 0, x, hx0, hx => by simp only [leadExp, pow_zero, zero_add, pow_one] at hx ⊢; omega
  | fuel + 1, x, hx0, hx => by
    unfold leadExp
    split_ifs with hxb
    · simpa using ⟨hx0, hxb⟩
    · have hq : 0 < x / b := Nat.div_pos (by omega) (by omega)
      have hqlt : x / b < b ^ (fuel + 1) :=
        (Nat.div_lt_iff_lt_mul (by omega)).2 (by rw [← pow_succ]; exact hx)
      obtain ⟨hlo, hhi⟩ := leadExp_spec hb fuel (x / b) hq hqlt
      constructor
      · rw [pow_succ]; exact (Nat.le_div_iff_mul_le (by omega)).1 hlo
      · rw [pow_succ]; exact (Nat.div_lt_iff_lt_mul (by omega)).1 hhi

end Lead

section HalfEven

variable {D x y k : Nat}

theorem roundHalfEven_mul (hD : 0 < D) (k : Nat) : roundHalfEven (k * D) D = k := by
  dsimp only [roundHalfEven]
  rw [Nat.mul_div_cancel k hD, Nat.mul_mod_left]
  split_ifs <;> omega

/-- Rounding to multiples of `D` is monotone. -/
theorem roundHalfEven_mono (hD : 0 < D) (h : x ≤ y) : roundHalfEven x D ≤ roundHalfEven y D := by
  have hq := Nat.div_le_div_right (c := D) h
  have hx := Nat.div_add_mod' x D
  have hy := Nat.div_add_mod' y D
  have hxr := Nat.mod_lt x hD
  have hyr := Nat.mod_lt y hD
  dsimp only [roundHalfEven]
  rcases Nat.lt_or_ge (x / D) (y / D) with hlt | hge
  · split_ifs <;> omega
  · have heq : x / D = y / D := le_antisymm hq hge
    rw [heq] at hx ⊢
    split_ifs <;> omega

/-- Within half a step: `2 |roundHalfEven x D * D - x| ≤ D`. -/
theorem roundHalfEven_near (hD : 0 < D) (x : Nat) :
    2 * (roundHalfEven x D * D) ≤ 2 * x + D ∧ 2 * x ≤ 2 * (roundHalfEven x D * D) + D := by
  have hx := Nat.div_add_mod' x D
  have hxr := Nat.mod_lt x hD
  dsimp only [roundHalfEven]
  split_ifs with h
  · rw [Nat.add_mul, Nat.one_mul]; omega
  · omega

/-- An input within less than half a step of `k * D` rounds to `k`. -/
theorem roundHalfEven_eq_of_near (hD : 0 < D) (h1 : 2 * x < 2 * (k * D) + D)
    (h2 : 2 * (k * D) < 2 * x + D) : roundHalfEven x D = k := by
  have hx := Nat.div_add_mod' x D
  have hxr := Nat.mod_lt x hD
  -- the quotient is `k` or `k - 1`
  have hq : x / D = k ∨ x / D + 1 = k := by
    have hlo : k ≤ x / D + 1 := by
      by_contra hc
      have : (x / D + 2) * D ≤ k * D := Nat.mul_le_mul_right D (by omega)
      rw [Nat.add_mul] at this
      omega
    have hhi : x / D ≤ k := by
      by_contra hc
      have : (k + 1) * D ≤ x / D * D := Nat.mul_le_mul_right D (by omega)
      rw [Nat.add_mul, Nat.one_mul] at this
      omega
    omega
  dsimp only [roundHalfEven]
  rcases hq with hq | hq
  · rw [← hq] at h1 h2 ⊢
    split_ifs <;> omega
  · rw [← hq, Nat.add_mul, Nat.one_mul] at h1 h2
    split_ifs <;> omega

end HalfEven

/-- The exponent of the leading digit of `x` in base `b`: `b ^ e ≤ x < b ^ (e + 1)`. -/
def lead (b x : Nat) : Nat := leadExp b x x

/-- `x` rounded to the nearest multiple of `D`, ties to the even multiple. -/
def roundTo (D x : Nat) : Nat := roundHalfEven x D * D

/-- The spacing of numbers of `p` digits in base `b` around `x`: `b ^ s`, where `s` counts the
    digits of `x` past the first `p` (none below `b ^ p`). -/
def ulp (b p x : Nat) : Nat := b ^ (lead b x + 1 - p)

/-- `x` rounded to `p` significant digits in base `b`, ties to even. -/
def roundSig (b p x : Nat) : Nat := roundTo (ulp b p x) x

section Lead

variable {b e n x y : Nat}

theorem lead_spec (hb : 2 ≤ b) (hx : 0 < x) : b ^ lead b x ≤ x ∧ x < b ^ (lead b x + 1) :=
  leadExp_spec hb x x hx (lt_trans (Nat.lt_pow_self (by omega) x) (Nat.pow_lt_pow_right (by omega) (by omega)))

theorem lead_lt_of_lt (hb : 2 ≤ b) (hx : 0 < x) (h : x < b ^ n) : lead b x < n :=
  (Nat.pow_lt_pow_iff_right (by omega)).1 (lt_of_le_of_lt (lead_spec hb hx).1 h)

theorem le_lead_of_le (hb : 2 ≤ b) (h : b ^ n ≤ x) : n ≤ lead b x :=
  Nat.lt_succ_iff.1 <| (Nat.pow_lt_pow_iff_right (by omega)).1 <|
    lt_of_le_of_lt h (lead_spec hb (lt_of_lt_of_le (Nat.pos_pow_of_pos n (by omega)) h)).2

theorem lead_mono (hb : 2 ≤ b) (hx : 0 < x) (h : x ≤ y) : lead b x ≤ lead b y :=
  le_lead_of_le hb (le_trans (lead_spec hb hx).1 h)

theorem ulp_pos (hb : 2 ≤ b) (p x : Nat) : 0 < ulp b p x := Nat.pos_pow_of_pos _ (by omega)

/-- Numbers below `b ^ p` have spacing 1. -/
theorem ulp_of_lt (hb : 2 ≤ b) (hp : 1 ≤ p) (h : x < b ^ p) : ulp b p x = 1 := by
  rcases Nat.eq_zero_or_pos x with rfl | hx
  · simp [ulp, lead, leadExp, show 1 - p = 0 by omega]
  · have := lead_lt_of_lt hb hx h
    simp [ulp, show lead b x + 1 - p = 0 by omega]

/-- `x` lies below `b ^ p` spacings. -/
theorem lt_ulp_mul (hb : 2 ≤ b) (p x : Nat) : x < ulp b p x * b ^ p := by
  rcases Nat.eq_zero_or_pos x with rfl | hx
  · exact Nat.mul_pos (ulp_pos hb p 0) (Nat.pos_pow_of_pos p (by omega))
  · calc x < b ^ (lead b x + 1) := (lead_spec hb hx).2
      _ ≤ b ^ (lead b x + 1 - p + p) := Nat.pow_le_pow_right (by omega) (by omega)
      _ = ulp b p x * b ^ p := pow_add ..

end Lead

section RoundTo

variable {D x y k : Nat}

theorem roundTo_mul (hD : 0 < D) (k : Nat) : roundTo D (k * D) = k * D := by
  rw [roundTo, roundHalfEven_mul hD]

theorem roundTo_of_dvd (hD : 0 < D) (h : D ∣ x) : roundTo D x = x := by
  obtain ⟨k, rfl⟩ := h
  rw [Nat.mul_comm, roundTo_mul hD]

theorem dvd_roundTo (D x : Nat) : D ∣ roundTo D x := Dvd.intro_left _ rfl

theorem roundTo_mono (hD : 0 < D) (h : x ≤ y) : roundTo D x ≤ roundTo D y :=
  Nat.mul_le_mul_right D (roundHalfEven_mono hD h)

theorem roundTo_near (hD : 0 < D) (x : Nat) :
    2 * roundTo D x ≤ 2 * x + D ∧ 2 * x ≤ 2 * roundTo D x + D :=
  roundHalfEven_near hD x

theorem roundTo_eq_of_near (hD : 0 < D) (h1 : 2 * x < 2 * (k * D) + D)
    (h2 : 2 * (k * D) < 2 * x + D) : roundTo D x = k * D := by
  rw [roundTo, roundHalfEven_eq_of_near hD h1 h2]

/-- A multiple of `D` at or above `x` stays at or above its rounding, and one at or below
    stays at or below. -/
theorem roundTo_le_of_dvd (hD : 0 < D) (hm : D ∣ y) (h : x ≤ y) : roundTo D x ≤ y :=
  roundTo_of_dvd hD hm ▸ roundTo_mono hD h

theorem le_roundTo_of_dvd (hD : 0 < D) (hm : D ∣ y) (h : y ≤ x) : y ≤ roundTo D x :=
  roundTo_of_dvd hD hm ▸ roundTo_mono hD h

end RoundTo

section RoundSig

variable {b p x y z d : Nat}

@[simp] theorem roundSig_zero (b p : Nat) : roundSig b p 0 = 0 := by
  simp [roundSig, roundTo, roundHalfEven]

/-- Below `b ^ p` every number has `p` digits and is left as it is. -/
theorem roundSig_of_lt (hb : 2 ≤ b) (hp : 1 ≤ p) (h : x < b ^ p) : roundSig b p x = x := by
  rw [roundSig, ulp_of_lt hb hp h]
  exact roundTo_of_dvd Nat.one_pos (one_dvd x)

/-- Rounding to `p` digits is monotone. -/
theorem roundSig_mono (hb : 2 ≤ b) (hp : 1 ≤ p) (h : x ≤ y) : roundSig b p x ≤ roundSig b p y := by
  rcases Nat.eq_zero_or_pos x with rfl | hx
  · simp
  rcases Nat.lt_or_ge (lead b x) (lead b y) with hlt | hge
  · -- `x` rounds to at most `b ^ (lead x + 1)`, `y` to at least `b ^ lead y`
    calc roundSig b p x ≤ b ^ (lead b x + 1) :=
          roundTo_le_of_dvd (ulp_pos hb p x) (Nat.pow_dvd_pow b (by omega)) (lead_spec hb hx).2.le
      _ ≤ b ^ lead b y := Nat.pow_le_pow_right (by omega) hlt
      _ ≤ roundSig b p y := le_roundTo_of_dvd (ulp_pos hb p y) (Nat.pow_dvd_pow b (by omega))
          (lead_spec hb (by omega)).1
  · have hulp : ulp b p x = ulp b p y := by rw [ulp, ulp, le_antisymm (lead_mono hb hx h) hge]
    rw [roundSig, roundSig, hulp]
    exact roundTo_mono (ulp_pos hb p y) h

/-- A rounded number is a multiple of its own spacing: it has `p` digits. -/
theorem ulp_dvd_roundSig (hb : 2 ≤ b) (hp : 1 ≤ p) (x : Nat) :
    ulp b p (roundSig b p x) ∣ roundSig b p x := by
  rcases Nat.eq_zero_or_pos x with rfl | hx
  · simp
  have hhi : roundSig b p x ≤ b ^ (lead b x + 1) :=
    roundTo_le_of_dvd (ulp_pos hb p x) (Nat.pow_dvd_pow b (by omega)) (lead_spec hb hx).2.le
  have hlo : b ^ lead b x ≤ roundSig b p x :=
    le_roundTo_of_dvd (ulp_pos hb p x) (Nat.pow_dvd_pow b (by omega)) (lead_spec hb hx).1
  have hdvd : ulp b p x ∣ roundSig b p x := dvd_roundTo _ _
  generalize roundSig b p x = y at hhi hlo hdvd ⊢
  have hy : 0 < y := lt_of_lt_of_le (Nat.pos_pow_of_pos _ (by omega)) hlo
  have hle := le_lead_of_le hb hlo
  have hge := lead_lt_of_lt hb hy (lt_of_le_of_lt hhi (Nat.pow_lt_pow_right (by omega) (Nat.lt_succ_self _)))
  rcases (show lead b y = lead b x ∨ lead b y = lead b x + 1 by omega) with he | he
  · -- the same spacing as `x`
    rwa [ulp, he]
  · -- the power `b ^ (lead x + 1)` itself
    have hpow : y = b ^ (lead b x + 1) := le_antisymm hhi (he ▸ (lead_spec hb hy).1)
    rw [ulp, he]
    conv_rhs => rw [hpow]
    exact Nat.pow_dvd_pow b (by omega)

/-- Rounding twice is rounding once. -/
theorem roundSig_roundSig (hb : 2 ≤ b) (hp : 1 ≤ p) (x : Nat) :
    roundSig b p (roundSig b p x) = roundSig b p x :=
  roundTo_of_dvd (ulp_pos hb p _) (ulp_dvd_roundSig hb hp x)

/-- Rounding moves `x` by some `d` with `2 b ^ (p - 1) d ≤ x`: by half a spacing at most, and
    a spacing is at most `x / b ^ (p - 1)`. -/
theorem roundSig_near (hb : 2 ≤ b) (hp : 1 ≤ p) (x : Nat) :
    ∃ d, roundSig b p x ≤ x + d ∧ x ≤ roundSig b p x + d ∧ 2 * b ^ (p - 1) * d ≤ x := by
  rcases Nat.lt_or_ge x (b ^ p) with hlt | hge
  · exact ⟨0, by rw [roundSig_of_lt hb hp hlt]; omega, by rw [roundSig_of_lt hb hp hlt]; omega,
      by simp⟩
  have hx : 0 < x := lt_of_lt_of_le (Nat.pos_pow_of_pos p (by omega)) hge
  have hl := le_lead_of_le hb hge
  have hulp : b ^ (p - 1) * ulp b p x = b ^ lead b x := by rw [ulp, ← pow_add]; congr 1; omega
  obtain ⟨h1, h2⟩ := roundTo_near (ulp_pos hb p x) x
  refine ⟨roundSig b p x - x + (x - roundSig b p x), by omega, by omega, ?_⟩
  have h2d : 2 * (roundSig b p x - x + (x - roundSig b p x)) ≤ ulp b p x := by
    rw [roundSig] at *; omega
  calc 2 * b ^ (p - 1) * (roundSig b p x - x + (x - roundSig b p x))
      = b ^ (p - 1) * (2 * (roundSig b p x - x + (x - roundSig b p x))) := by ring
    _ ≤ b ^ (p - 1) * ulp b p x := Nat.mul_le_mul_left _ h2d
    _ = b ^ lead b x := hulp
    _ ≤ x := (lead_spec hb hx).1

/-- A multiple of `u` below another is at least `u` below it. -/
theorem add_le_of_dvd_of_lt {u a c : Nat} (ha : u ∣ a) (hc : u ∣ c) (h : a < c) : a + u ≤ c := by
  obtain ⟨i, rfl⟩ := ha
  obtain ⟨j, rfl⟩ := hc
  have hij : i < j := Nat.lt_of_mul_lt_mul_left h
  calc u * i + u = u * (i + 1) := by ring
    _ ≤ u * j := Nat.mul_le_mul_left _ hij

/-- Every number close enough to a number `y` of `p` digits rounds to `y`: within `d` of it,
    where `2 b ^ p d` is at most both. -/
theorem roundSig_eq_of_near (hb : 2 ≤ b) (hp : 1 ≤ p) (hy : ulp b p y ∣ y) (hzy : z ≤ y + d)
    (hyz : y ≤ z + d) (hdz : 2 * b ^ p * d ≤ z) (hdy : 2 * b ^ p * d ≤ y) : roundSig b p z = y := by
  rcases Nat.eq_zero_or_pos d with rfl | hd
  · rw [show z = y by omega]
    exact roundTo_of_dvd (ulp_pos hb p y) hy
  have hpos : 0 < 2 * b ^ p * d := Nat.mul_pos (Nat.mul_pos two_pos (Nat.pos_pow_of_pos p (by omega))) hd
  -- `d` is within half a spacing at `z` and at `y`
  have hnear : ∀ w, 2 * b ^ p * d ≤ w → 2 * d < ulp b p w := fun w hw =>
    Nat.lt_of_mul_lt_mul_right (a := b ^ p) <| calc
      2 * d * b ^ p = 2 * b ^ p * d := by ring
      _ ≤ w := hw
      _ < ulp b p w * b ^ p := lt_ulp_mul hb p w
  have hdz' := hnear z hdz
  have hdy' := hnear y hdy
  -- the spacing at `z` divides `y`: a larger one would put `z` a spacing of `y` past `y`
  have hdvd : ulp b p z ∣ y := by
    rcases le_or_lt (lead b z) (lead b y) with hle | hlt
    · exact (Nat.pow_dvd_pow b (by omega)).trans hy
    · have h3 := add_le_of_dvd_of_lt hy (Nat.pow_dvd_pow b (by omega : lead b y + 1 - p ≤ lead b y + 1))
        (lead_spec hb (by omega)).2
      have h4 : b ^ (lead b y + 1) ≤ z :=
        le_trans (Nat.pow_le_pow_right (by omega) hlt) (lead_spec hb (by omega)).1
      omega
  obtain ⟨k, hk⟩ := hdvd
  rw [hk, Nat.mul_comm] at hzy hyz ⊢
  exact @roundTo_eq_of_near (ulp b p z) z k (ulp_pos hb p z) (by omega) (by omega)

end RoundSig

/-- A rounding of magnitudes applied to an integer: the magnitude is rounded and the sign kept,
    as round-to-nearest-even is symmetric. -/
def signed (f : Nat → Nat) : Int → Int
  | .ofNat n => f n
  | .negSucc n => -(f (n + 1) : Int)

/-- The double nearest the integer `x`: IEEE 754 binary64, 53 significant bits, ties to even.
    The integers met here stay far below the largest finite double. -/
def binary64 : Int → Int := signed (roundSig 2 53)

/-- The integer `x` as `printf("%.14g")` writes it: 14 significant decimal digits, ties to
    even. -/
def decimal14 : Int → Int := signed (roundSig 10 14)

/-- A nanosecond clock reading in 2024 is a multiple of 256 as a double, and of `10 ^ 5` when
    written to 14 digits. -/
example : binary64 1731110400000000100 = 1731110400000000000 ∧
    decimal14 1731110401000000050 = 1731110401000000000 := by decide

section Signed

variable {f g : Nat → Nat}

@[simp] theorem signed_natCast (f : Nat → Nat) (n : Nat) : signed f n = f n := rfl

theorem signed_neg (hf : f 0 = 0) (x : Int) : signed f (-x) = -signed f x := by
  rcases x with (_ | n) | n
  · simp [signed, hf]
  · rfl
  · show signed f (n + 1 : Nat) = _
    simp [signed]

/-- Every integer is a magnitude with a sign. -/
theorem signed_cases (f : Nat → Nat) (x : Int) :
    signed f x = f x.natAbs ∧ 0 ≤ x ∨ signed f x = -(f x.natAbs : Int) ∧ x < 0 := by
  rcases x with n | n
  · exact .inl ⟨rfl, Int.natCast_nonneg n⟩
  · exact .inr ⟨rfl, Int.negSucc_lt_zero n⟩

theorem signed_of_fix {x : Int} (h : f x.natAbs = x.natAbs) : signed f x = x := by
  rcases signed_cases f x with ⟨he, hx⟩ | ⟨he, hx⟩ <;> rw [he, h] <;> omega

theorem signed_mono (hf : Monotone f) {x y : Int} (h : x ≤ y) :
    signed f x ≤ signed f y := by
  rcases signed_cases f x with ⟨hx, hx0⟩ | ⟨hx, hx0⟩ <;>
    rcases signed_cases f y with ⟨hy, hy0⟩ | ⟨hy, hy0⟩ <;> rw [hx, hy]
  · exact Int.ofNat_le.2 (hf (by omega))
  · omega
  · omega
  · exact Int.neg_le_neg (Int.ofNat_le.2 (hf (by omega)))

theorem signed_signed (hf0 : f 0 = 0) (x : Int) :
    signed f (signed g x) = signed (f ∘ g) x := by
  rcases x with n | n
  · rfl
  · rw [signed, signed_neg hf0, signed_natCast, signed]
    rfl

end Signed

section Binary64

variable {x y : Int}

@[simp] theorem binary64_zero : binary64 0 = 0 := rfl
@[simp] theorem decimal14_zero : decimal14 0 = 0 := rfl

/-- Integers below `2 ^ 53` are doubles. -/
theorem binary64_of_lt (h : x.natAbs < 2 ^ 53) : binary64 x = x :=
  signed_of_fix (roundSig_of_lt le_rfl (by norm_num) h)

/-- Integers of at most 14 digits are written as they are. -/
theorem decimal14_of_lt (h : x.natAbs < 10 ^ 14) : decimal14 x = x :=
  signed_of_fix (roundSig_of_lt (by norm_num) (by norm_num) h)

theorem binary64_mono (h : x ≤ y) : binary64 x ≤ binary64 y :=
  signed_mono (fun _ _ => roundSig_mono le_rfl (by norm_num)) h

theorem decimal14_mono (h : x ≤ y) : decimal14 x ≤ decimal14 y :=
  signed_mono (fun _ _ => roundSig_mono (by norm_num) (by norm_num)) h

@[simp] theorem binary64_binary64 (x : Int) : binary64 (binary64 x) = binary64 x := by
  rw [binary64, signed_signed (roundSig_zero 2 53)]
  exact congrArg (signed · x) (funext (roundSig_roundSig le_rfl (by norm_num)))

/-- A decimal of 14 digits comes back from the nearest double: the double is within
    `y / 2 ^ 53` of it, far inside half a decimal spacing. -/
theorem roundSig_decimal_binary (n : Nat) :
    roundSig 10 14 (roundSig 2 53 (roundSig 10 14 n)) = roundSig 10 14 n := by
  obtain ⟨d, h1, h2, h3⟩ := roundSig_near le_rfl (by norm_num : 1 ≤ 53) (roundSig 10 14 n)
  norm_num at h3
  exact roundSig_eq_of_near (by norm_num) (by norm_num) (ulp_dvd_roundSig (by norm_num) (by norm_num) n)
    h1 h2 (by norm_num; omega) (by norm_num; omega)

/-- What a reader gets back from a number `cjson.encode` wrote: the double nearest the
    14-digit decimal. Reading it back and writing it again changes nothing. -/
theorem binary64_decimal14_idem (x : Int) :
    binary64 (decimal14 (binary64 (decimal14 x))) = binary64 (decimal14 x) := by
  have h : ∀ n, roundSig 2 53 (roundSig 10 14 (roundSig 2 53 (roundSig 10 14 n))) =
      roundSig 2 53 (roundSig 10 14 n) := fun n => by rw [roundSig_decimal_binary]
  simp only [binary64, decimal14, signed_signed (roundSig_zero _ _), Function.comp_def, h]

end Binary64

/-- The binade of `N / D` for `N, D > 0`: the `e` with `2 ^ e ≤ N / D < 2 ^ (e + 1)`, from the
    leading-bit exponents of `N` and `D` and one comparison. -/
def binade (N D : Nat) : Int :=
  let e : Int := (lead 2 N : Int) - lead 2 D
  if N * 2 ^ (-e).toNat < D * 2 ^ e.toNat then e - 1 else e

/-- The double nearest `N / D` (`N, D > 0`), as a numerator over a power of two: the quotient
    in units of its binade's spacing `2 ^ (e - 52)`, rounded half to even. -/
def nearestDiv (N D : Nat) : Nat × Nat :=
  let k := binade N D - 52
  (roundHalfEven (N * 2 ^ (-k).toNat) (D * 2 ^ k.toNat) * 2 ^ k.toNat, 2 ^ (-k).toNat)

/-- The floor of the double nearest `a / b` (`b ≠ 0`): Lua's `math.floor(a / b)`. -/
def floorDivBinary64 (a b : Int) : Int :=
  let q := nearestDiv a.natAbs b.natAbs
  Int.fdiv (a.sign * b.sign * q.1) q.2

/-- `(5 * 2 ^ 60 - 1) / 2 ^ 60` is just below 5, and its nearest double is 5. -/
example : floorDivBinary64 (5 * 2 ^ 60 - 1) (2 ^ 60) = 5 := by decide
example : floorDivBinary64 (-7) 2 = -4 := by decide

section Quotient

variable {a b : Int}

theorem binade_le (N D : Nat) : binade N D ≤ (lead 2 N : Int) - lead 2 D := by
  dsimp only [binade]
  split_ifs <;> omega

/-- Below `2 ^ 52` the rounding of a quotient never crosses a whole number: the floor of the
    double nearest `N / D` is the floor of `N / D`. The binade's spacing is at most `1 / D`. -/
theorem floor_nearestDiv {N D : Nat} (hN : N < 2 ^ 52) (hD : 0 < D) :
    (nearestDiv N D).1 / (nearestDiv N D).2 = N / D := by
  rcases Nat.eq_zero_or_pos N with rfl | hN0
  · simp [nearestDiv, roundHalfEven]
  have hlN := lead_lt_of_lt le_rfl hN0 hN
  have hlD := (lead_spec le_rfl hD).2
  have hk := binade_le N D
  -- the spacing is `1 / 2 ^ j` with `D ≤ 2 ^ j`
  obtain ⟨j, hj, hjD⟩ : ∃ j, nearestDiv N D = (roundHalfEven (N * 2 ^ j) D, 2 ^ j) ∧ D ≤ 2 ^ j := by
    refine ⟨(-(binade N D - 52)).toNat, ?_, ?_⟩
    · simp only [nearestDiv, show (binade N D - 52).toNat = 0 by omega, pow_zero, Nat.mul_one]
    · exact le_trans hlD.le (Nat.pow_le_pow_right two_pos (by omega))
  rw [hj]
  dsimp only
  have hJ : 0 < 2 ^ j := Nat.pos_pow_of_pos j two_pos
  have hq := Nat.div_mul_le_self N D
  have hq' := Nat.lt_div_mul_add (a := N) hD
  obtain ⟨hnear, -⟩ := roundHalfEven_near hD (N * 2 ^ j)
  apply Nat.div_eq_of_lt_le
  · -- rounding is monotone and `N / D * 2 ^ j * D ≤ N * 2 ^ j`
    calc N / D * 2 ^ j = roundHalfEven (N / D * 2 ^ j * D) D := (roundHalfEven_mul hD _).symm
      _ ≤ roundHalfEven (N * 2 ^ j) D :=
        roundHalfEven_mono hD (Nat.mul_right_comm (N / D) _ D ▸ Nat.mul_le_mul_right _ hq)
  · -- `2 m D ≤ 2 N 2 ^ j + D < 2 (N / D + 1) D 2 ^ j`
    by_contra hc
    have hm : (N / D + 1) * 2 ^ j * D ≤ roundHalfEven (N * 2 ^ j) D * D :=
      Nat.mul_le_mul_right D (by omega)
    have hN1 : (N + 1) * 2 ^ j ≤ (N / D * D + D) * 2 ^ j := Nat.mul_le_mul_right _ hq'
    linarith

/-- Lua's `math.floor(a / b)` for `0 ≤ a < 2 ^ 52` and `b > 0` is the integer quotient. -/
theorem floorDivBinary64_of_lt (ha : 0 ≤ a) (ha' : a < 2 ^ 52) (hb : 0 < b) :
    floorDivBinary64 a b = a / b := by
  have hfl := @floor_nearestDiv a.natAbs b.natAbs (by omega) (by omega)
  rcases ha.lt_or_eq with ha0 | rfl
  · rw [floorDivBinary64, Int.sign_eq_one_of_pos ha0, Int.sign_eq_one_of_pos hb, one_mul, one_mul,
      Int.fdiv_eq_ediv _ (Int.natCast_nonneg _), ← Int.natCast_div, hfl, Int.natCast_div,
      Int.natAbs_of_nonneg ha, Int.natAbs_of_nonneg hb.le]
  · simp [floorDivBinary64]

/-- A quotient `a / b` with `a ≤ 0 < b` has a floor of at most 0. -/
theorem floorDivBinary64_nonpos (ha : a ≤ 0) (hb : 0 < b) : floorDivBinary64 a b ≤ 0 := by
  have hsign : a.sign ≤ 0 := by
    rcases ha.lt_or_eq with ha0 | rfl
    · rw [Int.sign_eq_neg_one_of_neg ha0]; omega
    · rfl
  have hq : (0 : Int) < ((nearestDiv a.natAbs b.natAbs).2 : Nat) := by
    simp only [nearestDiv, Nat.cast_pow, Nat.cast_ofNat]
    positivity
  rw [floorDivBinary64, Int.sign_eq_one_of_pos hb, mul_one, Int.fdiv_eq_ediv _ hq.le]
  calc _ ≤ (0 : Int) / ((nearestDiv a.natAbs b.natAbs).2 : Nat) :=
        Int.ediv_le_ediv hq (by nlinarith [Int.natCast_nonneg (nearestDiv a.natAbs b.natAbs).1])
    _ = 0 := Int.zero_ediv _

end Quotient

end rate_limiter.float
