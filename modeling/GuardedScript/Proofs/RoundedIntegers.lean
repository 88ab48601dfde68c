import GuardedScript.Value.Number
import Mathlib

/-!
# Integers as doubles

Where an integer is promoted to a double, it is rounded to 53 significant bits, and a tie goes to
the even neighbour: `rounded`.  Doubles that stand for integers compare as these integers do
(`HasValue.compare`), so promoted integers compare as the rounded ones (`toFloat_lt_iff`,
`toFloat_le_iff`).

The arithmetic of doubles shifts a mantissa to the right bit by bit and keeps two bits of what is
lost, which is enough to know how the loss compares with one half (`Shifted`).
-/

set_option autoImplicit false

namespace GuardedScript

open Float.Model Float.Model.UnpackedFloat

/-! ### Rounding to 53 significant bits -/

/-- The integer nearest to a quotient; of two that are equally near, the even one. -/
def nearestQuotient (n unit : Nat) : Nat :=
  if 2 * (n % unit) < unit then n / unit
  else if unit < 2 * (n % unit) then n / unit + 1
  else n / unit + n / unit % 2

/-- What the last of the 53 bits counts that begin with the first bit of a number. -/
def lastPlace (n : Nat) : Nat :=
  2 ^ (n.log2 - 52)

/-- A natural number rounded to 53 significant bits. -/
def roundedNat (n : Nat) : Nat :=
  nearestQuotient n (lastPlace n) * lastPlace n

/-- An integer rounded to 53 significant bits. -/
def rounded : Int → Int
  | .ofNat n => roundedNat n
  | .negSucc n => -roundedNat (n + 1)

/-- The nearest quotient is at least the quotient rounded down. -/
theorem le_nearestQuotient (n unit : Nat) : n / unit ≤ nearestQuotient n unit := by
  unfold nearestQuotient
  split
  · omega
  · split <;> omega

/-- The nearest quotient is at most one more than the quotient rounded down. -/
theorem nearestQuotient_le (n unit : Nat) : nearestQuotient n unit ≤ n / unit + 1 := by
  unfold nearestQuotient
  split
  · omega
  · split <;> omega

/-- Larger numbers have larger nearest quotients. -/
theorem nearestQuotient_mono (unit : Nat) {a b : Nat} (h : a ≤ b) :
    nearestQuotient a unit ≤ nearestQuotient b unit := by
  rcases Nat.lt_or_ge (a / unit) (b / unit) with hlt | hge
  · calc nearestQuotient a unit ≤ a / unit + 1 := nearestQuotient_le a unit
      _ ≤ b / unit := hlt
      _ ≤ nearestQuotient b unit := le_nearestQuotient b unit
  · -- the quotients are equal, so the remainders are ordered
    have hquotient : a / unit = b / unit := le_antisymm (Nat.div_le_div_right h) hge
    have ha := Nat.div_add_mod a unit
    have hb := Nat.div_add_mod b unit
    rw [← hquotient] at hb
    have hremainder : a % unit ≤ b % unit := by omega
    unfold nearestQuotient
    rw [← hquotient]
    split_ifs <;> omega

/-- A multiple of the unit has itself as its nearest quotient. -/
theorem nearestQuotient_mul {unit : Nat} (hunit : 0 < unit) (n : Nat) :
    nearestQuotient (n * unit) unit = n := by
  unfold nearestQuotient
  rw [Nat.mul_mod_left, Nat.mul_div_cancel n hunit, if_pos (by omega)]

/-- A common factor plays no part. -/
theorem nearestQuotient_mul_mul (n unit : Nat) {factor : Nat} (hfactor : 0 < factor) :
    nearestQuotient (n * factor) (unit * factor) = nearestQuotient n unit := by
  have hquotient : n * factor / (unit * factor) = n / unit := Nat.mul_div_mul_right n unit hfactor
  have hremainder : n * factor % (unit * factor) = n % unit * factor := Nat.mul_mod_mul_right ..
  have hbelow : 2 * (n % unit * factor) < unit * factor ↔ 2 * (n % unit) < unit := by
    rw [← Nat.mul_assoc, Nat.mul_lt_mul_right hfactor]
  have habove : unit * factor < 2 * (n % unit * factor) ↔ unit < 2 * (n % unit) := by
    rw [← Nat.mul_assoc, Nat.mul_lt_mul_right hfactor]
  simp only [nearestQuotient, hquotient, hremainder, hbelow, habove]

/-- A number that has 53 bits at most is not rounded. -/
theorem roundedNat_of_log2_le {n : Nat} (h : n.log2 ≤ 52) : roundedNat n = n := by
  have hplace : lastPlace n = 1 := by rw [lastPlace, Nat.sub_eq_zero_of_le h, Nat.pow_zero]
  rw [roundedNat, hplace, Nat.mul_one]
  simpa using nearestQuotient_mul Nat.one_pos n

/-- The 53 bits of a longer number. -/
theorem quotient_bounds {n : Nat} {k : Nat} (h : n.log2 = 52 + k) :
    2 ^ 52 ≤ n / 2 ^ k ∧ n / 2 ^ k < 2 ^ 53 := by
  have hn : n ≠ 0 := by
    rintro rfl
    rw [Nat.log2_zero] at h
    omega
  have hbits := (Nat.log2_eq_iff hn).mp h
  constructor
  · rw [Nat.le_div_iff_mul_le (Nat.two_pow_pos k), ← Nat.pow_add]
    exact hbits.1
  · rw [Nat.div_lt_iff_lt_mul (Nat.two_pow_pos k), ← Nat.pow_add]
    have hexponent : 53 + k = 52 + k + 1 := by omega
    rw [hexponent]
    exact hbits.2

/-- The nearest quotient by the right power of two has the bits of a mantissa, or is the next
power. -/
theorem nearestQuotient_bounds {n : Nat} {k : Nat} (h : n.log2 = 52 + k) :
    2 ^ 52 ≤ nearestQuotient n (2 ^ k) ∧ nearestQuotient n (2 ^ k) ≤ 2 ^ 53 := by
  have hquotient := quotient_bounds h
  have hlower := le_nearestQuotient n (2 ^ k)
  have hupper := nearestQuotient_le n (2 ^ k)
  omega

/-- Rounding does not leave the powers of two around a number. -/
theorem roundedNat_bounds {n : Nat} (hn : n ≠ 0) :
    2 ^ n.log2 ≤ roundedNat n ∧ roundedNat n ≤ 2 ^ (n.log2 + 1) := by
  rcases Nat.le_total n.log2 52 with hshort | hlong
  · rw [roundedNat_of_log2_le hshort]
    exact ⟨Nat.log2_self_le hn, Nat.le_of_lt Nat.lt_log2_self⟩
  · obtain ⟨k, hk⟩ := Nat.exists_eq_add_of_le hlong
    have hplace : lastPlace n = 2 ^ k := by rw [lastPlace, hk, Nat.add_sub_cancel_left]
    obtain ⟨hlower, hupper⟩ := nearestQuotient_bounds hk
    rw [roundedNat, hplace, hk]
    constructor
    · rw [Nat.pow_add]
      exact Nat.mul_le_mul_right _ hlower
    · have hexponent : 52 + k + 1 = 53 + k := by omega
      rw [hexponent, Nat.pow_add]
      exact Nat.mul_le_mul_right _ hupper

/-- Larger numbers are rounded to larger ones. -/
theorem roundedNat_mono {a b : Nat} (h : a ≤ b) : roundedNat a ≤ roundedNat b := by
  rcases Nat.eq_zero_or_pos a with rfl | ha
  · rw [roundedNat_of_log2_le (by decide)]
    exact Nat.zero_le _
  have ha' : a ≠ 0 := Nat.ne_of_gt ha
  have hb' : b ≠ 0 := by omega
  have hlog : a.log2 ≤ b.log2 :=
    (Nat.le_log2 hb').mpr (le_trans (Nat.log2_self_le ha') h)
  rcases Nat.eq_or_lt_of_le hlog with heq | hlt
  · have hplace : lastPlace a = lastPlace b := by rw [lastPlace, lastPlace, heq]
    rw [roundedNat, roundedNat, hplace]
    exact Nat.mul_le_mul_right _ (nearestQuotient_mono _ h)
  · calc roundedNat a ≤ 2 ^ (a.log2 + 1) := (roundedNat_bounds ha').2
      _ ≤ 2 ^ b.log2 := Nat.pow_le_pow_right (by decide) hlt
      _ ≤ roundedNat b := (roundedNat_bounds hb').1

/-- Rounding keeps the order, though it may make numbers equal. -/
theorem rounded_mono {a b : Int} (h : a ≤ b) : rounded a ≤ rounded b := by
  cases a with
  | ofNat a =>
    cases b with
    | ofNat b =>
      have := roundedNat_mono (Int.ofNat_le.mp h)
      simp only [rounded]
      omega
    | negSucc b =>
      rw [Int.ofNat_eq_natCast] at h
      omega
  | negSucc a =>
    cases b with
    | ofNat b =>
      simp only [rounded]
      omega
    | negSucc b =>
      have hle : b + 1 ≤ a + 1 := by omega
      have := roundedNat_mono hle
      simp only [rounded]
      omega

/-- The integers up to the 53rd power of two are not rounded. -/
theorem rounded_of_natAbs_le {n : Int} (h : n.natAbs ≤ 2 ^ 53) : rounded n = n := by
  have hnat : ∀ m : Nat, m ≤ 2 ^ 53 → roundedNat m = m := by
    intro m hm
    rcases Nat.eq_or_lt_of_le hm with rfl | hlt
    · decide +kernel
    · apply roundedNat_of_log2_le
      rcases Nat.eq_zero_or_pos m with rfl | hpos
      · decide
      · have := (Nat.log2_lt (Nat.ne_of_gt hpos)).mpr hlt
        omega
  cases n with
  | ofNat n => simp only [rounded, hnat n h, Int.ofNat_eq_natCast]
  | negSucc n =>
    have := hnat (n + 1) h
    simp only [rounded, this]
    omega

/-! ### Shifting with two bits of what is lost -/

/-- A mantissa was shifted to the right by some bits.  Of the bits that were lost, the first is
kept, and whether there was a one among the others. -/
structure Shifted (mantissa places : Nat) (extended : ExtendedMantissa) : Prop where
  quotient : extended.mantissa = mantissa / 2 ^ places
  round : extended.roundBit = true ↔ 2 ^ places ≤ 2 * (mantissa % 2 ^ places)
  sticky : extended.stickyBit = true ↔
    mantissa % 2 ^ places ≠ 0 ∧ 2 * (mantissa % 2 ^ places) ≠ 2 ^ places

/-- A mantissa that is not shifted has no bits cut off. -/
theorem shifted_zero (mantissa : Nat) : Shifted mantissa 0 ⟨mantissa, false, false⟩ where
  quotient := by simp
  round := by simp [Nat.mod_one]
  sticky := by simp [Nat.mod_one]

/-- One more shift keeps account of the bits that are cut off. -/
theorem Shifted.succ {mantissa places : Nat} {extended : ExtendedMantissa}
    (h : Shifted mantissa places extended) :
    Shifted mantissa (places + 1) extended.shiftRightOne := by
  have hsplit := Nat.mod_pow_succ (x := mantissa) (b := 2) (k := places)
  have hlost : mantissa % 2 ^ places < 2 ^ places := Nat.mod_lt _ (Nat.two_pow_pos places)
  have hbit := Nat.mod_two_eq_zero_or_one (mantissa / 2 ^ places)
  have hpower : 2 ^ (places + 1) = 2 * 2 ^ places := Nat.pow_succ'
  refine ⟨?_, ?_, ?_⟩
  · rw [ExtendedMantissa.shiftRightOne, h.quotient, Nat.div_div_eq_div_mul, Nat.pow_succ]
  · simp only [ExtendedMantissa.shiftRightOne, h.quotient, bne_iff_ne]
    rcases hbit with hbit | hbit <;> rw [hbit] at hsplit ⊢ <;> omega
  · simp only [ExtendedMantissa.shiftRightOne, Bool.or_eq_true, h.round, h.sticky]
    rcases hbit with hbit | hbit <;> rw [hbit] at hsplit <;> omega

/-- A shift keeps account of the bits that are cut off. -/
theorem shifted_shiftRight (mantissa places : Nat) :
    Shifted mantissa places ((⟨mantissa, false, false⟩ : ExtendedMantissa) >>> places) := by
  induction places with
  | zero => exact shifted_zero mantissa
  | succ places ih => exact ih.succ

/-- The two bits are enough to round to the nearest. -/
theorem Shifted.roundedMantissa {mantissa places : Nat} {extended : ExtendedMantissa}
    (h : Shifted mantissa places extended) :
    extended.roundedMantissa = nearestQuotient mantissa (2 ^ places) := by
  obtain ⟨quotient, round, sticky⟩ := extended
  obtain ⟨hquotient, hround, hsticky⟩ := h
  simp only at hquotient hround hsticky
  subst hquotient
  have hpower := Nat.two_pow_pos places
  simp only [ExtendedMantissa.roundedMantissa, nearestQuotient]
  cases round <;> cases sticky <;>
    simp only [ExtendedMantissa.accuracy, Accuracy.roundToNearestEven] <;>
    simp only [Bool.false_eq_true, false_iff, true_iff] at hround hsticky
  · rw [if_pos (by omega)]
  · rw [if_pos (by omega)]
  · rw [if_neg (by omega), if_neg (by omega)]
  · rw [if_neg (by omega), if_pos (by omega)]

/-! ### Rounding of mantissas -/

/-- A mantissa with too many bits is shifted by their number. -/
theorem shiftToTargetExponent_of_log2 {mantissa places : Nat} {exponent : Int}
    (hlog : mantissa.log2 = 52 + places) (hexponent : -1074 ≤ exponent + places) :
    shiftToTargetExponent .binary64 mantissa exponent .exact =
      ((⟨mantissa, false, false⟩ : ExtendedMantissa) >>> places, exponent + places) := by
  have htarget : Format.binary64.targetExponent (totalExponent mantissa exponent) =
      exponent + places := by
    simp only [Format.targetExponent, totalExponent, Format.mantissaBits, Format.minExponent, hlog]
    norm_num
    omega
  have hshift : (exponent + places - exponent).toNat = places := by omega
  simp only [shiftToTargetExponent, shiftToExponent, htarget, hshift,
    ExtendedMantissa.ofMantissaAndAccuracy]

/-- A rounded mantissa has 53 bits, or it is the first one with 54 and ends in a zero. -/
theorem exists_log2_of_bounds {q : Nat} (hlower : 2 ^ 52 ≤ q) (hupper : q ≤ 2 ^ 53) :
    ∃ carry, q.log2 = 52 + carry ∧ q / 2 ^ carry * 2 ^ carry = q := by
  rcases Nat.eq_or_lt_of_le hupper with rfl | hlt
  · exact ⟨1, by decide +kernel, by decide +kernel⟩
  · exact ⟨0, (Nat.log2_eq_iff (by omega)).mpr ⟨hlower, hlt⟩, by simp⟩

/-- Rounding comes to the nearest quotient, with a carry if that has one bit more. -/
theorem roundWithAccuracy_of_log2 {mantissa places carry : Nat} {exponent : Int} (sign : Sign)
    (hlog : mantissa.log2 = 52 + places) (hexponent : -1074 ≤ exponent + places)
    (hcarry : (nearestQuotient mantissa (2 ^ places)).log2 = 52 + carry)
    (hpos : 0 < nearestQuotient mantissa (2 ^ places) / 2 ^ carry) :
    roundWithAccuracy .binary64 sign mantissa exponent .exact =
      .finite sign (nearestQuotient mantissa (2 ^ places) / 2 ^ carry)
        (exponent + places + carry) hpos := by
  have hfirst := shiftToTargetExponent_of_log2 hlog hexponent
  have hsecond : shiftToTargetExponent .binary64 (nearestQuotient mantissa (2 ^ places))
      (exponent + places) .exact = _ := shiftToTargetExponent_of_log2 hcarry (by omega)
  have hfinal := (shifted_shiftRight (nearestQuotient mantissa (2 ^ places)) carry).quotient
  simp only [roundWithAccuracy, hfirst, (shifted_shiftRight mantissa places).roundedMantissa,
    hsecond, hfinal]
  rw [dif_neg (Nat.ne_of_gt hpos)]

/-! ### Doubles that stand for integers -/

/-- An unpacked double stands for an integer: a mantissa of 53 bits is scaled by a power of two that
makes its first bit count one at least. -/
inductive HasValue : UnpackedFloat → Int → Prop
  | zero (sign : Sign) : HasValue (.zero sign) 0
  | finite (sign : Sign) {mantissa scale value : Nat} {hpos : 0 < mantissa}
    (lower : 2 ^ 52 ≤ mantissa) (upper : mantissa < 2 ^ 53)
    (eq : mantissa * 2 ^ scale = value * 2 ^ 52) :
    HasValue (.finite sign mantissa (scale - 52) hpos) (sign.apply value)

/-- Rounding a mantissa gives the value of its nearest quotient. -/
theorem hasValue_roundWithAccuracy {mantissa places scale value : Nat} {exponent : Int}
    (sign : Sign) (hlog : mantissa.log2 = 52 + places) (hexponent : exponent + places = scale - 52)
    (hvalue : nearestQuotient mantissa (2 ^ places) * 2 ^ scale = value * 2 ^ 52) :
    HasValue (roundWithAccuracy .binary64 sign mantissa exponent .exact) (sign.apply value) := by
  obtain ⟨hlower, hupper⟩ := nearestQuotient_bounds hlog
  obtain ⟨carry, hcarry, hexact⟩ := exists_log2_of_bounds hlower hupper
  obtain ⟨hfirst, hlast⟩ := quotient_bounds hcarry
  have hpos : 0 < nearestQuotient mantissa (2 ^ places) / 2 ^ carry := by omega
  have hscale : exponent + places + carry = ((scale + carry : Nat) : Int) - 52 := by omega
  rw [roundWithAccuracy_of_log2 sign hlog (by omega) hcarry hpos]
  simp only [hscale]
  refine .finite sign hfirst hlast ?_
  rw [Nat.add_comm scale, Nat.pow_add, ← Nat.mul_assoc, hexact, hvalue]

/-- A negated float has the negated value. -/
theorem HasValue.neg {float : UnpackedFloat} {value : Int} (h : HasValue float value) :
    HasValue float.neg (-value) := by
  cases h with
  | zero sign => exact .zero (-sign)
  | finite sign lower upper eq =>
    cases sign with
    | positive => exact .finite .negative lower upper eq
    | negative =>
      rw [Sign.apply, Int.neg_neg]
      exact .finite .positive lower upper eq

section Scaled

variable {m₁ m₂ j₁ j₂ v₁ v₂ : Nat} (lower₁ : 2 ^ 52 ≤ m₁) (upper₁ : m₁ < 2 ^ 53)
  (lower₂ : 2 ^ 52 ≤ m₂) (upper₂ : m₂ < 2 ^ 53) (eq₁ : m₁ * 2 ^ j₁ = v₁ * 2 ^ 52)
  (eq₂ : m₂ * 2 ^ j₂ = v₂ * 2 ^ 52)

include upper₁ lower₂ eq₁ eq₂ in
/-- Of two floats the one with the smaller scale has the smaller value. -/
theorem lt_of_scale_lt (h : j₁ < j₂) : v₁ < v₂ := by
  have hscaled : v₁ * 2 ^ 52 < v₂ * 2 ^ 52 := by
    calc v₁ * 2 ^ 52 = m₁ * 2 ^ j₁ := eq₁.symm
      _ < 2 ^ 53 * 2 ^ j₁ := Nat.mul_lt_mul_of_pos_right upper₁ (Nat.two_pow_pos j₁)
      _ = 2 ^ 52 * 2 ^ (j₁ + 1) := by rw [Nat.pow_succ 2 j₁]; ring
      _ ≤ 2 ^ 52 * 2 ^ j₂ := Nat.mul_le_mul_left _ (Nat.pow_le_pow_right (by decide) h)
      _ ≤ m₂ * 2 ^ j₂ := Nat.mul_le_mul_right _ lower₂
      _ = v₂ * 2 ^ 52 := eq₂
  exact Nat.lt_of_mul_lt_mul_right hscaled

include eq₁ eq₂ in
/-- Of two floats of one scale the one with the smaller mantissa has the smaller value. -/
theorem lt_of_mantissa_lt (hscale : j₁ = j₂) (h : m₁ < m₂) : v₁ < v₂ := by
  have hscaled : v₁ * 2 ^ 52 < v₂ * 2 ^ 52 := by
    rw [← eq₁, ← eq₂, hscale]
    exact Nat.mul_lt_mul_of_pos_right h (Nat.two_pow_pos j₂)
  exact Nat.lt_of_mul_lt_mul_right hscaled

include lower₁ upper₁ lower₂ upper₂ eq₁ eq₂ in
/-- Scaled mantissas of 53 bits are ordered by their scales first. -/
theorem compare_scaled :
    (compare ((j₁ : Int) - 52) (j₂ - 52)).then (compare m₁ m₂) = compare v₁ v₂ := by
  rcases Nat.lt_trichotomy j₁ j₂ with hlt | heq | hgt
  · have hvalues := lt_of_scale_lt upper₁ lower₂ eq₁ eq₂ hlt
    rw [Int.compare_eq_lt.mpr (by omega), Nat.compare_eq_lt.mpr hvalues]
    rfl
  · rw [Int.compare_eq_eq.mpr (by omega)]
    show compare m₁ m₂ = compare v₁ v₂
    rcases Nat.lt_trichotomy m₁ m₂ with hm | hm | hm
    · rw [Nat.compare_eq_lt.mpr hm, Nat.compare_eq_lt.mpr (lt_of_mantissa_lt eq₁ eq₂ heq hm)]
    · have hvalues : v₁ * 2 ^ 52 = v₂ * 2 ^ 52 := by rw [← eq₁, ← eq₂, hm, heq]
      rw [Nat.compare_eq_eq.mpr hm, Nat.compare_eq_eq.mpr (by omega)]
    · rw [Nat.compare_eq_gt.mpr hm,
        Nat.compare_eq_gt.mpr (lt_of_mantissa_lt eq₂ eq₁ heq.symm hm)]
  · have hvalues := lt_of_scale_lt upper₂ lower₁ eq₂ eq₁ hgt
    rw [Int.compare_eq_gt.mpr (by omega), Nat.compare_eq_gt.mpr hvalues]
    rfl

end Scaled

/-- A float with a full mantissa has a positive value. -/
theorem HasValue.value_pos {mantissa scale value : Nat} (lower : 2 ^ 52 ≤ mantissa)
    (eq : mantissa * 2 ^ scale = value * 2 ^ 52) : 0 < value := by
  have hproduct : 0 < mantissa * 2 ^ scale := Nat.mul_pos (by omega) (Nat.two_pow_pos scale)
  omega

/-- Natural numbers compare as integers as they do by themselves. -/
theorem compare_natCast (a b : Nat) : compare (a : Int) b = compare a b := by
  rcases Nat.lt_trichotomy a b with h | h | h
  · rw [Nat.compare_eq_lt.mpr h, Int.compare_eq_lt.mpr (by omega)]
  · rw [Nat.compare_eq_eq.mpr h, Int.compare_eq_eq.mpr (by omega)]
  · rw [Nat.compare_eq_gt.mpr h, Int.compare_eq_gt.mpr (by omega)]

/-- Negated natural numbers compare the other way. -/
theorem compare_neg_natCast (a b : Nat) :
    compare (-(a : Int)) (-b) = (compare a b).swap := by
  rw [Nat.compare_swap]
  rcases Nat.lt_trichotomy b a with h | h | h
  · rw [Nat.compare_eq_lt.mpr h, Int.compare_eq_lt.mpr (by omega)]
  · rw [Nat.compare_eq_eq.mpr h, Int.compare_eq_eq.mpr (by omega)]
  · rw [Nat.compare_eq_gt.mpr h, Int.compare_eq_gt.mpr (by omega)]

/-- Doubles that stand for integers are compared as these. -/
theorem HasValue.compare {x y : UnpackedFloat} {a b : Int} (hx : HasValue x a)
    (hy : HasValue y b) : x.compare y = some (compare a b) := by
  cases hx with
  | zero sign =>
    cases hy with
    | zero sign' => rfl
    | finite sign' lower upper eq =>
      have hpos := HasValue.value_pos lower eq
      cases sign' with
      | positive => exact congrArg some (Int.compare_eq_lt.mpr (Int.natCast_pos.mpr hpos)).symm
      | negative =>
        exact congrArg some (Int.compare_eq_gt.mpr (by simp only [Sign.apply]; omega)).symm
  | finite sign lower upper eq =>
    have hpos := HasValue.value_pos lower eq
    cases hy with
    | zero sign' =>
      cases sign with
      | positive => exact congrArg some (Int.compare_eq_gt.mpr (Int.natCast_pos.mpr hpos)).symm
      | negative =>
        exact congrArg some (Int.compare_eq_lt.mpr (by simp only [Sign.apply]; omega)).symm
    | finite sign' lower' upper' eq' =>
      have hpos' := HasValue.value_pos lower' eq'
      have hscaled := compare_scaled lower upper lower' upper' eq eq'
      cases sign with
      | positive =>
        cases sign' with
        | positive => exact congrArg some (hscaled.trans (compare_natCast _ _).symm)
        | negative =>
          exact congrArg some (Int.compare_eq_gt.mpr (by simp only [Sign.apply]; omega)).symm
      | negative =>
        cases sign' with
        | positive =>
          exact congrArg some (Int.compare_eq_lt.mpr (by simp only [Sign.apply]; omega)).symm
        | negative =>
          have hswapped := congrArg Ordering.swap hscaled
          exact congrArg some (hswapped.trans (compare_neg_natCast _ _).symm)

/-- The bits of a mantissa are stored without the first one, which is set. -/
theorem toNat_one_append {mantissa : Nat} (lower : 2 ^ 52 ≤ mantissa) (upper : mantissa < 2 ^ 53) :
    (1#1 ++ BitVec.ofNat 52 mantissa).toNat = mantissa := by
  have hfraction : mantissa % 2 ^ 52 < 2 ^ 52 := Nat.mod_lt _ (by decide)
  rw [BitVec.toNat_append, BitVec.toNat_ofNat, BitVec.toNat_ofNat,
    ← Nat.shiftLeft_add_eq_or_of_lt hfraction, Nat.shiftLeft_eq]
  omega

/-- A float with a full mantissa is packed with its scale and the lower bits of its mantissa. -/
theorem pack_finite (sign : Sign) {mantissa scale : Nat} (hpos : 0 < mantissa)
    (lower : 2 ^ 52 ≤ mantissa) (upper : mantissa < 2 ^ 53) (hscale : scale ≤ 1000) :
    UnpackedFloat.pack .binary64 (.finite sign mantissa (scale - 52) hpos) =
      packComponents .binary64 sign (BitVec.ofNat 11 (scale + 1023))
        (BitVec.ofNat 52 mantissa) := by
  have hlog : mantissa.log2 = 52 := (Nat.log2_eq_iff (by omega)).mpr ⟨lower, upper⟩
  have hbias : Format.binary64.exponentBias = 1023 := rfl
  have hbiased : ((scale : Int) - 52 + (1023 : Nat) + (52 : Nat)).toNat = scale + 1023 := by omega
  have hbits : 52 + 1 = Format.binary64.mantissaBits := rfl
  simp only [UnpackedFloat.pack, hbias, hbiased, hlog]
  rw [if_neg (by omega), if_pos hbits]

/-- A float with a full mantissa is unpacked as it was packed. -/
theorem unpack_pack_finite (sign : Sign) {mantissa scale : Nat} (hpos : 0 < mantissa)
    (lower : 2 ^ 52 ≤ mantissa) (upper : mantissa < 2 ^ 53) (hscale : scale ≤ 1000) :
    UnpackedFloat.unpack .binary64
        (UnpackedFloat.pack .binary64 (.finite sign mantissa (scale - 52) hpos)) =
      .finite sign mantissa (scale - 52) hpos := by
  have hexponent : (BitVec.ofNat 11 (scale + 1023)).toNat = scale + 1023 :=
    Nat.mod_eq_of_lt (by omega)
  have hfinite : BitVec.ofNat 11 (scale + 1023) ≠ -1#11 := by
    intro h
    have := congrArg BitVec.toNat h
    rw [hexponent] at this
    have hlast : (-1#11).toNat = 2047 := rfl
    omega
  have hnormal : BitVec.ofNat 11 (scale + 1023) ≠ 0#11 := by
    intro h
    have := congrArg BitVec.toNat h
    rw [hexponent] at this
    have hfirst : (0#11).toNat = 0 := rfl
    omega
  have hbias : Format.binary64.exponentBias = 1023 := rfl
  have hunbiased : ((scale + 1023 : Nat) : Int) - ((1023 : Nat) + (52 : Nat)) = scale - 52 := by
    omega
  rw [pack_finite sign hpos lower upper hscale]
  simp only [UnpackedFloat.unpack, unpackExponent_packComponents, unpackMantissa_packComponents,
    unpackSign_packComponents, Sign.ofBitVec_toBitVec, hexponent, toNat_one_append lower upper,
    hbias, hunbiased, if_neg hfinite, if_neg hnormal]

/-- A float with an integer value in the range is unpacked as it was packed. -/
theorem HasValue.unpack_pack {float : UnpackedFloat} {value : Int} (h : HasValue float value)
    (hvalue : value.natAbs ≤ 2 ^ 64) : (Float.Model.pack float).unpack = float := by
  cases h with
  | zero sign => exact unpack_packedZero
  | @finite sign mantissa scale size hpos lower upper eq =>
    have hsize : size ≤ 2 ^ 64 := by
      cases sign <;> simpa [Sign.apply] using hvalue
    have hpower : 2 ^ scale ≤ 2 ^ 64 := by
      have hscaled : 2 ^ scale * 2 ^ 52 ≤ size * 2 ^ 52 := by
        calc 2 ^ scale * 2 ^ 52 = 2 ^ 52 * 2 ^ scale := Nat.mul_comm _ _
          _ ≤ mantissa * 2 ^ scale := Nat.mul_le_mul_right _ lower
          _ = size * 2 ^ 52 := eq
      exact le_trans (Nat.le_of_mul_le_mul_right hscaled (by decide)) hsize
    have hscale : scale ≤ 64 := (Nat.pow_le_pow_iff_right (by decide)).mp hpower
    exact unpack_pack_finite sign hpos lower upper (by omega)

/-! ### Promotion -/

/-- A number in the range is not rounded far beyond it. -/
theorem roundedNat_le {n : Nat} (h : n ≤ 2 ^ 63) : roundedNat n ≤ 2 ^ 64 := by
  calc roundedNat n ≤ roundedNat (2 ^ 63) := roundedNat_mono h
    _ ≤ 2 ^ 64 := by decide +kernel

/-- A shift to the left adds its places to the logarithm. -/
theorem log2_shiftLeft {n : Nat} (hn : n ≠ 0) (places : Nat) :
    (n <<< places).log2 = n.log2 + places := by
  induction places with
  | zero => rfl
  | succ places ih =>
    rw [Nat.shiftLeft_succ, Nat.log2_two_mul (by simpa [Nat.shiftLeft_eq] using hn), ih,
      Nat.add_assoc]

/-- A number with 53 bits at most is a mantissa after a shift to the left. -/
theorem hasValue_ofNat_of_lt {n : Nat} (hpos : 0 < n) (h : n < 2 ^ 53) :
    HasValue (UnpackedFloat.ofNat .binary64 n) n := by
  have hne : n ≠ 0 := Nat.ne_of_gt hpos
  have hshort : n.log2 < 53 := (Nat.log2_lt hne).mpr h
  have hround : UnpackedFloat.ofNat .binary64 n = UnpackedFloat.round .binary64 .positive n 0 := by
    have hcompare : compare (n : Int) 0 = .gt := Int.compare_eq_gt.mpr (by omega)
    simp only [UnpackedFloat.ofNat, UnpackedFloat.ofInt, UnpackedFloat.normalize, hcompare,
      Int.toNat_natCast]
  have htarget : Format.binary64.targetExponent (totalExponent n 0) = (n.log2 : Int) - 52 := by
    simp only [Format.targetExponent, totalExponent, Format.mantissaBits, Format.minExponent]
    norm_num
    omega
  have hshift : (0 - ((n.log2 : Int) - 52)).toNat = 52 - n.log2 := by omega
  have hlog : (n <<< (52 - n.log2)).log2 = 52 + 0 := by
    rw [log2_shiftLeft hne]
    omega
  have hvalue : nearestQuotient (n <<< (52 - n.log2)) (2 ^ 0) * 2 ^ n.log2 = n * 2 ^ 52 := by
    have hexact := nearestQuotient_mul Nat.one_pos (n <<< (52 - n.log2))
    rw [Nat.mul_one] at hexact
    rw [Nat.pow_zero, hexact, Nat.shiftLeft_eq, Nat.mul_assoc, ← Nat.pow_add,
      Nat.sub_add_cancel (by omega)]
  rw [hround, UnpackedFloat.round]
  simp only [htarget, decreaseExponent, hshift]
  exact hasValue_roundWithAccuracy .positive hlog (by omega) hvalue

/-- The unpacked double one. -/
def unpackedOne : UnpackedFloat :=
  .finite .positive (2 ^ 52) (-52) (by decide)

/-- To multiply by one keeps the value. -/
theorem HasValue.mul_one {float : UnpackedFloat} {value : Int} (h : HasValue float value) :
    HasValue (UnpackedFloat.mul .binary64 float unpackedOne) value := by
  cases h with
  | zero sign => exact .zero _
  | @finite sign mantissa scale size hpos lower upper eq =>
    have hlog : (mantissa * 2 ^ 52).log2 = 52 + 52 := by
      have hmantissa : mantissa.log2 = 52 := (Nat.log2_eq_iff (by omega)).mpr ⟨lower, upper⟩
      rw [← Nat.shiftLeft_eq, log2_shiftLeft (by omega), hmantissa]
    have hvalue : nearestQuotient (mantissa * 2 ^ 52) (2 ^ 52) * 2 ^ scale = size * 2 ^ 52 := by
      rw [nearestQuotient_mul (by decide), eq]
    have hsign : sign * .positive = sign := by cases sign <;> rfl
    show HasValue (roundWithAccuracy .binary64 (sign * .positive) (mantissa * 2 ^ 52)
      ((scale : Int) - 52 + -52) .exact) _
    rw [hsign]
    exact hasValue_roundWithAccuracy sign hlog (by omega) hvalue

/-- A longer number is shifted to the right, and rounded. -/
theorem hasValue_ofScientific {n : Nat} (h : 2 ^ 53 ≤ n) :
    HasValue (UnpackedFloat.ofScientific .binary64 n 0) (roundedNat n) := by
  have hne : n ≠ 0 := by omega
  have hlong : 52 ≤ n.log2 := (Nat.le_log2 hne).mpr (by omega)
  obtain ⟨k, hk⟩ := Nat.exists_eq_add_of_le hlong
  have hlog : (n <<< 53 * 10 ^ (0 : Int).toNat).log2 = 52 + (k + 53) := by
    rw [Int.toNat_zero, Nat.pow_zero, Nat.mul_one, log2_shiftLeft hne, hk, Nat.add_assoc]
  have hvalue : nearestQuotient (n <<< 53 * 10 ^ (0 : Int).toNat) (2 ^ (k + 53)) * 2 ^ n.log2 =
      roundedNat n * 2 ^ 52 := by
    have hplace : lastPlace n = 2 ^ k := by rw [lastPlace, hk, Nat.add_sub_cancel_left]
    rw [Int.toNat_zero, Nat.pow_zero, Nat.mul_one, Nat.shiftLeft_eq, Nat.pow_add 2 k 53,
      nearestQuotient_mul_mul n _ (by decide), hk, Nat.pow_add 2 52 k, Nat.mul_comm (2 ^ 52),
      ← Nat.mul_assoc, roundedNat, hplace]
  have hproduct : UnpackedFloat.ofScientific .binary64 n 0 =
      roundWithAccuracy .binary64 .positive (n <<< 53 * 10 ^ (0 : Int).toNat) (-53 + 0) .exact := by
    have hbits : Format.binary64.exponentBits = 11 := rfl
    unfold UnpackedFloat.ofScientific
    rw [dif_neg hne, hbits, if_neg (by decide), if_neg (by omega), if_pos (by decide)]
    rfl
  rw [hproduct]
  exact hasValue_roundWithAccuracy .positive hlog (by omega) hvalue

/-- A natural number is promoted to what it is rounded to. -/
theorem hasValue_ofNat {n : Nat} (h : n ≤ 2 ^ 63) :
    HasValue (Float.ofNat n).toModel.unpack (roundedNat n) := by
  have hbound : (roundedNat n : Int).natAbs ≤ 2 ^ 64 := roundedNat_le h
  rcases Nat.eq_zero_or_pos n with rfl | hpos
  · exact .zero .positive
  rcases Nat.lt_or_ge n (2 ^ 53) with hshort | hlong
  · have hexact : roundedNat n = n := by
      have := (Nat.log2_lt (Nat.ne_of_gt hpos)).mpr hshort
      exact roundedNat_of_log2_le (by omega)
    have hmantissa := hasValue_ofNat_of_lt hpos hshort
    have hproduct : (Float.ofNat n).toModel =
        Float.Model.pack (UnpackedFloat.mul .binary64
          (Float.Model.pack (UnpackedFloat.ofNat .binary64 n)).unpack unpackedOne) := by
      have hword : n.toUInt64.toNat = n := Nat.mod_eq_of_lt (by omega)
      have hscientific : Float.ofNat n = n.toUInt64.toFloat *
          Float.exactlyRepresentablePowersOfTen[0] := dif_pos ⟨hshort, by decide⟩
      rw [hscientific]
      show Float.Model.pack (UnpackedFloat.mul .binary64
        (Float.Model.pack (UnpackedFloat.ofNat .binary64 n.toUInt64.toNat)).unpack unpackedOne) = _
      rw [hword]
    rw [hexact] at hbound ⊢
    rw [hproduct, hmantissa.unpack_pack hbound, hmantissa.mul_one.unpack_pack hbound]
    exact hmantissa.mul_one
  · have hrounded := hasValue_ofScientific hlong
    have hlarge : (Float.ofNat n).toModel =
        Float.Model.pack (UnpackedFloat.ofScientific .binary64 n 0) := by
      have hscientific : Float.ofNat n = ⟨Float.Model.ofScientific n 0⟩ :=
        dif_neg (fun hbounds => absurd hbounds.1 (by omega))
      rw [hscientific]
      rfl
    rw [hlarge, hrounded.unpack_pack hbound]
    exact hrounded

/-- An integer is promoted to what it is rounded to. -/
theorem hasValue_ofInt {n : Int} (h : n.natAbs ≤ 2 ^ 63) :
    HasValue (Float.ofInt n).toModel.unpack (rounded n) := by
  cases n with
  | ofNat n => exact hasValue_ofNat h
  | negSucc n =>
    have hsize := hasValue_ofNat (n := n + 1) h
    have hbound : (-(roundedNat (n + 1) : Int)).natAbs ≤ 2 ^ 64 := by
      have := roundedNat_le (n := n + 1) h
      omega
    have hnegated : (Float.ofInt (.negSucc n)).toModel =
        Float.Model.pack (Float.ofNat (n + 1)).toModel.unpack.neg := rfl
    rw [hnegated, hsize.neg.unpack_pack hbound]
    exact hsize.neg

/-- The size of a word is bounded. -/
theorem natAbs_toInt_le (n : Int64) : n.toInt.natAbs ≤ 2 ^ 63 := by
  have hlower := n.le_toInt
  have hupper := n.toInt_lt
  omega

/-- Words compare as doubles as their rounded values do. -/
theorem compare_toFloat (a b : Int64) :
    (Number.int a).toFloat.toModel.unpack.compare (Number.int b).toFloat.toModel.unpack =
      some (compare (rounded a.toInt) (rounded b.toInt)) :=
  (hasValue_ofInt (natAbs_toInt_le a)).compare (hasValue_ofInt (natAbs_toInt_le b))

/-- Promoted integers are compared as what they are rounded to. -/
theorem toFloat_lt_iff (a b : Int64) :
    (Number.int a).toFloat < (Number.int b).toFloat ↔ rounded a.toInt < rounded b.toInt := by
  rw [← Int.compare_eq_lt]
  show decide ((_ == some Ordering.lt) = true) = true ↔ _
  rw [compare_toFloat]
  simp

/-- Words are in order as doubles if their rounded values are. -/
theorem toFloat_le_iff (a b : Int64) :
    (Number.int a).toFloat ≤ (Number.int b).toFloat ↔ rounded a.toInt ≤ rounded b.toInt := by
  rw [← Int.isLE_compare]
  show decide (Option.any _ _ = true) = true ↔ _
  rw [compare_toFloat]
  simp

end GuardedScript
