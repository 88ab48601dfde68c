import GuardedScript.Arithmetic
import Mathlib.Algebra.Order.Ring.Int
import Mathlib.Algebra.Ring.Parity

/-!
# Integer arithmetic is exact or undefined

Each of the six operators of arithmetic has a result in the integers.  The operation on 64-bit
integers gives that result, or none in the cases that `Undefined` lists: the result does not fit, a
divisor is zero, the one remainder whose quotient does not fit, and exponents that are negative or
have more than 32 bits.

A power is not computed with the exponent as it is, which may be huge.  The exponent is cut down to
64 or 65; `int64?_pow` says that this makes no difference.
-/

set_option autoImplicit false

namespace GuardedScript

/-! ### Fitting into 64 bits -/

namespace Decimal

/-- An integer fits and is kept, or does not fit. -/
theorem int64?_cases (n : Int) :
    (-2 ^ 63 ≤ n ∧ n ≤ 2 ^ 63 - 1 ∧ ∃ word, int64? n = some word ∧ word.toInt = n) ∨
      ((n < -2 ^ 63 ∨ 2 ^ 63 - 1 < n) ∧ int64? n = none) := by
  by_cases hfits : fits64 n = true
  · have hbounds : -2 ^ 63 ≤ n ∧ n ≤ 2 ^ 63 - 1 := by simpa [fits64] using hfits
    have hword : (Int64.ofInt n).toInt = n :=
      Int64.toInt_ofInt_of_le hbounds.1 (by omega)
    refine .inl ⟨hbounds.1, hbounds.2, Int64.ofInt n, ?_, hword⟩
    simp [int64?, hfits]
  · have hbounds : n < -2 ^ 63 ∨ 2 ^ 63 - 1 < n := by
      simp only [fits64, Bool.and_eq_true, decide_eq_true_eq] at hfits
      omega
    refine .inr ⟨hbounds, ?_⟩
    simp [int64?, hfits]

/-- A number of too large a size is not in the range. -/
theorem int64?_eq_none {n : Int} (h : 2 ^ 63 < n.natAbs) : int64? n = none := by
  rcases int64?_cases n with ⟨hlower, hupper, -⟩ | ⟨-, hnone⟩
  · omega
  · exact hnone

/-- A base other than zero and the two units has left the 64-bit integers by the power 64. -/
theorem int64?_pow_eq_none {base : Int} (hbase : 2 ≤ base.natAbs) {n : Nat} (hn : 64 ≤ n) :
    int64? (base ^ n) = none := by
  apply int64?_eq_none
  calc 2 ^ 63 < 2 ^ 64 := by decide
    _ ≤ 2 ^ n := Nat.pow_le_pow_right (by decide) hn
    _ ≤ base.natAbs ^ n := Nat.pow_le_pow_left hbase n
    _ = (base ^ n).natAbs := (Int.natAbs_pow base n).symm

/-- From sixty-four on an exponent matters only by its parity. -/
theorem int64?_pow (base : Int) {n : Nat} (hn : 64 ≤ n) :
    int64? (base ^ (64 + n % 2)) = int64? (base ^ n) := by
  by_cases hlarge : 2 ≤ base.natAbs
  · rw [int64?_pow_eq_none hlarge hn, int64?_pow_eq_none hlarge (by omega)]
  · have hunit : base = 0 ∨ base = 1 ∨ base = -1 := by omega
    have hpow : base ^ (64 + n % 2) = base ^ n := by
      rcases hunit with rfl | rfl | rfl
      · rw [zero_pow (by omega), zero_pow (by omega)]
      · rw [one_pow, one_pow]
      · have hparity : (64 + n % 2) % 2 = n % 2 := by omega
        rw [neg_one_pow_eq_pow_mod_two, hparity, ← neg_one_pow_eq_pow_mod_two]
    rw [hpow]

end Decimal

namespace Arithmetic

/-- The operators of arithmetic. -/
def operators : List Operator :=
  [.power, .multiply, .divide, .modulo, .add, .subtract]

/-- The result of an operator of arithmetic in the integers; quotients are truncated. -/
def exact (operator : Operator) (a b : Int) : Int :=
  match operator with
  | .power => a ^ b.toNat
  | .multiply => a * b
  | .divide => a.tdiv b
  | .modulo => a.tmod b
  | .add => a + b
  | .subtract => a - b
  | _ => 0

/-- The operator has no result on these 64-bit integers. -/
def Undefined (operator : Operator) (a b : Int) : Prop :=
  (exact operator a b < -2 ^ 63 ∨ 2 ^ 63 - 1 < exact operator a b) ∨
    ((operator = .divide ∨ operator = .modulo) ∧ b = 0) ∨
    (operator = .modulo ∧ a = -2 ^ 63 ∧ b = -1) ∨
    (operator = .power ∧ (b < 0 ∨ 2 ^ 32 - 1 < b))

instance (operator : Operator) (a b : Int) : Decidable (Undefined operator a b) :=
  inferInstanceAs (Decidable ((_ ∨ _) ∨ ((_ ∨ _) ∧ _) ∨ (_ ∧ _ ∧ _) ∨ (_ ∧ (_ ∨ _))))

/-- A result on 64-bit integers is exact, and it is missing just if it has to be. -/
def Gives (undefined : Prop) (n : Int) : Option Int64 → Prop
  | some word => ¬ undefined ∧ word.toInt = n
  | none => undefined

/-- To check the range of a number gives it where it is defined. -/
theorem gives_int64? {undefined : Prop} {n : Int}
    (h : undefined ↔ n < -2 ^ 63 ∨ 2 ^ 63 - 1 < n) : Gives undefined n (Decimal.int64? n) := by
  rcases Decimal.int64?_cases n with ⟨hlower, hupper, word, hword, hvalue⟩ | ⟨hout, hnone⟩
  · rw [hword]
    refine ⟨?_, hvalue⟩
    rw [h]
    omega
  · rw [hnone]
    exact h.mpr hout

/-- The checked power gives the exact one where it is defined. -/
theorem gives_power (a b : Int64) :
    Gives (Undefined .power a.toInt b.toInt) (exact .power a.toInt b.toInt)
      (power? a.toInt b.toInt) := by
  unfold power?
  -- the exponent is checked before it is cut down, so a huge one is refused whatever the base
  by_cases hexponent : 0 ≤ b.toInt ∧ b.toInt ≤ 0xFFFFFFFF
  · have hcap : Decimal.int64? (Int.pow a.toInt
        (if b.toInt.toNat < 64 then b.toInt.toNat else 64 + b.toInt.toNat % 2)) =
        Decimal.int64? (a.toInt ^ b.toInt.toNat) := by
      split
      · rfl
      · exact Decimal.int64?_pow a.toInt (by omega)
    simp only [hexponent, decide_true, Bool.and_self, if_true, hcap]
    apply gives_int64?
    simp only [Undefined, exact, reduceCtorEq, false_or, false_and, true_and, or_false]
    omega
  · have hdecide : (decide (0 ≤ b.toInt) && decide (b.toInt ≤ 0xFFFFFFFF)) = false := by
      simpa using hexponent
    simp only [hdecide, Bool.false_eq_true, if_false]
    refine .inr (.inr (.inr ⟨rfl, ?_⟩))
    omega

/-- The operators of arithmetic on 64-bit integers are exact wherever they are defined. -/
theorem gives_onInts? {operator : Operator} (h : operator ∈ operators) (a b : Int64) :
    Gives (Undefined operator a.toInt b.toInt) (exact operator a.toInt b.toInt)
      (onInts? operator a b) := by
  have hzero : b = 0 ↔ b.toInt = 0 := by
    rw [← Int64.toInt_inj]
    rfl
  simp only [operators, List.mem_cons, List.not_mem_nil, or_false] at h
  rcases h with rfl | rfl | rfl | rfl | rfl | rfl
  · exact gives_power a b
  · exact gives_int64? (by simp [Undefined, exact])
  · by_cases hdivisor : b.toInt = 0
    · rw [onInts?, if_pos (hzero.mpr hdivisor)]
      exact .inr (.inl ⟨.inl rfl, hdivisor⟩)
    · rw [onInts?, if_neg (mt hzero.mp hdivisor)]
      exact gives_int64? (by simp [Undefined, exact, hdivisor])
  · -- the remainder is missing wherever the quotient is, also where it would be zero
    unfold onInts?
    by_cases hexcluded : b.toInt = 0 ∨ (a.toInt = -2 ^ 63 ∧ b.toInt = -1)
    · have hrefused : (decide (b = 0) || (a.toInt == -0x8000000000000000 && b.toInt == -1)) =
          true := by simpa [hzero] using hexcluded
      simp only [hrefused, if_true]
      rcases hexcluded with hdivisor | hquotient
      · exact .inr (.inl ⟨.inr rfl, hdivisor⟩)
      · exact .inr (.inr (.inl ⟨rfl, hquotient⟩))
    · have hrefused : (decide (b = 0) || (a.toInt == -0x8000000000000000 && b.toInt == -1)) =
          false := by simpa [hzero] using hexcluded
      simp only [hrefused, Bool.false_eq_true, if_false]
      apply gives_int64?
      simp only [Undefined, exact, reduceCtorEq, or_true, true_and, false_and, or_false]
      tauto
  · exact gives_int64? (by simp [Undefined, exact])
  · exact gives_int64? (by simp [Undefined, exact])

end Arithmetic

end GuardedScript
