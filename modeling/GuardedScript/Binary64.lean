/-!
# Double precision numbers, exactly

A finite double is a sign, a natural mantissa and a power of two.  Truncation to an integer and the
remainder of a division are computed on that reading in exact arithmetic.
-/

set_option autoImplicit false

namespace GuardedScript

/-- What a double stands for. -/
inductive Binary64
  /-- Not a number. -/
  | nan
  /-- An infinity, with its sign. -/
  | infinite (negative : Bool)
  /-- The number `± mantissa * 2 ^ exponent`. -/
  | finite (negative : Bool) (mantissa : Nat) (exponent : Int)
deriving DecidableEq, Repr

namespace Binary64

/-- The reading of sixty-four bits: a sign, eleven bits of exponent, fifty-two of fraction. -/
def ofBits (bits : Nat) : Binary64 :=
  let negative := bits / 0x8000000000000000 % 2 == 1
  let exponent := bits / 0x10000000000000 % 0x800
  let fraction := bits % 0x10000000000000
  if exponent == 2047 then
    if fraction == 0 then infinite negative else nan
  else if exponent == 0 then
    finite negative fraction (-1074)
  else
    finite negative (fraction + 0x10000000000000) (Int.ofNat exponent - 1075)

/-- The reading of a double. -/
def ofFloat (d : Float) : Binary64 :=
  ofBits d.toBits.toNat

/-- The integer part, toward zero, of a finite number. -/
def truncate? : Binary64 → Option Int
  | finite negative mantissa exponent =>
    let size :=
      if 0 ≤ exponent then mantissa <<< exponent.toNat else mantissa >>> (-exponent).toNat
    some (if negative then -Int.ofNat size else Int.ofNat size)
  | _ => none

/-- The double `± mantissa * 2 ^ exponent`, for a mantissa of at most fifty-three bits. -/
def compose (negative : Bool) (mantissa : Nat) (exponent : Int) : Float :=
  let size := (Float.ofNat mantissa).scaleB exponent
  if negative then -size else size

/-- The remainder of `a` divided by `b`, with the sign of `a`; both mantissas are brought to the
smaller exponent, where the remainder is that of two naturals. -/
def remainder (a b : Float) : Float :=
  match ofFloat a, ofFloat b with
  | finite negative mantissa exponent, finite _ divisor divisorExponent =>
    if divisor == 0 then
      0.0 / 0.0
    else
      let common := min exponent divisorExponent
      let left := mantissa <<< (exponent - common).toNat
      let right := divisor <<< (divisorExponent - common).toNat
      compose negative (left % right) common
  | finite .., infinite _ => a
  | _, _ => 0.0 / 0.0

end Binary64

end GuardedScript
