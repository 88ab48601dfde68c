import GuardedScript.Binary64
import GuardedScript.Decimal.Integer
import GuardedScript.Decimal.Shortest

/-!
# Doubles in decimal

A double is written with the fewest digits that read back, always positionally and without a point
if it is whole.  Reading accepts a sign, digits with at most one point among them, and an exponent;
the words for infinity and for not-a-number are accepted in any case of letters.
-/

set_option autoImplicit false

namespace GuardedScript.Decimal

/-- The positional text of `digits * 10 ^ exponent`. -/
def Scaled.positional (number : Scaled) : List Char :=
  let digits := Nat.toDigits 10 number.digits
  if 0 ≤ number.exponent then
    digits ++ List.replicate number.exponent.toNat '0'
  else
    let places := (-number.exponent).toNat
    if places < digits.length then
      digits.take (digits.length - places) ++ '.' :: digits.drop (digits.length - places)
    else
      '0' :: '.' :: (List.replicate (places - digits.length) '0' ++ digits)

/-- The text of what a double stands for. -/
def binary64Chars : Binary64 → List Char
  | .nan => ['N', 'a', 'N']
  | .infinite negative => (if negative then ['-'] else []) ++ ['i', 'n', 'f']
  | .finite negative mantissa exponent =>
    (if negative then ['-'] else []) ++
      (if mantissa == 0 then ['0'] else (shortest mantissa exponent).positional)

/-- Writes a double. -/
def doubleText (d : Float) : String :=
  String.ofList (binary64Chars (Binary64.ofFloat d))

/-- The double nearest to `digits * 10 ^ exponent`.  A number that is surely too large or too small
is decided by its exponent, so that no huge power of ten is formed. -/
def Scaled.toFloat (number : Scaled) : Float :=
  let magnitude := number.exponent + Int.ofNat (Nat.toDigits 10 number.digits).length
  if number.digits == 0 then
    0.0
  else if magnitude > 400 then
    1.0 / 0.0
  else if magnitude < -400 then
    0.0
  else
    Float.ofScientific number.digits (number.exponent < 0) number.exponent.natAbs

/-- The exponent behind the letter `e`: an optional sign and at least one digit. -/
def exponentOfChars? : List Char → Option Int
  | [] => some 0
  | mark :: rest => if mark == 'e' || mark == 'E' then intOfChars? rest else none

/-- The decimal that unsigned digits, a point among them and an exponent denote.  At least one digit
stands before the exponent. -/
def scaledOfChars? (text : List Char) : Option Scaled :=
  let whole := text.takeWhile isDigit
  let afterWhole := text.dropWhile isDigit
  let (fraction, afterFraction) :=
    match afterWhole with
    | '.' :: rest => (rest.takeWhile isDigit, rest.dropWhile isDigit)
    | rest => ([], rest)
  match natOfDigits? (whole ++ fraction), exponentOfChars? afterFraction with
  | some digits, some exponent => some ⟨digits, exponent - Int.ofNat fraction.length⟩
  | _, _ => none

/-- The double that an unsigned text denotes. -/
def unsignedDouble? (text : List Char) : Option Float :=
  match scaledOfChars? text with
  | some number => some number.toFloat
  | none =>
    match String.ofList (text.map Char.toLower) with
    | "inf" => some (1.0 / 0.0)
    | "infinity" => some (1.0 / 0.0)
    | "nan" => some (0.0 / 0.0)
    | _ => none

/-- Reads a double. -/
def readDouble? : List Char → Option Float
  | '+' :: text => unsignedDouble? text
  | '-' :: text => (unsignedDouble? text).map (fun d => -d)
  | text => unsignedDouble? text

end GuardedScript.Decimal
