/-!
# Integers in decimal

An integer is written with the fewest digits and a minus sign if it is negative.  Reading accepts an
optional sign and at least one digit, leading zeros included, and refuses a number that does not fit
into 64 bits.
-/

set_option autoImplicit false

namespace GuardedScript.Decimal

/-- Whether a character is one of the ten ASCII digits. -/
def isDigit (c : Char) : Bool :=
  '0' ≤ c && c ≤ '9'

/-- The number that a non-empty row of digits denotes. -/
def natOfDigits? (digits : List Char) : Option Nat :=
  if !digits.isEmpty && digits.all isDigit then some (Nat.ofDigitChars 10 digits 0) else none

/-- The integer that an optionally signed row of digits denotes. -/
def intOfChars? : List Char → Option Int
  | '+' :: digits => (natOfDigits? digits).map Int.ofNat
  | '-' :: digits => (natOfDigits? digits).map (fun n => -Int.ofNat n)
  | digits => (natOfDigits? digits).map Int.ofNat

/-- Whether an integer is one of the 64-bit signed integers. -/
def fits64 (n : Int) : Bool :=
  -0x8000000000000000 ≤ n && n ≤ 0x7FFFFFFFFFFFFFFF

/-- The 64-bit integer with this value, if there is one. -/
def int64? (n : Int) : Option Int64 :=
  if fits64 n then some (Int64.ofInt n) else none

/-- Reads a 64-bit integer. -/
def readInt64? (text : List Char) : Option Int64 :=
  (intOfChars? text).bind int64?

/-- The characters of an integer. -/
def intChars : Int → List Char
  | .ofNat n => Nat.toDigits 10 n
  | .negSucc n => '-' :: Nat.toDigits 10 (n + 1)

/-- Writes a 64-bit integer. -/
def int64Text (n : Int64) : String :=
  String.ofList (intChars n.toInt)

end GuardedScript.Decimal
