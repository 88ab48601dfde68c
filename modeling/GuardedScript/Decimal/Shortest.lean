/-!
# The shortest decimal that reads back

A positive double `mantissa * 2 ^ exponent` is the nearest double to every real in an interval
around it.  Of the decimals in that interval one with the fewest digits is taken, and of two with
equally many digits the nearer one, the larger one if both are equally near.
-/

set_option autoImplicit false

namespace GuardedScript.Decimal

/-- The decimal number `digits * 10 ^ exponent`. -/
structure Scaled where
  digits : Nat
  exponent : Int
deriving DecidableEq, Repr

/-- A positive rational number. -/
structure Ratio where
  num : Nat
  den : Nat
deriving Repr

/-- The fraction `n * 2 ^ e`. -/
def Ratio.scale2 (n : Nat) (e : Int) : Ratio :=
  if 0 ≤ e then ⟨n <<< e.toNat, 1⟩ else ⟨n, 1 <<< (-e).toNat⟩

/-- The fraction `n * 10 ^ e`. -/
def Ratio.scale10 (n : Nat) (e : Int) : Ratio :=
  if 0 ≤ e then ⟨n * Nat.pow 10 e.toNat, 1⟩ else ⟨n, Nat.pow 10 (-e).toNat⟩

/-- Whether one fraction is smaller than another. -/
def Ratio.lt (a b : Ratio) : Bool :=
  a.num * b.den < b.num * a.den

/-- The reals that a double is the nearest double to: half the distance to its neighbours on either
side, the ends included if its mantissa is even. -/
structure Interval where
  low : Ratio
  value : Ratio
  high : Ratio
  closed : Bool
deriving Repr

/-- The interval of `mantissa * 2 ^ exponent`.  Below a power of two the neighbour is half as
far. -/
def Interval.of (mantissa : Nat) (exponent : Int) : Interval where
  low :=
    if mantissa == 0x10000000000000 then Ratio.scale2 (4 * mantissa - 1) (exponent - 2)
    else Ratio.scale2 (2 * mantissa - 1) (exponent - 1)
  value := Ratio.scale2 mantissa exponent
  high := Ratio.scale2 (2 * mantissa + 1) (exponent - 1)
  closed := mantissa % 2 == 0

/-- Whether a fraction lies in the interval. -/
def Interval.contains (interval : Interval) (x : Ratio) : Bool :=
  if interval.closed then
    !x.lt interval.low && !interval.high.lt x
  else
    interval.low.lt x && x.lt interval.high

/-- The decimal on the grid of multiples of `10 ^ exponent` that lies in the interval, if one of the
two neighbours of the value on that grid does: the nearer one if both do, the upper one on a tie. -/
def Interval.onGrid? (interval : Interval) (exponent : Int) : Option Scaled :=
  let unit := Ratio.scale10 1 exponent
  let num := interval.value.num * unit.den
  let den := interval.value.den * unit.num
  let below := num / den
  let lower : Scaled := ⟨below, exponent⟩
  let upper : Scaled := ⟨below + 1, exponent⟩
  match interval.contains (Ratio.scale10 below exponent),
      interval.contains (Ratio.scale10 (below + 1) exponent) with
  | true, true => some (if 2 * (num % den) < den then lower else upper)
  | true, false => some lower
  | false, true => some upper
  | false, false => none

/-- An upper bound of the decimal exponent: the value is below ten to this power. -/
def Interval.magnitude (interval : Interval) : Int :=
  Int.ofNat (Nat.toDigits 10 (interval.value.num / interval.value.den)).length -
    (if interval.value.num < interval.value.den then
      Int.ofNat (Nat.toDigits 10 (interval.value.den / interval.value.num)).length - 1
    else 0)

/-- The first decimal found on ever finer grids, from `10 ^ exponent` downward. -/
def Interval.search (interval : Interval) : Nat → Int → Scaled
  | 0, exponent => ⟨0, exponent⟩
  | steps + 1, exponent =>
    match interval.onGrid? exponent with
    | some found => found
    | none => interval.search steps (exponent - 1)

/-- The shortest decimal that reads back as `mantissa * 2 ^ exponent`, for a positive mantissa.
Seventeen digits always suffice; twenty grids leave room for a magnitude one or two too large. -/
def shortest (mantissa : Nat) (exponent : Int) : Scaled :=
  let interval := Interval.of mantissa exponent
  interval.search 20 interval.magnitude

end GuardedScript.Decimal
