/-!
# The shortest decimal that reads back

A finite float is `m · 2^q`. The reals that round to it form an interval around it, whose ends belong to it exactly if
`m` is even. For one digit, two digits, and so on, the two neighbours of the float on the grid of decimals with so many
digits are tried: the first grid with a neighbour in the interval gives the digits, the nearer neighbour if both are.
-/
namespace GlobalSurvey.Decimal

/-- A positive decimal `digits · 10^exponent`. -/
structure Scaled where
  /-- The digits, as one number. -/
  digits : Nat
  exponent : Int
deriving DecidableEq, Repr

/-- A positive binary number `mantissa · 2^exponent`. -/
structure Binary where
  mantissa : Nat
  exponent : Int
deriving DecidableEq, Repr

/-- The numerator and the denominator of `n · base^e`. -/
def ratio (n base : Nat) (e : Int) : Nat × Nat :=
  if 0 ≤ e then (n * base.pow e.toNat, 1) else (n, base.pow (-e).toNat)

def compareRatio (a b : Nat × Nat) : Ordering := compare (a.1 * b.2) (b.1 * a.2)

def digitCount (n : Nat) : Nat := (Nat.toDigits 10 n).length

/-- The power of ten at or below a fraction of at least zero: the place of its first digit. -/
def leadingPlace (value : Nat × Nat) : Int :=
  let guess : Int := (digitCount value.1 : Int) - (digitCount value.2 : Int)
  if compareRatio (ratio 1 10 guess) value = .gt then guess - 1 else guess

/-- The floats below and above have their borders here: twice the mantissas of the ends of the interval, at half the
exponent's unit. A mantissa at the lower end of its binade has a nearer neighbour below. -/
structure Interval where
  low : Nat × Nat
  high : Nat × Nat
  /-- The ends belong to the interval. -/
  closed : Bool

/-- The interval of the reals that round to a float. `narrow` says that the float below is only half as far away. -/
def interval (b : Binary) (narrow : Bool) : Interval where
  low := if narrow then ratio (4 * b.mantissa - 1) 2 (b.exponent - 2) else ratio (2 * b.mantissa - 1) 2 (b.exponent - 1)
  high := ratio (2 * b.mantissa + 1) 2 (b.exponent - 1)
  closed := b.mantissa % 2 = 0

/-- The fraction lies in the interval. -/
def Interval.contains (i : Interval) (value : Nat × Nat) : Bool :=
  match compareRatio i.low value, compareRatio value i.high with
  | .lt, .lt => true
  | .eq, .lt | .lt, .eq => i.closed
  | _, _ => false

/-- The distance of two fractions, the first not above the second. -/
def distance (a b : Nat × Nat) : Nat × Nat := (b.1 * a.2 - a.1 * b.2, a.2 * b.2)

/-- The neighbour of a value with `count` digits that lies in the interval and is nearest to the value. -/
def onGrid (value : Nat × Nat) (i : Interval) (place : Int) (count : Nat) : Option Scaled :=
  let exponent := place - (count : Int) + 1
  let unit := ratio 1 10 exponent
  let below := value.1 * unit.2 / (value.2 * unit.1)
  let at' (digits : Nat) := ratio digits 10 exponent
  let lowFits := i.contains (at' below)
  let highFits := i.contains (at' (below + 1))
  if lowFits && highFits then
    match compareRatio (distance (at' below) value) (distance value (at' (below + 1))) with
    | .lt => some ⟨below, exponent⟩
    | .gt => some ⟨below + 1, exponent⟩
    | .eq => some ⟨if below % 2 = 0 then below else below + 1, exponent⟩
  else if lowFits then some ⟨below, exponent⟩
  else if highFits then some ⟨below + 1, exponent⟩
  else none

/-- Tries grids of more and more digits. Seventeen digits always suffice. -/
def search (value : Nat × Nat) (i : Interval) (place : Int) : (tries count : Nat) → Scaled
  | 0, count => ⟨value.1 * Nat.pow 10 count / value.2, -(count : Int)⟩
  | tries + 1, count =>
    match onGrid value i place count with
    | some found => found
    | none => search value i place tries (count + 1)

/-- The shortest decimal that rounds to a positive float. -/
def shortest (b : Binary) (narrow : Bool) : Scaled :=
  let value := ratio b.mantissa 2 b.exponent
  search value (interval b narrow) (leadingPlace value) 17 1

/-- A float taken apart. -/
inductive Parts where
  | nan
  | infinite (negative : Bool)
  | zero (negative : Bool)
  /-- A finite number; `narrow` says that the float below is only half as far away as the one above. -/
  | finite (negative : Bool) (value : Binary) (narrow : Bool)
deriving DecidableEq, Repr

/-- The parts of the float with the given bits. -/
def Parts.ofBits (bits : UInt64) : Parts :=
  let n : Nat := bits.toNat
  let negative := Nat.pow 2 63 ≤ n
  let field : Nat := n / Nat.pow 2 52 % Nat.pow 2 11
  let fraction : Nat := n % Nat.pow 2 52
  if field = 2047 then if fraction = 0 then .infinite negative else .nan
  else if field = 0 then
    if fraction = 0 then .zero negative else .finite negative ⟨fraction, -1074⟩ false
  else .finite negative ⟨Nat.pow 2 52 + fraction, (field : Int) - 1075⟩ (fraction = 0 && field ≠ 1)

def Parts.ofFloat (f : Float) : Parts := .ofBits f.toBits

end GlobalSurvey.Decimal
