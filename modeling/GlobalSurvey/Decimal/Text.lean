import GlobalSurvey.Decimal.Shortest

/-!
# Texts of numbers

A float is written with its shortest digits: positional from `1e-4` up to below `1e16`, always with a point, and
otherwise with an exponent of at least two digits. A general text has six digits at most and no superfluous zeros.
-/
namespace GlobalSurvey.Decimal

def digitsOf (n : Nat) : List Char := Nat.toDigits 10 n

def trimZeros (digits : List Char) : List Char := (digits.reverse.dropWhile (· = '0')).reverse

/-- An exponent with its sign and at least two digits. -/
def exponentText (e : Int) : List Char :=
  let digits := digitsOf e.natAbs
  (if e < 0 then '-' else '+') :: (if digits.length < 2 then '0' :: digits else digits)

/-- Digits with the point after `place + 1` of them, zeros filled in where digits are missing. -/
def positional (digits : List Char) (place : Int) : List Char × List Char :=
  if place < 0 then (['0'], List.replicate ((-place).toNat - 1) '0' ++ digits)
  else
    let whole := place.toNat + 1
    (digits.take whole ++ List.replicate (whole - digits.length) '0', digits.drop whole)

/-- The text of a positive number with the given digits, the first of them at the given power of ten. Integral
positional numbers end in `fill`. -/
def layOut (digits : List Char) (place low high : Int) (fill : List Char) : List Char :=
  if low ≤ place ∧ place < high then
    match positional digits place with
    | (whole, []) => whole ++ fill
    | (whole, fraction) => whole ++ '.' :: fraction
  else
    match digits with
    | [] => []
    | [d] => d :: 'e' :: exponentText place
    | d :: rest => d :: '.' :: rest ++ 'e' :: exponentText place

def withSign (negative : Bool) (text : List Char) : List Char := if negative then '-' :: text else text

/-- The text of a float with the fewest digits that read back. -/
def Parts.text : Parts → List Char
  | .nan => ['n', 'a', 'n']
  | .infinite negative => withSign negative ['i', 'n', 'f']
  | .zero negative => withSign negative ['0', '.', '0']
  | .finite negative value narrow =>
    let s := shortest value narrow
    let all := digitsOf s.digits
    withSign negative
      (layOut (trimZeros all) (s.exponent + (all.length : Int) - 1) (-4) 16 ['.', '0'])

/-- The quotient rounded to nearest, a half to the even neighbour. -/
def roundDiv (n d : Nat) : Nat :=
  let q := n / d
  match compare (2 * (n % d)) d with
  | .lt => q
  | .gt => q + 1
  | .eq => if q % 2 = 0 then q else q + 1

/-- The text of a positive fraction with at most six digits. -/
def generalText (value : Nat × Nat) : List Char :=
  let place := leadingPlace value
  let unit := ratio 1 10 (place - 5)
  let rounded := roundDiv (value.1 * unit.2) (value.2 * unit.1)
  let (rounded, place) := if rounded = 1000000 then (100000, place + 1) else (rounded, place)
  layOut (trimZeros (digitsOf rounded)) place (-4) 6 []

/-- The text of a float with at most six digits. -/
def Parts.general : Parts → List Char
  | .nan => ['n', 'a', 'n']
  | .infinite negative => withSign negative ['i', 'n', 'f']
  | .zero negative => withSign negative ['0']
  | .finite negative value _ => withSign negative (generalText (ratio value.mantissa 2 value.exponent))

/-- The text of a float with the fewest digits that read back. -/
def floatText (f : Float) : String := String.ofList (Parts.ofFloat f).text

/-- The float nearest to `digits · 10^exponent`. Numbers far outside the range of floats are settled before any power
is computed. -/
def toFloat (digits : Nat) (exponent : Int) : Float :=
  if digits = 0 then 0
  else
    let place := (digitCount digits : Int) + exponent
    if 400 < place then 1 / 0
    else if place < -400 then 0
    else Float.ofScientific digits (exponent < 0) exponent.natAbs

end GlobalSurvey.Decimal
