import NhaTrangLaundry.Lib.Text

/-! Decimal numbers as the `decimal` module computes them: operations keep 28
significant digits, ties going to the even digit. -/

namespace NhaTrangLaundry.Lib

open Text

/-- The finite number `coefficient * 10 ^ exponent`. -/
structure Decimal where
  coefficient : Int
  exponent : Int
deriving DecidableEq

namespace Decimal

/-- A number that may also be infinite or not a number. -/
inductive Number where
  | finite (d : Decimal)
  | special
deriving DecidableEq

def ofInt (n : Int) : Decimal := ⟨n, 0⟩

/-- The coefficient at an exponent that is not above its own. -/
def scaled (d : Decimal) (e : Int) : Int := d.coefficient * 10 ^ (d.exponent - e).toNat

def le (a b : Decimal) : Prop :=
  a.scaled (min a.exponent b.exponent) ≤ b.scaled (min a.exponent b.exponent)

instance (a b : Decimal) : Decidable (le a b) := by
  unfold le
  infer_instance

def lt (a b : Decimal) : Prop := ¬ le b a

instance (a b : Decimal) : Decidable (lt a b) := by
  unfold lt
  infer_instance

def same (a b : Decimal) : Prop := le a b ∧ le b a

instance (a b : Decimal) : Decidable (same a b) := by
  unfold same
  infer_instance

def limit : Nat := 10 ^ 28

/-- The digits of `n` beyond the first 28. -/
def excess (n : Nat) : Nat := (Nat.toDigits 10 n).length - 28

def divHalfEven (n m : Nat) : Nat :=
  if 2 * (n % m) < m ∨ (2 * (n % m) = m ∧ n / m % 2 = 0) then n / m else n / m + 1

def divHalfUp (n m : Nat) : Nat := (2 * n + m) / (2 * m)

def fit (d : Decimal) : Decimal :=
  if d.coefficient.natAbs < limit then d
  else ⟨d.coefficient.sign * divHalfEven d.coefficient.natAbs (10 ^ excess d.coefficient.natAbs),
    d.exponent + excess d.coefficient.natAbs⟩

def add (a b : Decimal) : Decimal :=
  fit ⟨a.scaled (min a.exponent b.exponent) + b.scaled (min a.exponent b.exponent),
    min a.exponent b.exponent⟩

def mul (a b : Decimal) : Decimal :=
  fit ⟨a.coefficient * b.coefficient, a.exponent + b.exponent⟩

/-- `max(a, b)`: the first of the two unless the second is greater. -/
def max (a b : Decimal) : Decimal := if lt a b then b else a

def integral (d : Decimal) : Prop := d.coefficient % 10 ^ (-d.exponent).toNat = 0

instance (d : Decimal) : Decidable (integral d) := by
  unfold integral
  infer_instance

/-- `int(d.quantize(Decimal(1), rounding=ROUND_HALF_UP))`; a result of more than 28
digits is an invalid operation. -/
def toInteger (d : Decimal) : Option Int :=
  let n := d.coefficient.sign * divHalfUp (d.coefficient.natAbs * 10 ^ d.exponent.toNat)
    (10 ^ (-d.exponent).toNat)
  if n.natAbs < limit then some n else none

def trimmed (cs : List Char) : List Char := (cs.reverse.dropWhile (· = '0')).reverse

/-- `format(d, "f")` without a fraction that is zero. -/
def text (d : Decimal) : String :=
  let n := d.coefficient.natAbs * 10 ^ d.exponent.toNat
  let places := (-d.exponent).toNat
  let fraction := trimmed (padded 10 places n)
  String.ofList ((if d.coefficient < 0 then ['-'] else []) ++ Nat.toDigits 10 (n / 10 ^ places) ++
    if fraction = [] then [] else '.' :: fraction)

def isDigit (c : Char) : Bool := '0' ≤ c && c ≤ '9'

def whole (cs : List Char) : List Char := cs.takeWhile isDigit

def rest (cs : List Char) : List Char := cs.dropWhile isDigit

/-- `^(?:0|[1-9][0-9]*)(?:\.[0-9]+)?$`. -/
def pattern (s : String) : Bool :=
  (whole s.toList == ['0'] || (whole s.toList != [] && (whole s.toList).head? != some '0')) &&
    match rest s.toList with
    | [] => true
    | c :: fraction => c == '.' && fraction != [] && fraction.all isDigit

/-- `Decimal(text)` of a text that matches the pattern. -/
def ofText (s : String) : Option Decimal :=
  if pattern s then
    let fraction := (rest s.toList).drop 1
    (numeral 10 (whole s.toList ++ fraction) 0).map fun n => ⟨n, -fraction.length⟩
  else none

example : (ofText "1.50").map text = some "1.5" ∧ ofText "01" = none := by decide

example : (mul ⟨25, -1⟩ (ofInt 3)).toInteger = some 8 := by decide

end Decimal

end NhaTrangLaundry.Lib
