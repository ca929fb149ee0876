import RowPress.Decimal.Nearest
/-!
The shortest decimal digits that read back as a given double, and of those the nearest to it.

The reals that round to a double form an interval around it. Decimals with a given number of
digits form a grid; if any point of the grid lies in the interval, one of the two grid points next
to the double does. So the first grid with such a neighbour gives the fewest digits.
-/
namespace RowPress.Decimal

-- The number of decimal digits of a natural number, none for zero.
def digitCount (n : Nat) : Nat :=
  if n = 0 then 0 else digitCount (n / 10) + 1

-- How many leading zeros follow the decimal point of a quotient below one.
def leadingZeros (num den : Nat) : Nat → Nat
  | 0 => 0
  | fuel + 1 => if den ≤ num * 10 then 0 else leadingZeros (num * 10) den fuel + 1

-- The quotient lies below ten to this power and not below a tenth of that.
def decimalMagnitude (num den : Nat) : Int :=
  if den ≤ num then digitCount (num / den) else -(leadingZeros num den 400 : Int)

-- A number `digits * 10 ^ power`.
structure Digits where
  digits : Nat
  power : Int

-- Positions are compared in units of a quarter of the last significand bit, so that the interval
-- has whole bounds; below a power of two the neighbouring double is only half as far.
structure Interval where
  low : Nat
  value : Nat
  high : Nat
  closed : Bool

def interval (p : Parts) : Interval :=
  let m := p.significand
  let near := m = twoTo 52 && -1074 < p.power
  ⟨if near then 4 * m - 1 else 4 * m - 2, 4 * m, 4 * m + 2, m % 2 == 0⟩

-- Whether `point / unit` lies in the interval.
def Interval.holds (i : Interval) (point unit : Nat) : Bool :=
  if i.closed then i.low * unit ≤ point && point ≤ i.high * unit
  else i.low * unit < point && point < i.high * unit

-- The quotient times ten to the power.
def scaleByTen (num den : Nat) (power : Int) : Nat × Nat :=
  if 0 ≤ power then (num * tenTo power.toNat, den) else (num, den * tenTo (-power).toNat)

-- The neighbour of the double on the grid of multiples of `10 ^ power` that reads back, the
-- nearer one if both do.
def neighbour (p : Parts) (power : Int) : Option Nat :=
  let i := interval p
  -- One grid step is `step / unit` quarters of the last significand bit.
  let (a, b) := scaleByTwo 1 1 (2 - p.power)
  let (step, unit) := scaleByTen a b power
  let below := i.value * unit / step
  let above := below + 1
  let lowHit := below != 0 && i.holds (below * step) unit
  let highHit := i.holds (above * step) unit
  match lowHit, highHit with
  | true, false => some below
  | false, true => some above
  | false, false => none
  | true, true =>
    let down := i.value * unit - below * step
    let up := above * step - i.value * unit
    if down < up then some below
    else if up < down then some above
    else some (below + below % 2)

-- Tries grids from coarse to fine; seventeen digits always suffice.
def firstHit (p : Parts) (power : Int) : Nat → Digits
  | 0 => ⟨(neighbour p power).getD 0, power⟩
  | more + 1 =>
    match neighbour p power with
    | some digits => ⟨digits, power⟩
    | none => firstHit p (power - 1) more

-- Takes zeros off the end.
def Digits.strip (d : Digits) : Digits :=
  if d.digits = 0 then ⟨0, 0⟩
  else if d.digits % 10 = 0 then Digits.strip ⟨d.digits / 10, d.power + 1⟩
  else d
termination_by d.digits
decreasing_by exact Nat.div_lt_self (Nat.pos_of_ne_zero ‹_›) (by decide)

def shortest (p : Parts) : Digits :=
  if p.significand = 0 then ⟨0, 0⟩
  else
    let (num, den) := scaleByTwo p.significand 1 p.power
    (firstHit p (decimalMagnitude num den - 1) 16).strip

end RowPress.Decimal
