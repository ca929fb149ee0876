import RowPress.Text.Class
/-! Signs and digits, and the numbers that rows of digits stand for. -/
namespace RowPress.Text

-- A leading sign, if there is one, and what follows it.
def splitSign : List Char → Bool × List Char
  | '+' :: rest => (false, rest)
  | '-' :: rest => (true, rest)
  | cs => (false, cs)

-- Positional value of a row of decimal digits.
def digitsValue (cs : List Char) : Nat := Nat.ofDigitChars 10 cs 0

def hexValue? (c : Char) : Option Nat :=
  if isAsciiDigit c then some (c.toNat - 48)
  else if 'a' ≤ c && c ≤ 'f' then some (c.toNat - 87)
  else if 'A' ≤ c && c ≤ 'F' then some (c.toNat - 55)
  else none

-- The value of a digit in a base up to sixteen.
def digitIn? (base : Nat) (c : Char) : Option Nat := (hexValue? c).filter (· < base)

-- A row of at least one digit in a base up to sixteen.
def numberIn? (base : Nat) (cs : List Char) : Option Nat :=
  if cs.isEmpty then none
  else cs.foldlM (fun n c => (digitIn? base c).map fun d => n * base + d) 0

end RowPress.Text
