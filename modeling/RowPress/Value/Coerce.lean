import RowPress.Value.Basic
import RowPress.Text.Digits
/-!
The type of a scalar is read off its text: an integer if it spells one within 64 bits, else a
decimal if it is written with digits and at most one point, else a truth value, else text.
-/
namespace RowPress

def minInteger : Int := -(Decimal.twoTo 63)

def maxInteger : Int := Decimal.twoTo 63 - 1

def fitsInteger (n : Int) : Bool := minInteger ≤ n && n ≤ maxInteger

-- An optional sign and decimal digits, if their value fits 64 bits.
def integerOf? (token : List Char) : Option Int64 :=
  let (negative, digits) := Text.splitSign token
  if digits ≠ [] ∧ digits.all Text.isAsciiDigit then
    let magnitude : Int := Text.digitsValue digits
    let n := if negative then -magnitude else magnitude
    if fitsInteger n then some (Int64.ofInt n) else none
  else none

-- Digits around at most one point, at least one of them.
def isDecimalLiteral (token : List Char) : Bool :=
  let body := (Text.splitSign token).2
  let whole := body.takeWhile Text.isAsciiDigit
  match body.dropWhile Text.isAsciiDigit with
  | [] => !whole.isEmpty
  | '.' :: fraction =>
    fraction.all Text.isAsciiDigit && !(whole.isEmpty && fraction.isEmpty)
  | _ => false

-- The double nearest to a decimal literal.
def decimalOf (token : List Char) : Float :=
  let (negative, body) := Text.splitSign token
  let whole := body.takeWhile Text.isAsciiDigit
  let fraction := (body.dropWhile Text.isAsciiDigit).drop 1
  Decimal.ofScientific negative (Text.digitsValue (whole ++ fraction)) (-(fraction.length : Int))

-- Blanks around the text are looked through, but a text keeps them.
def coerce (raw : String) : Scalar :=
  let token := Text.trimWhile Text.isBlank raw.toList
  match integerOf? token with
  | some n => .integer n
  | none =>
    if isDecimalLiteral token then .decimal (decimalOf token)
    else
      let lowered := token.map Text.asciiLower
      if lowered = ['t', 'r', 'u', 'e'] then .bool true
      else if lowered = ['f', 'a', 'l', 's', 'e'] then .bool false
      else .text raw

end RowPress
