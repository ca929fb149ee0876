import RowPress.Decimal.Nearest
import RowPress.Text.Digits
/-!
Reading a decimal: an optional sign, digits with at most one point, an optional exponent, or the
name of a number that is not finite.
-/
namespace RowPress.Decimal

-- The power of ten that an exponent names.
def readExponent? : List Char → Option Int
  | [] => some 0
  | mark :: rest =>
    let (negative, digits) := Text.splitSign rest
    if (mark == 'e' || mark == 'E') && !digits.isEmpty && digits.all Text.isAsciiDigit then
      let n : Int := Text.digitsValue digits
      some (if negative then -n else n)
    else none

def readDigits? (negative : Bool) (cs : List Char) : Option Float := do
  let whole := cs.takeWhile Text.isAsciiDigit
  let rest := cs.dropWhile Text.isAsciiDigit
  let (fraction, tail) := match rest with
    | '.' :: rest => (rest.takeWhile Text.isAsciiDigit, rest.dropWhile Text.isAsciiDigit)
    | rest => ([], rest)
  if whole.isEmpty && fraction.isEmpty then none
  let exponent ← readExponent? tail
  return ofScientific negative (Text.digitsValue (whole ++ fraction)) (exponent - fraction.length)

def read? (cs : List Char) : Option Float :=
  let (negative, body) := Text.splitSign cs
  let lowered := body.map Text.asciiLower
  if lowered == "inf".toList || lowered == "infinity".toList then
    some (if negative then -1.0 / 0.0 else 1.0 / 0.0)
  else if lowered == "nan".toList then some (0.0 / 0.0)
  else readDigits? negative body

end RowPress.Decimal
