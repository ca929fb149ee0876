import RowPress.Decimal.Written
import RowPress.Text.Class
/-! Doubles with a chosen number of digits; a half goes to the even neighbour. -/
namespace RowPress.Decimal

-- A double as a quotient of naturals, up to its sign.
def quotient (p : Parts) : Nat × Nat := scaleByTwo p.significand 1 p.power

-- The multiple of a power of ten that is nearest to a quotient.
def roundAt (num den : Nat) (power : Int) : Nat :=
  if 0 ≤ power then roundQuotient num (den * tenTo power.toNat)
  else roundQuotient (num * tenTo (-power).toNat) den

def padZeros (width : Nat) (cs : List Char) : List Char := zeros (width - cs.length) ++ cs

-- The given number of digits after the point; without any there is no point.
def fixed (p : Parts) (places : Nat) : List Char :=
  let (num, den) := quotient p
  let digits := padZeros (places + 1) (Nat.toDigits 10 (roundAt num den (-(places : Int))))
  let whole := digits.take (digits.length - places)
  if places = 0 then whole else whole ++ '.' :: digits.drop (digits.length - places)

-- The given number of digits in all, with the power of ten of the first one.
def significant (p : Parts) (count : Nat) : List Char × Int :=
  if p.significand = 0 then (zeros count, 0)
  else
    let (num, den) := quotient p
    let d := shortest p
    let place : Int := d.power + (Nat.toDigits 10 d.digits).length - 1
    let digits := Nat.toDigits 10 (roundAt num den (place - count + 1))
    if count < digits.length then (digits.take count, place + 1) else (digits, place)

-- An exponent of at least two digits, with its sign.
def exponentPart (place : Int) : List Char :=
  (if place < 0 then '-' else '+') :: padZeros 2 (Nat.toDigits 10 place.natAbs)

def pointAfterFirst : List Char → List Char
  | first :: second :: rest => first :: '.' :: second :: rest
  | cs => cs

def scientific (p : Parts) (places : Nat) : List Char :=
  let (digits, place) := significant p (places + 1)
  pointAfterFirst digits ++ 'e' :: exponentPart place

def stripZeros (digits : List Char) : List Char := Text.dropEndWhile (· == '0') digits

-- Positional where the exponent is small, without zeros at the end.
def general (p : Parts) (precision : Nat) : List Char :=
  let count := max precision 1
  let (digits, place) := significant p count
  if -4 ≤ place && place < count then
    let places := (count - 1 - place).toNat
    let text := fixed p places
    if places = 0 then text else Text.dropEndWhile (· == '.') (stripZeros text)
  else
    match stripZeros digits with
    | [] => '0' :: 'e' :: exponentPart place
    | digits => pointAfterFirst digits ++ 'e' :: exponentPart place

end RowPress.Decimal
