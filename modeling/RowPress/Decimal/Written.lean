import RowPress.Decimal.Shortest
/-! Writing doubles with their shortest digits, in the styles this library needs. -/
namespace RowPress.Decimal

-- How a double is laid out once its digits are chosen.
structure Style where
  -- Powers of ten of the first digit that are written without an exponent.
  positional : Int → Bool
  -- Whether a whole number ends in `.0`.
  pointed : Bool
  -- Whether an exponent that is not negative has a sign.
  signed : Bool
  infinity : String
  notANumber : String

-- Display text: never an exponent, whole numbers bare.
def plain : Style := ⟨fun _ => true, false, true, "inf", "NaN"⟩

-- In templates a whole double keeps its point, to differ from an integer.
def pointed : Style := ⟨fun _ => true, true, true, "inf", "NaN"⟩

-- JSON writes very large and very small numbers with an exponent and has no non-finite numbers.
def json : Style := ⟨fun place => -5 ≤ place && place ≤ 15, true, true, "null", "null"⟩

-- Inside a printed collection a double is short even where it is very large or small.
def nested : Style := ⟨fun place => -4 ≤ place && place ≤ 15, true, false, "inf", "NaN"⟩

def zeros (n : Nat) : List Char := List.replicate n '0'

-- Digits with the point where `power` puts it.
def positionalText (isPointed : Bool) (digits : List Char) (power : Int) : List Char :=
  if 0 ≤ power then digits ++ zeros power.toNat ++ (if isPointed then ['.', '0'] else [])
  else
    let places := (-power).toNat
    if places < digits.length then
      digits.take (digits.length - places) ++ '.' :: digits.drop (digits.length - places)
    else ['0', '.'] ++ zeros (places - digits.length) ++ digits

-- One digit, the others after a point, and a signed exponent.
def exponentText (signed : Bool) (digits : List Char) (place : Int) : List Char :=
  let head := match digits with
    | first :: second :: rest => first :: '.' :: second :: rest
    | _ => digits
  let sign := if place < 0 then ['-'] else if signed then ['+'] else []
  head ++ 'e' :: sign ++ Nat.toDigits 10 place.natAbs

def Style.write (style : Style) (x : Float) : String :=
  match kind x with
  | .notANumber => style.notANumber
  | .infinite negative =>
    if negative && style.infinity != "null" then "-" ++ style.infinity else style.infinity
  | .finite parts =>
    let d := shortest parts
    let digits := Nat.toDigits 10 d.digits
    let place := d.power + digits.length - 1
    let body :=
      if style.positional place then positionalText style.pointed digits d.power
      else exponentText style.signed digits place
    String.ofList (if parts.negative then '-' :: body else body)

end RowPress.Decimal
