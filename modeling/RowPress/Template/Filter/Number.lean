import RowPress.Decimal.Read
import RowPress.Template.Given
/-! Filters on numbers, and those that make numbers of other values. -/
namespace RowPress.Template.Filter

open Taking

def abs : Taking Datum := do
  match ← datum with
  | .integer n => return .integer n.natAbs
  | .decimal x => return .decimal x.abs
  | _ => refuse (.of .badOperation "cannot get absolute value")

-- Ten to a power, computed the way a product of doubles is.
def tenTo (n : Int) : Float :=
  let product := (List.replicate n.natAbs 10.0).foldl (· * ·) 1.0
  if n < 0 then 1.0 / product else product

-- Half a unit is rounded away from zero.
def roundDouble (x : Float) (places : Int) : Float :=
  let scale := tenTo places
  (scale * x).round / scale

def round : Taking Datum := do
  let d ← datum
  let digits := (← optional places).getD 0
  match d with
  | .integer n => return .integer n
  | .decimal x => return .decimal (roundDouble x digits)
  | d => refuse (.of .badOperation s!"cannot round value ({d.kind.name})")

-- A double as an integer, as far as that goes.
def saturated (x : Float) : Int :=
  match Decimal.kind x with
  | .notANumber => 0
  | .infinite negative => if negative then minInt128 else maxInt128
  | .finite _ => max minInt128 (min maxInt128 ((wholeOf? (truncated x)).getD 0))

def readInteger? (cs : List Char) : Option Int :=
  let (negative, digits) := Text.splitSign cs
  if digits.all Text.isAsciiDigit then
    ((Text.numberIn? 10 digits).map fun n => if negative then -(n : Int) else n).filter fitsInt128
  else none

def readDouble (s : String) : Outcome Float :=
  match Decimal.read? s.toList with
  | some x => .ok x
  | none =>
    if s.isEmpty then invalid "cannot parse float from empty string"
    else invalid "invalid float literal"

def int : Taking Datum := do
  match ← datum with
  | .undefined | .nothing => return .integer 0
  | .bool b => return .integer (if b then 1 else 0)
  | .integer n => return .integer n
  | .decimal x => return .integer (saturated x)
  | .text s _ =>
    match readInteger? s.toList with
    | some n => return .integer n
    | none => return .integer (saturated (← (readDouble s : Outcome Float)))
  | d => refuse (.of .badOperation s!"cannot convert {d.kind.name} to integer")

def float : Taking Datum := do
  match ← datum with
  | .undefined | .nothing => return .decimal 0.0
  | .text s _ => return .decimal (← (readDouble s : Outcome Float))
  | d =>
    match toDouble? true d with
    | some x => return .decimal x
    | none => refuse (.of .badOperation s!"cannot convert {d.kind.name} to float")

def bool : Taking Datum := return .bool (← datum).isTrue

end RowPress.Template.Filter
