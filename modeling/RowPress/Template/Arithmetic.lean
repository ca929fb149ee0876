import RowPress.Template.Display
import RowPress.Template.Fault
import RowPress.Template.Tree
/-!
What operators do. Integers are exact within 128 bits and an operation that leaves them fails;
with a double on one side the other becomes a double too.
-/
namespace RowPress.Template

abbrev Outcome (α : Type) := Except Fault α

def invalid (detail : String) : Outcome α := .error (.of .badOperation detail)

def unsupported (op : String) (a b : Datum) : Outcome α :=
  invalid s!"tried to use {op} operator on unsupported types {a.kind.name} and {b.kind.name}"

def failed (op : String) (a b : Datum) : Outcome α :=
  invalid s!"unable to calculate {a.display} {op} {b.display}"

-- An integer result counts only if it fits.
def fitted (op : String) (a b : Datum) (result : Option Int) : Outcome Datum :=
  match result.filter fitsInt128 with
  | some n => .ok (.integer n)
  | none => failed op a b

def onNumbers (op : String) (integers : Int → Int → Option Int) (decimals : Float → Float → Float)
    (a b : Datum) : Outcome Datum :=
  match common? true a b with
  | some (.integers m n) => fitted op a b (integers m n)
  | some (.decimals x y) => .ok (.decimal (decimals x y))
  | none => unsupported op a b

-- The remainder that has the sign of the dividend; it is always exact.
def decimalRemainder (x y : Float) : Float :=
  match Decimal.kind x, Decimal.kind y with
  | .finite a, .finite b =>
    if b.significand = 0 then 0.0 / 0.0
    else
      let power := min a.power b.power
      let m := a.significand * Decimal.twoTo (a.power - power).toNat
      let n := b.significand * Decimal.twoTo (b.power - power).toNat
      let r := m % n
      if 0 ≤ power then Decimal.nearest a.negative (r * Decimal.twoTo power.toNat) 1
      else Decimal.nearest a.negative r (Decimal.twoTo (-power).toNat)
  | .finite _, .infinite _ => x
  | _, _ => 0.0 / 0.0

def truncated (x : Float) : Float := if x < 0.0 then x.ceil else x.floor

-- The quotient that leaves a remainder which is not negative.
def decimalFloorQuotient (x y : Float) : Float :=
  let q := truncated (x / y)
  if decimalRemainder x y < 0.0 then (if y > 0.0 then q - 1.0 else q + 1.0) else q

-- No power that leaves the range is computed.
def integerPower (m n : Int) : Option Int :=
  if n < 0 || Decimal.twoTo 32 ≤ n then none
  else if m.natAbs ≤ 1 then some (Int.pow m (n.toNat % 2 + (if n = 0 then 0 else 2)))
  else if 127 < n then none
  else some (Int.pow m n.toNat)

namespace Datum

def isSized (d : Datum) : Bool := d.length?.isSome

def add (a b : Datum) : Outcome Datum :=
  match a.items?, b.items?, a, b with
  | some xs, some ys, _, _ => .ok (.stream (xs ++ ys) (a.isSized && b.isSized))
  | _, _, .text s _, .text t _ => .ok (.ofText (s ++ t))
  | _, _, a, b => onNumbers "+" (fun m n => some (m + n)) (· + ·) a b

def subtract : Datum → Datum → Outcome Datum :=
  onNumbers "-" (fun m n => some (m - n)) (· - ·)

-- How often something is to be repeated.
def count? (d : Datum) : Option Nat :=
  (toInteger? d).bind fun n => if 0 ≤ n && n < Decimal.twoTo 64 then some n.toNat else none

def repeated (n : Datum) (message : String) (repeatTo : Nat → Outcome Datum) : Outcome Datum :=
  match count? n with
  | some n => repeatTo n
  | none => invalid message

def repeatText (s : String) (n : Datum) : Outcome Datum :=
  repeated n "strings can only be multiplied with integers" fun n =>
    .ok (.ofText (String.join (List.replicate n s)))

def repeatRow (row n : Datum) (items : List Datum) : Outcome Datum :=
  repeated n "sequences and iterables can only be multiplied with integers" fun n =>
    if row.isSized then .ok (.stream (List.replicate n items).flatten true)
    else invalid "cannot repeat unsized iterables"

def multiply (a b : Datum) : Outcome Datum :=
  match a, b with
  | .text s _, n => repeatText s n
  | n, .text s _ => repeatText s n
  | a, b =>
    match a.items?, b.items? with
    | some items, _ => repeatRow a b items
    | none, some items => repeatRow b a items
    | none, none => onNumbers "*" (fun m n => some (m * n)) (· * ·) a b

-- Division always yields a double.
def divide (a b : Datum) : Outcome Datum :=
  match toDouble? true a, toDouble? true b with
  | some x, some y => .ok (.decimal (x / y))
  | _, _ => unsupported "/" a b

def floorDivide : Datum → Datum → Outcome Datum :=
  onNumbers "//" (fun m n => if n = 0 then none else some (m / n)) decimalFloorQuotient

def remainder : Datum → Datum → Outcome Datum :=
  onNumbers "%" (fun m n => if n = 0 then none else some (m % n)) decimalRemainder

def power : Datum → Datum → Outcome Datum :=
  onNumbers "**" integerPower Float.pow

def joined (a b : Datum) : Datum := .ofText (a.display ++ b.display)

def negative (d : Datum) : Outcome Datum :=
  match d with
  | .decimal x => .ok (.decimal (-x))
  | .integer n => if fitsInt128 (-n) then .ok (.integer (-n)) else .error (.bare .badOperation)
  | _ => .error (.bare .badOperation)

-- Whether some characters stand side by side among others.
def isPartOf (part : List Char) : List Char → Bool
  | [] => part.isEmpty
  | c :: rest => part.isPrefixOf (c :: rest) || isPartOf part rest

def contains (container value : Datum) : Outcome Bool :=
  match container with
  | .undefined => .ok false
  | .text s _ => .ok (isPartOf value.display.toList s.toList)
  | .map entries => .ok (entryOf? value entries).isSome
  | .routine _ _ | .builtin _ | .shown _ | .loop _ => .ok false
  | container =>
    match container.items? with
    | some items => .ok (items.any (·.equals value))
    | none => invalid "cannot perform a containment check on this value"

end Datum

def truth (b : Bool) : Outcome Datum := .ok (.bool b)

def Operator.apply (op : Operator) (a b : Datum) : Outcome Datum :=
  match op with
  | .add => a.add b
  | .subtract => a.subtract b
  | .multiply => a.multiply b
  | .divide => a.divide b
  | .floorDivide => a.floorDivide b
  | .remainder => a.remainder b
  | .power => a.power b
  | .join => .ok (a.joined b)
  | .equal => truth (a.equals b)
  | .unequal => truth !(a.equals b)
  | .less => truth (a.compare b == .lt)
  | .lessEqual => truth (a.compare b != .gt)
  | .greater => truth (a.compare b == .gt)
  | .greaterEqual => truth (a.compare b != .lt)
  | .within => (b.contains a).map .bool

end RowPress.Template
