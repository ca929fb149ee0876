import RowPress.Json.Reader
import RowPress.Text.Quoted
/-!
Fitting JSON data to a type that is asked for. The first part that does not fit, in the order of
the data, is the one that is reported.
-/
namespace RowPress.Json

inductive Misfit where
  | wrongType (found : Json) (expected : String)
  | outOfRange (found : Int) (expected : String)
  | tooLong (length : Nat)
  | fieldTwice (name : String)
  | noVariant (name : String)

def shownAs : Json → String
  | .null => "null"
  | .bool b => if b then "boolean `true`" else "boolean `false`"
  | .integer n => s!"integer `{n}`"
  | .decimal x => "floating point `" ++ Decimal.json.write x ++ "`"
  | .text s => "string " ++ Text.quoted s
  | .array _ => "sequence"
  | .object _ => "map"

def Misfit.message : Misfit → String
  | .wrongType found expected => s!"invalid type: {shownAs found}, expected {expected}"
  | .outOfRange found expected => s!"invalid value: integer `{found}`, expected {expected}"
  | .tooLong length => s!"invalid length {length}, expected fewer elements in array"
  | .fieldTwice name => s!"duplicate field `{name}`"
  | .noVariant name => s!"data did not match any variant of untagged enum {name}"

abbrev Fitting (α : Type) := Except Misfit α

def toInteger : Json → Fitting Int64
  | .integer n => if fitsInteger n then .ok (Int64.ofInt n) else .error (.outOfRange n "i64")
  | j => .error (.wrongType j "i64")

def toByte : Json → Fitting UInt8
  | .integer n =>
    if 0 ≤ n ∧ n < 256 then .ok (UInt8.ofNat n.toNat) else .error (.outOfRange n "u8")
  | j => .error (.wrongType j "u8")

def toBool : Json → Fitting Bool
  | .bool b => .ok b
  | j => .error (.wrongType j "a boolean")

def toText : Json → Fitting String
  | .text s => .ok s
  | j => .error (.wrongType j "a string")

-- Integers become the nearest double.
def toDecimal : Json → Fitting Float
  | .decimal x => .ok x
  | .integer n => .ok (Decimal.nearest (n < 0) n.natAbs 1)
  | j => .error (.wrongType j "f64")

def toList (f : Json → Fitting α) : Json → Fitting (List α)
  | .array items => items.mapM f
  | j => .error (.wrongType j "a sequence")

-- Fields one after the other; a repeated one replaces the value and keeps the place.
def toPairs (f : Json → Fitting α) : Json → Fitting (List (String × α))
  | .object fields => fields.foldlM (fun pairs (key, j) => do
      let value ← f j
      return if pairs.any (·.1 == key)
        then pairs.map fun p => if p.1 == key then (key, value) else p
        else pairs ++ [(key, value)]) []
  | j => .error (.wrongType j "a map")

-- The first of truth value, integer, decimal and text that fits.
def scalar? : Json → Option Scalar
  | .bool b => some (.bool b)
  | .integer n =>
    some (if fitsInteger n then .integer (Int64.ofInt n)
      else .decimal (Decimal.nearest (n < 0) n.natAbs 1))
  | .decimal x => some (.decimal x)
  | .text s => some (.text s)
  | _ => none

def toScalar (j : Json) : Fitting Scalar :=
  match scalar? j with
  | some s => .ok s
  | none => .error (.noVariant "Scalar")

mutual

def value? : Json → Option Value
  | .array items => (values? items).map .sequence
  | .object fields => (entries? fields []).map .map
  | j => (scalar? j).map .scalar

def values? : List Json → Option (List Value)
  | [] => some []
  | item :: rest => do return (← value? item) :: (← values? rest)

-- The entries so far come first.
def entries? : List (String × Json) → Entries → Option Entries
  | [], entries => some entries
  | (key, j) :: rest, entries => do entries? rest (entries.put key (← value? j))

end

def toValue (j : Json) : Fitting Value :=
  match value? j with
  | some v => .ok v
  | none => .error (.noVariant "GenericValue")

-- Why a text gives no value.
inductive TextFault where
  | malformed (f : Fault)
  | misfit (m : Misfit)

def TextFault.message (text : String) : TextFault → String
  | .malformed f => f.message text
  | .misfit m => m.message

-- The value that a JSON text spells. What follows the data is looked at when the data has fitted.
def valueOfText (text : String) : Except TextFault Value :=
  match readValue maxDepth text.toList with
  | .error f => .error (.malformed f)
  | .ok (j, rest) =>
    match toValue j with
    | .error m => .error (.misfit m)
    | .ok v =>
      match expectEnd rest with
      | .error f => .error (.malformed f)
      | .ok () => .ok v

-- A field of a record: its name, another name it may have, and what its value changes.
structure Field (σ : Type) where
  name : String
  otherName : Option String
  set : Json → Fitting (σ → σ)

def Field.answersTo (f : Field σ) (key : String) : Bool := f.name == key || f.otherName == some key

-- The fields by name, in the order of the data; names that are not known are passed over.
def fillByName (fields : List (Field σ)) :
    List String → List (String × Json) → σ → Fitting σ
  | _, [], record => .ok record
  | seen, (key, j) :: rest, record =>
    match fields.find? (·.answersTo key) with
    | none => fillByName fields seen rest record
    | some f =>
      if seen.contains f.name then .error (.fieldTwice f.name)
      else do fillByName fields (f.name :: seen) rest ((← f.set j) record)

-- The fields by position.
def fillInOrder : List (Field σ) → List Json → σ → Fitting σ
  | f :: fields, j :: rest, record => do fillInOrder fields rest ((← f.set j) record)
  | _, _, record => .ok record

-- A record; fields that are missing keep their value in the blank one.
def toRecord (kind : String) (fields : List (Field σ)) (blank : σ) : Json → Fitting σ
  | .object entries => fillByName fields [] entries blank
  | .array items => do
    let record ← fillInOrder fields items blank
    if fields.length < items.length then .error (.tooLong items.length) else return record
  | j => .error (.wrongType j s!"struct {kind}")

end RowPress.Json
