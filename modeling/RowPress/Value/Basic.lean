import RowPress.Decimal.Written
/-!
The values that documents hold and templates see: scalars, sequences, and maps that keep the order
in which their keys were first written.
-/
namespace RowPress

inductive Scalar where
  | bool (b : Bool)
  | integer (n : Int64)
  | decimal (x : Float)
  | text (s : String)

inductive Value where
  | scalar (s : Scalar)
  | sequence (items : List Value)
  | map (entries : List (String × Value))

-- A map on its own: keys in the order of their first appearance.
abbrev Entries := List (String × Value)

def Value.text (s : String) : Value := .scalar (.text s)

def Value.empty : Value := .map []

instance : Inhabited Value := ⟨.empty⟩

def Value.entries? : Value → Option Entries
  | .map entries => some entries
  | _ => none

def Scalar.display : Scalar → String
  | .bool b => if b then "true" else "false"
  | .integer n => toString n.toInt
  | .decimal x => Decimal.plain.write x
  | .text s => s

namespace Entries

def keys (m : Entries) : List String := m.map (·.1)

def has (m : Entries) (key : String) : Bool := m.any (·.1 == key)

def get? (m : Entries) (key : String) : Option Value := (m.find? (·.1 == key)).map (·.2)

-- A key that is already there keeps its place and takes the new value.
def put (m : Entries) (key : String) (value : Value) : Entries :=
  if m.has key then m.map fun entry => if entry.1 == key then (key, value) else entry
  else m ++ [(key, value)]

end Entries

end RowPress
