import RowPress.Value.Basic
import RowPress.Value.Coerce
/-! JSON data, and the form that values take in it. -/
namespace RowPress

-- Integers range from the least signed to the greatest unsigned 64-bit number.
inductive Json where
  | null
  | bool (b : Bool)
  | integer (n : Int)
  | decimal (x : Float)
  | text (s : String)
  | array (items : List Json)
  | object (fields : List (String × Json))

-- JSON has no number for what is not finite.
def Scalar.toJson : Scalar → Json
  | .bool b => .bool b
  | .integer n => .integer n.toInt
  | .decimal x => match Decimal.kind x with
    | .finite _ => .decimal x
    | _ => .null
  | .text s => .text s

mutual

def Value.toJson : Value → Json
  | .scalar s => s.toJson
  | .sequence items => .array (itemsToJson items)
  | .map entries => .object (entriesToJson entries)

def itemsToJson : List Value → List Json
  | [] => []
  | item :: rest => item.toJson :: itemsToJson rest

def entriesToJson : List (String × Value) → List (String × Json)
  | [] => []
  | (key, value) :: rest => (key, value.toJson) :: entriesToJson rest

end

end RowPress
