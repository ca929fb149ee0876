import RowPress.Json.Printer
import RowPress.Template.Given
/-! The JSON form of values, and its text where it may stand in markup. -/
namespace RowPress

namespace Template

-- Keys are texts in JSON; numbers and truth values become texts.
def jsonKey : Datum → Option String
  | .text s _ => some s
  | .integer n => some (toString n)
  | .decimal x => some (Decimal.json.write x)
  | .bool b => some (if b then "true" else "false")
  | _ => none

end Template

mutual

def Json.ofDatum : Template.Datum → Option Json
  | .undefined | .nothing => some .null
  | .bool b => some (.bool b)
  | .integer n => some (.integer n)
  | .decimal x => some (.decimal x)
  | .text s _ => some (.text s)
  | .list items => (Json.ofData items).map .array
  | .group items => (Json.ofData items).map .array
  | .stream items _ => (Json.ofData items).map .array
  | .map entries => (Json.ofEntries entries).map .object
  | d => some (.text d.display)

def Json.ofData : List Template.Datum → Option (List Json)
  | [] => some []
  | d :: rest => do return (← Json.ofDatum d) :: (← Json.ofData rest)

def Json.ofEntries : List (Template.Datum × Template.Datum) → Option (List (String × Json))
  | [] => some []
  | (key, value) :: rest => do
    return (← Template.jsonKey key, ← Json.ofDatum value) :: (← Json.ofEntries rest)

end

namespace Template

-- The characters that mean something in markup are written as escapes.
def markupSafe (c : Char) : List Char :=
  match c with
  | '<' => "\\u003c".toList
  | '>' => "\\u003e".toList
  | '&' => "\\u0026".toList
  | '\'' => "\\u0027".toList
  | c => [c]

-- A number of blanks, where a truth value stands for the usual number or none.
def indentation (d : Datum) : Outcome (Option Nat) :=
  match d with
  | .bool true => .ok (some 2)
  | .bool false => .ok none
  | d => some <$> Taking.size d

def jsonFilter : Taking Datum := do
  let d ← Taking.datum
  let given ← Taking.optional Taking.any
  let indent ← match given with
    | some indent => pure (some indent)
    | none => Taking.named "indent" Taking.any
  Taking.onlyNamed ["indent"]
  let width ← (match indent with
    | some indent => indentation indent
    | none => .ok none : Outcome (Option Nat))
  match Json.ofDatum d with
  | none => Taking.refuse (.of .badOperation "cannot serialize to JSON")
  | some j =>
    let text := match width with
      | some n => Json.writePretty ⟨n⟩ 0 j
      | none => Json.writeCompact j
    return .text (String.ofList (text.flatMap markupSafe)) true

end Template

end RowPress
