import RowPress.Decimal.Written
import RowPress.Text.Quoted
import RowPress.Template.Order
/-!
The text of values. On its own a text stands for itself; inside a collection it is quoted.
-/
namespace RowPress.Template

def truthText (b : Bool) : String := if b then "True" else "False"

mutual

-- The form in which a value stands inside a collection.
def Datum.nested : Datum → String
  | .undefined => "undefined"
  | .nothing => "None"
  | .bool b => truthText b
  | .integer n => toString n
  | .decimal x => Decimal.nested.write x
  | .text s _ => Text.quoted s
  | .list items => "[" ++ nestedItems items ++ "]"
  | .group items => "[" ++ nestedItems items ++ "]"
  | .stream items true => "[" ++ nestedItems items ++ "]"
  | .stream _ false => "<iterator>"
  | .map entries => "\x7b" ++ nestedEntries entries ++ "\x7d"
  | .loop _ => "<loop>"
  | .store _ => "\x7b\x7d"
  | .routine _ name => "<macro " ++ name ++ ">"
  | .builtin _ => "<function>"
  | .shown text => text

def nestedItems : List Datum → String
  | [] => ""
  | [item] => item.nested
  | item :: rest => item.nested ++ ", " ++ nestedItems rest

def nestedEntries : List (Datum × Datum) → String
  | [] => ""
  | [(key, value)] => key.nested ++ ": " ++ value.nested
  | (key, value) :: rest => key.nested ++ ": " ++ value.nested ++ ", " ++ nestedEntries rest

end

def Datum.display : Datum → String
  | .undefined => ""
  | .decimal x => Decimal.pointed.write x
  | .text s _ => s
  | d => d.nested

-- The start of a line at some depth.
def prettyLine (depth : Nat) : String := "\n" ++ String.ofList (List.replicate (4 * depth) ' ')

mutual

-- Collections over several lines, with a comma after each of their parts.
def Datum.pretty (depth : Nat) : Datum → String
  | .list items => prettyList depth items
  | .group items => prettyList depth items
  | .stream items true => prettyList depth items
  | .map [] => "\x7b\x7d"
  | .map (entry :: rest) =>
    "\x7b" ++ prettyEntry (depth + 1) entry ++ prettyEntries (depth + 1) rest
      ++ prettyLine depth ++ "\x7d"
  | d => d.nested

def prettyList (depth : Nat) : List Datum → String
  | [] => "[]"
  | item :: rest =>
    "[" ++ prettyLine (depth + 1) ++ item.pretty (depth + 1) ++ ","
      ++ prettyItems (depth + 1) rest ++ prettyLine depth ++ "]"

def prettyItems (depth : Nat) : List Datum → String
  | [] => ""
  | item :: rest => prettyLine depth ++ item.pretty depth ++ "," ++ prettyItems depth rest

def prettyEntry (depth : Nat) : Datum × Datum → String
  | (key, value) => prettyLine depth ++ key.pretty depth ++ ": " ++ value.pretty depth ++ ","

def prettyEntries (depth : Nat) : List (Datum × Datum) → String
  | [] => ""
  | entry :: rest => prettyEntry depth entry ++ prettyEntries depth rest

end

end RowPress.Template
