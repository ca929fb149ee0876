import RowPress.Json.Basic
import RowPress.Text.Quoted
/-! JSON text: on one line without blanks, or over several lines with indentation. -/
namespace RowPress.Json

-- Quotes, backslashes and control characters are escaped, everything else stands for itself.
def escapedChar (c : Char) : List Char :=
  if c = '"' then ['\\', '"']
  else if c = '\\' then ['\\', '\\']
  else if c = '\n' then ['\\', 'n']
  else if c = '\r' then ['\\', 'r']
  else if c = '\t' then ['\\', 't']
  else if c.toNat = 8 then ['\\', 'b']
  else if c.toNat = 12 then ['\\', 'f']
  else if c.toNat < 0x20 then
    ['\\', 'u', '0', '0', Text.hexDigit (c.toNat / 16), Text.hexDigit (c.toNat % 16)]
  else [c]

def writeText (s : String) : List Char := '"' :: s.toList.flatMap escapedChar ++ ['"']

def writeLeaf : Json → List Char
  | .null => "null".toList
  | .bool b => (if b then "true" else "false").toList
  | .integer n => (toString n).toList
  | .decimal x => (Decimal.json.write x).toList
  | .text s => writeText s
  | .array _ => []
  | .object _ => []

mutual

def writeCompact : Json → List Char
  | .array items => '[' :: compactItems items ++ [']']
  | .object fields => '\x7b' :: compactFields fields ++ ['\x7d']
  | leaf => writeLeaf leaf

def compactItems : List Json → List Char
  | [] => []
  | [item] => writeCompact item
  | item :: rest => writeCompact item ++ ',' :: compactItems rest

def compactFields : List (String × Json) → List Char
  | [] => []
  | [(key, value)] => writeText key ++ ':' :: writeCompact value
  | (key, value) :: rest => writeText key ++ ':' :: writeCompact value ++ ',' :: compactFields rest

end

-- How far each level is indented.
structure Layout where
  unit : Nat

def Layout.newLine (layout : Layout) (depth : Nat) : List Char :=
  '\n' :: List.replicate (layout.unit * depth) ' '

mutual

-- Empty collections stay on one line.
def writePretty (layout : Layout) (depth : Nat) : Json → List Char
  | .array [] => ['[', ']']
  | .array (item :: rest) =>
    '[' :: layout.newLine (depth + 1) ++ writePretty layout (depth + 1) item
      ++ prettyItems layout (depth + 1) rest ++ layout.newLine depth ++ [']']
  | .object [] => ['\x7b', '\x7d']
  | .object ((key, value) :: rest) =>
    '\x7b' :: layout.newLine (depth + 1) ++ writeText key ++ [':', ' ']
      ++ writePretty layout (depth + 1) value
      ++ prettyFields layout (depth + 1) rest ++ layout.newLine depth ++ ['\x7d']
  | leaf => writeLeaf leaf

-- What follows the first item, each after a comma on a line of its own.
def prettyItems (layout : Layout) (depth : Nat) : List Json → List Char
  | [] => []
  | item :: rest =>
    ',' :: layout.newLine depth ++ writePretty layout depth item ++ prettyItems layout depth rest

def prettyFields (layout : Layout) (depth : Nat) : List (String × Json) → List Char
  | [] => []
  | (key, value) :: rest =>
    ',' :: layout.newLine depth ++ writeText key ++ [':', ' '] ++ writePretty layout depth value
      ++ prettyFields layout depth rest

end

def compact (j : Json) : String := String.ofList (writeCompact j)

def pretty (j : Json) : String := String.ofList (writePretty ⟨2⟩ 0 j)

end RowPress.Json
