import RowPress.Text.Class
import RowPress.Text.CaseTables
/-! Changing case, one character at a time and for a whole text. -/
namespace RowPress.Text

def shifted (runs : List CaseRun) (c : Char) : Option Char :=
  (runs.find? (·.covers c.toNat)).map fun run => Char.ofNat (Int.toNat (c.toNat + run.shift))

-- A dotted capital I is the one character whose lower case form takes two.
def lowerChar (c : Char) : List Char :=
  if c.toNat < 0x80 then [asciiLower c]
  else if c = '\u0130' then ['i', '\u0307']
  else [(shifted lowering c).getD c]

def upperChar (c : Char) : List Char :=
  if c.toNat < 0x80 then [asciiUpper c]
  else match raisingMany.find? (·.1 == c.toNat) with
    | some (_, points) => points.map Char.ofNat
    | none => [(shifted raising c).getD c]

def isLowercase (c : Char) : Bool :=
  if c.toNat < 0x80 then 'a' ≤ c && c ≤ 'z' else lowercase.any (·.covers c.toNat)

def isUppercase (c : Char) : Bool :=
  if c.toNat < 0x80 then isAsciiUpper c else uppercase.any (·.covers c.toNat)

def upper (s : String) : String := String.ofList (s.toList.flatMap upperChar)

-- Whether the nearest character that case rules do not look through takes part in case.
def meetsCased (cs : List Char) : Bool :=
  match cs.find? (fun c => !caseIgnorable.covers c.toNat) with
  | some c => cased.covers c.toNat
  | none => false

-- A capital sigma that ends a word becomes the final form. The characters before are given
-- nearest first.
def lowerFrom (before : List Char) : List Char → List Char
  | [] => []
  | c :: rest =>
    (if c = 'Σ' && meetsCased before && !meetsCased rest then ['ς'] else lowerChar c)
      ++ lowerFrom (c :: before) rest

def lower (s : String) : String := String.ofList (lowerFrom [] s.toList)

end RowPress.Text
