import RowPress.Text.Class
/-! Cutting a text at separators, into lines and into words, and putting other text in. -/
namespace RowPress.Text

-- The characters before a part, last one first, and those after it.
def findPart (part before : List Char) : List Char → Option (List Char × List Char)
  | [] => if part.isEmpty then some (before, []) else none
  | c :: rest =>
    if part.isPrefixOf (c :: rest) then some (before, (c :: rest).drop part.length)
    else findPart part (c :: before) rest

-- Cuts at most the given number of times, at a separator that is not empty.
def cutAt (separator : List Char) : Nat → List Char → List (List Char)
  | 0, cs => [cs]
  | cuts + 1, cs =>
    match findPart separator [] cs with
    | some (before, rest) => before.reverse :: cutAt separator cuts rest
    | none => [cs]

-- Cuts after each character.
def cutEverywhere : Nat → List Char → List (List Char)
  | 0, cs => [cs]
  | _, [] => [[]]
  | cuts + 1, c :: rest => [c] :: cutEverywhere cuts rest

-- An empty separator stands before every character and at the end.
def split (separator : List Char) (cuts : Nat) (cs : List Char) : List (List Char) :=
  if separator.isEmpty then
    match cuts with
    | 0 => [cs]
    | cuts + 1 => [] :: cutEverywhere cuts cs
  else cutAt separator cuts cs

def replace (part by' cs : List Char) : List Char :=
  by'.intercalate (split part (cs.length + 1) cs)

-- Cuts at single blanks, at most the given number of times.
def cutAtBlanks (current : List Char) : Nat → List Char → List (List Char)
  | 0, cs => [current.reverse ++ cs]
  | _, [] => [current.reverse]
  | cuts + 1, c :: rest =>
    if isBlank c then current.reverse :: cutAtBlanks [] cuts rest
    else cutAtBlanks (c :: current) (cuts + 1) rest

def words (cs : List Char) : List (List Char) :=
  (cutAtBlanks [] (cs.length + 1) cs).filter (!·.isEmpty)

-- Takes one character off the end if it is the one meant.
def dropLast (c : Char) (cs : List Char) : List Char :=
  if cs.getLast? == some c then cs.dropLast else cs

-- A line ends in a line feed, which a carriage return may precede. No line follows the last end.
def lines (cs : List Char) : List (List Char) :=
  let parts := cutAt ['\n'] (cs.length + 1) cs
  let ended := parts.dropLast.map (dropLast '\r')
  match parts.getLast? with
  | some (c :: rest) => ended ++ [c :: rest]
  | _ => ended

end RowPress.Text
