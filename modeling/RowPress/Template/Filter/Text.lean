import RowPress.Decimal.Read
import RowPress.Template.Escape
import RowPress.Template.Format
import RowPress.Text.Case
import RowPress.Text.Pieces
/-! Filters on texts. Most of them work on the text of whatever value they are given. -/
namespace RowPress.Template.Filter

open Taking

-- A filter that takes a text and nothing else.
def onText (f : List Char → List Char) : Taking Datum := do
  let s ← text
  return .ofText (String.ofList (f s.toList))

def upper : Taking Datum := return .ofText (Text.upper (← text))

def lower : Taking Datum := return .ofText (Text.lower (← text))

-- The first letter of every word in upper case; a word ends at a blank or an ASCII punctuation.
def titled (first : Bool) : List Char → List Char
  | [] => []
  | c :: rest =>
    if Text.isAsciiPunctuation c || Text.isBlank c then c :: titled true rest
    else (if first then Text.upperChar c else Text.lowerChar c) ++ titled false rest

def title : Taking Datum := onText (titled true)

def capitalize : Taking Datum := do
  let s ← text
  match s.toList with
  | [] => return .ofText ""
  | c :: rest =>
    return .ofText (String.ofList (Text.upperChar c) ++ Text.lower (String.ofList rest))

def replace : Taking Datum := do
  let s ← text
  let part ← text
  let by' ← text
  return .ofText (String.ofList (Text.replace part.toList by'.toList s.toList))

-- Blanks, or the characters given, are taken off both ends.
def trim : Taking Datum := do
  let s ← text
  let ends ← optionalText
  match ends with
  | some ends =>
    return .ofText (String.ofList (Text.trimWhile (ends.toList.contains ·) s.toList))
  | none => return .ofText (Text.trim s)

-- Parts are counted only when they are gone through.
def split : Taking Datum := do
  let s ← exactText (← datum)
  let separator ← optional exactText
  let most ← optional long
  let cs := s.toList
  let cuts := (most.bind fun n => if 0 ≤ n then some n.toNat else none)
  let parts := match separator, cuts with
    | none, none => Text.words cs
    | none, some cuts => Text.cutAtBlanks [] cuts cs
    | some separator, cuts => Text.split separator.toList (cuts.getD (cs.length + 1)) cs
  return .stream (parts.map fun part => .ofText (String.ofList part)) false

def lines : Taking Datum := do
  let s ← exactText (← datum)
  return .list ((Text.lines s.toList).map fun line => .ofText (String.ofList line))

def withoutLastBreak (cs : List Char) : List Char := Text.dropLast '\r' (Text.dropLast '\n' cs)

def indented (blanks : List Char) (blankLines : Bool) (line : List Char) : List Char :=
  if line.isEmpty then (if blankLines then blanks else []) else blanks ++ line

-- The first line and blank lines are indented on demand.
def indent : Taking Datum := do
  let s ← text
  let width ← size (← datum)
  let first := (← optional flag).getD false
  let blankLines := (← optional flag).getD false
  let blanks := List.replicate width ' '
  let cs := withoutLastBreak s.toList
  let lines := Text.cutAt ['\n'] (cs.length + 1) cs
  let done := match lines with
    | [] => []
    | line :: rest =>
      (if first then indented blanks blankLines line else line)
        :: rest.map (indented blanks blankLines)
  let out := done.flatMap fun line => line ++ ['\n']
  return .ofText (String.ofList (withoutLastBreak out))

-- A joiner comes before an item only if something was written already. Of a map the keys are joined.
def joinItems (joiner : String) (items : List Datum) : String :=
  items.foldl (fun out item => (if out.isEmpty then out else out ++ joiner) ++ item.display) ""

def join : Taking Datum := do
  let d ← datum
  let joiner := (← optionalText).getD ""
  match d.elements? with
  | some items => return .ofText (joinItems joiner items)
  | none => refuse (.of .badOperation s!"cannot join value of type {d.kind.name}")

def string : Taking Datum := do
  match ← datum with
  | .text s safe => return .text s safe
  | d => return .ofText d.display

def safe : Taking Datum := return .text (← text) true

-- Escapes for markup where the output itself is not escaped.
def escape (mode : Escape) : Taking Datum := do
  match ← datum with
  | .text s true => return .text s true
  | d => return .text (← ((if mode = .off then Escape.html else mode).write d : Outcome String)) true

def hexByte (n : Nat) : List Char :=
  ['%', Text.asciiUpper (Text.hexDigit (n / 16)), Text.asciiUpper (Text.hexDigit (n % 16))]

def isUrlSafe (c : Char) : Bool :=
  Text.isAsciiDigit c || Text.isAsciiLetter c || ['/', '.', '-', '_'].contains c

def urlText (s : String) : String :=
  String.ofList (s.toList.flatMap fun c =>
    if isUrlSafe c then [c]
    else (String.singleton c).toUTF8.toList.flatMap fun b => hexByte b.toNat)

-- A map becomes a query, without its absent values.
def urlencode : Taking Datum := do
  match ← datum with
  | .map entries =>
    let shown := entries.filter fun (_, v) => !v.isAbsent
    return .ofText ("&".intercalate
      (shown.map fun (k, v) => urlText k.display ++ "=" ++ urlText v.display))
  | .nothing => return .ofText ""
  | d => return .ofText (urlText d.display)

def pretty : Taking Datum := return .ofText ((← datum).pretty 0)

end RowPress.Template.Filter
