import RowPress.Yaml.Fault
import RowPress.Text.Digits
/-!
A place in a document that moves forward over its characters, and the classes of characters that
YAML tells apart. The end of the document reads as a null character, and a null character ends the
document.
-/
namespace RowPress.Yaml

def isEnd (c : Char) : Bool := c.toNat == 0

def isBreak (c : Char) : Bool := c == '\n' || c == '\r'

def isBreakOrEnd (c : Char) : Bool := isBreak c || isEnd c

def isSpace (c : Char) : Bool := c == ' ' || c == '\t'

def isSpaceOrEnd (c : Char) : Bool := isSpace c || isBreakOrEnd c

def isFlow (c : Char) : Bool :=
  c == ',' || c == '[' || c == ']' || c == '\x7b' || c == '\x7d'

def isWord (c : Char) : Bool :=
  Text.isAsciiDigit c || Text.isAsciiLetter c || c == '_' || c == '-'

def isUri (c : Char) : Bool :=
  (isWord c && c != '_') || "#;/?:@&=+$,_.!~*'()[]%".toList.contains c

def isTag (c : Char) : Bool := isUri c && !isFlow c && c != '!'

def isAnchor (c : Char) : Bool :=
  !isSpaceOrEnd c && c != '\ufeff' && !isFlow c

structure Cursor where
  -- Number of characters of the document: a bound for every loop over some of them.
  size : Nat
  rest : List Char
  mark : Mark
  -- Only blanks have been passed since the line began.
  leading : Bool

namespace Cursor

def start (text : List Char) : Cursor := ⟨text.length, text, ⟨0, 1, 0⟩, true⟩

def peek (c : Cursor) (i : Nat) : Char := c.rest.getD i '\x00'

def next (c : Cursor) : Char := c.peek 0

def column (c : Cursor) : Int := c.mark.column

-- Passes a number of characters on the line, none of which tells whether content has begun.
def skip (c : Cursor) (n : Nat) : Cursor :=
  { c with
    rest := c.rest.drop n
    mark := ⟨c.mark.index + n, c.mark.line, c.mark.column + n⟩ }

-- Passes a number of characters of content.
def pass (c : Cursor) (n : Nat) : Cursor := { c.skip n with leading := false }

def newLine (c : Cursor) : Cursor :=
  { c with rest := c.rest.drop 1, mark := ⟨c.mark.index + 1, c.mark.line + 1, 0⟩, leading := true }

-- Passes one line break, if there is one; a carriage return and a line feed make one break.
def passBreak (c : Cursor) : Cursor :=
  if c.next = '\r' ∧ c.peek 1 = '\n' then (c.skip 1).newLine
  else if isBreak c.next then c.newLine
  else c

-- The characters before the first that fails the test.
def run (c : Cursor) (test : Char → Bool) : List Char := c.rest.takeWhile test

-- Passes content while the test holds.
def passWhile (c : Cursor) (test : Char → Bool) : Cursor :=
  let n := (c.run test).length
  if n = 0 then c else c.pass n

def skipWhile (c : Cursor) (test : Char → Bool) : Cursor := c.skip (c.run test).length

def passLine (c : Cursor) : Cursor := c.passWhile (!isBreakOrEnd ·)

def fault (c : Cursor) (cause : Cause) : Except Fault α := .error ⟨cause, c.mark⟩

-- A document starts at three dashes and ends at three points, if a blank or a break follows.
def isMarker (c : Cursor) (of : Char) : Bool :=
  c.next == of && c.peek 1 == of && c.peek 2 == of && isSpaceOrEnd (c.peek 3)

def isAnyMarker (c : Cursor) : Bool := c.isMarker '-' || c.isMarker '.'

end Cursor

-- What lay between a token and the end of its line.
structure Passed where
  tab : Bool
  space : Bool
  cursor : Cursor

-- Passes blanks and a comment, which a blank has to separate from the token before it. The fuel
-- bounds the number of characters.
def passToLineEnd (tabs : Bool) : Nat → Bool → Bool → Cursor → Except Fault Passed
  | 0, tab, space, c => .ok ⟨tab, space, c⟩
  | fuel + 1, tab, space, c =>
    if c.next = ' ' then passToLineEnd tabs fuel tab true (c.skip 1)
    else if c.next = '\t' ∧ tabs then passToLineEnd tabs fuel true space (c.skip 1)
    else if c.next = '#' then
      if !tab && !space then c.fault .commentNotSeparated
      else passToLineEnd tabs fuel tab space c.passLine
    else .ok ⟨tab, space, c⟩

def Cursor.passBlanks (c : Cursor) (tabs : Bool) : Except Fault Passed :=
  passToLineEnd tabs (c.size + 1) false false c

-- Passes blanks with tabs and a comment.
def Cursor.finishLine (c : Cursor) : Except Fault Cursor := do
  return (← c.passBlanks true).cursor

end RowPress.Yaml
