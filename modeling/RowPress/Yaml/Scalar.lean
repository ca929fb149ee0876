import RowPress.Yaml.Cursor
import RowPress.Yaml.Token
import RowPress.Yaml.Property
/-!
The text of scalars: quoted, plain, and in blocks. Line breaks inside a text are folded: a single
one becomes a blank, and of several the first is dropped. In blocks this holds only for folded ones.

Texts are gathered backwards. Fuel arguments bound the number of characters, and one step of a loop
passes at least one of them.
-/
namespace RowPress.Yaml

def newLines (n : Nat) : List Char := List.replicate n '\n'

-- The breaks of a folded text: whether there was a first one, and how many followed.
structure Breaks where
  first : Bool
  more : Nat

def Breaks.none : Breaks := ⟨false, 0⟩

def Breaks.add (b : Breaks) : Breaks := if b.first then ⟨true, b.more + 1⟩ else ⟨true, 0⟩

-- What the breaks become between two words.
def Breaks.folded (b : Breaks) : List Char :=
  if b.first && b.more == 0 then [' '] else newLines b.more

def shortEscape? (c : Char) : Option Char :=
  match c with
  | '0' => some '\x00'
  | 'a' => some '\x07'
  | 'b' => some '\x08'
  | 't' | '\t' => some '\t'
  | 'n' => some '\n'
  | 'v' => some '\x0b'
  | 'f' => some '\x0c'
  | 'r' => some '\r'
  | 'e' => some '\x1b'
  | ' ' => some ' '
  | '"' => some '"'
  | '/' => some '/'
  | '\\' => some '\\'
  | 'N' => some '\u0085'
  | '_' => some '\u00a0'
  | 'L' => some '\u2028'
  | 'P' => some '\u2029'
  | _ => none

def escapeLength? (c : Char) : Option Nat :=
  match c with
  | 'x' => some 2
  | 'u' => some 4
  | 'U' => some 8
  | _ => none

-- An escape after its backslash.
def quotedEscape (origin : Mark) (c : Cursor) : Except Fault (Char × Cursor) :=
  match shortEscape? (c.peek 1), escapeLength? (c.peek 1) with
  | some escaped, _ => .ok (escaped, c.pass 2)
  | none, none => .error ⟨.escapeUnknown, origin⟩
  | none, some length =>
    let inner := c.pass 2
    let digits := inner.rest.take length
    match if digits.length = length then Text.numberIn? 16 digits else none with
    | none => .error ⟨.escapeDigits, origin⟩
    | some code =>
      if isCharacter code then .ok (Char.ofNat code, inner.pass length)
      else .error ⟨.escapeCharacter, origin⟩

-- Characters up to a blank, a break or the closing quote. The flag tells whether an escaped break
-- came last.
def quotedWord (single : Bool) (origin : Mark) :
    Nat → List Char → Cursor → Except Fault (List Char × Bool × Cursor)
  | 0, text, c => .ok (text, false, c)
  | fuel + 1, text, c =>
    if isSpaceOrEnd c.next then .ok (text, false, c)
    else if single then
      if c.next = '\'' then
        if c.peek 1 = '\'' then quotedWord single origin fuel ('\'' :: text) (c.pass 2)
        else .ok (text, false, c)
      else quotedWord single origin fuel (c.next :: text) (c.pass 1)
    else if c.next = '"' then .ok (text, false, c)
    else if c.next = '\\' then
      if isBreak (c.peek 1) then .ok (text, true, (c.pass 1).passBreak)
      else do
        let (escaped, c) ← quotedEscape origin c
        quotedWord single origin fuel (escaped :: text) c
    else quotedWord single origin fuel (c.next :: text) (c.pass 1)

-- Blanks and breaks between words. `broken` tells whether a break, escaped or not, came before.
def quotedGap (indent : Int) :
    Nat → Bool → List Char → Breaks → Cursor → Except Fault (Bool × List Char × Breaks × Cursor)
  | 0, broken, blanks, breaks, c => .ok (broken, blanks, breaks, c)
  | fuel + 1, broken, blanks, breaks, c =>
    if isSpace c.next then
      if broken then
        if c.next = '\t' ∧ c.column < indent then c.fault .quotedTab
        else quotedGap indent fuel broken blanks breaks (c.skip 1)
      else quotedGap indent fuel broken (c.next :: blanks) breaks (c.skip 1)
    else if isBreak c.next then
      if broken then quotedGap indent fuel true blanks ⟨breaks.first, breaks.more + 1⟩ c.passBreak
      else quotedGap indent fuel true [] ⟨true, 0⟩ c.passBreak
    else .ok (broken, blanks, breaks, c)

def quotedLoop (single : Bool) (indent : Int) (origin : Mark) :
    Nat → List Char → Cursor → Except Fault (List Char × Cursor)
  | 0, _, _ => .error ⟨.quotedEnd, origin⟩
  | fuel + 1, text, c => do
    if c.mark.column = 0 ∧ c.isAnyMarker then .error ⟨.quotedMarker, origin⟩
    else if isEnd c.next then .error ⟨.quotedEnd, origin⟩
    else if c.column < indent then .error ⟨.quotedIndent, origin⟩
    else
      let size := c.size + 1
      let (text, broken, c) ← quotedWord single origin size text c
      if c.next = (if single then '\'' else '"') then return (text, c.pass 1)
      else
        let (broken, blanks, breaks, c) ← quotedGap indent size broken [] .none c
        quotedLoop single indent origin fuel
          (if broken then breaks.folded ++ text else blanks ++ text) c

-- Whether content may follow a quoted scalar: the end of the line, an indicator of a collection in
-- braces or brackets, or the colon after a key, which outside of those has to be on one line.
def mayFollowQuoted (inFlow : Bool) (origin : Mark) (c : Cursor) : Bool :=
  isBreakOrEnd c.next
    || (inFlow && (c.next == ',' || c.next == '\x7d' || c.next == ']' || c.next == ':'))
    || (c.next == ':' && origin.line == c.mark.line)

def quotedScalar (single inFlow : Bool) (indent : Int) (c : Cursor) :
    Except Fault (Token × Cursor) := do
  let origin := c.mark
  let (text, c) ← quotedLoop single indent origin (c.size + 1) [] (c.pass 1)
  let c ← c.finishLine
  if mayFollowQuoted inFlow origin c then
    let style := if single then .singleQuoted else .doubleQuoted
    return (⟨origin, .scalar style (String.ofList text.reverse)⟩, c)
  else c.fault .quotedTrailer

-- A colon ends a plain text if a blank follows, and inside a flow collection also before an
-- indicator; there the indicators end it as well.
def continuesPlain (inFlow : Bool) (c : Cursor) : Bool :=
  if c.next = ':' then !(isSpaceOrEnd (c.peek 1) || (inFlow && isFlow (c.peek 1)))
  else !(inFlow && isFlow c.next)

def plainWord (inFlow : Bool) : Nat → List Char → Cursor → List Char × Cursor
  | 0, text, c => (text, c)
  | fuel + 1, text, c =>
    if isSpaceOrEnd c.next || !continuesPlain inFlow c then (text, c)
    else plainWord inFlow fuel (c.next :: text) (c.pass 1)

-- Blanks and breaks between words; the cursor knows whether a break came before.
def plainGap (indent : Int) (origin : Mark) :
    Nat → List Char → Breaks → Cursor → Except Fault (List Char × Breaks × Cursor)
  | 0, blanks, breaks, c => .ok (blanks, breaks, c)
  | fuel + 1, blanks, breaks, c =>
    if isSpace c.next then
      if !c.leading then plainGap indent origin fuel (c.next :: blanks) breaks (c.skip 1)
      else if c.column < indent ∧ c.next = '\t' then do
        let c ← c.finishLine
        if isBreakOrEnd c.next then plainGap indent origin fuel blanks breaks c
        else .error ⟨.plainTab, origin⟩
      else plainGap indent origin fuel blanks breaks (c.skip 1)
    else if isBreak c.next then
      if c.leading then
        plainGap indent origin fuel blanks ⟨breaks.first, breaks.more + 1⟩ c.passBreak
      else plainGap indent origin fuel [] ⟨true, breaks.more⟩ c.passBreak
    else .ok (blanks, breaks, c)

def plainLoop (inFlow : Bool) (indent : Int) (origin : Mark) :
    Nat → List Char → List Char → Breaks → Cursor → Except Fault (List Char × Cursor)
  | 0, text, _, _, c => .ok (text, c)
  | fuel + 1, text, blanks, breaks, c => do
    if (c.leading && c.isAnyMarker) || c.next = '#' then return (text, c)
    else if inFlow && c.next = '-' && isFlow (c.peek 1) then c.fault .plainDash
    else
      let size := c.size + 1
      let (text, blanks, breaks, c) :=
        if isSpaceOrEnd c.next || !continuesPlain inFlow c then (text, blanks, breaks, c)
        else
          let (text, blanks, breaks) :=
            if c.leading then (breaks.folded ++ text, blanks, Breaks.none)
            else (blanks ++ text, [], breaks)
          let (text, c) := plainWord inFlow size text c
          (text, blanks, breaks, c)
      if !(isSpace c.next || isBreak c.next) then return (text, c)
      else
        let (blanks, breaks, c) ← plainGap indent origin size blanks breaks c
        if !inFlow && decide (c.column < indent) then return (text, c)
        else plainLoop inFlow indent origin fuel text blanks breaks c

def plainScalar (inFlow : Bool) (indent : Int) (c : Cursor) : Except Fault (Token × Cursor) := do
  let origin := c.mark
  if inFlow && decide (c.column < indent) then .error ⟨.plainInFlow, origin⟩
  else
    let (text, c) ← plainLoop inFlow indent origin (c.size + 1) [] [] .none c
    return (⟨origin, .scalar .plain (String.ofList text.reverse)⟩, c)

-- What happens to the breaks at the end of a block.
inductive Chomp where
  | strip | clip | keep
deriving DecidableEq

def chompOf? (c : Char) : Option Chomp :=
  if c = '+' then some .keep else if c = '-' then some .strip else none

-- An indentation digit, zero if there is none.
def blockDigit (origin : Mark) (c : Cursor) : Except Fault (Nat × Cursor) :=
  if Text.isAsciiDigit c.next then
    if c.next = '0' then .error ⟨.zeroIndent, origin⟩
    else .ok (c.next.toNat - 48, c.pass 1)
  else .ok (0, c)

-- The indicators after the sign of a block, in either order.
def blockHeader (origin : Mark) (c : Cursor) : Except Fault (Chomp × Nat × Cursor) := do
  match chompOf? c.next with
  | some chomp =>
    let (digit, c) ← blockDigit origin (c.pass 1)
    return (chomp, digit, c)
  | none =>
    let (digit, after) ← blockDigit origin c
    if digit = 0 then return (.clip, 0, c)
    else match chompOf? after.next with
      | some chomp => return (chomp, digit, after.pass 1)
      | none => return (.clip, digit, after)

-- Passes empty lines and the indentation of the first other line; counts the empty lines.
def blockIndent (indent : Nat) : Nat → Nat → Cursor → Nat × Cursor
  | 0, breaks, c => (breaks, c)
  | fuel + 1, breaks, c =>
    let spaces := min (c.run (· == ' ')).length (indent - c.mark.column)
    let c := c.skip spaces
    if isBreak c.next then blockIndent indent fuel (breaks + 1) c.passBreak else (breaks, c)

-- The same where the indentation is not known yet; it is that of the furthest indented line.
def blockFirstIndent : Nat → Nat → Nat → Cursor → Nat × Nat × Cursor
  | 0, widest, breaks, c => (widest, breaks, c)
  | fuel + 1, widest, breaks, c =>
    let c := c.skipWhile (· == ' ')
    let widest := max widest c.mark.column
    if isBreak c.next then blockFirstIndent fuel widest (breaks + 1) c.passBreak
    else (widest, breaks, c)

structure BlockState where
  text : List Char
  -- A break after the last line, and the empty lines after that.
  broken : Bool
  breaks : Nat
  -- Whether the last line began with a blank.
  spaced : Bool

-- Lines at the given indentation.
def blockLines (folds : Bool) (indent : Nat) : Nat → BlockState → Cursor → BlockState × Cursor
  | 0, s, c => (s, c)
  | fuel + 1, s, c =>
    if c.mark.column ≠ indent ∨ isEnd c.next ∨ (indent = 0 ∧ c.isMarker '.') then (s, c)
    else
      let spaced := isSpace c.next
      let gap :=
        if folds && s.broken && !s.spaced && !spaced then
          if s.breaks = 0 then [' '] else newLines s.breaks
        else newLines (if s.broken then s.breaks + 1 else s.breaks)
      let line := c.run (!isBreakOrEnd ·)
      let text := line.reverse ++ gap ++ s.text
      let c := c.skip line.length
      if isEnd c.next then (⟨text, false, 0, spaced⟩, c)
      else
        let (breaks, c) := blockIndent indent (c.size + 1) 0 c.passBreak
        blockLines folds indent fuel ⟨text, true, breaks, spaced⟩ c

def blockScalar (literal : Bool) (outer : Int) (c : Cursor) : Except Fault (Token × Cursor) := do
  let origin := c.mark
  let style := if literal then Style.literal else Style.folded
  let (chomp, digit, c) ← blockHeader origin (c.pass 1)
  let c ← c.finishLine
  if !isBreakOrEnd c.next then .error ⟨.blockHeader, origin⟩
  else
    let broken := isBreak c.next
    let c := c.passBreak
    if c.next = '\t' then .error ⟨.blockTab, origin⟩
    else
      let size := c.size + 1
      let (indent, breaks, c) :=
        if digit = 0 then
          let (widest, breaks, c) := blockFirstIndent size 0 0 c
          let indent := max widest (outer + 1).toNat
          (if 0 < outer then max indent 1 else indent, breaks, c)
        else
          let indent := if 0 ≤ outer then (outer + digit).toNat else digit
          let (breaks, c) := blockIndent indent size 0 c
          (indent, breaks, c)
      if isEnd c.next then
        let text :=
          if chomp = .strip || c.mark.line = origin.line then []
          else if chomp = .clip || breaks = 0 then newLines (if broken then 1 else 0)
          else newLines breaks
        return (⟨origin, .scalar style (String.ofList text)⟩, c)
      else if c.mark.column < indent ∧ outer < c.column then c.fault .blockIndent
      else
        let origin := c.mark
        let (s, c) := blockLines (!literal) indent size ⟨[], false, breaks, false⟩ c
        let text :=
          if chomp = .strip then s.text
          else
            newLines (if s.broken then 1 else 0) ++ s.text
        let text :=
          if chomp ≠ .strip && isEnd c.next && max indent 1 ≤ c.mark.column then '\n' :: text
          else text
        let text := if chomp = .keep then newLines s.breaks ++ text else text
        return (⟨origin, .scalar style (String.ofList text.reverse)⟩, c)

end RowPress.Yaml
