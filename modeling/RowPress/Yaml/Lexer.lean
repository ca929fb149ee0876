import RowPress.Yaml.Scalar
/-!
The tokens of a document, one after the other. Block structure is told by indentation, and a key of
a mapping is known as one only at the colon after it; so tokens that open a mapping may be put in
before tokens that were already found, and a token is given out only when that can no longer
happen.
-/
namespace RowPress.Yaml

-- A place where a token may turn out to be a key.
structure KeyCandidate where
  possible : Bool
  required : Bool
  -- The number of tokens found before it.
  number : Nat
  mark : Mark

def KeyCandidate.none : KeyCandidate := ⟨false, false, 0, ⟨0, 0, 0⟩⟩

-- An indentation to go back to, and whether leaving the present one ends a block.
structure Indent where
  outer : Int
  endsBlock : Bool

structure Lexer where
  cursor : Cursor
  -- All tokens found so far; the first `given` of them have been given out.
  tokens : Array Token
  given : Nat
  started : Bool
  keyAllowed : Bool
  -- One candidate for the block and one for each flow collection, the innermost first.
  candidates : List KeyCandidate
  indent : Int
  indents : List Indent
  flowLevel : Nat
  -- Where a colon counts as an indicator even if a character follows it.
  adjacentAt : Nat
  flowMapping : Bool
  -- For each flow sequence, innermost first, whether a single pair is open in it.
  pairs : List Bool

abbrev Lexing := StateT Lexer (Except Fault)

namespace Lexer

def start (text : String) : Lexer where
  cursor := .start text.toList
  tokens := #[]
  given := 0
  started := false
  keyAllowed := true
  candidates := []
  indent := -1
  indents := []
  flowLevel := 0
  adjacentAt := 0
  flowMapping := false
  pairs := []

def inFlow (l : Lexer) : Bool := l.flowLevel != 0

def fail (cause : Cause) : Lexing α := do throw ⟨cause, (← get).cursor.mark⟩

def failAt (mark : Mark) (cause : Cause) : Lexing α := throw ⟨cause, mark⟩

def move (f : Cursor → Cursor) : Lexing Unit := modify fun l => { l with cursor := f l.cursor }

def moveM (f : Cursor → Except Fault Cursor) : Lexing Unit := do
  let c ← f (← get).cursor
  modify fun l => { l with cursor := c }

def emit (mark : Mark) (kind : TokenKind) : Lexing Unit :=
  modify fun l => { l with tokens := l.tokens.push ⟨mark, kind⟩ }

def emitBefore (number : Nat) (mark : Mark) (kind : TokenKind) : Lexing Unit :=
  modify fun l => { l with tokens := l.tokens.insertIdxIfInBounds number ⟨mark, kind⟩ }

-- Finds a token at the cursor and appends it.
def emitFrom (f : Cursor → Except Fault (Token × Cursor)) : Lexing Unit := do
  let (token, c) ← f (← get).cursor
  modify fun l => { l with cursor := c, tokens := l.tokens.push token }

def allowKey : Lexing Unit := modify fun l => { l with keyAllowed := true }

def forbidKey : Lexing Unit := modify fun l => { l with keyAllowed := false }

-- Outside of flow collections a key has to end on its line, and within 1024 characters.
def dropStaleCandidates : Lexing Unit := do
  let l ← get
  if l.inFlow then return ()
  let stale (k : KeyCandidate) : Bool :=
    k.possible && (decide (k.mark.line < l.cursor.mark.line)
      || decide (k.mark.index + 1024 < l.cursor.mark.index))
  if l.candidates.any fun k => stale k && k.required then fail .keyWithoutColon
  set { l with candidates :=
    l.candidates.map fun k => if stale k then { k with possible := false } else k }

-- A required candidate that is given up leaves a block mapping without its key.
def dropCandidate : Lexing Unit := do
  let l ← get
  match l.candidates with
  | [] => return ()
  | k :: rest =>
    if k.possible && k.required then fail .keyExpected
    set { l with candidates := { k with possible := false } :: rest }

def saveCandidate : Lexing Unit :=
  modify fun l =>
    if l.keyAllowed then
      let required := !l.inFlow && l.indent == l.cursor.column
        && (l.indents.head?.map (·.endsBlock)).getD false
      { l with candidates := ⟨true, required, l.tokens.size, l.cursor.mark⟩ :: l.candidates.drop 1 }
    else l

-- Leaves indentations that are deeper than a column.
def unrollTo (column : Int) : Lexing Unit :=
  modify fun l => if l.inFlow then l else go l l.indents
where
  go (l : Lexer) : List Indent → Lexer
    | [] => { l with indents := [] }
    | i :: rest =>
      if column < l.indent then
        let tokens := if i.endsBlock then l.tokens.push ⟨l.cursor.mark, .blockEnd⟩ else l.tokens
        go { l with indent := i.outer, tokens } rest
      else { l with indents := i :: rest }

-- Opens a block at a column, if that is deeper. An indentation that only waited for a block gives
-- way to it.
def rollTo (column : Nat) (number : Option Nat) (kind : TokenKind) (mark : Mark) : Lexing Unit := do
  let l ← get
  if l.inFlow then return ()
  let l := match l.indents with
    | i :: rest =>
      if l.indent ≤ (column : Int) ∧ ¬ i.endsBlock then { l with indent := i.outer, indents := rest } else l
    | [] => l
  set l
  if l.indent < (column : Int) then
    set { l with indent := (column : Int), indents := ⟨l.indent, true⟩ :: l.indents }
    match number with
    | some n => emitBefore n mark kind
    | none => emit mark kind

-- Content of a block entry has to stand at least one column further right.
def rollOne : Lexing Unit :=
  modify fun l =>
    if !l.inFlow && (l.indents.head?.map (·.endsBlock)).getD false then
      { l with indent := l.indent + 1, indents := ⟨l.indent, false⟩ :: l.indents }
    else l

def unrollWaiting : Lexing Unit :=
  modify fun l => go l l.indents
where
  go (l : Lexer) : List Indent → Lexer
    | [] => { l with indents := [] }
    | i :: rest => if i.endsBlock then { l with indents := i :: rest } else go { l with indent := i.outer } rest

-- Closes the single pair that is open in the innermost flow sequence.
def closePair : Lexing Unit := do
  let l ← get
  match l.pairs with
  | true :: rest =>
    set { l with flowMapping := false, pairs := false :: rest }
    emit l.cursor.mark .flowMappingEnd
  | _ => return ()

-- Blanks, comments and breaks before a token. The fuel bounds the number of characters.
def passGap : Nat → Lexing Unit
  | 0 => return ()
  | fuel + 1 => do
    let l ← get
    let c := l.cursor
    if c.next = '\t' ∧ ¬ l.indents.isEmpty ∧ c.leading ∧ c.column < l.indent then
      moveM Cursor.finishLine
      if !isBreakOrEnd (← get).cursor.next then fail .tabIndentation
      passGap fuel
    else if isSpace c.next then
      move (·.skip 1)
      passGap fuel
    else if isBreak c.next then
      move Cursor.passBreak
      if !l.inFlow then allowKey
      passGap fuel
    else if c.next = '#' then
      move Cursor.passLine
      passGap fuel
    else return ()

def passToToken : Lexing Unit := do passGap ((← get).cursor.size + 1)

-- What has to separate a key indicator from its key.
def passKeyGap (passed : Bool) : Nat → Lexing Unit
  | 0 => return ()
  | fuel + 1 => do
    let l ← get
    let c := l.cursor
    if c.next = ' ' then
      move (·.skip 1)
      passKeyGap true fuel
    else if isBreak c.next then
      move Cursor.passBreak
      if !l.inFlow then allowKey
      passKeyGap true fuel
    else if c.next = '#' then
      move Cursor.passLine
      passKeyGap passed fuel
    else if !passed then fail .keyNotSeparated
    else return ()

def streamStart : Lexing Unit := do
  modify fun l => { l with
    indent := -1, started := true, keyAllowed := true, candidates := [.none] }
  emit (← get).cursor.mark .streamStart

def streamEnd : Lexing Unit := do
  -- The end counts as the beginning of a new line.
  move fun c => if c.mark.column = 0 then c else
    { c with mark := ⟨c.mark.index, c.mark.line + 1, 0⟩ }
  if (← get).candidates.any fun k => k.required && k.possible then fail .keyExpected
  modify fun l => { l with candidates := l.candidates.map fun k => { k with possible := false } }
  unrollTo (-1)
  dropCandidate
  forbidKey
  emit (← get).cursor.mark .streamEnd

def directiveLine : Lexing Unit := do
  unrollTo (-1)
  dropCandidate
  forbidKey
  emitFrom directive

def documentMarker (kind : TokenKind) : Lexing Unit := do
  unrollTo (-1)
  dropCandidate
  forbidKey
  let mark := (← get).cursor.mark
  move (·.pass 3)
  emit mark kind

def documentEnd : Lexing Unit := do
  documentMarker .documentEnd
  moveM Cursor.finishLine
  if !isBreakOrEnd (← get).cursor.next then fail .contentAfterEnd

def maxFlowLevel : Nat := 255

def flowStart (isMapping : Bool) : Lexing Unit := do
  saveCandidate
  rollOne
  modify fun l => { l with candidates := .none :: l.candidates }
  if maxFlowLevel ≤ (← get).flowLevel then fail .tooDeep
  modify fun l => { l with flowLevel := l.flowLevel + 1 }
  allowKey
  let mark := (← get).cursor.mark
  move (·.pass 1)
  modify fun l =>
    if isMapping then { l with flowMapping := true } else { l with pairs := false :: l.pairs }
  moveM Cursor.finishLine
  emit mark (if isMapping then .flowMappingStart else .flowSequenceStart)

def flowEnd (isMapping : Bool) : Lexing Unit := do
  dropCandidate
  modify fun l =>
    if l.inFlow then { l with flowLevel := l.flowLevel - 1, candidates := l.candidates.drop 1 }
    else l
  forbidKey
  if !isMapping then
    closePair
    modify fun l => { l with pairs := l.pairs.drop 1 }
  let mark := (← get).cursor.mark
  move (·.pass 1)
  moveM Cursor.finishLine
  modify fun l => if l.inFlow then { l with adjacentAt := l.cursor.mark.index } else l
  emit mark (if isMapping then .flowMappingEnd else .flowSequenceEnd)

def flowEntry : Lexing Unit := do
  dropCandidate
  allowKey
  closePair
  let mark := (← get).cursor.mark
  move (·.pass 1)
  moveM Cursor.finishLine
  emit mark .flowEntry

-- A tag or an anchor in the first column cannot belong to a sequence that starts in it.
def checkProperty (l : Lexer) : Lexing Unit :=
  match if l.given < l.tokens.size then l.tokens.back? else none with
  | some ⟨mark, .anchor _⟩ | some ⟨mark, .tag _ _⟩ =>
    if l.cursor.mark.column = 0 ∧ mark.column = 0 ∧ -1 < l.indent then
      failAt mark .anchorIndentation
    else return ()
  | _ => return ()

def blockEntry : Lexing Unit := do
  let l ← get
  if l.inFlow then fail .dashInFlow
  if !l.keyAllowed then fail .entryNotAllowed
  checkProperty l
  let mark := l.cursor.mark
  move (·.pass 1)
  rollTo mark.column none .blockSequenceStart mark
  let passed ← (← get).cursor.passBlanks true
  move fun _ => passed.cursor
  let c := (← get).cursor
  if passed.tab && c.next == '-' && isSpaceOrEnd (c.peek 1) then fail .dashNotSeparated
  let passed ← c.passBlanks false
  move fun _ => passed.cursor
  let c := (← get).cursor
  if isBreak c.next || isFlow c.next then rollOne
  dropCandidate
  allowKey
  emit (← get).cursor.mark .blockEntry

def keyIndicator : Lexing Unit := do
  let l ← get
  let mark := l.cursor.mark
  if !l.inFlow then
    if !l.keyAllowed then fail .keyNotAllowed
    rollTo mark.column none .blockMappingStart mark
  else modify fun l => { l with flowMapping := true }
  dropCandidate
  if l.inFlow then forbidKey else allowKey
  move (·.pass 1)
  passKeyGap false ((← get).cursor.size + 1)
  if (← get).cursor.next = '\t' then fail .tabAfterKey
  emit mark .key

def valueIndicator : Lexing Unit := do
  let l ← get
  let candidate := l.candidates.head?.getD .none
  let mark := l.cursor.mark
  let isPair := !l.pairs.isEmpty && !l.flowMapping
  if isPair then modify fun l => { l with pairs := true :: l.pairs.drop 1 }
  move (·.pass 1)
  if (← get).cursor.next = '\t' then
    let passed ← (← get).cursor.passBlanks true
    move fun _ => passed.cursor
    let c := passed.cursor
    if !passed.space && (c.next == '-' || isWord c.next) then fail .valueNotSeparated
  if candidate.possible then
    emitBefore candidate.number candidate.mark .key
    if isPair then
      if candidate.mark.line < mark.line then failAt mark .colonMisplaced
      emitBefore candidate.number (← get).cursor.mark .flowMappingStart
    rollTo candidate.mark.column (some candidate.number) .blockMappingStart mark
    rollOne
    modify fun l => { l with candidates := match l.candidates with
      | k :: rest => { k with possible := false } :: rest
      | [] => [] }
    forbidKey
  else
    if isPair then emit (← get).cursor.mark .flowMappingStart
    if !l.inFlow then
      if !l.keyAllowed then failAt mark .valueNotAllowed
      rollTo mark.column none .blockMappingStart mark
    rollOne
    if l.inFlow then forbidKey else allowKey
  emit mark .value

def property (f : Cursor → Except Fault (Token × Cursor)) : Lexing Unit := do
  saveCandidate
  forbidKey
  emitFrom f

def blockText (literal : Bool) : Lexing Unit := do
  saveCandidate
  allowKey
  unrollWaiting
  emitFrom (blockScalar literal (← get).indent)

def quotedText (single : Bool) : Lexing Unit := do
  saveCandidate
  forbidKey
  let l ← get
  let (token, c) ← quotedScalar single l.inFlow l.indent l.cursor
  set { l with cursor := c }
  passToToken
  modify fun l => { l with
    adjacentAt := l.cursor.mark.index, tokens := l.tokens.push token }

def plainText : Lexing Unit := do
  saveCandidate
  forbidKey
  unrollWaiting
  let l ← get
  emitFrom (plainScalar l.inFlow (l.indent + 1))
  if (← get).cursor.leading then allowKey

-- Whether the next character is an indicator because of what follows it.
def isValueIndicator (l : Lexer) : Bool :=
  let following := l.cursor.peek 1
  isSpaceOrEnd following
    || (l.inFlow && (isFlow following || l.cursor.mark.index == l.adjacentAt))

def content : Lexing Unit := do
  let l ← get
  let spaced := isSpaceOrEnd (l.cursor.peek 1)
  match l.cursor.next with
  | '[' => flowStart false
  | '\x7b' => flowStart true
  | ']' => flowEnd false
  | '\x7d' => flowEnd true
  | ',' => flowEntry
  | '-' => if spaced then blockEntry else plainText
  | '?' => if spaced then keyIndicator else plainText
  | ':' => if l.isValueIndicator then valueIndicator else plainText
  | '*' => property (anchorName .reference)
  | '&' => property (anchorName .anchor)
  | '!' => property (tag l.inFlow)
  | '|' => if l.inFlow then plainText else blockText true
  | '>' => if l.inFlow then plainText else blockText false
  | '\'' => quotedText true
  | '"' => quotedText false
  | '%' => fail (.strayCharacter '%')
  | '@' => fail (.strayCharacter '@')
  | '\x60' => fail (.strayCharacter '\x60')
  | _ => plainText

-- Finds at least one more token.
def fetch : Lexing Unit := do
  if !(← get).started then streamStart
  else
    passToToken
    dropStaleCandidates
    unrollTo (← get).cursor.column
    let l ← get
    let c := l.cursor
    if isEnd c.next then streamEnd
    else if c.mark.column = 0 ∧ c.next = '%' then directiveLine
    else if c.mark.column = 0 ∧ c.isMarker '-' then documentMarker .documentStart
    else if c.mark.column = 0 ∧ c.isMarker '.' then documentEnd
    else if c.column < l.indent then fail .badIndentation
    else content

-- Whether the next token to give out may still get a token put in before it.
def isUndecided (l : Lexer) : Bool :=
  l.candidates.any fun k => k.possible && k.number == l.given

-- Fetches until the next token is decided.
def decideNext : Nat → Lexing Unit
  | 0 => return ()
  | fuel + 1 => do
    if (← get).given < (← get).tokens.size then
      dropStaleCandidates
      if !(← get).isUndecided then return ()
    fetch
    decideNext fuel

-- The next token. After the end of the stream there are none.
def nextToken : Lexing Token := do
  decideNext (2 * (← get).cursor.size + 8)
  let l ← get
  match l.tokens[l.given]? with
  | some token =>
    set { l with given := l.given + 1 }
    return token
  | none => fail .noToken

end Lexer

end RowPress.Yaml
