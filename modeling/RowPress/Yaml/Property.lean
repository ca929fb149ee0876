import RowPress.Yaml.Cursor
import RowPress.Yaml.Token
/-! Directives, and the properties of nodes: tags, anchors, and the aliases that refer to them. -/
namespace RowPress.Yaml

-- The number of bytes of a character that its first byte announces.
def encodedLength? (byte : Nat) : Option Nat :=
  if byte < 0x80 then some 1
  else if 0xC0 ≤ byte ∧ byte < 0xE0 then some 2
  else if 0xE0 ≤ byte ∧ byte < 0xF0 then some 3
  else if 0xF0 ≤ byte ∧ byte < 0xF8 then some 4
  else none

-- One escaped byte.
def escapedByte (origin : Mark) (c : Cursor) : Except Fault (Nat × Cursor) :=
  match c.next, Text.hexValue? (c.peek 1), Text.hexValue? (c.peek 2) with
  | '%', some high, some low => .ok (high * 16 + low, c.pass 3)
  | _, _, _ => .error ⟨.tagEscape, origin⟩

-- The bytes after the first are set side by side, eight bits each.
def escapedTail (origin : Mark) : Nat → Nat → Cursor → Except Fault (Nat × Cursor)
  | 0, code, c => .ok (code, c)
  | more + 1, code, c => do
    let (byte, c) ← escapedByte origin c
    if byte / 64 ≠ 2 then .error ⟨.tagTrailingByte, origin⟩
    else escapedTail origin more (code * 256 + byte) c

def isCharacter (code : Nat) : Bool :=
  code < 0xD800 || (0xDFFF < code && code < 0x110000)

-- A character given by percent signs and hexadecimal digits.
def escapedCharacter (origin : Mark) (c : Cursor) : Except Fault (Char × Cursor) := do
  let (byte, c) ← escapedByte origin c
  match encodedLength? byte with
  | none => .error ⟨.tagLeadingByte, origin⟩
  | some width =>
    let (code, c) ← escapedTail origin (width - 1) byte c
    if isCharacter code then return (Char.ofNat code, c) else .error ⟨.tagCharacter, origin⟩

-- Characters of a class, escaped or not. The fuel bounds the number of characters.
def uriText (origin : Mark) (test : Char → Bool) : Nat → Cursor → Except Fault (List Char × Cursor)
  | 0, c => .ok ([], c)
  | fuel + 1, c =>
    if !test c.next then .ok ([], c)
    else do
      let (first, c) ← if c.next = '%' then escapedCharacter origin c else .ok (c.next, c.pass 1)
      let (more, c) ← uriText origin test fuel c
      return (first :: more, c)

def Cursor.uri (c : Cursor) (origin : Mark) (test : Char → Bool) :
    Except Fault (List Char × Cursor) :=
  uriText origin test (c.size + 1) c

-- A handle is an exclamation mark, or a name between two; a directive has to close it.
def tagHandle (directive : Bool) (origin : Mark) (c : Cursor) :
    Except Fault (List Char × Cursor) :=
  if c.next ≠ '!' then .error ⟨.tagMark, origin⟩
  else
    let c := c.pass 1
    let name := c.run isWord
    let c := c.passWhile isWord
    if c.next = '!' then .ok ('!' :: name ++ ['!'], c.pass 1)
    else if directive ∧ name ≠ [] then .error ⟨.tagHandleEnd, origin⟩
    else .ok ('!' :: name, c)

-- What a handle stands for.
def tagSource (origin : Mark) (c : Cursor) : Except Fault (List Char × Cursor) := do
  let (first, c) ←
    if c.next = '!' then .ok ('!', c.pass 1)
    else if !isTag c.next then .error ⟨.tagPrefix, origin⟩
    else if c.next = '%' then escapedCharacter origin c
    else .ok (c.next, c.pass 1)
  let (more, c) ← c.uri origin isUri
  return (first :: more, c)

def versionNumber (origin : Mark) (c : Cursor) : Except Fault Cursor :=
  let digits := c.run Text.isAsciiDigit
  if 9 < digits.length then .error ⟨.versionTooLong, origin⟩
  else if digits = [] then .error ⟨.versionNumber, origin⟩
  else .ok (c.pass digits.length)

def directiveValue (origin : Mark) (name : List Char) (c : Cursor) :
    Except Fault (TokenKind × Cursor) := do
  if name = "YAML".toList then
    let c ← versionNumber origin (c.skipWhile isSpace)
    if c.next ≠ '.' then .error ⟨.versionPoint, origin⟩
    else return (.version, ← versionNumber origin (c.pass 1))
  else if name = "TAG".toList then
    let (handle, c) ← tagHandle true origin (c.skipWhile isSpace)
    let (source, c) ← tagSource origin (c.skipWhile isSpace)
    if isSpaceOrEnd c.next then
      return (.tagDirective (String.ofList handle) (String.ofList source), c)
    else .error ⟨.tagPrefixEnd, origin⟩
  else
    -- A directive that is not known is passed over; it counts as one that declares nothing.
    return (.tagDirective "" "", c.passLine)

-- A line that begins with a percent sign.
def directive (c : Cursor) : Except Fault (Token × Cursor) := do
  let origin := c.mark
  let c := c.pass 1
  let name := c.run isWord
  let nameMark := c.mark
  let c := c.passWhile isWord
  if name = [] then .error ⟨.directiveName, nameMark⟩
  else if !isSpaceOrEnd c.next then .error ⟨.directiveNameEnd, nameMark⟩
  else
    let (kind, c) ← directiveValue origin name c
    let c ← c.finishLine
    if isBreakOrEnd c.next then return (⟨origin, kind⟩, c.passBreak)
    else .error ⟨.directiveEnd, origin⟩

-- The part of a tag after its handle; a head that turned out to be no handle belongs to it.
def tagSuffix (origin : Mark) (head : List Char) (c : Cursor) :
    Except Fault (List Char × Cursor) := do
  let (text, c) ← c.uri origin isTag
  if head = [] ∧ text = [] then .error ⟨.tagUri, origin⟩
  else return (head.drop 1 ++ text, c)

def verbatimTag (origin : Mark) (c : Cursor) : Except Fault (List Char × Cursor) := do
  let (text, c) ← (c.pass 2).uri origin isUri
  if c.next ≠ '>' then .error ⟨.verbatimTagEnd, origin⟩ else return (text, c.pass 1)

-- The handle and the suffix of a tag.
def tagParts (origin : Mark) (c : Cursor) : Except Fault (List Char × List Char × Cursor) := do
  if c.peek 1 = '<' then
    let (suffix, c) ← verbatimTag origin c
    return ([], suffix, c)
  else
    let (handle, c) ← tagHandle false origin c
    if 2 ≤ handle.length ∧ handle.getLast? = some '!' then
      let (suffix, c) ← tagSuffix origin [] c
      return (handle, suffix, c)
    else
      let (suffix, c) ← tagSuffix origin handle c
      return if suffix = [] then ([], ['!'], c) else (['!'], suffix, c)

def tag (inFlow : Bool) (c : Cursor) : Except Fault (Token × Cursor) := do
  let origin := c.mark
  let (handle, suffix, c) ← tagParts origin c
  if isSpaceOrEnd c.next || (inFlow && isFlow c.next) then
    return (⟨origin, .tag (String.ofList handle) (String.ofList suffix)⟩, c)
  else .error ⟨.tagEnd, origin⟩

-- An anchor or an alias, after its sign.
def anchorName (kind : String → TokenKind) (c : Cursor) : Except Fault (Token × Cursor) :=
  let inner := c.pass 1
  let name := inner.run isAnchor
  if name = [] then .error ⟨.anchorName, c.mark⟩
  else .ok (⟨c.mark, kind (String.ofList name)⟩, inner.passWhile isAnchor)

end RowPress.Yaml
