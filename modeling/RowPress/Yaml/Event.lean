import RowPress.Yaml.Lexer
/-!
The events of a YAML document: its nodes in order, collections with an event at both ends. The
events of the first document are found as far as the document is well formed, so that what they
say is known even if a fault follows.
-/
namespace RowPress.Yaml

structure Tag where
  handle : String
  suffix : String

-- Anchors are numbered from one; zero stands for none.
inductive Event where
  | streamStart | streamEnd | documentStart | documentEnd
  | reference (anchor : Nat)
  | scalar (text : String) (style : Style) (anchor : Nat) (tag : Option Tag)
  | sequenceStart (anchor : Nat) (tag : Option Tag)
  | sequenceEnd
  | mappingStart (anchor : Nat) (tag : Option Tag)
  | mappingEnd

-- A node that is left out.
def Event.absent : Event := .scalar "~" .plain 0 none

-- What the parser expects next.
inductive State where
  | streamStart | implicitDocument | explicitDocument | documentContent | documentEnd | blockNode
  | blockSequenceFirst | blockSequenceEntry | indentlessEntry
  | blockMappingFirst | blockMappingKey | blockMappingValue
  | flowSequenceFirst | flowSequenceEntry | pairKey | pairValue | pairEnd
  | flowMappingFirst | flowMappingKey | flowMappingValue | flowMappingAbsent
  | stop

structure Parser where
  lexer : Lexer
  ahead : Option Token
  state : State
  pending : List State
  anchors : List (String × Nat)
  nextAnchor : Nat
  tags : List (String × String)

abbrev Parsing := StateT Parser (Except Fault)

namespace Parser

def start (text : String) : Parser :=
  ⟨.start text, none, .streamStart, [], [], 1, []⟩

def peek : Parsing Token := do
  let p ← get
  match p.ahead with
  | some token => return token
  | none =>
    let (token, lexer) ← Lexer.nextToken.run p.lexer
    set { p with lexer, ahead := some token }
    return token

def drop : Parsing Unit := modify fun p => { p with ahead := none }

def goto (state : State) : Parsing Unit := modify fun p => { p with state }

-- Remembers what to expect after the node that comes next.
def later (state : State) : Parsing Unit := modify fun p => { p with pending := state :: p.pending }

def resume : Parsing Unit :=
  modify fun p => match p.pending with
    | state :: rest => { p with state, pending := rest }
    | [] => { p with state := .stop }

def fail (mark : Mark) (cause : Cause) : Parsing α := throw ⟨cause, mark⟩

-- An anchor may be given again; aliases refer to the last one before them.
def register (name : String) : Parsing Nat := do
  let p ← get
  set { p with nextAnchor := p.nextAnchor + 1, anchors := (name, p.nextAnchor) :: p.anchors }
  return p.nextAnchor

def declared (p : Parser) (handle : String) : Option String :=
  (p.tags.find? (·.1 == handle)).map (·.2)

def resolve (mark : Mark) (handle suffix : String) : Parsing Tag := do
  let p ← get
  if handle = "!!" then return ⟨(p.declared "!!").getD "tag:yaml.org,2002:", suffix⟩
  else if handle = "" ∧ suffix = "!" then return ⟨(p.declared "").getD "", suffix⟩
  else match p.declared handle with
    | some source => return ⟨source, suffix⟩
    | none =>
      if 2 ≤ handle.length ∧ handle.startsWith "!" ∧ handle.endsWith "!" then
        fail mark .handleUnknown
      else return ⟨handle, suffix⟩

-- The anchor and the tag before a node, in either order.
def properties : Parsing (Nat × Option Tag) := do
  let token ← peek
  match token.kind with
  | .anchor name =>
    drop
    let anchor ← register name
    match (← peek).kind with
    | .tag handle suffix =>
      drop
      return (anchor, some (← resolve token.mark handle suffix))
    | _ => return (anchor, none)
  | .tag handle suffix =>
    drop
    let tag ← resolve token.mark handle suffix
    match (← peek).kind with
    | .anchor name =>
      drop
      return (← register name, some tag)
    | _ => return (0, some tag)
  | _ => return (0, none)

-- The beginning of a node. A sequence in a mapping need not be indented.
def node (block indentless : Bool) : Parsing Event := do
  match ← peek with
  | ⟨mark, .reference name⟩ =>
    resume
    drop
    match (← get).anchors.find? (·.1 == name) with
    | some (_, anchor) => return .reference anchor
    | none => fail mark .anchorUnknown
  | _ =>
    let (anchor, tag) ← properties
    let token ← peek
    match token.kind with
    | .scalar style text =>
      resume
      drop
      return .scalar text style anchor tag
    | .flowSequenceStart => goto .flowSequenceFirst; return .sequenceStart anchor tag
    | .flowMappingStart => goto .flowMappingFirst; return .mappingStart anchor tag
    | kind =>
      match kind, indentless, block with
      | .blockEntry, true, _ => goto .indentlessEntry; return .sequenceStart anchor tag
      | .blockSequenceStart, _, true => goto .blockSequenceFirst; return .sequenceStart anchor tag
      | .blockMappingStart, _, true => goto .blockMappingFirst; return .mappingStart anchor tag
      | _, _, _ =>
        if tag.isSome ∨ 0 < anchor then
          resume
          return .scalar "" .plain anchor tag
        else fail token.mark .nodeContent

-- A node, after which another state is expected.
def nodeThen (state : State) (block indentless : Bool) : Parsing Event := do
  later state
  node block indentless

def absentThen (state : State) : Parsing Event := do
  goto state
  return .absent

def closeWith (event : Event) : Parsing Event := do
  resume
  drop
  return event

def streamStart : Parsing Event := do
  let _ ← peek
  goto .implicitDocument
  drop
  return .streamStart

-- Only the declarations of the last directive are kept.
def directives (versionSeen : Bool) : Nat → Parsing Unit
  | 0 => return ()
  | fuel + 1 => do
    match ← peek with
    | ⟨mark, .version⟩ =>
      if versionSeen then fail mark .versionTwice
      modify fun p => { p with tags := [] }
      drop
      directives true fuel
    | ⟨_, .tagDirective handle source⟩ =>
      modify fun p => { p with tags := [(handle, source)] }
      drop
      directives versionSeen fuel
    | _ => return ()

def allDirectives : Parsing Unit := do directives false ((← get).lexer.cursor.size + 8)

def explicitStart : Parsing Event := do
  allDirectives
  match ← peek with
  | ⟨_, .documentStart⟩ =>
    later .documentEnd
    goto .documentContent
    drop
    return .documentStart
  | ⟨mark, _⟩ => fail mark .documentStart

def dropEnds : Nat → Parsing Unit
  | 0 => return ()
  | fuel + 1 => do
    match (← peek).kind with
    | .documentEnd => drop; dropEnds fuel
    | _ => return ()

def documentStart (isImplicit : Bool) : Parsing Event := do
  dropEnds ((← get).lexer.cursor.size + 8)
  match (← peek).kind with
  | .streamEnd => goto .stop; drop; return .streamEnd
  | .version | .tagDirective _ _ | .documentStart => explicitStart
  | _ =>
    if isImplicit then
      allDirectives
      later .documentEnd
      goto .blockNode
      return .documentStart
    else explicitStart

def documentContent : Parsing Event := do
  match (← peek).kind with
  | .version | .tagDirective _ _ | .documentStart | .documentEnd | .streamEnd =>
    resume
    return .absent
  | _ => node true false

def documentEnd : Parsing Event := do
  match (← peek).kind with
  | .documentEnd =>
    drop
    modify fun p => { p with tags := [] }
    goto .implicitDocument
    return .documentEnd
  | kind =>
    modify fun p => { p with tags := [] }
    match kind with
    | .version | .tagDirective _ _ => fail (← peek).mark .endBeforeDirective
    | _ => goto .explicitDocument; return .documentEnd

def blockMappingKey : Parsing Event := do
  match ← peek with
  | ⟨_, .key⟩ =>
    drop
    match (← peek).kind with
    | .key | .value | .blockEnd => absentThen .blockMappingValue
    | _ => nodeThen .blockMappingValue true true
  | ⟨_, .value⟩ => absentThen .blockMappingValue
  | ⟨_, .blockEnd⟩ => closeWith .mappingEnd
  | ⟨mark, _⟩ => fail mark .blockMapping

def blockMappingValue : Parsing Event := do
  match (← peek).kind with
  | .value =>
    drop
    match (← peek).kind with
    | .key | .value | .blockEnd => absentThen .blockMappingKey
    | _ => nodeThen .blockMappingKey true true
  | _ => absentThen .blockMappingKey

def flowMappingKey (first : Bool) : Parsing Event := do
  match ← peek with
  | ⟨_, .flowMappingEnd⟩ => closeWith .mappingEnd
  | token =>
    if !first then
      match token.kind with
      | .flowEntry => drop
      | _ => fail token.mark .flowMapping
    match (← peek).kind with
    | .key =>
      drop
      match (← peek).kind with
      | .value | .flowEntry | .flowMappingEnd => absentThen .flowMappingValue
      | _ => nodeThen .flowMappingValue false false
    | .value => absentThen .flowMappingValue
    | .flowMappingEnd => closeWith .mappingEnd
    | _ => nodeThen .flowMappingAbsent false false

def flowMappingValue : Parsing Event := do
  match (← peek).kind with
  | .value =>
    drop
    match (← peek).kind with
    | .flowEntry | .flowMappingEnd => absentThen .flowMappingKey
    | _ => nodeThen .flowMappingKey false false
  | _ => absentThen .flowMappingKey

def flowSequenceEntry (first : Bool) : Parsing Event := do
  match ← peek with
  | ⟨_, .flowSequenceEnd⟩ => closeWith .sequenceEnd
  | token =>
    if !first then
      match token.kind with
      | .flowEntry => drop
      | _ => fail token.mark .flowSequence
    match (← peek).kind with
    | .flowSequenceEnd => closeWith .sequenceEnd
    | .key => goto .pairKey; drop; return .mappingStart 0 none
    | _ => nodeThen .flowSequenceEntry false false

def pairKey : Parsing Event := do
  match (← peek).kind with
  | .value | .flowEntry | .flowSequenceEnd => drop; absentThen .pairValue
  | _ => nodeThen .pairValue false false

def pairValue : Parsing Event := do
  match (← peek).kind with
  | .value =>
    drop
    match (← peek).kind with
    | .flowEntry | .flowSequenceEnd => absentThen .pairEnd
    | _ => nodeThen .pairEnd false false
  | _ => absentThen .pairEnd

def indentlessEntry : Parsing Event := do
  match (← peek).kind with
  | .blockEntry =>
    drop
    match (← peek).kind with
    | .blockEntry | .key | .value | .blockEnd => absentThen .indentlessEntry
    | _ => nodeThen .indentlessEntry true false
  | _ =>
    resume
    return .sequenceEnd

def blockSequenceEntry : Parsing Event := do
  match ← peek with
  | ⟨_, .blockEnd⟩ => closeWith .sequenceEnd
  | ⟨_, .blockEntry⟩ =>
    drop
    match (← peek).kind with
    | .blockEntry | .blockEnd => absentThen .blockSequenceEntry
    | _ => nodeThen .blockSequenceEntry true false
  | ⟨mark, _⟩ => fail mark .blockSequence

-- Passes the token that opens a collection.
def opened (rest : Parsing Event) : Parsing Event := do
  let _ ← peek
  drop
  rest

def nextEvent : Parsing Event := do
  match (← get).state with
  | .streamStart => streamStart
  | .implicitDocument => documentStart true
  | .explicitDocument => documentStart false
  | .documentContent => documentContent
  | .documentEnd => documentEnd
  | .blockNode => node true false
  | .blockSequenceFirst => opened blockSequenceEntry
  | .blockSequenceEntry => blockSequenceEntry
  | .indentlessEntry => indentlessEntry
  | .blockMappingFirst => opened blockMappingKey
  | .blockMappingKey => blockMappingKey
  | .blockMappingValue => blockMappingValue
  | .flowSequenceFirst => opened (flowSequenceEntry true)
  | .flowSequenceEntry => flowSequenceEntry false
  | .pairKey => pairKey
  | .pairValue => pairValue
  | .pairEnd => goto .flowSequenceEntry; return .mappingEnd
  | .flowMappingFirst => opened (flowMappingKey true)
  | .flowMappingKey => flowMappingKey false
  | .flowMappingValue => flowMappingValue
  | .flowMappingAbsent => absentThen .flowMappingKey
  | .stop => return .streamEnd

end Parser

-- The events found, and the fault that ended them, if one did.
structure Events where
  found : List Event
  fault : Option Fault

def eventsFrom : Nat → Parser → Events
  | 0, _ => ⟨[], none⟩
  | fuel + 1, p =>
    match Parser.nextEvent.run p with
    | .error fault => ⟨[], some fault⟩
    | .ok (.documentEnd, _) => ⟨[.documentEnd], none⟩
    | .ok (.streamEnd, _) => ⟨[.streamEnd], none⟩
    | .ok (event, p) =>
      let more := eventsFrom fuel p
      ⟨event :: more.found, more.fault⟩

-- The events of the first document of a text. No character gives rise to more than a few tokens,
-- and no token to more than a few events.
def events (text : String) : Events := eventsFrom (64 * (text.length + 4)) (.start text)

end RowPress.Yaml
