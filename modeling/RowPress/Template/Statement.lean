import RowPress.Template.Expression
/-!
The grammar of tags, and with it of whole templates. Bodies end at the tag that their opening tag
looks for; a body without an end is missed only where its own tag should have ended.
-/
namespace RowPress.Template

namespace Tag

open Parsing

-- The names that cannot be assigned to.
def reserved : List String := ["true", "True", "false", "False", "none", "None", "loop", "self"]

def targetName : Parsing String := do
  let name ← expectName
  if reserved.contains name then malformed s!"cannot assign to reserved variable name {name}"
  else return name

def dottedTarget : Nat → Expr → String → Nat → Parsing Target
  | 0, subject, name, _ => return .attribute subject name
  | fuel + 1, subject, name, line => do
    if ← skipSymbol .dot then
      let inner : Expr := .attribute subject name
      dottedTarget fuel inner (← expectName) line
    else return .attribute subject name

-- A name, or with dots an attribute to be set.
def singleTarget (dotted : Bool) : Parsing Target := do
  let name ← targetName
  let line := (← get).line
  if dotted then
    if ← skipSymbol .dot then
      dottedTarget (← bound) (.name name line) (← expectName) line
    else return .name name
  else return .name name

def endsTargets : Token → Bool
  | .symbol .parenClose | .outputEnd | .tagEnd => true
  | .name s => s == "in"
  | _ => false

-- One target or several between commas, where each may be a group in parentheses. Fuel bounds both
-- the number of parts and the nesting of groups.
def targets (dotted : Bool) : Nat → Bool → List Target → Parsing (Bool × List Target)
  | 0, several, parts => return (several, parts.reverse)
  | fuel + 1, several, parts => do
    if !parts.isEmpty then expectSymbol .comma
    if ← meets endsTargets then return (several, parts.reverse)
    let part ←
      if ← skipSymbol .parenOpen then
        let line ← lineHere
        let (severalInside, inside) ← targets dotted fuel false []
        expectSymbol .parenClose
        pure (match severalInside, inside with
          | false, [one] => one
          | _, inside => .several inside line)
      else singleTarget dotted
    if ← meets (·.isSymbol .comma) then targets dotted fuel true (part :: parts)
    else return (several, (part :: parts).reverse)

def target (dotted : Bool) : Parsing Target := do
  let line ← lineHere
  match ← targets dotted ((← bound) + 1) false [] with
  | (false, [one]) => return one
  | (_, parts) => return .several parts line

-- A group in parentheses or a single target, with whether it was a group.
def groupOr (single : Parsing Target) : Parsing (Target × Bool) := do
  if ← skipSymbol .parenOpen then
    let t ← target false
    expectSymbol .parenClose
    return (t, true)
  else return (← single, false)

-- What a tag needs to know of the tags and expressions inside it.
structure Inner where
  grammar : Grammar
  body : (Token → Bool) → Parsing (List Node)

def isWord (words : List String) : Token → Bool
  | .name s => words.contains s
  | _ => false

-- A body up to a tag of the given name, and that name.
def Inner.bodyTo (i : Inner) (closing : String) : Parsing (List Node) := do
  let nodes ← i.body (isWord [closing])
  discard next
  return nodes

def loopTag (i : Inner) : Parsing Node := inLoop true do
  let t ← target false
  expectWord "in" "in"
  let source ← i.grammar.plain
  let filter ← if ← skipWord "if" then some <$> i.grammar.full else pure none
  let recursive ← skipWord "recursive"
  expectTagEnd
  let body ← i.body (isWord ["endfor", "else"])
  let otherwise ←
    if ← skipWord "else" then
      expectTagEnd
      i.body (isWord ["endfor"])
    else pure []
  discard next
  return .loop t source filter recursive body otherwise

def branchTag (i : Inner) : Nat → Parsing Node
  | 0 => tooDeep
  | fuel + 1 => do
    let test ← i.grammar.full
    expectTagEnd
    let body ← i.body (isWord ["endif", "else", "elif"])
    match ← next with
    | some (.name "else") =>
      expectTagEnd
      return .branch test body (← i.bodyTo "endif")
    | some (.name "elif") => return .branch test body [← branchTag i fuel]
    | _ => return .branch test body []

def bindings (i : Inner) : Nat → List (Target × Expr) → Parsing (List (Target × Expr))
  | 0, parts => return parts.reverse
  | fuel + 1, parts => do
    if ← meets (·.isTagEnd) then return parts.reverse
    if !parts.isEmpty then expect (·.isSymbol .comma) "comma"
    let (t, _) ← groupOr (singleTarget false)
    expect (·.isSymbol .assign) "assignment operator"
    let value ← i.grammar.full
    bindings i fuel ((t, value) :: parts)

def scopeTag (i : Inner) : Parsing Node := do
  let parts ← bindings i ((← bound) + 1) []
  expectTagEnd
  return .scope parts (← i.bodyTo "endwith")

def filterChain (i : Inner) : Nat → Option Expr → Parsing (Option Expr)
  | 0, e => return e
  | fuel + 1, e => do
    if ← meets (·.isTagEnd) then return e
    if e.isSome then expectSymbol .pipe
    let name ← expectName
    let line := (← get).line
    filterChain i fuel (some (.filter e name (← i.grammar.argumentsIfAny) line))

def filters (i : Inner) : Parsing Expr := do
  match ← filterChain i ((← bound) + 1) none with
  | some e => return e
  | none => malformed "expected a filter"

-- Without a value it is the body up to the end tag that is assigned.
def assignTag (i : Inner) : Parsing Node := do
  let (t, grouped) ← groupOr (target true)
  if !grouped && (← meets fun t => t.isTagEnd || t.isSymbol .pipe) then
    let filter ← if ← skipSymbol .pipe then some <$> filters i else pure none
    expectTagEnd
    return .capture t filter (← i.bodyTo "endset")
  else
    expect (·.isSymbol .assign) "assignment operator"
    return .assign t (← i.grammar.full)

def escapingTag (i : Inner) : Parsing Node := do
  let mode ← i.grammar.full
  expectTagEnd
  return .escaping mode (← i.bodyTo "endautoescape")

def filterTag (i : Inner) : Parsing Node := do
  let filter ← filters i
  expectTagEnd
  return .filtered filter (← i.bodyTo "endfilter")

-- The name may be repeated at the end of a block, but not changed.
def blockTag (i : Inner) (line : Nat) : Parsing Node := inLoop false do
  if (← get).inRoutine then malformed "block tags in macros are not allowed"
  let name ← expectName
  if (← get).blocks.contains name then malformed s!"block '{name}' defined twice"
  modify fun s => { s with blocks := name :: s.blocks }
  expectTagEnd
  let body ← i.bodyTo "endblock"
  match ← peek with
  | some (.name again) =>
    if again == name then
      discard next
      return .block name body line
    else malformed s!"mismatching name on block.  Got `{again}`, expected `{name}`"
  | _ => return .block name body line

-- Whether the context is handed over may be said, but makes no difference.
def skipContext : Parsing Bool := do
  if ← skip (isWord ["with", "without"]) then
    expectWord "context" "missing keyword"
    return true
  else return false

def inclusionTag (i : Inner) (line : Nat) : Parsing Node := do
  let template ← i.grammar.full
  discard skipContext
  if ← skipWord "ignore" then
    expectWord "missing" "missing keyword"
    discard skipContext
    return .inclusion template true line
  else return .inclusion template false line

-- The target that an expression stands for, if it can be assigned to.
def asTarget? : Expr → Option Target
  | .name name _ => some (.name name)
  | .attribute subject name => some (.attribute subject name)
  | _ => none

def libraryTag (i : Inner) (line : Nat) : Parsing Node := do
  let template ← i.grammar.full
  expectWord "as" "as"
  match asTarget? (← i.grammar.full) with
  | some t =>
    discard skipContext
    return .library template t line
  | none => malformed "cannot assign to this expression"

def libraryNames : Nat → List (String × String) → Parsing (List (String × String))
  | 0, names => return names.reverse
  | fuel + 1, names => do
    if ← skipContext then return names.reverse
    if ← meets (·.isTagEnd) then return names.reverse
    if !names.isEmpty then
      expectSymbol .comma
      if ← skipContext then return names.reverse
      if ← meets (·.isTagEnd) then return names.reverse
    let name ← targetName
    let own ← if ← skipWord "as" then targetName else pure name
    libraryNames fuel ((name, own) :: names)

def libraryNamesTag (i : Inner) (line : Nat) : Parsing Node := do
  let template ← i.grammar.full
  expectWord "import" "import"
  return .libraryNames template (← libraryNames ((← bound) + 1) []) line

-- Once a parameter has a default, so must all that follow.
def parameters (i : Inner) : Nat → List Parameter → Parsing (List Parameter)
  | 0, parts => return parts.reverse
  | fuel + 1, parts => do
    if ← skipSymbol .parenClose then return parts.reverse
    if !parts.isEmpty then
      expectSymbol .comma
      if ← skipSymbol .parenClose then return parts.reverse
    let name ← targetName
    if ← skipSymbol .assign then
      parameters i fuel (⟨name, some (← i.grammar.full)⟩ :: parts)
    else if parts.any (·.byDefault.isSome) then
      expectSymbol .assign
      parameters i fuel parts
    else parameters i fuel (⟨name, none⟩ :: parts)

def routineBody (i : Inner) (closing : String) : Parsing (List Node) := do
  expectTagEnd
  let nodes ← inRoutine (inLoop false (i.body (isWord [closing])))
  discard next
  return nodes

def routineTag (i : Inner) : Parsing Node := do
  let name ← expectName
  expectSymbol .parenOpen
  let parts ← parameters i ((← bound) + 1) []
  return .routine ⟨name, parts, ← routineBody i "endmacro"⟩

def expectCall (i : Inner) : Parsing (Expr × List Argument) := do
  match ← i.grammar.full with
  | .call callee arguments => return (callee, arguments)
  | e => malformed s!"expected call expression in call block, got {e.describe}"

def callTag (i : Inner) : Parsing Node := do
  let parts ← if ← skipSymbol .parenOpen then parameters i ((← bound) + 1) [] else pure []
  let (callee, arguments) ← expectCall i
  return .callWith callee arguments ⟨"caller", parts, ← routineBody i "endcall"⟩

def performTag (i : Inner) : Parsing Node := do
  let (callee, arguments) ← expectCall i
  return .perform (.call callee arguments)

-- Leaving a loop or going on with its next item makes sense only inside one.
def loopControl (word : String) (node : Node) : Parsing Node := do
  if (← get).inLoop then return node else malformed s!"'{word}' must be placed inside a loop"

def tag (i : Inner) : Parsing Node := do
  let token ← expectAny "block keyword"
  let line := (← get).line
  match token with
  | .name word =>
    match word with
    | "for" => loopTag i
    | "if" => branchTag i ((← bound) + 1)
    | "with" => scopeTag i
    | "set" => assignTag i
    | "autoescape" => escapingTag i
    | "filter" => filterTag i
    | "block" => blockTag i line
    | "extends" => return .inheriting (← i.grammar.full) line
    | "include" => inclusionTag i line
    | "import" => libraryTag i line
    | "from" => libraryNamesTag i line
    | "macro" => routineTag i
    | "call" => callTag i
    | "do" => performTag i
    | "continue" => loopControl word .next
    | "break" => loopControl word .leave
    | word => malformed s!"unknown statement {word}"
  | token => malformed s!"unknown {token.describe}, expected statement"

-- The nodes up to a tag that is looked for, after those already gathered. That tag's name is left
-- to be read. Each round takes at least one token.
def nodes (grammar : Grammar) (tag : Parsing Node) (ends : Token → Bool) :
    Nat → List Node → Parsing (List Node)
  | 0, gathered => return gathered.reverse
  | fuel + 1, gathered => do
    match ← next with
    | none => return gathered.reverse
    | some (.data text) => nodes grammar tag ends fuel (.data text :: gathered)
    | some .outputStart =>
      let line := (← get).line
      let e ← grammar.full
      expect (fun t => match t with | .outputEnd => true | _ => false) "end of variable block"
      nodes grammar tag ends fuel (.output e line :: gathered)
    | some _ =>
      match ← peek with
      | none => malformed "unexpected end of input, expected keyword"
      | some token =>
        if ends token then return gathered.reverse
        else
          let node ← tag
          expectTagEnd
          nodes grammar tag ends fuel (node :: gathered)

-- How deeply tags and expressions may be nested.
def maxNesting : Nat := 150

def body (room : Nat) (tag : Parsing Node) (ends : Token → Bool) : Parsing (List Node) := do
  nodes (Grammar.within room) tag ends ((← bound) + 1) []

def within : Nat → Parsing Node
  | 0 => tooDeep
  | room + 1 => tag ⟨Grammar.within room, body room (within room)⟩

end Tag

-- All nodes of a template.
def parse (template : String) (lexemes : List Lexeme) : Except Fault (List Node) := do
  let (nodes, _) ← (Tag.body Tag.maxNesting (Tag.within Tag.maxNesting) fun _ => false).run
    (.start template lexemes)
  return nodes

end RowPress.Template
