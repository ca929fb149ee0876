import RowPress.Template.Token
/-!
Reading a list of lexemes from the front. A fault is told at the line of the last lexeme that was
taken, except where there is no token at all.
-/
namespace RowPress.Template

structure Stream where
  template : String
  -- Number of the template's lexemes: a bound for every loop that takes one each time.
  size : Nat
  rest : List Lexeme
  line : Nat
  -- Blocks that the template has defined so far.
  blocks : List String
  inLoop : Bool
  inRoutine : Bool

def Stream.start (template : String) (rest : List Lexeme) : Stream :=
  ⟨template, rest.length, rest, 1, [], false, false⟩

abbrev Parsing := StateT Stream (Except Fault)

namespace Parsing

def raise (f : Fault) : Parsing α := do
  let s ← get
  throw (f.within s.template s.line)

def malformed (detail : String) : Parsing α := raise (.of .badForm detail)

def unexpected (found expected : String) : Parsing α :=
  malformed s!"unexpected {found}, expected {expected}"

-- The next token, which stays where it is.
def peek : Parsing (Option Token) := do
  let s ← get
  match s.rest with
  | [] => return none
  | ⟨.trouble f, line⟩ :: _ => throw (f.within s.template line)
  | lexeme :: _ => return some lexeme.token

def next : Parsing (Option Token) := do
  let token ← peek
  modify fun s => match s.rest with
    | [] => s
    | lexeme :: rest => { s with rest, line := lexeme.line }
  return token

def bound : Parsing Nat := return (← get).size

-- The line of the next token, or of the last one where none is left.
def lineHere : Parsing Nat := do
  let s ← get
  match s.rest with
  | [] => return s.line
  | ⟨.trouble _, _⟩ :: _ => return s.line
  | lexeme :: _ => return lexeme.line

def expectAny (expected : String) : Parsing Token := do
  match ← next with
  | some token => return token
  | none => unexpected "end of input" expected

def expect (test : Token → Bool) (expected : String) : Parsing Unit := do
  let token ← expectAny expected
  if test token then return () else unexpected token.describe expected

def expectSymbol (s : Symbol) : Parsing Unit := expect (·.isSymbol s) ("`" ++ s.text ++ "`")

def expectWord (word : String) (expected : String) : Parsing Unit := expect (·.isName word) expected

def expectTagEnd : Parsing Unit := expect (·.isTagEnd) "end of block"

def expectName : Parsing String := do
  match ← expectAny "identifier" with
  | .name s => return s
  | token => unexpected token.describe "identifier"

def meets (test : Token → Bool) : Parsing Bool := return (← peek).any test

-- Takes the next token if it is the one meant.
def skip (test : Token → Bool) : Parsing Bool := do
  if ← meets test then
    discard next
    return true
  else return false

def skipSymbol (s : Symbol) : Parsing Bool := skip (·.isSymbol s)

def skipWord (word : String) : Parsing Bool := skip (·.isName word)

def tooDeep : Parsing α := malformed "template exceeds maximum recursion limits"

-- Runs with a flag of the stream changed, and puts it back.
def inLoop (value : Bool) (x : Parsing α) : Parsing α := do
  let before := (← get).inLoop
  modify fun s => { s with inLoop := value }
  let a ← x
  modify fun s => { s with inLoop := before }
  return a

def inRoutine (x : Parsing α) : Parsing α := do
  let before := (← get).inRoutine
  modify fun s => { s with inRoutine := true }
  let a ← x
  modify fun s => { s with inRoutine := before }
  return a

end Parsing

end RowPress.Template
