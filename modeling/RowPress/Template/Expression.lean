import RowPress.Template.Parsing
import RowPress.Template.Tree
/-!
The grammar of expressions, from operands up to the conditional. Nesting is bounded: every
expression inside another has less room, and without room a template is refused.
-/
namespace RowPress.Template

open Parsing

-- How nested expressions are read: in full, or without a conditional at their top.
structure Grammar where
  full : Parsing Expr
  plain : Parsing Expr

namespace Grammar

-- A list of parts between commas up to a closing symbol; the last part may be followed by a comma.
def series (close : Symbol) (part : Parsing α) : Nat → List α → Parsing (List α)
  | 0, parts => return parts.reverse
  | fuel + 1, parts => do
    if ← skipSymbol close then return parts.reverse
    if !parts.isEmpty then
      expectSymbol .comma
      if ← skipSymbol close then return parts.reverse
    let one ← part
    series close part fuel (one :: parts)

-- After a named argument no positional one may follow.
def argument (g : Grammar) (before : List Argument) : Parsing Argument := do
  if ← skipSymbol .power then return .spreadNamed (← g.full)
  else if ← skipSymbol .times then return .spread (← g.full)
  else
    let e ← g.full
    match e with
    | .name name _ =>
      if ← skipSymbol .assign then return .named name (← g.plain)
      else if before.any (·.isNamed) then malformed "non-keyword arg after keyword arg"
      else return .positional e
    | _ =>
      if before.any (·.isNamed) then malformed "non-keyword arg after keyword arg"
      else return .positional e

def argumentsFrom (g : Grammar) : Nat → List Argument → Parsing (List Argument)
  | 0, parts => return parts.reverse
  | fuel + 1, parts => do
    if ← skipSymbol .parenClose then return parts.reverse
    if !parts.isEmpty then
      expectSymbol .comma
      if ← skipSymbol .parenClose then return parts.reverse
    let one ← argument g parts
    argumentsFrom g fuel (one :: parts)

def arguments (g : Grammar) : Parsing (List Argument) := do
  expectSymbol .parenOpen
  argumentsFrom g ((← bound) + 1) []

def argumentsIfAny (g : Grammar) : Parsing (List Argument) := do
  if ← meets (·.isSymbol .parenOpen) then arguments g else return []

-- Texts that stand side by side are one text.
def adjacentTexts : Nat → String → Parsing String
  | 0, s => return s
  | fuel + 1, s => do
    match ← peek with
    | some (.text more) =>
      discard next
      adjacentTexts fuel (s ++ more)
    | _ => return s

-- An expression in parentheses, or a list if a comma follows its first part.
def parenthesised (g : Grammar) (line : Nat) : Parsing Expr := do
  if ← skipSymbol .parenClose then return .list [] line
  let e ← g.full
  if ← meets (·.isSymbol .comma) then
    return .list (← series .parenClose g.full ((← bound) + 1) [e]) line
  else
    expectSymbol .parenClose
    return e

def mapEntry (g : Grammar) : Parsing (Expr × Expr) := do
  let key ← g.full
  expectSymbol .colon
  return (key, ← g.full)

def operand (g : Grammar) : Parsing Expr := do
  let token ← expectAny "expression"
  let line := (← get).line
  match token with
  | .name s =>
    if s == "true" || s == "True" then return .literal (.bool true) line
    else if s == "false" || s == "False" then return .literal (.bool false) line
    else if s == "none" || s == "None" then return .literal .none line
    else return .name s line
  | .text s => return .literal (.text (← adjacentTexts (← bound) s)) line
  | .integer n => return .literal (.integer n) line
  | .decimal x => return .literal (.decimal x) line
  | .symbol .parenOpen => parenthesised g line
  | .symbol .bracketOpen => return .list (← series .bracketClose g.full ((← bound) + 1) []) line
  | .symbol .braceOpen =>
    return .map (← series .braceClose (mapEntry g) ((← bound) + 1) []) line
  | token => malformed s!"unexpected {token.describe}"

def negated (base : Parsing Expr) : Nat → Parsing Expr
  | 0 => base
  | fuel + 1 => do
    if ← skipSymbol .minus then return .negative (← negated base fuel) else base

-- What stands in brackets after an expression: an index or a range.
def subscript (g : Grammar) (subject : Expr) : Parsing Expr := do
  let isColon : Token → Bool := (·.isSymbol .colon)
  let isClose : Token → Bool := (·.isSymbol .bracketClose)
  let start ← if ← meets isColon then pure none else some <$> g.full
  if ← skipSymbol .colon then
    let stop ← if ← meets fun t => isClose t || isColon t then pure none else some <$> g.full
    let step ←
      if ← skipSymbol .colon then
        if ← meets isClose then pure none else some <$> g.full
      else pure none
    expectSymbol .bracketClose
    return .slice subject start stop step
  else
    expectSymbol .bracketClose
    match start with
    | some index => return .item subject index
    | none => malformed "empty subscript"

def postfixes (g : Grammar) : Nat → Expr → Parsing Expr
  | 0, e => return e
  | fuel + 1, e => do
    match ← peek with
    | some (.symbol .dot) =>
      discard next
      postfixes g fuel (.attribute e (← expectName))
    | some (.symbol .bracketOpen) =>
      discard next
      postfixes g fuel (← subscript g e)
    | some (.symbol .parenOpen) => postfixes g fuel (.call e (← arguments g))
    | _ => return e

-- A signed operand with everything that is attached to it.
def attached (g : Grammar) (base : Parsing Expr) : Parsing Expr := do
  let e ← negated base (← bound)
  postfixes g (← bound) e

-- Whether a token can begin the argument of a test that is written without parentheses.
def beginsTestArgument : Token → Bool
  | .name s => !(["and", "or", "else", "is"].contains s)
  | .text _ | .integer _ | .decimal _ => true
  | .symbol s => [.plus, .minus, .bracketOpen, .braceOpen].contains s
  | _ => false

def testArguments (g : Grammar) (base : Parsing Expr) : Parsing (List Argument) := do
  if ← meets (·.isSymbol .parenOpen) then arguments g
  else if ← meets beginsTestArgument then return [.positional (← attached g base)]
  else return []

-- Filters and tests after an expression.
def refinements (g : Grammar) (base : Parsing Expr) : Nat → Expr → Parsing Expr
  | 0, e => return e
  | fuel + 1, e => do
    if ← skipSymbol .pipe then
      let name ← expectName
      let line := (← get).line
      refinements g base fuel (.filter (some e) name (← argumentsIfAny g) line)
    else if ← skipWord "is" then
      let isOpposite ← skipWord "not"
      let name ← expectName
      let test : Expr := .test e name (← testArguments g base)
      refinements g base fuel (if isOpposite then .opposite test else test)
    else return e

def unary (g : Grammar) (base : Parsing Expr) : Parsing Expr := do
  let e ← attached g base
  refinements g base (← bound) e

-- Operators of one level, which bind to the left.
def chain (operator? : Token → Option (Expr → Expr → Expr)) (part : Parsing Expr) :
    Nat → Expr → Parsing Expr
  | 0, e => return e
  | fuel + 1, e => do
    match (← peek).bind operator? with
    | some combine =>
      discard next
      chain operator? part fuel (combine e (← part))
    | none => return e

def level (operator? : Token → Option (Expr → Expr → Expr)) (part : Parsing Expr) :
    Parsing Expr := do
  let e ← part
  chain operator? part (← bound) e

def powerOperator? : Token → Option (Expr → Expr → Expr)
  | .symbol .power => some (.binary .power)
  | _ => none

def productOperator? : Token → Option (Expr → Expr → Expr)
  | .symbol .times => some (.binary .multiply)
  | .symbol .divide => some (.binary .divide)
  | .symbol .floorDivide => some (.binary .floorDivide)
  | .symbol .remainder => some (.binary .remainder)
  | _ => none

def joinOperator? : Token → Option (Expr → Expr → Expr)
  | .symbol .tilde => some (.binary .join)
  | _ => none

def sumOperator? : Token → Option (Expr → Expr → Expr)
  | .symbol .plus => some (.binary .add)
  | .symbol .minus => some (.binary .subtract)
  | _ => none

def bothOperator? : Token → Option (Expr → Expr → Expr)
  | .name s => if s == "and" then some .both else none
  | _ => none

def eitherOperator? : Token → Option (Expr → Expr → Expr)
  | .name s => if s == "or" then some .either else none
  | _ => none

def sum (g : Grammar) (base : Parsing Expr) : Parsing Expr :=
  level sumOperator? (level joinOperator? (level productOperator?
    (level powerOperator? (unary g base))))

def comparisonOperator? : Token → Option Operator
  | .symbol .equal => some .equal
  | .symbol .unequal => some .unequal
  | .symbol .less => some .less
  | .symbol .lessEqual => some .lessEqual
  | .symbol .greater => some .greater
  | .symbol .greaterEqual => some .greaterEqual
  | .name s => if s == "in" then some .within else none
  | _ => none

def comparisons (part : Parsing Expr) : Nat → Expr → Parsing Expr
  | 0, e => return e
  | fuel + 1, e => do
    match (← peek).bind comparisonOperator? with
    | some op =>
      discard next
      comparisons part fuel (.binary op e (← part))
    | none =>
      if ← skipWord "not" then
        expectWord "in" "in"
        comparisons part fuel (.opposite (.binary .within e (← part)))
      else return e

def comparison (part : Parsing Expr) : Parsing Expr := do
  let e ← part
  comparisons part (← bound) e

def inverted (part : Parsing Expr) : Nat → Parsing Expr
  | 0 => part
  | fuel + 1 => do
    if ← skipWord "not" then return .opposite (← inverted part fuel) else part

def disjunction (g : Grammar) (base : Parsing Expr) : Parsing Expr :=
  level eitherOperator? (level bothOperator? do
    inverted (comparison (sum g base)) (← bound))

def conditions (part : Parsing Expr) : Nat → Expr → Parsing Expr
  | 0, e => return e
  | fuel + 1, e => do
    if ← skipWord "if" then
      let test ← part
      let otherwise ←
        if ← skipWord "else" then
          let other ← part
          some <$> conditions part fuel other
        else pure none
      conditions part fuel (.choice test e otherwise)
    else return e

def conditional (part : Parsing Expr) : Parsing Expr := do
  let e ← part
  conditions part (← bound) e

-- An operand takes room of its own, so what stands inside it has two levels less. A grammar is
-- unfolded only as far as a template makes it.
def within : Nat → Grammar
  | 0 => ⟨tooDeep, tooDeep⟩
  | 1 =>
    let plain := disjunction ⟨tooDeep, tooDeep⟩ tooDeep
    ⟨conditional plain, plain⟩
  | room + 2 =>
    let plain : Parsing Expr := fun s => disjunction (within (room + 1)) (operand (within room)) s
    ⟨conditional plain, plain⟩

end Grammar

end RowPress.Template
