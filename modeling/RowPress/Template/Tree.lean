/-!
A template as a tree of nodes and expressions. Names and literals know the line they stand on; a
fault in an expression is told at the line of the last one that was read before it.
-/
namespace RowPress.Template

inductive Literal where
  | none
  | bool (b : Bool)
  | integer (n : Nat)
  | decimal (x : Float)
  | text (s : String)

inductive Operator where
  | add | subtract | multiply | divide | floorDivide | remainder | power | join
  | equal | unequal | less | lessEqual | greater | greaterEqual | within
deriving DecidableEq

mutual

inductive Expr where
  | literal (value : Literal) (line : Nat)
  | name (name : String) (line : Nat)
  | binary (op : Operator) (left right : Expr)
  | both (left right : Expr)
  | either (left right : Expr)
  | opposite (e : Expr)
  | negative (e : Expr)
  | choice (test chosen : Expr) (otherwise : Option Expr)
  | attribute (subject : Expr) (name : String)
  | item (subject index : Expr)
  | slice (subject : Expr) (start stop step : Option Expr)
  -- In a chain that stands for itself the first filter has no subject.
  | filter (subject : Option Expr) (name : String) (arguments : List Argument) (line : Nat)
  | test (subject : Expr) (name : String) (arguments : List Argument)
  | call (callee : Expr) (arguments : List Argument)
  | list (items : List Expr) (line : Nat)
  | map (entries : List (Expr × Expr)) (line : Nat)

inductive Argument where
  | positional (e : Expr)
  | spread (e : Expr)
  | named (name : String) (e : Expr)
  | spreadNamed (e : Expr)

end

def Argument.isNamed : Argument → Bool
  | .named _ _ => true
  | .spreadNamed _ => true
  | _ => false

-- What a message calls an expression that is no call.
def Expr.describe : Expr → String
  | .name _ _ => "variable"
  | .literal _ _ => "constant"
  | .call _ _ => "call"
  | .list _ _ => "list literal"
  | .map _ _ => "map literal"
  | .test _ _ _ => "test expression"
  | .filter _ _ _ _ => "filter expression"
  | _ => "expression"

mutual

def Expr.lastLine : Expr → Nat
  | .literal _ line => line
  | .name _ line => line
  | .binary _ _ right => right.lastLine
  | .both _ right => right.lastLine
  | .either _ right => right.lastLine
  | .opposite e => e.lastLine
  | .negative e => e.lastLine
  | .choice _ chosen none => chosen.lastLine
  | .choice _ _ (some e) => e.lastLine
  | .attribute subject _ => subject.lastLine
  | .item _ index => index.lastLine
  | .slice subject start stop step =>
    lastOption (lastOption (lastOption subject.lastLine start) stop) step
  | .filter none _ arguments line => lastArgument line arguments
  | .filter (some e) _ arguments _ => lastArgument e.lastLine arguments
  | .test subject _ arguments => lastArgument subject.lastLine arguments
  | .call callee arguments => lastArgument callee.lastLine arguments
  | .list items line => lastItem line items
  | .map entries line => lastEntry line entries

def lastOption (line : Nat) : Option Expr → Nat
  | none => line
  | some e => e.lastLine

def Argument.lastLine : Argument → Nat
  | .positional e => e.lastLine
  | .spread e => e.lastLine
  | .named _ e => e.lastLine
  | .spreadNamed e => e.lastLine

def lastArgument (line : Nat) : List Argument → Nat
  | [] => line
  | argument :: rest => lastArgument argument.lastLine rest

def lastItem (line : Nat) : List Expr → Nat
  | [] => line
  | item :: rest => lastItem item.lastLine rest

def lastEntry (line : Nat) : List (Expr × Expr) → Nat
  | [] => line
  | (_, value) :: rest => lastEntry value.lastLine rest

end

-- What a value is assigned to.
inductive Target where
  | name (name : String)
  | attribute (subject : Expr) (name : String)
  | several (targets : List Target) (line : Nat)

-- A parameter may have a default, to be computed where the routine is called.
structure Parameter where
  name : String
  byDefault : Option Expr

-- A part of a template that can be called with arguments.
structure Routine (Node : Type) where
  name : String
  parameters : List Parameter
  body : List Node

inductive Node where
  | data (text : String)
  | output (e : Expr) (line : Nat)
  | loop (target : Target) (source : Expr) (filter : Option Expr) (recursive : Bool)
      (body otherwise : List Node)
  | branch (test : Expr) (body otherwise : List Node)
  | scope (bindings : List (Target × Expr)) (body : List Node)
  | assign (target : Target) (value : Expr)
  | capture (target : Target) (filter : Option Expr) (body : List Node)
  | escaping (mode : Expr) (body : List Node)
  | filtered (filter : Expr) (body : List Node)
  | block (name : String) (body : List Node) (line : Nat)
  | inheriting (template : Expr) (line : Nat)
  | inclusion (template : Expr) (optional : Bool) (line : Nat)
  | library (template : Expr) (target : Target) (line : Nat)
  -- Each name with the one it goes by here.
  | libraryNames (template : Expr) (names : List (String × String)) (line : Nat)
  | routine (r : Routine Node)
  -- A call that hands its own body over as a routine.
  | callWith (callee : Expr) (arguments : List Argument) (body : Routine Node)
  | perform (call : Expr)
  | leave
  | next

end RowPress.Template
