import RowPress.Template.Slice
import RowPress.Text.Digits
/-!
The arguments of a call, and taking them one after the other. A parameter says what it accepts; a
call that leaves arguments over is refused.
-/
namespace RowPress.Template

-- Positional arguments, and named ones if the call wrote any.
structure Given where
  positional : List Datum
  named : Option (List (String × Datum))

def Given.ofList (positional : List Datum) : Given := ⟨positional, none⟩

-- For a callee without named parameters the named arguments are one more positional one.
def Given.flat (g : Given) : List Datum :=
  g.positional ++ (g.named.map fun named => [Datum.ofNamed named]).getD []

structure Untaken where
  rest : List Datum
  -- Whether the last one of these stands for the named arguments.
  endsNamed : Bool
  named : List (String × Datum)

abbrev Taking := StateT Untaken Outcome

namespace Taking

def refuse (f : Fault) : Taking α := throw f

def optionalDatum : Taking (Option Datum) := do
  match (← get).rest with
  | [] => return none
  | d :: rest =>
    modify fun u => { u with rest }
    return some d

def datum : Taking Datum := do
  match ← optionalDatum with
  | some d => return d
  | none => refuse (.bare .missingArgument)

-- An absent value stands for an argument that is not given.
def optional (accept : Datum → Outcome α) : Taking (Option α) := do
  match ← optionalDatum with
  | some d => if d.isAbsent then return none else some <$> accept d
  | none => return none

def all : Taking (List Datum) := do
  let u ← get
  set { u with rest := [] }
  return u.rest

-- Every value has a text, but the named arguments of a call are none.
def refuseNamed : Taking Unit := do
  let u ← get
  if u.endsNamed && u.rest.length == 1 then
    refuse (.of .badOperation "cannot convert kwargs to string")
  else return ()

def text : Taking String := do
  refuseNamed
  return (← datum).display

def optionalText : Taking (Option String) := do
  refuseNamed
  optional fun d => .ok d.display

def exactText (d : Datum) : Outcome String :=
  match d with
  | .text s _ => .ok s
  | _ => invalid "value is not a string"

def flag (d : Datum) : Outcome Bool :=
  match d with
  | .bool b => .ok b
  | d => mismatch d "bool"

def size (d : Datum) : Outcome Nat := Int.toNat <$> integerWithin 0 (Decimal.twoTo 64 - 1) "usize" d

def places : Datum → Outcome Int := signedOf 32 "i32"

def long : Datum → Outcome Int := signedOf 64 "i64"

def any (d : Datum) : Outcome Datum := .ok d

def namedDatum (name : String) : Taking (Option Datum) :=
  return ((← get).named.find? (·.1 == name)).map (·.2)

def named (name : String) (accept : Datum → Outcome α) : Taking (Option α) := do
  match ← namedDatum name with
  | some d => if d.isAbsent then return none else some <$> accept d
  | none => return none

-- Only these names may have been given.
def onlyNamed (names : List String) : Taking Unit := do
  match (← get).named.find? fun (name, _) => !names.contains name with
  | some (name, _) => refuse (.of .tooManyArguments s!"unknown keyword argument '{name}'")
  | none => return ()

def finish (x : Taking α) : Taking α := do
  let a ← x
  if (← get).rest.isEmpty then return a else refuse (.bare .tooManyArguments)

-- Runs a callee that knows no named parameters.
def run (x : Taking α) (g : Given) : Outcome α := (x.finish ⟨g.flat, g.named.isSome, []⟩).map (·.1)

def runNamed (x : Taking α) (g : Given) : Outcome α :=
  (x.finish ⟨g.positional, false, g.named.getD []⟩).map (·.1)

end Taking

-- The items that a value goes through, or a fault of its own.
def elementsOr (d : Datum) (message : String) : Outcome (List Datum) :=
  match d.elements? with
  | some items => .ok items
  | none => invalid message

def elements (d : Datum) : Outcome (List Datum) := elementsOr d s!"{d.kind.name} is not iterable"

-- Attribute and item look-ups as filters do them: an undefined value has neither.
def lookUp (d : Datum) (found : Option Datum) : Outcome Datum :=
  if d.isUndefined then .error (.bare .undefinedValue) else .ok (found.getD .undefined)

-- A path of attributes and indices between dots.
def path (d : Datum) (dotted : String) : Outcome Datum :=
  (dotted.splitOn ".").foldlM (fun d part =>
    match Text.numberIn? 10 part.toList with
    | some n => lookUp d (d.item? (.integer n))
    | none => lookUp d (d.attribute? part)) d

def pathOr (d : Datum) (dotted : String) (byDefault : Datum) : Datum :=
  match path d dotted with
  | .ok .undefined => byDefault
  | .ok found => found
  | .error _ => byDefault

end RowPress.Template
