import RowPress.Template.Filters
/-! The tests by name. -/
namespace RowPress.Template

open Taking

namespace Test

-- A test of the subject alone.
def onSubject (f : Datum → Bool) : Taking Bool := return f (← datum)

-- A test of the subject against another value.
def against (f : Datum → Datum → Bool) : Taking Bool := do
  let d ← datum
  return f d (← datum)

def onTexts (f : List Char → List Char → Bool) : Taking Bool := do
  let s ← text
  return f s.toList (← text).toList

def hasRemainder (n : Int) (d : Datum) : Bool :=
  match toInteger? d with
  | some m => m % 2 == n
  | none => false

def isDivisible (a b : Datum) : Bool :=
  match common? false a b with
  | some (.integers m n) => n != 0 && m % n == 0
  | some (.decimals x y) => decimalRemainder x y == 0.0
  | none => false

def isInteger : Datum → Bool
  | .integer _ => true
  | _ => false

def isFloat : Datum → Bool
  | .decimal _ => true
  | _ => false

def isSafe : Datum → Bool
  | .text _ safe => safe
  | _ => false

def isExactly (value : Bool) : Datum → Bool
  | .bool b => b == value
  | _ => false

-- Loops, stores and functions are the same only if they are one; other values if they are equal and
-- of one type.
def isSame (a b : Datum) : Bool :=
  match a, b with
  | .loop m, .loop n => m == n
  | .store m, .store n => m == n
  | .routine m _, .routine n _ => m == n
  | .builtin f, .builtin g => f == g
  | a, b =>
    a.kind == b.kind && isInteger a == isInteger b && a.kind != .stream && a.equals b

def isWithin (a b : Datum) : Bool :=
  match b.contains a with
  | .ok found => found
  | .error _ => false

def ordered (accept : Ordering → Bool) : Taking Bool := against fun a b => accept (a.compare b)

def allChars (f : Char → Bool) : Taking Bool := return (← text).toList.all f

-- The names that a test can go by, apart from those that ask for tests.
def plain? (name : String) : Option (Taking Bool) :=
  match name with
  | "undefined" => some (onSubject (·.isUndefined))
  | "defined" => some (onSubject (!·.isUndefined))
  | "none" => some (onSubject (·.isNothing))
  | "safe" | "escaped" => some (onSubject isSafe)
  | "boolean" => some (onSubject (·.kind == .bool))
  | "odd" => some (onSubject (hasRemainder 1))
  | "even" => some (onSubject (hasRemainder 0))
  | "divisibleby" => some (against isDivisible)
  | "number" => some (onSubject (·.kind == .number))
  | "integer" | "int" => some (onSubject isInteger)
  | "float" => some (onSubject isFloat)
  | "string" => some (onSubject (·.kind == .text))
  | "sequence" => some (onSubject (·.kind == .sequence))
  | "mapping" => some (onSubject (·.kind == .map))
  | "iterable" => some (onSubject (·.elements?.isSome))
  | "true" => some (onSubject (isExactly true))
  | "false" => some (onSubject (isExactly false))
  | "filter" => some (return isFilter (← exactText (← datum)))
  | "startingwith" => some (onTexts fun s part => part.isPrefixOf s)
  | "endingwith" => some (onTexts fun s part => part.isSuffixOf s)
  | "in" => some (against isWithin)
  | "eq" | "equalto" | "==" => some (against Datum.equals)
  | "ne" | "!=" => some (against fun a b => !a.equals b)
  | "lt" | "lessthan" | "<" => some (ordered (· == .lt))
  | "le" | "<=" => some (ordered (· != .gt))
  | "gt" | "greaterthan" | ">" => some (ordered (· == .gt))
  | "ge" | ">=" => some (ordered (· != .lt))
  | "lower" => some (allChars Text.isLowercase)
  | "upper" => some (allChars Text.isUppercase)
  | "sameas" => some (against isSame)
  | _ => none

def isKnown (name : String) : Bool := name == "test" || (plain? name).isSome

def find? (name : String) : Option (Given → Outcome Bool) :=
  let taking? := if name == "test" then some (do return isKnown (← exactText (← datum)))
    else plain? name
  taking?.map fun x => x.run

end Test

-- Keeps the items that pass a test, or those that do not. Without a test an item passes if it is
-- true; with an attribute it is the attribute that is tested.
def selected (invert : Bool) (byAttribute : Bool) : Taking Datum := do
  let d ← datum
  let attribute? ← if byAttribute then some <$> text else pure none
  let name ← optionalText
  let more ← all
  let test ← match name with
    | none => pure none
    | some name =>
      match Test.find? name with
      | some test => pure (some test)
      | none => refuse (.bare .unknownTest)
  let items ← (elements d : Outcome (List Datum))
  let kept ← (items.filterM fun item => do
    let subject ← match attribute? with
      | some dotted => path item dotted
      | none => .ok item
    let passed ← match test with
      | some test => test (.ofList (subject :: more))
      | none => .ok subject.isTrue
    return passed != invert : Outcome (List Datum))
  return .list kept

-- What each item has at a path or under a key.
def attributesOf (d key : Datum) (byDefault : Datum) : Outcome Datum := do
  let items ← elements d
  return .list (← items.mapM fun item =>
    let found := match key with
      | .text dotted _ => path item dotted
      | key => lookUp item (item.item? key)
    match found with
    | .ok .undefined => .ok byDefault
    | .ok value => .ok value
    | .error f => if byDefault.isUndefined then .error f else .ok byDefault)

-- Applies a filter to each item, which the first argument after the subject names.
def mapped (apply : Applied) (isKnown : String → Bool) (g : Given) : Outcome Datum := do
  let named := g.named.getD []
  match g.positional with
  | [] => .error (.bare .missingArgument)
  | d :: rest =>
    match (named.find? (·.1 == "attribute")).map (·.2) with
    | some key =>
      if !rest.isEmpty then .error (.bare .tooManyArguments)
      else
        let byDefault := ((named.find? (·.1 == "default")).map (·.2)).getD .undefined
        match named.find? fun (name, _) => !(["attribute", "default"].contains name) with
        | some (name, _) =>
          .error (.of .tooManyArguments s!"unknown keyword argument '{name}'")
        | none => attributesOf d key byDefault
    | none =>
      match rest with
      | [] => invalid "filter name is required"
      | .text name safe :: more =>
        if isKnown name then
          let items ← elements d
          return .list (← items.mapM fun item =>
            apply ⟨.text name safe :: item :: more, none⟩)
        else .error (.bare .unknownFilter)
      | _ => invalid "filter name must be a string"

-- Applies a filter whose name comes first among the arguments. A filter that applies another one
-- hands fewer arguments on, so their number is fuel enough.
def applyNamed (mode : Escape) : Nat → Applied
  | 0, _ => .error (.bare .missingArgument)
  | fuel + 1, g =>
    match g.positional with
    | .text name _ :: rest =>
      let g : Given := { g with positional := rest }
      match name with
      | "select" => (selected false false).run g
      | "reject" => (selected true false).run g
      | "selectattr" => (selected false true).run g
      | "rejectattr" => (selected true true).run g
      | "map" => mapped (applyNamed mode fuel) isFilter g
      | name =>
        match plainFilter? mode name with
        | some filter => filter g
        | none => .error (.of .unknownFilter s!"filter {name} is unknown")
    | _ => .error (.bare .missingArgument)

def applyFilter (mode : Escape) (name : String) (g : Given) : Outcome Datum :=
  applyNamed mode (g.positional.length + 2) { g with positional := .ofText name :: g.positional }

def performTest (name : String) (g : Given) : Outcome Bool :=
  match Test.find? name with
  | some test => test g
  | none => .error (.of .unknownTest s!"test {name} is unknown")

end RowPress.Template
