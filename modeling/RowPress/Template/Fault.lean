/-! What can be wrong with a template, when it is compiled or when it is rendered. -/
namespace RowPress.Template

inductive FaultKind where
  | nonKey | badOperation | badForm | templateNotFound | tooManyArguments | missingArgument
  | unknownFilter | unknownTest | unknownFunction | unknownMethod | badEscape | undefinedValue
  | badSerialization | badInclude | evalBlock | cannotUnpack | unknownBlock
deriving DecidableEq

def FaultKind.message : FaultKind → String
  | .nonKey => "not a key type"
  | .badOperation => "invalid operation"
  | .badForm => "syntax error"
  | .templateNotFound => "template not found"
  | .tooManyArguments => "too many arguments"
  | .missingArgument => "missing argument"
  | .unknownFilter => "unknown filter"
  | .unknownTest => "unknown test"
  | .unknownFunction => "unknown function"
  | .unknownMethod => "unknown method"
  | .badEscape => "bad string escape"
  | .undefinedValue => "undefined value"
  | .badSerialization => "could not serialize to value"
  | .badInclude => "could not render include"
  | .evalBlock => "could not render block"
  | .cannotUnpack => "cannot unpack"
  | .unknownBlock => "unknown block"

-- Where in a template something stands.
structure Place where
  template : String
  line : Nat

structure Fault where
  kind : FaultKind
  detail : Option String
  place : Option Place

def Fault.of (kind : FaultKind) (detail : String) : Fault := ⟨kind, some detail, none⟩

def Fault.bare (kind : FaultKind) : Fault := ⟨kind, none, none⟩

-- A fault keeps the first place it is given.
def Fault.within (f : Fault) (template : String) (line : Nat) : Fault :=
  { f with place := f.place.or (some ⟨template, line⟩) }

def Fault.message (f : Fault) : String :=
  let detail := match f.detail with
    | some detail => s!": {detail}"
    | none => ""
  let place := match f.place with
    | some p => s!" (in {p.template}:{p.line})"
    | none => ""
  f.kind.message ++ detail ++ place

end RowPress.Template
