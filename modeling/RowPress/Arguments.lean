import RowPress.Config
import RowPress.Similarity
/-! The arguments of the command line. -/
namespace RowPress

structure Arguments where
  config : Option String
  verbose : Bool

namespace Arguments

def configPath (a : Arguments) : String := a.config.getD Config.defaultPath

inductive Flag where
  | verbose | help | version
deriving DecidableEq

def Flag.word : Flag → String
  | .verbose => "verbose"
  | .help => "help"
  | .version => "version"

def Flag.long (f : Flag) : String := "--" ++ f.word

def Flag.ofLong? (word : String) : Option Flag :=
  [Flag.verbose, .help, .version].find? (·.word == word)

def Flag.ofShort? : Char → Option Flag
  | 'v' => some .verbose
  | 'h' => some .help
  | 'V' => some .version
  | _ => none

-- What is proposed where an argument is not known.
inductive Tip where
  | none
  -- The argument can be passed as a value.
  | asValue
  | similar (f : Flag)

-- The arguments that were recognised before a fault, in their order.
inductive Used where
  | flag (f : Flag)
  | config

inductive Fault where
  | help
  | version
  | unknown (argument : String) (tip : Tip) (used : List Used)
  | repeated (f : Flag)
  | extraValue (value : String) (f : Flag) (used : List Used)
  | emptyConfig

def usageText : String := "csvplate [OPTIONS] [CONFIG]"

-- The usage shows what was recognised, or all that there is.
def usage (used : List Used) : String :=
  if used.isEmpty then usageText
  else
    let flags := used.filterMap fun
      | .flag f => some f.long
      | .config => none
    let config := if used.any (fun | .config => true | _ => false) then "<CONFIG>" else "[CONFIG]"
    " ".intercalate ("csvplate" :: flags ++ [config])

def helpText : String :=
  "csvplate: render templates once per CSV row\n\nUsage: csvplate [OPTIONS] [CONFIG]\n\n"
    ++ "Arguments:\n  [CONFIG]  Path to the YAML configuration file [default: csvplate.yaml]\n\n"
    ++ "Options:\n  -v, --verbose  Enable verbose logging output\n"
    ++ "  -h, --help     Print help\n  -V, --version  Print version\n"

def versionText : String := "csvplate 0.1.0\n"

def more : String := "\n\nFor more information, try '--help'.\n"

def withUsage (text : String) (used : List Used) : String :=
  text ++ "\n\nUsage: " ++ usage used ++ more

def Tip.message (argument : String) : Tip → String
  | .none => ""
  | .asValue => s!"\n\n  tip: to pass '{argument}' as a value, use '-- {argument}'"
  | .similar f => s!"\n\n  tip: a similar argument exists: '{f.long}'"

def Fault.message : Fault → String
  | .help => helpText
  | .version => versionText
  | .unknown argument tip used =>
    withUsage (s!"error: unexpected argument '{argument}' found" ++ tip.message argument) used
  | .repeated f => withUsage s!"error: the argument '{f.long}' cannot be used multiple times" []
  | .extraValue value f used =>
    withUsage s!"error: unexpected value '{value}' for '{f.long}' found; no more were expected" used
  | .emptyConfig => "error: a value is required for '[CONFIG]' but none was supplied" ++ more

def Fault.exitCode : Fault → Nat
  | .help | .version => 0
  | _ => 2

-- A value is checked only when the next flag or the end is reached.
structure State where
  pending : Option String
  used : List Used
  config : Option String
  verbose : Bool
  -- After two dashes everything is a value.
  valuesOnly : Bool

def settle (s : State) : Except Fault State :=
  match s.pending with
  | none => .ok s
  | some value =>
    if value.isEmpty then .error .emptyConfig
    else .ok { s with pending := none, config := some value, used := s.used ++ [.config] }

def takeFlag (s : State) (f : Flag) : Except Fault State := do
  let s ← settle s
  match f with
  | .help => throw .help
  | .version => throw .version
  | .verbose =>
    if s.verbose then throw (.repeated .verbose)
    else return { s with verbose := true, used := s.used ++ [.flag .verbose] }

def takeShort (s : State) : List Char → Except Fault State
  | [] => .ok s
  | c :: rest =>
    match Flag.ofShort? c with
    | some f => do takeShort (← takeFlag s f) rest
    | none => .error (.unknown (String.ofList ['-', c]) .asValue [])

def similarEnough : Similarity.Score := ⟨7, 10⟩

def takeLong (s : State) (body : List Char) : Except Fault State :=
  let word := String.ofList (body.takeWhile (· ≠ '='))
  match Flag.ofLong? word, body.dropWhile (· ≠ '=') with
  | some f, [] => takeFlag s f
  | some f, _ :: value => .error (.extraValue (String.ofList value) f s.used)
  | none, _ =>
    let words := [Flag.verbose, .help, .version].map Flag.word
    match Similarity.closest? word similarEnough words >>= Flag.ofLong? with
    | some f => .error (.unknown ("--" ++ word) (.similar f) (s.used ++ [.flag f]))
    | none => .error (.unknown ("--" ++ word) .asValue s.used)

def takeValue (s : State) (value : String) : Except Fault State :=
  if s.pending.isSome ∨ s.config.isSome then .error (.unknown value .none [])
  else .ok { s with pending := some value }

def take (s : State) (argument : String) : Except Fault State :=
  if s.valuesOnly then takeValue s argument
  else match argument.toList with
    | ['-', '-'] => .ok { s with valuesOnly := true }
    | '-' :: '-' :: body => takeLong s body
    | '-' :: c :: rest => takeShort s (c :: rest)
    | _ => takeValue s argument

def parse (arguments : List String) : Except Fault Arguments := do
  let s ← settle (← arguments.foldlM take ⟨none, [], none, false, false⟩)
  return ⟨s.config, s.verbose⟩

end Arguments

end RowPress
