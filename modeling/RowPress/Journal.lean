/-!
What a run reports while it works: notes for the log, among them the diagnostics, which tell of
conditions that a run gets over.
-/
namespace RowPress

inductive Diagnostic where
  -- A key was given more than once, and the later value was dropped.
  | duplicateKey (source key : String)
  -- A file was there already and is about to be replaced.
  | overwrite (path column part : String)
deriving DecidableEq

def Diagnostic.message : Diagnostic → String
  | .duplicateKey source key => s!"possibly a duplicate key: {source}, key '{key}'"
  | .overwrite path column part =>
    s!"Overwriting file '{path}', with row key as '{column}', value '{part}'"

inductive Note where
  | diagnostic (d : Diagnostic)
  | loadingConfig (path : String)
  | decoding (source : String)
  | keySkipped (source : String)
  | tableRead (rows : Nat) (path : String)
  | templateMissing (name : String)
  | compiling (name : String)
  | noSidecar (path : String)
  | writing (path : String)

inductive Level where
  | error | warn | debug
deriving DecidableEq

def Level.name : Level → String
  | .error => "ERROR"
  | .warn => "WARN"
  | .debug => "DEBUG"

def Note.level : Note → Level
  | .diagnostic _ | .keySkipped _ => .warn
  | .templateMissing _ => .error
  | _ => .debug

-- The part of the program that a note comes from.
def Note.area : Note → String
  | .diagnostic _ => "csvplate::model"
  | .loadingConfig _ => "csvplate::config"
  | .decoding _ | .keySkipped _ => "csvplate::decoder"
  | .tableRead _ _ => "csvplate::table"
  | .templateMissing _ | .compiling _ | .noSidecar _ | .writing _ => "csvplate::processor"

def Note.message : Note → String
  | .diagnostic d => d.message
  | .loadingConfig path => s!"Loading configuration from {path}"
  | .decoding source => s!"Decoding document '{source}'"
  | .keySkipped source => s!"Skipping non-scalar key in '{source}'"
  | .tableRead rows path => s!"Read {rows} row(s) from {path}"
  | .templateMissing name => s!"File: '{name}' not found"
  | .compiling name => s!"Compiling template {name}"
  | .noSidecar path => s!"No sidecar document at {path}"
  | .writing path => s!"Writing file: {path}"

-- Notes in the order in which they were made.
abbrev Journal := List Note

def Journal.diagnostics (j : Journal) : List Diagnostic :=
  j.filterMap fun
    | .diagnostic d => some d
    | _ => none

end RowPress
