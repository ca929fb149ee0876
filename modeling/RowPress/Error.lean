import RowPress.FileTree
import RowPress.Json.Fit
import RowPress.Template.Fault
import RowPress.Yaml.Fault
/-!
Everything that can end a run, in the order in which a run checks for it, with the text that tells
of it and the exit code of the program.
-/
namespace RowPress

-- Why the configuration cannot be used.
inductive ConfigFault where
  | noFile (path : String)
  | unreadable (path : String) (e : OsError)
  | malformed (path : String) (f : Yaml.Fault)
  | badShape (m : Json.Misfit)
  | required (field : String)
  | dataNotMap
  | stated (text : String)

-- Why the table cannot be used.
inductive InputFault where
  | unreadable (path : String) (e : OsError)
  | notUtf8 (path : String) (record line field start validTo : Nat)
  | noHeader (path : String)
  | noRows (path : String)
  | stated (text : String)

-- Why the document beside a template cannot be used.
inductive SidecarFault where
  | unreadable (path : String) (e : OsError)
  | malformed (path : String) (f : Yaml.Fault)
  | notMap (path : String)
  | stated (text : String)

inductive Error where
  | config (f : ConfigFault)
  | input (f : InputFault)
  | missingColumn (column table headers : String)
  | noTemplates
  | templateNotFound (paths : List String)
  | templateCompile (template : String) (f : Template.Fault)
  | render (template : String) (row : Nat) (f : Template.Fault)
  | sidecar (f : SidecarFault)
  | decode (m : Json.Misfit)
  | yaml (f : Yaml.Fault)
  | io (e : OsError)

def Yaml.Fault.sentence (f : Yaml.Fault) : String := s!"YAML error: {f.message}."

def Json.Misfit.sentence (m : Json.Misfit) : String := s!"Decode error: {m.message}."

def OsError.sentence (e : OsError) : String := s!"IO error: {e.message}."

def ConfigFault.message : ConfigFault → String
  | .noFile path => s!"Invalid configuration path: {path}"
  | .unreadable path e => s!"{path}: {e.message}"
  | .malformed path f => s!"{path}: {f.sentence}"
  | .badShape m => s!"Invalid schema: {m.sentence}"
  | .required field => s!"'{field}' is required"
  | .dataNotMap => "'data' must be a mapping"
  | .stated text => text

def InputFault.message : InputFault → String
  | .unreadable path e => s!"{path}: {e.message}"
  | .notUtf8 path record line field start validTo =>
    s!"{path}: CSV parse error: record {record} (line {line}, field: {field}, byte: {start}): "
      ++ s!"invalid utf-8: invalid UTF-8 in field {field} near byte index {validTo}"
  | .noHeader path => s!"'{path}' is empty"
  | .noRows path => s!"'{path}' has no data rows"
  | .stated text => text

def SidecarFault.message : SidecarFault → String
  | .unreadable path e => s!"{path}: {e.sentence}"
  | .malformed path f => s!"{path}: {f.sentence}"
  | .notMap path => s!"{path}: the document root must be a mapping"
  | .stated text => text

def Error.message : Error → String
  | .config f => s!"Configuration error: {f.message}."
  | .input f => s!"Input error: {f.message}."
  | .missingColumn column table headers =>
    s!"Column '{column}' is not available in {table} (headers: {headers})."
  | .noTemplates => "No templates configured under 'template.scriban_filenames'."
  | .templateNotFound paths =>
    "Template file(s) not found: " ++ ", ".intercalate paths ++ "."
  | .templateCompile template f => s!"Template error in '{template}': {f.message}."
  | .render template row f =>
    s!"Render error in '{template}' for data row {row} (the first row after the header is 1): "
      ++ s!"{f.message}."
  | .sidecar f => s!"Sidecar error: {f.message}."
  | .decode m => m.sentence
  | .yaml f => f.sentence
  | .io e => e.sentence

def Error.exitCode : Error → Nat
  | .config _ => 6
  | .input _ => 5
  | .missingColumn _ _ _ => 4
  | .noTemplates => 3
  | .templateNotFound _ => 2
  | .templateCompile _ _ => 1
  | _ => 9

end RowPress
