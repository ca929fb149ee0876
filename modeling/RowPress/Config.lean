import RowPress.Document
import RowPress.Json.Printer
/-!
The configuration of a run: which table is read, which templates are rendered for each of its rows,
where the results go, and what every template can refer to.
-/
namespace RowPress

structure Config where
  table : String
  templates : List String
  -- Taken off the front of template paths, so that folders below it reappear in the output.
  basePath : String
  outputPath : String
  -- The column whose cells name the output folders.
  column : String
  data : Value

namespace Config

def blank : Config := ⟨"", [], "", "", "", .empty⟩

-- Text fields take any scalar, and keep its display text.
def fitText (j : Json) : Json.Fitting String := return (← Json.toScalar j).display

def textField (name : String) (otherName : Option String) (set : String → Config → Config) :
    Json.Field Config :=
  ⟨name, otherName, fun j => return set (← fitText j)⟩

def inputFields : List (Json.Field Config) :=
  [textField "csv_filename" none fun s c => { c with table := s }]

def templateFields : List (Json.Field Config) :=
  [⟨"scriban_filenames", none, fun j => do
      let names ← Json.toList Json.toScalar j
      return fun c => { c with templates := names.map Scalar.display }⟩,
    textField "base_path" none fun s c => { c with basePath := s }]

-- The second name of the column is a misspelling that documents in use have.
def outputFields : List (Json.Field Config) :=
  [textField "output_path" none fun s c => { c with outputPath := s },
    textField "csv_column_for_output_path_part" (some "csv_column_for_ouput_path_part")
      fun s c => { c with column := s }]

-- Sections are records of their own; what is left out of one stays blank.
def sectionField (name kind : String) (fields : List (Json.Field Config))
    (merge : Config → Config → Config) : Json.Field Config :=
  ⟨name, none, fun j => do
    let part ← Json.toRecord kind fields blank j
    return merge part⟩

def fields : List (Json.Field Config) :=
  [sectionField "input" "InputSection" inputFields fun part c => { c with table := part.table },
    sectionField "template" "TemplateSection" templateFields fun part c =>
      { c with templates := part.templates, basePath := part.basePath },
    sectionField "output" "OutputSection" outputFields fun part c =>
      { c with outputPath := part.outputPath, column := part.column },
    ⟨"data", some "Data", fun j => do
      let v ← Json.toValue j
      return fun c => { c with data := v }⟩]

def fit (j : Json) : Json.Fitting Config := Json.toRecord "Config" fields blank j

def ofValue (v : Value) : Json.Fitting Config := fit v.toJson

def texts (names : List String) : Json := .array (names.map .text)

def toJson (c : Config) : Json :=
  .object [
    ("input", .object [("csv_filename", .text c.table)]),
    ("template", .object [
      ("scriban_filenames", texts c.templates), ("base_path", .text c.basePath)]),
    ("output", .object [
      ("output_path", .text c.outputPath), ("csv_column_for_output_path_part", .text c.column)]),
    ("data", c.data.toJson)]

def isBlankText (s : String) : Bool := (Text.trim s).isEmpty

-- What every run needs.
def validate (c : Config) : Step Unit :=
  if isBlankText c.table then Step.fail (.config (.required "input.csv_filename"))
  else if isBlankText c.column then
    Step.fail (.config (.required "output.csv_column_for_output_path_part"))
  else match c.data with
    | .map _ => return ()
    | _ => Step.fail (.config .dataNotMap)

-- Data that is present but empty counts as no data.
def settleData (c : Config) : Config :=
  match c.data with
  | .scalar (.text s) => if s.isEmpty then { c with data := .empty } else c
  | _ => c

-- Errors of a document become errors of the configuration it holds.
def decodeDocument (path text : String) : Step Value :=
  tryCatch (decode path text) fun
    | .yaml f => Step.fail (.config (.malformed path f))
    | e => Step.fail e

def load (t : FileTree) (path : String) : Step Config := do
  if !t.isFile path then Step.fail (.config (.noFile path))
  Step.note (.loadingConfig path)
  match t.readText path with
  | .error e => Step.fail (.config (.unreadable path e))
  | .ok text =>
    let document ← decodeDocument path text
    match ofValue document with
    | .error m => Step.fail (.config (.badShape m))
    | .ok c =>
      let c := c.settleData
      c.validate
      return c

def defaultPath : String := "csvplate.yaml"

def defaultExtension : String := "yaml"

-- Documents beside templates have the extension that the configuration has.
def sidecarExtension (path : String) : String := (Path.extension? path).getD defaultExtension

-- A complete configuration to start from.
def exampleText : String :=
  "input:\n  csv_filename: input.csv\ntemplate:\n  scriban_filenames:\n"
    ++ "  - templates/letter.txt\n  base_path: templates\noutput:\n  output_path: out\n"
    ++ "  csv_column_for_output_path_part: Name\ndata:\n  company: Acme Co.\n  year: 2024\n"

end Config

end RowPress
