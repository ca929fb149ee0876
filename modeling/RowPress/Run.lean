import RowPress.Config
import RowPress.Model
import RowPress.Target
import RowPress.Template.Renderer
/-!
A run: the table is read and checked, every template is compiled, and each template is rendered for
each row into a file of its own.
-/
namespace RowPress

-- A compiled template and the document beside it.
structure RenderUnit where
  name : String
  sidecar : String

-- What a run works on: the files, the compiled templates, and the journal.
structure Desk where
  tree : FileTree
  renderer : Renderer
  journal : Journal

abbrev Work := ExceptT Error (StateM Desk)

namespace Work

def outcome (w : Work α) (d : Desk) : Except Error α × Desk := w.run.run d

-- A step that only looks at the files.
def look (s : FileTree → Step α) : Work α := do
  let d ← getThe Desk
  let (r, journal) := (s d.tree).run.run d.journal
  set { d with journal }
  match r with
  | .ok a => return a
  | .error e => throw e

def step (s : Step α) : Work α := look fun _ => s

def ofIo (r : Except OsError α) : Work α :=
  match r with
  | .ok a => return a
  | .error e => throw (.io e)

-- What a change of the files has done stays done when it ends in an error.
def change (f : FileTree → FileTree × Option OsError) : Work Unit := do
  let (tree, fault) := f (← getThe Desk).tree
  modify fun d => { d with tree }
  match fault with
  | some e => throw (.io e)
  | none => return ()

end Work

structure Press where
  config : Config
  -- The extension of the documents beside templates.
  extension : String

namespace Press

def readTable (p : Press) : Work Table := Work.look fun t => Table.read t p.config.table

def validate (p : Press) (table : Table) : Work Nat := Work.step do
  if table.rows.isEmpty then Step.fail (.input (.noRows p.config.table))
  checkColumn table p.config.column p.config.table

def compileOne (p : Press) (name : String) : Work RenderUnit := do
  Work.step (Step.note (.compiling name))
  let source ← Work.ofIo ((← getThe Desk).tree.readText name)
  match (← getThe Desk).renderer.compile name source with
  | .ok renderer => modify fun d => { d with renderer }
  | .error e => throw e
  return ⟨name, sidecarPath name p.extension⟩

-- Templates that are missing are reported together, before any is compiled.
def compile (p : Press) : Work (List RenderUnit) := do
  let names := p.config.templates
  if names.isEmpty then throw .noTemplates
  let tree := (← getThe Desk).tree
  let missing := names.filter fun name => !tree.isFile name
  if !missing.isEmpty then
    for name in missing do Work.step (Step.note (.templateMissing name))
    throw (.templateNotFound missing)
  names.mapM p.compileOne

def decodeSidecar (path text : String) : Step Value :=
  tryCatch (decode path text) fun
    | .yaml f => Step.fail (.sidecar (.malformed path f))
    | e => Step.fail e

-- A document that is not there counts as an empty one.
def readSidecar (path : String) (t : FileTree) : Step Entries := do
  if !t.isFile path then
    Step.note (.noSidecar path)
    return []
  else match t.readText path with
    | .error e => Step.fail (.sidecar (.unreadable path e))
    | .ok text =>
      match ← decodeSidecar path text with
      | .map entries => return entries
      | _ => Step.fail (.sidecar (.notMap path))

def loadSidecar (path : String) : Work Entries := Work.look (readSidecar path)

-- The text is complete before the file is touched.
def writeOutput (target content column part : String) : Work Unit := do
  if (← getThe Desk).tree.holds target then
    Work.step (Step.report (.overwrite target column part))
  match Path.parent? target with
  | some parent => Work.change (·.makeFolders parent)
  | none => pure ()
  Work.step (Step.note (.writing target))
  Work.change (·.write target (.text content))

-- One template for one row, whose number is counted from one.
def renderRow (p : Press) (table : Table) (u : RenderUnit) (sidecar : Entries) (number : Nat)
    (row : List String) : Work Unit := do
  let part ← Work.step (pathPart table.headers row p.config.column)
  let global := p.config.data.entries?.getD []
  let model ← Work.step (buildModel u.sidecar sidecar global table.headers row)
  let content ← match (← getThe Desk).renderer.render u.name number model with
    | .ok content => pure content
    | .error e => throw e
  let target := outputFile p.config.outputPath part (saveName u.name p.config.basePath)
  writeOutput target content p.config.column part

def renderRows (p : Press) (table : Table) (u : RenderUnit) (sidecar : Entries) :
    Nat → List (List String) → Work Nat
  | _, [] => return 0
  | number, row :: rest => do
    p.renderRow table u sidecar number row
    return (← p.renderRows table u sidecar (number + 1) rest) + 1

-- Every template for every row, template by template. The result is the number of files written.
def renderAll (p : Press) (table : Table) : List RenderUnit → Work Nat
  | [] => return 0
  | u :: rest => do
    let sidecar ← loadSidecar u.sidecar
    let written ← p.renderRows table u sidecar 1 table.rows
    return written + (← p.renderAll table rest)

-- Nothing is written unless every earlier stage succeeds.
def run (p : Press) : Work Nat := do
  let table ← p.readTable
  let _ ← p.validate table
  let units ← p.compile
  p.renderAll table units

end Press

end RowPress
