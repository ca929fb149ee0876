import RowPress.Arguments
import RowPress.Run
/-!
The program as a function: from the files it finds and its arguments to what it prints, the files it
leaves, and its exit code.
-/
namespace RowPress.CommandLine

structure Outcome where
  exitCode : Nat
  stdout : String
  stderr : String
  tree : FileTree

-- Debug notes show only in verbose runs.
def isShown (verbose : Bool) (n : Note) : Bool := verbose || n.level ≠ .debug

def padded (name : String) : String := name.pushn ' ' (5 - name.length)

def logLine (n : Note) : String := s!"[{padded n.level.name} {n.area}] {n.message}\n"

def log (verbose : Bool) (j : Journal) : String :=
  String.join ((j.filter (isShown verbose)).map logLine)

def opening (c : Config) : String :=
  "csvplate\n\nLoaded configuration is...\n" ++ c.toJson.pretty
    ++ "\n...now working, please wait...\n\n"

def closing (c : Config) (written : Nat) : String :=
  s!"\nFinished! {written} file(s) written to {c.outputPath}\n"

def exampleBlock : String := s!"example:\n{Config.exampleText}\n"

def work (tree : FileTree) (a : Arguments) : Outcome :=
  match (Config.load tree a.configPath).outcome with
  | (.error e, journal) =>
    ⟨e.exitCode, "", log a.verbose journal ++ exampleBlock ++ e.message ++ "\n", tree⟩
  | (.ok c, journal) =>
    let press : Press := ⟨c, Config.sidecarExtension a.configPath⟩
    match press.run.outcome ⟨tree, .empty, journal⟩ with
    | (.error e, d) =>
      ⟨e.exitCode, opening c, log a.verbose d.journal ++ e.message ++ "\n", d.tree⟩
    | (.ok written, d) =>
      ⟨0, opening c ++ closing c written, log a.verbose d.journal, d.tree⟩

-- Help and the version are printed as results, other faults of the arguments as errors.
def run (tree : FileTree) (arguments : List String) : Outcome :=
  match Arguments.parse arguments with
  | .error f =>
    if f.exitCode = 0 then ⟨0, f.message, "", tree⟩ else ⟨f.exitCode, "", f.message, tree⟩
  | .ok a => work tree a

-- What a run over this tree reads, and the places it writes to.
def paths (tree : FileTree) (arguments : List String) : List String :=
  match Arguments.parse arguments with
  | .error _ => []
  | .ok a =>
    match (Config.load tree a.configPath).outcome.1 with
    | .error _ => [a.configPath]
    | .ok c =>
      let sidecars := c.templates.map (sidecarPath · (Config.sidecarExtension a.configPath))
      let after := (work tree a).tree
      let places := after.folders ++ after.files.map (·.1)
      a.configPath :: c.table :: c.templates ++ sidecars ++ places.map FileTree.absolute

end RowPress.CommandLine
