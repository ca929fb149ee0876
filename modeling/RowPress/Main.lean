import RowPress.CommandLine
/-!
The program itself. What is on the disk is entered into a tree, the run is worked out on the tree,
and what it changed there is written to the disk.
-/
namespace RowPress.Disk

-- A place that cannot be read because it is a folder is a folder; others are left out.
def look (path : String) : IO (Option (Option Content)) := do
  try
    return some (some (.ofBytes (← IO.FS.readBinFile path).toList))
  catch
    | .inappropriateType _ 21 _ => return some none
    | _ => return none

def enter (t : FileTree) (path : String) : IO FileTree := do
  match ← look path with
  | some (some content) => return (t.install path content).toOption.getD t
  | some none => return (t.makeFolders path).1
  | none => return t

-- A path is entered after the folders on the way to it.
def observe (t : FileTree) (path : String) : IO FileTree :=
  let names := FileTree.names path
  let lead := if Path.isAbsolute path.toList then "/" else ""
  (List.range names.length).foldlM
    (fun t n => enter t (lead ++ "/".intercalate (names.take (n + 1)))) t

-- The configuration says what is read, and what is read says where is written, so the third round
-- sees all that the run asks for.
def survey (workdir : Location) (arguments : List String) : IO FileTree :=
  (List.range 3).foldlM
    (fun t _ => (CommandLine.paths t arguments).foldlM observe t) (.bare workdir)

def store (before after : FileTree) : IO Unit := do
  for folder in after.folders do
    if !before.folders.contains folder then IO.FS.createDirAll (FileTree.absolute folder)
  for (place, content) in after.files do
    if before.content? place != some content then
      IO.FS.writeBinFile (FileTree.absolute place) ⟨content.toBytes.toArray⟩

end RowPress.Disk

def main (arguments : List String) : IO UInt32 := do
  let workdir := RowPress.FileTree.names (← IO.currentDir).toString
  let tree ← RowPress.Disk.survey workdir arguments
  let result := RowPress.CommandLine.run tree arguments
  RowPress.Disk.store tree result.tree
  IO.print result.stdout
  IO.eprint result.stderr
  return result.exitCode.toUInt32
