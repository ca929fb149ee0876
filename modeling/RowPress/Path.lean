/-!
Paths as texts with slashes. Repeated slashes, single dots behind the beginning, and what trails
the last name count for nothing; joining and renaming work on the text.
-/
namespace RowPress.Path

inductive Component where
  | root | here | up
  | name (text : List Char)
deriving DecidableEq

-- The texts between slashes.
def pieces : List Char → List (List Char)
  | [] => [[]]
  | c :: rest =>
    if c = '/' then [] :: pieces rest
    else match pieces rest with
      | first :: more => (c :: first) :: more
      | [] => [[c]]

def isAbsolute (path : List Char) : Bool := path.head? == some '/'

def component (piece : List Char) : Component := if piece = ['.', '.'] then .up else .name piece

-- A dot counts only as the first piece of a relative path.
def components (path : List Char) : List Component :=
  let head :=
    if isAbsolute path then [.root] else if (pieces path).head? = some ['.'] then [.here] else []
  head ++ ((pieces path).filter fun p => p ≠ [] ∧ p ≠ ['.']).map component

-- Takes slashes and single dots after slashes off the front of a reversed path.
def dropTail : List Char → List Char
  | '/' :: rest => dropTail rest
  | '.' :: '/' :: rest => dropTail ('/' :: rest)
  | path => path

-- The last name of a path, and what stands before it.
def splitName (path : List Char) : Option (List Char × List Char) :=
  let backwards := dropTail path.reverse
  let name := (backwards.takeWhile (· ≠ '/')).reverse
  if name = [] ∨ name = ['.'] ∨ name = ['.', '.'] then none
  else some ((backwards.dropWhile (· ≠ '/')).reverse, name)

def fileName? (path : String) : Option String :=
  (splitName path.toList).map fun (_, name) => String.ofList name

-- A name is split at its last dot, unless that comes first.
def splitDot (name : List Char) : List Char × Option (List Char) :=
  let after := (name.reverse.takeWhile (· ≠ '.')).reverse
  match name.reverse.dropWhile (· ≠ '.') with
  | _ :: first :: before => ((first :: before).reverse, some after)
  | _ => (name, none)

def extension? (path : String) : Option String := do
  let (_, name) ← splitName path.toList
  return String.ofList (← (splitDot name).2)

-- Everything up to the end of the last name without its extension, then the new one.
def replaceExtension (path extension : List Char) : List Char :=
  match splitName path with
  | none => path
  | some (before, name) =>
    before ++ (splitDot name).1 ++ (if extension = [] then [] else '.' :: extension)

-- A path that ends in slashes loses as many characters as its extension has before the name is
-- looked at.
def withExtension (path extension : String) : String :=
  let old := ((extension? path).map String.toList).getD []
  let kept := path.toList.take (path.toList.length - old.length)
  String.ofList (replaceExtension kept extension.toList)

-- The second path if it is absolute, else both with a slash between them.
def join (path more : String) : String :=
  if isAbsolute more.toList then more
  else if path.isEmpty ∨ path.toList.getLast? = some '/' then path ++ more
  else path ++ "/" ++ more

-- The path without its last component.
def parent? (path : String) : Option String :=
  let backwards := dropTail path.toList.reverse
  if backwards = [] then none
  else
    let before := dropTail (backwards.dropWhile (· ≠ '/'))
    some (if before = [] ∧ isAbsolute path.toList then "/" else String.ofList before.reverse)

end RowPress.Path
