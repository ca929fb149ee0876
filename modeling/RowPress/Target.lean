import RowPress.Table
/-!
Where a rendered text is saved: the output folder, in it a folder named by a cell of the row, and
in that a name taken from the template.
-/
namespace RowPress

def missingColumn (column table : String) (headers : List String) : Error :=
  .missingColumn column table (",".intercalate headers)

-- The column has to be in the header and in every row.
def checkColumn (t : Table) (column tableName : String) : Step Nat :=
  match t.columnIndex? column with
  | none => Step.fail (missingColumn column s!"the csv file '{tableName}'" t.headers)
  | some index =>
    if t.rows.any fun row => row.length ≤ index then
      Step.fail (missingColumn column s!"every row of the csv file '{tableName}'" t.headers)
    else return index

-- Letters and digits of the cell.
def pathPart (headers row : List String) (column : String) : Step String :=
  match headers.findIdx? (· == column) >>= (row[·]?) with
  | none =>
    let shown := ",".intercalate row
    Step.fail (missingColumn column s!"row '{shown}'" headers)
  | some cell => return String.ofList (cell.toList.filter Text.isAlphanumeric)

def isSeparator (c : Char) : Bool := c == '/' || c == '\\'

-- What is left of a text after another at its front.
def dropFront? : List Char → List Char → Option (List Char)
  | [], cs => some cs
  | _ :: _, [] => none
  | a :: front, c :: cs => if a = c then dropFront? front cs else none

-- The template path after the base path and the separators that follow it, or the file name.
def saveName (template base : String) : String :=
  let fileName := (Path.fileName? template).getD template
  if base.isEmpty then fileName
  else match dropFront? base.toList template.toList with
    | none => fileName
    | some rest =>
      let rest := rest.dropWhile isSeparator
      if rest = [] then fileName else String.ofList rest

def outputFile (root part name : String) : String := Path.join (Path.join root part) name

-- The document beside a template.
def sidecarPath (template extension : String) : String := Path.withExtension template extension

end RowPress
