import RowPress.Csv
import RowPress.Step
import RowPress.Text.Class
/-! The table whose rows are rendered: names of columns, and rows of cells. -/
namespace RowPress

-- Rows may be shorter or longer than the header.
structure Table where
  headers : List String
  rows : List (List String)
deriving DecidableEq

namespace Table

def empty : Table := ⟨[], []⟩

-- The first column of a name.
def columnIndex? (t : Table) (column : String) : Option Nat := t.headers.findIdx? (· == column)

def byteOrderMark : Char := '\ufeff'

def cells (r : Csv.Record Char) : List String := r.fields.map String.ofList

def textRecords (s : String) : List (List String) :=
  let text := match s.toList with
    | c :: rest => if c = byteOrderMark then rest else c :: rest
    | [] => []
  (Csv.records Csv.symbolOfChar 0 text).map cells

def decodeFields (path : String) (number : Nat) (r : Csv.Record UInt8) :
    Nat → List (List UInt8) → Except InputFault (List String)
  | _, [] => .ok []
  | i, field :: rest => do
    let (text, taken) := Text.decodeValid field
    if taken = field.length then
      return String.ofList text :: (← decodeFields path number r (i + 1) rest)
    else throw (.notUtf8 path number r.line i r.start taken)

def decodeRecords (path : String) :
    Nat → List (Csv.Record UInt8) → Except InputFault (List (List String))
  | _, [] => .ok []
  | number, r :: rest => do
    let first ← decodeFields path number r 0 r.fields
    return first :: (← decodeRecords path (number + 1) rest)

def byteRecords (path : String) (bytes : List UInt8) : Except InputFault (List (List String)) :=
  let skipped := if [0xEF, 0xBB, 0xBF].isPrefixOf bytes then 3 else 0
  decodeRecords path 0 (Csv.records Csv.symbolOfByte skipped (bytes.drop skipped))

def records (path : String) : Content → Except InputFault (List (List String))
  | .text s => .ok (textRecords s)
  | .bytes b => byteRecords path b

-- The first record names the columns; blanks around the names do not count.
def ofRecords (path : String) : List (List String) → Except InputFault Table
  | [] => .error (.noHeader path)
  | _ :: [] => .error (.noRows path)
  | header :: rows => .ok ⟨header.map Text.trim, rows⟩

def read (t : FileTree) (path : String) : Step Table := do
  match t.read path with
  | .error e => Step.fail (.input (.unreadable path e))
  | .ok content =>
    match do ofRecords path (← records path content) with
    | .error f => Step.fail (.input f)
    | .ok table =>
      Step.note (.tableRead table.rows.length path)
      return table

end Table

end RowPress
