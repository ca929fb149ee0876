import RowPress.Proofs.Outcome
import RowPress.Proofs.Trimming
import RowPress.Table
/-!
Tables written with every cell between quotes. Whatever characters the cells have, such a text is
read as the same cells again; only the blanks around the names of the columns are lost.
-/
namespace RowPress

namespace Csv

-- A cell between quotes, with each quote in it doubled.
def quotedCell (cell : String) : List Char :=
  '"' :: cell.toList.flatMap (fun c => if c = '"' then ['"', '"'] else [c]) ++ ['"']

-- Cells with commas between them, and what ends the record.
def quotedRecord (ending : List Char) (cells : List String) : List Char :=
  [','].intercalate (cells.map quotedCell) ++ ending

def quotedText (ending : List Char) (records : List (List String)) : String :=
  String.ofList (records.flatMap (quotedRecord ending))

inductive LineEnd : List Char → Prop where
  | lineFeed : LineEnd ['\n']
  | both : LineEnd ['\r', '\n']

-- Where a reader stands, but for the lines and symbols that it has counted. What it has gathered is
-- still turned around.
structure Reader.At (r : Reader Char) (mode : Mode) (field : List Char) (fields : List (List Char))
    (records : List (List (List Char))) : Prop where
  mode : r.mode = mode
  field : r.field = field
  fields : r.fields = fields
  records : r.records.map (·.fields) = records

namespace Reader

variable {r : Reader Char} {mode : Mode} {c : Char} {field : List Char}
  {fields : List (List Char)} {records : List (List (List Char))}

theorem symbolOfChar_other (other : c ≠ '"') : symbolOfChar c ≠ .quote := by
  intro quote
  unfold symbolOfChar symbolOfPoint at quote
  split at quote
  · cases quote
  · split at quote
    · rename_i point
      exact other (Char.toNat_inj.mp point)
    · split at quote
      · cases quote
      · split at quote <;> cases quote

-- A quote opens a field at its beginning.
theorem step_opens (begins : mode = .betweenRecords ∨ mode = .fieldStart)
    (at' : r.At mode [] fields records) :
    (r.step symbolOfChar '"').At .quoted [] fields records := by
  obtain ⟨m, field, fields', offset, line, start, startLine, gathered⟩ := r
  obtain ⟨rfl, rfl, rfl, rfl⟩ := at'
  rcases begins with rfl | rfl <;> exact ⟨rfl, rfl, rfl, rfl⟩

-- Between quotes every other character stands for itself.
theorem step_inside (other : c ≠ '"') (at' : r.At .quoted field fields records) :
    (r.step symbolOfChar c).At .quoted (c :: field) fields records := by
  have symbol := symbolOfChar_other other
  obtain ⟨m, field, fields', offset, line, start, startLine, gathered⟩ := r
  obtain ⟨rfl, rfl, rfl, rfl⟩ := at'
  simp only [step, if_neg symbol]
  exact ⟨rfl, rfl, rfl, rfl⟩

theorem step_closes (at' : r.At .quoted field fields records) :
    (r.step symbolOfChar '"').At .afterQuote field fields records := by
  obtain ⟨m, field, fields', offset, line, start, startLine, gathered⟩ := r
  obtain ⟨rfl, rfl, rfl, rfl⟩ := at'
  exact ⟨rfl, rfl, rfl, rfl⟩

theorem step_doubles (at' : r.At .afterQuote field fields records) :
    (r.step symbolOfChar '"').At .quoted ('"' :: field) fields records := by
  obtain ⟨m, field, fields', offset, line, start, startLine, gathered⟩ := r
  obtain ⟨rfl, rfl, rfl, rfl⟩ := at'
  exact ⟨rfl, rfl, rfl, rfl⟩

theorem step_comma (at' : r.At .afterQuote field fields records) :
    (r.step symbolOfChar ',').At .fieldStart [] (field.reverse :: fields) records := by
  obtain ⟨m, field, fields', offset, line, start, startLine, gathered⟩ := r
  obtain ⟨rfl, rfl, rfl, rfl⟩ := at'
  exact ⟨rfl, rfl, rfl, rfl⟩

-- A line feed after a carriage return ends nothing more.
theorem foldl_ending {ending : List Char} (ends : LineEnd ending)
    (at' : r.At .afterQuote field fields records) :
    (ending.foldl (step symbolOfChar) r).At .betweenRecords [] []
      ((field.reverse :: fields).reverse :: records) := by
  obtain ⟨m, field, fields', offset, line, start, startLine, gathered⟩ := r
  obtain ⟨rfl, rfl, rfl, rfl⟩ := at'
  cases ends <;> exact ⟨rfl, rfl, rfl, rfl⟩

theorem foldl_doubled (cell : List Char) (at' : r.At .quoted field fields records) :
    ((cell.flatMap fun c => if c = '"' then ['"', '"'] else [c]).foldl (step symbolOfChar) r).At
      .quoted (cell.reverse ++ field) fields records := by
  induction cell generalizing r field with
  | nil => exact at'
  | cons c cell ih =>
    rw [List.flatMap_cons, List.foldl_append, List.reverse_cons, List.append_assoc]
    by_cases quote : c = '"'
    · subst quote
      exact ih (step_doubles (step_closes at'))
    · rw [if_neg quote]
      exact ih (step_inside quote at')

theorem foldl_quotedCell (cell : String) (begins : mode = .betweenRecords ∨ mode = .fieldStart)
    (at' : r.At mode [] fields records) :
    ((quotedCell cell).foldl (step symbolOfChar) r).At .afterQuote cell.toList.reverse fields
      records := by
  have inside := foldl_doubled cell.toList (step_opens begins at')
  rw [List.append_nil] at inside
  rw [quotedCell, List.foldl_append]
  exact step_closes inside

-- By the cells, from a reader that has gathered those before.
theorem foldl_quotedRecord {ending : List Char} (ends : LineEnd ending) {cells : List String}
    (some : cells ≠ []) (begins : mode = .betweenRecords ∨ mode = .fieldStart)
    (at' : r.At mode [] fields records) :
    ((quotedRecord ending cells).foldl (step symbolOfChar) r).At .betweenRecords [] []
      ((fields.reverse ++ cells.map String.toList) :: records) := by
  induction cells generalizing r mode fields with
  | nil => exact absurd rfl some
  | cons cell cells ih =>
    have first := foldl_quotedCell cell begins at'
    cases cells with
    | nil =>
      have last := foldl_ending ends first
      rw [List.reverse_reverse, List.reverse_cons] at last
      rwa [quotedRecord, List.map_singleton, List.intercalate_singleton, List.foldl_append]
    | cons next cells =>
      have more := ih (List.cons_ne_nil _ _) (.inr rfl) (step_comma first)
      rw [List.reverse_reverse, List.reverse_cons, List.append_assoc] at more
      have split : quotedRecord ending (cell :: next :: cells) =
          quotedCell cell ++ ',' :: quotedRecord ending (next :: cells) := by
        simp [quotedRecord, List.intercalate_cons_cons]
      rw [split, List.foldl_append, List.foldl_cons]
      exact more

theorem foldl_quotedRecords {ending : List Char} (ends : LineEnd ending)
    {rows : List (List String)} (each : ∀ row ∈ rows, row ≠ [])
    (at' : r.At .betweenRecords [] [] records) :
    ((rows.flatMap (quotedRecord ending)).foldl (step symbolOfChar) r).At .betweenRecords [] []
      ((rows.map (·.map String.toList)).reverse ++ records) := by
  induction rows generalizing r records with
  | nil => exact at'
  | cons row rows ih =>
    obtain ⟨some, each⟩ := List.forall_mem_cons.mp each
    rw [List.flatMap_cons, List.foldl_append, List.map_cons, List.reverse_cons, List.append_assoc]
    exact ih each (foldl_quotedRecord ends some (.inl rfl) at')

end Reader

-- A reader that stands between two records has nothing to finish.
theorem records_quotedText {ending : List Char} (ends : LineEnd ending)
    {rows : List (List String)} (each : ∀ row ∈ rows, row ≠ []) (skipped : Nat) :
    (records symbolOfChar skipped (quotedText ending rows).toList).map (·.fields) =
      rows.map (·.map String.toList) := by
  have start : (Reader.initial skipped : Reader Char).At .betweenRecords [] [] [] :=
    ⟨rfl, rfl, rfl, rfl⟩
  have all := Reader.foldl_quotedRecords ends each start
  rw [records, Reader.finish, quotedText, String.toList_ofList, all.mode]
  dsimp only
  rw [List.map_reverse, all.records, List.append_nil, List.reverse_reverse]

theorem quotedText_begins {ending : List Char} {row : List String} {rows : List (List String)}
    (some : row ≠ []) : ∃ rest, (quotedText ending (row :: rows)).toList = '"' :: rest := by
  obtain ⟨cell, cells, rfl⟩ := List.exists_cons_of_ne_nil some
  rw [quotedText, String.toList_ofList, List.flatMap_cons, quotedRecord, List.map_cons]
  cases cells with
  | nil =>
    rw [List.map_nil, List.intercalate_singleton]
    exact ⟨_, rfl⟩
  | cons next cells =>
    rw [List.map_cons, List.intercalate_cons_cons]
    exact ⟨_, rfl⟩

end Csv

namespace Table

variable {ending : List Char} {rows : List (List String)}

theorem textRecords_quotedText (ends : Csv.LineEnd ending) (each : ∀ row ∈ rows, row ≠ []) :
    textRecords (Csv.quotedText ending rows) = rows := by
  have whole : textRecords (Csv.quotedText ending rows) =
      (Csv.records Csv.symbolOfChar 0 (Csv.quotedText ending rows).toList).map cells := by
    unfold textRecords
    cases rows with
    | nil => rfl
    | cons row rows =>
      -- A text that begins with a quote has no byte order mark to skip.
      obtain ⟨rest, begins⟩ := Csv.quotedText_begins (each row List.mem_cons_self)
      rw [begins]
      rfl
  have back : ∀ row : List String, (row.map String.toList).map String.ofList = row := by
    intro row
    simp [Function.comp_def]
  have fields := Csv.records_quotedText ends each 0
  calc textRecords (Csv.quotedText ending rows)
      = ((Csv.records Csv.symbolOfChar 0 (Csv.quotedText ending rows).toList).map
          (·.fields)).map (·.map String.ofList) := by
        rw [whole, List.map_map]
        rfl
    _ = rows := by
        rw [fields, List.map_map]
        exact (List.map_congr_left fun row _ => back row).trans (List.map_id rows)

theorem stripped_trim (cell : String) :
    Text.Stripped Text.isBlank cell.toList (Text.trim cell).toList := by
  rw [Text.trim, String.toList_ofList]
  exact Text.trimWhile_stripped _ _

-- A table whose cells are written between quotes is read as that table, to the last character but
-- for the blanks around the names of its columns.
theorem read_quotedText {t : FileTree} {path : String} {header : List String}
    (ends : Csv.LineEnd ending) (columns : header ≠ []) (some : rows ≠ [])
    (each : ∀ row ∈ rows, row ≠ [])
    (held : t.read path = .ok (.text (Csv.quotedText ending (header :: rows)))) :
    ∃ names, (read t path).outcome = (.ok ⟨names, rows⟩, [.tableRead rows.length path]) ∧
      List.Forall₂ (fun cell name : String => Text.Stripped Text.isBlank cell.toList name.toList)
        header names := by
  refine ⟨header.map Text.trim, ?_, ?_⟩
  · have given : textRecords (Csv.quotedText ending (header :: rows)) = header :: rows :=
      textRecords_quotedText ends (List.forall_mem_cons.mpr ⟨columns, each⟩)
    let text := Csv.quotedText ending (header :: rows)
    have made : (do ofRecords path (← records path (.text text))) =
        .ok ⟨header.map Text.trim, rows⟩ := by
      rw [records, given]
      obtain ⟨row, rows, rfl⟩ := List.exists_cons_of_ne_nil some
      rfl
    unfold read
    rw [held]
    dsimp only
    rw [made]
    rfl
  · rw [List.forall₂_map_right_iff, List.forall₂_same]
    exact fun cell _ => stripped_trim cell

-- A row longer than the header, with a line break between quotes, and a row of one empty cell.
theorem read_quotedText_ragged :
    let rows := [["\"a\",\r\nb", "", " c"], [""]]
    ∃ t : FileTree,
      t.read "t" = .ok (.text "\" N \",\"\"\r\n\"\"\"a\"\",\r\nb\",\"\",\" c\"\r\n\"\"\r\n") ∧
      (read t "t").outcome = (.ok ⟨["N", ""], rows⟩, [.tableRead 2 "t"]) := by
  intro rows
  let text := "\" N \",\"\"\r\n\"\"\"a\"\",\r\nb\",\"\",\" c\"\r\n\"\"\r\n"
  let t := FileTree.empty.put ["work", "t"] (.text text)
  have written : Csv.quotedText ['\r', '\n'] ([" N ", ""] :: rows) = text := by decide +kernel
  have held : t.read "t" = .ok (.text (Csv.quotedText ['\r', '\n'] ([" N ", ""] :: rows))) := by
    rw [written]
    rfl
  obtain ⟨names, made, stripped⟩ :=
    read_quotedText .both (by decide) (by decide) (by decide) held
  have same : names = ["N", ""] := by
    obtain _ | ⟨first, _ | ⟨second, _ | _⟩⟩ := stripped
    rw [String.toList_inj.mp (first.eq_trimWhile.trans (rfl : _ = "N".toList)),
      String.toList_inj.mp (second.eq_trimWhile.trans (rfl : _ = "".toList))]
  rw [same] at made
  exact ⟨t, rfl, made⟩

end Table

end RowPress
