import RowPress.Proofs.Merging
import RowPress.Proofs.Stages
import RowPress.Proofs.Target
/-!
The column that names the folders. It is looked up three times: in the whole table before anything
is rendered, in each row for the name of its folder, and in each row for the model. All three come
to the same cell, so that a table that has passed the check cannot fail on its column later.
-/
namespace RowPress

section Lookup

variable {table : Table} {column tableName cell : String} {headers row : List String} {index : Nat}

-- Of columns with the same name the first one counts.
theorem columnIndex?_eq_some_iff : table.columnIndex? column = some index ↔
    table.headers[index]? = some column ∧
      ∀ earlier < index, table.headers[earlier]? ≠ some column := by
  unfold Table.columnIndex?
  rw [List.findIdx?_eq_some_iff_getElem]
  constructor
  · rintro ⟨inside, same, others⟩
    refine ⟨List.getElem?_eq_some_iff.mpr ⟨inside, by simpa using same⟩, ?_⟩
    intro earlier before found
    obtain ⟨_, same'⟩ := List.getElem?_eq_some_iff.mp found
    exact others earlier before (by simpa using same')
  · rintro ⟨found, others⟩
    obtain ⟨inside, same⟩ := List.getElem?_eq_some_iff.mp found
    refine ⟨inside, by simpa using same, ?_⟩
    intro earlier before same'
    have found' := List.getElem?_eq_getElem (before.trans inside)
    exact others earlier before (by rw [found', eq_of_beq same'])

theorem checkColumn_ok_iff : (checkColumn table column tableName).outcome.1 = .ok index ↔
    table.columnIndex? column = some index ∧ ∀ row ∈ table.rows, index < row.length := by
  constructor
  · intro checked
    cases at' : table.columnIndex? column with
    | none =>
      rw [Press.checkColumn_header at'] at checked
      cases checked
    | some first =>
      by_cases long : ∀ row ∈ table.rows, first < row.length
      · rw [Press.checkColumn_found at' long] at checked
        cases checked
        exact ⟨rfl, long⟩
      · simp only [not_forall, Nat.not_lt] at long
        obtain ⟨row, member, short⟩ := long
        rw [Press.checkColumn_shortRow at' member short] at checked
        cases checked
  · rintro ⟨at', long⟩
    exact Press.checkColumn_found at' long

theorem supplies_iff_checked :
    table.Supplies column ↔ ∃ index, (checkColumn table column tableName).outcome.1 = .ok index :=
  exists_congr fun _ => checkColumn_ok_iff.symm

theorem cell?_eq_some_iff : cell? table.headers row column = some cell ↔
    ∃ index, table.columnIndex? column = some index ∧ row[index]? = some cell :=
  Option.bind_eq_some_iff

-- Without a row there is nothing that shows whether the column is there.
theorem supplies_iff_cells (filled : table.rows ≠ []) : table.Supplies column ↔
    ∀ row ∈ table.rows, ∃ cell, cell? table.headers row column = some cell := by
  constructor
  · rintro ⟨index, at', long⟩ row member
    exact ⟨_, cell?_eq_some_iff.mpr ⟨index, at', List.getElem?_eq_getElem (long row member)⟩⟩
  · intro cells
    obtain ⟨first, rest, split⟩ := List.exists_cons_of_ne_nil filled
    obtain ⟨_, found⟩ := cells first (split ▸ List.mem_cons_self)
    obtain ⟨index, at', _⟩ := cell?_eq_some_iff.mp found
    refine ⟨index, at', ?_⟩
    intro row member
    obtain ⟨cell, found⟩ := cells row member
    obtain ⟨index', at'', inside⟩ := cell?_eq_some_iff.mp found
    cases at'.symm.trans at''
    exact (List.getElem?_eq_some_iff.mp inside).1

theorem pathPart_cell (found : cell? headers row column = some cell) :
    (pathPart headers row column).outcome.1 = .ok (String.ofList (lettersOf cell)) :=
  pathPart_ok_iff.mpr ⟨cell, found, String.toList_ofList⟩

theorem pathPart_ok_iff_cell : (∃ part, (pathPart headers row column).outcome.1 = .ok part) ↔
    ∃ cell, cell? headers row column = some cell := by
  constructor
  · rintro ⟨part, made⟩
    obtain ⟨cell, found, _⟩ := pathPart_ok_iff.mp made
    exact ⟨cell, found⟩
  · rintro ⟨cell, found⟩
    exact ⟨_, pathPart_cell found⟩

end Lookup

section Models

variable {column : String}

theorem get?_eq_none {m : Entries} (absent : column ∉ m.keys) : m.get? column = none := by
  rw [Entries.get?, Option.map_eq_none_iff, List.find?_eq_none]
  intro entry member same
  exact absent (List.mem_map.mpr ⟨entry, member, eq_of_beq same⟩)

-- What neither the document beside the template nor the data gives is the cell of the row.
theorem get?_cell {sidecar global : Entries} (aside : column ∉ sidecar.keys)
    (apart : column ∉ global.keys) (source : String) (headers row : List String) :
    ∃ model, (buildModel source sidecar global headers row).outcome.1 = .ok model ∧
      model.get? column = (cell? headers row column).map Value.text := by
  refine ⟨_, congrArg Prod.fst (outcome_buildModel source sidecar global headers row), ?_⟩
  rw [get?_buildModel, get?_eq_none aside, get?_eq_none apart]
  rfl

end Models

theorem Press.validate_supplies {p : Press} {table : Table} {index : Nat} {d d' : Desk}
    (accepted : (p.validate table).outcome d = (.ok index, d')) :
    table.Supplies p.config.column := by
  by_cases filled : table.rows = []
  · have none : table.rows.isEmpty = true := List.isEmpty_iff.mpr filled
    unfold validate at accepted
    simp only [if_pos none] at accepted
    cases accepted
  · rw [outcome_validate p filled] at accepted
    exact supplies_iff_checked.mpr ⟨index, (Prod.mk.inj accepted).1⟩

-- The check accepts a table exactly if the column gives every row a folder, which is to say that
-- every row has a cell under the first header of that name. Then all that is made of the column is
-- made of these cells, and no rendering fails on it.
theorem checkColumn_resolves {table : Table} (filled : table.rows ≠ [])
    (column tableName : String) :
    ((∃ index, (checkColumn table column tableName).outcome.1 = .ok index) ↔
      ∀ row ∈ table.rows, ∃ part, (pathPart table.headers row column).outcome.1 = .ok part) ∧
    (∀ index, (checkColumn table column tableName).outcome.1 = .ok index ↔
      (table.headers[index]? = some column ∧
        ∀ earlier < index, table.headers[earlier]? ≠ some column) ∧
      ∀ row ∈ table.rows, index < row.length) ∧
    (∀ index, (checkColumn table column tableName).outcome.1 = .ok index →
      ∀ row ∈ table.rows, ∃ cell, row[index]? = some cell ∧
        (pathPart table.headers row column).outcome.1 = .ok (String.ofList (lettersOf cell)) ∧
        ∀ (source : String) (sidecar global : Entries), column ∉ sidecar.keys →
          column ∉ global.keys → ∃ model,
            (buildModel source sidecar global table.headers row).outcome.1 = .ok model ∧
            model.get? column = some (.text cell)) ∧
    ∀ (p : Press) (d d' : Desk) (index : Nat), (p.validate table).outcome d = (.ok index, d') →
      ∀ (units : List RenderUnit) (start stop : Desk) (name place headers : String),
        (p.renderAll table units).outcome start ≠
          (.error (.missingColumn name place headers), stop) := by
  refine ⟨?_, ?_, ?_, ?_⟩
  · rw [← supplies_iff_checked, supplies_iff_cells filled]
    exact forall₂_congr fun row _ => pathPart_ok_iff_cell.symm
  · intro index
    rw [checkColumn_ok_iff, columnIndex?_eq_some_iff]
  · intro index checked row member
    obtain ⟨at', long⟩ := checkColumn_ok_iff.mp checked
    have inside := List.getElem?_eq_getElem (long row member)
    have found := cell?_eq_some_iff.mpr ⟨index, at', inside⟩
    refine ⟨_, inside, pathPart_cell found, ?_⟩
    intro source sidecar global aside apart
    obtain ⟨model, made, given⟩ := get?_cell aside apart source table.headers row
    exact ⟨model, made, by rw [given, found]; rfl⟩
  · intro p d d' index accepted units start stop name place headers ran
    have code := Press.exitCode_renderAll (Press.validate_supplies accepted) ran
    cases code

-- Two columns of one name, and rows of three lengths.
theorem checkColumn_resolves_ragged :
    let table : Table := ⟨["a", "b", "a"], [["x 1", "y", "z"], ["-", "u", "v", "w"], ["é"]]⟩
    table.rows ≠ [] ∧ (checkColumn table "a" "t").outcome.1 = .ok 0 ∧
    (∃ model, (buildModel "s" [("b", .empty)] [] table.headers ["x 1", "y", "z"]).outcome.1 =
      .ok model ∧ model.get? "a" = some (.text "x 1")) ∧
    ¬ ∃ index, (checkColumn table "b" "t").outcome.1 = .ok index := by
  intro table
  have filled : table.rows ≠ [] := List.cons_ne_nil _ _
  have checked : (checkColumn table "a" "t").outcome.1 = .ok 0 := rfl
  obtain ⟨_, _, cells, _⟩ := checkColumn_resolves filled "a" "t"
  obtain ⟨cell, inside, _, models⟩ := cells 0 checked ["x 1", "y", "z"] List.mem_cons_self
  cases inside
  refine ⟨filled, checked, models "s" [("b", .empty)] [] (by decide) (by decide), ?_⟩
  intro accepted
  obtain ⟨part, made⟩ := (checkColumn_resolves filled "b" "t").1.mp accepted ["é"] (by decide)
  cases made

end RowPress
