import RowPress.Proofs.Notes
/-!
Layers laid over each other. A model holds the first entry of every key, in the order in which these
entries are given, and each of the others is reported once.
-/
namespace RowPress

-- An entry, and the source of the layer that gives it.
structure Given where
  source : String
  key : String
  value : Value

def Layer.given (layer : Layer) : List Given :=
  layer.entries.map fun (key, value) => ⟨layer.source, key, value⟩

theorem Entries.get?_append (m m' : Entries) (key : String) :
    Entries.get? (m ++ m') key = (m.get? key).or (m'.get? key) := by
  rw [get?, List.find?_append, Option.map_or]
  rfl

namespace Given

def keys (gs : List Given) : List String := gs.map (·.key)

def entry (g : Given) : String × Value := (g.key, g.value)

def duplicate (g : Given) : Diagnostic := .duplicateKey g.source g.key

-- The entries whose key is given at an earlier place, or those whose key is not.
def picked (again : Bool) (gs : List Given) : List Given :=
  (gs.zipIdx.filter fun (g, place) => decide (g.key ∈ keys (gs.take place)) == again).map (·.1)

-- What becomes of entries that are given: a model, and the notes made on the way to it.
def model (gs : List Given) : Entries := (picked false gs).map entry

def notes (gs : List Given) : Journal := (picked true gs).map fun g => .diagnostic g.duplicate

-- Whether an entry is picked hangs on those before it only.
theorem picked_snoc (again : Bool) (gs : List Given) (g : Given) :
    picked again (gs ++ [g]) =
      picked again gs ++ if decide (g.key ∈ keys gs) == again then [g] else [] := by
  have early : ∀ p ∈ gs.zipIdx,
      (decide (p.1.key ∈ keys ((gs ++ [g]).take p.2)) == again) =
        (decide (p.1.key ∈ keys (gs.take p.2)) == again) := by
    intro p member
    rw [List.take_append_of_le_length (List.snd_lt_of_mem_zipIdx member).le]
  unfold picked
  rw [List.zipIdx_append, List.filter_append, List.map_append, List.filter_congr early]
  congr 1
  rw [List.zipIdx_singleton, List.filter_singleton]
  simp only [Nat.zero_add, List.take_left]
  cases decide (g.key ∈ keys gs) == again <;> rfl

theorem model_snoc (gs : List Given) (g : Given) :
    model (gs ++ [g]) = if g.key ∈ keys gs then model gs else model gs ++ [g.entry] := by
  rw [model, picked_snoc, List.map_append]
  by_cases known : g.key ∈ keys gs <;> simp [model, known]

theorem notes_snoc (gs : List Given) (g : Given) :
    notes (gs ++ [g]) =
      if g.key ∈ keys gs then notes gs ++ [.diagnostic g.duplicate] else notes gs := by
  rw [notes, picked_snoc, List.map_append]
  by_cases known : g.key ∈ keys gs <;> simp [notes, known]

theorem keys_snoc (gs : List Given) (g : Given) : keys (gs ++ [g]) = keys gs ++ [g.key] := by
  simp [keys]

-- The keys of a model are those given, in the order in which they are first given.
theorem keys_model (gs : List Given) : (model gs).keys = (keys gs).eraseDups := by
  induction gs using List.reverseRecOn with
  | nil => rfl
  | append_singleton gs g ih =>
    rw [model_snoc, keys_snoc, List.eraseDups_append, ← ih]
    by_cases known : g.key ∈ keys gs
    · simp [known, List.removeAll]
    · simp [known, List.removeAll, Entries.keys, entry, List.eraseDups_cons]

theorem has_model (gs : List Given) (key : String) :
    (model gs).has key = true ↔ key ∈ keys gs := by
  have held : (model gs).has key = true ↔ key ∈ (model gs).keys := by
    simp [Entries.has, Entries.keys]
  rw [held, keys_model, List.mem_eraseDups]

-- Of the values given to a key the first one stays.
theorem get?_model (gs : List Given) (key : String) :
    (model gs).get? key = (gs.find? (·.key == key)).map (·.value) := by
  induction gs using List.reverseRecOn with
  | nil => rfl
  | append_singleton gs g ih =>
    rw [model_snoc, List.find?_append]
    by_cases known : g.key ∈ keys gs
    · rw [if_pos known, ih]
      obtain ⟨first, member, same⟩ := List.mem_map.mp known
      cases found : gs.find? (·.key == key) with
      | some _ => rfl
      | none =>
        have absent := List.find?_eq_none.mp found first member
        have other : (g.key == key) = false := by
          rw [← same]
          simpa using absent
        simp [other]
    · rw [if_neg known, Entries.get?_append, ih, Option.map_or]
      cases same : g.key == key <;> simp [Entries.get?, entry, same]

theorem find?_value (gs : List Given) (key : String) :
    (gs.find? (·.key == key)).map (·.value) = Entries.get? (gs.map entry) key := by
  rw [Entries.get?, List.find?_map, Option.map_map]
  rfl

theorem diagnostics_notes (gs : List Given) :
    (notes gs).diagnostics = (picked true gs).map duplicate := by
  rw [notes, Journal.diagnostics, List.filterMap_map, ← List.filterMap_eq_map]
  rfl

-- Every entry is either kept or reported.
theorem length_model_add_notes (gs : List Given) :
    (model gs).length + (notes gs).length = gs.length := by
  induction gs using List.reverseRecOn with
  | nil => rfl
  | append_singleton gs g ih =>
    rw [model_snoc, notes_snoc]
    split <;> simp only [List.length_append, List.length_singleton] <;> omega

end Given

theorem Layer.map_entry_given (layer : Layer) : layer.given.map Given.entry = layer.entries := by
  rw [given, List.map_map]
  exact List.map_id _

open Given Step

-- The entries of one source come to a model that is made of those before them.
theorem onto_mergeEntries (source : String) (entries : List (String × Value)) (before : List Given)
    (j : Journal) :
    (mergeEntries source entries (model before)).onto (j ++ notes before) =
      (.ok (model (before ++ (Layer.mk source entries).given)),
        j ++ notes (before ++ (Layer.mk source entries).given)) := by
  induction entries generalizing before with
  | nil => simp [mergeEntries, Layer.given]
  | cons e rest ih =>
    obtain ⟨key, value⟩ := e
    have next := ih (before ++ [⟨source, key, value⟩])
    rw [List.append_assoc, model_snoc, notes_snoc] at next
    rw [mergeEntries]
    by_cases known : key ∈ keys before
    · rw [if_pos known, if_pos known, ← List.append_assoc] at next
      rw [if_pos ((has_model before key).mpr known), onto_bind, report, onto_note]
      exact next
    · rw [if_neg fun held => known ((has_model before key).mp held)]
      simp only [if_neg known] at next
      exact next

theorem onto_mergeLayers (layers : List Layer) (before : List Given) (j : Journal) :
    (mergeLayers layers (model before)).onto (j ++ notes before) =
      (.ok (model (before ++ layers.flatMap Layer.given)),
        j ++ notes (before ++ layers.flatMap Layer.given)) := by
  induction layers generalizing before with
  | nil => simp [mergeLayers]
  | cons layer rest ih =>
    rw [mergeLayers, onto_bind, onto_mergeEntries]
    simp only [ih, List.flatMap_cons, List.append_assoc]

theorem outcome_merge (layers : List Layer) :
    (merge layers).outcome =
      (.ok (model (layers.flatMap Layer.given)), notes (layers.flatMap Layer.given)) :=
  onto_mergeLayers layers [] []

-- A row gives a key the cell under its first column, if the row is that long.
theorem get?_ofRow (source key : String) (headers row : List String) :
    Entries.get? (Layer.ofRow source headers row).entries key =
      ((headers.idxOf? key).bind (row[·]?)).map Value.text := by
  unfold Layer.ofRow
  induction headers generalizing row with
  | nil => rfl
  | cons header headers ih =>
    cases row with
    | nil =>
      cases (header :: headers).idxOf? key <;> rfl
    | cons cell row =>
      have rest := ih row
      rw [List.zipWith_cons_cons, List.idxOf?_cons]
      rw [Entries.get?] at rest ⊢
      rw [List.find?_cons]
      cases header == key with
      | true => rfl
      | false =>
        simp only [rest]
        cases headers.idxOf? key <;> rfl

-- The entries that a template is given for a row, the strongest source first.
def Given.all (source : String) (sidecar global : Entries) (headers row : List String) :
    List Given :=
  sidecar.map (fun (key, value) => ⟨s!"file '{source}'", key, value⟩) ++
    global.map (fun (key, value) => ⟨"global data", key, value⟩) ++
    (headers.zip row).map fun (header, cell) => ⟨"csv row", header, .text cell⟩

section Models

variable (source : String) (sidecar global : Entries) (headers row : List String)

theorem given_all : Given.all source sidecar global headers row =
    ([.ofEntries s!"file '{source}'" sidecar, .ofEntries "global data" global,
      .ofRow "csv row" headers row] : List Layer).flatMap Layer.given := by
  simp [Given.all, Layer.given, Layer.ofEntries, Layer.ofRow, List.zip, List.map_zipWith]

theorem outcome_buildModel : (buildModel source sidecar global headers row).outcome =
    (.ok (model (Given.all source sidecar global headers row)),
      notes (Given.all source sidecar global headers row)) := by
  rw [given_all]
  exact outcome_merge _

theorem get?_buildModel (key : String) :
    (model (Given.all source sidecar global headers row)).get? key =
      ((sidecar.get? key).or (global.get? key)).or
        (((headers.idxOf? key).bind (row[·]?)).map Value.text) := by
  have entries : (Given.all source sidecar global headers row).map entry =
      sidecar ++ global ++ (Layer.ofRow "csv row" headers row).entries := by
    rw [given_all, List.map_flatMap]
    simp only [List.flatMap_cons, List.flatMap_nil, Layer.map_entry_given, List.append_nil,
      List.append_assoc]
    rfl
  rw [get?_model, find?_value, entries, Entries.get?_append, Entries.get?_append, get?_ofRow]

end Models

-- The first entry of a key is kept as it is, at the place of its first appearance, and every other
-- entry is reported in the name of its own layer. In the model of a row the document beside the
-- template comes first, then the data of all templates, then the cells, which stay texts.
theorem merged_in_full :
    (∀ layers : List Layer,
      let gs := layers.flatMap Layer.given
      (merge layers).outcome = (.ok (model gs), notes gs) ∧
      (model gs).keys = (keys gs).eraseDups ∧
      (∀ key, (model gs).get? key = (gs.find? (·.key == key)).map (·.value)) ∧
      (notes gs).diagnostics = (picked true gs).map duplicate ∧
      (model gs).length + (notes gs).diagnostics.length = gs.length) ∧
    ∀ (source : String) (sidecar global : Entries) (headers row : List String),
      let gs : List Given := sidecar.map (fun (key, value) => ⟨s!"file '{source}'", key, value⟩) ++
        global.map (fun (key, value) => ⟨"global data", key, value⟩) ++
        (headers.zip row).map (fun (header, cell) => ⟨"csv row", header, .text cell⟩)
      (buildModel source sidecar global headers row).outcome = (.ok (model gs), notes gs) ∧
      ∀ key, (model gs).get? key =
        ((sidecar.get? key).or (global.get? key)).or
          (((headers.idxOf? key).bind (row[·]?)).map Value.text) := by
  constructor
  · intro layers gs
    refine ⟨outcome_merge layers, keys_model gs, get?_model gs, diagnostics_notes gs, ?_⟩
    rw [diagnostics_notes, List.length_map, ← length_model_add_notes gs, notes, List.length_map]
  · intro source sidecar global headers row gs
    exact ⟨outcome_buildModel source sidecar global headers row,
      get?_buildModel source sidecar global headers row⟩

end RowPress
