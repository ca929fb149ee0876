import RowPress.Proofs.Document
/-!
What the steps of a run note, and how they fail. Each step fails in a way of its own, and none of
them tells of a file that is replaced: only saving does.
-/
namespace RowPress

def Note.overwrites : Note → Bool
  | .diagnostic (.overwrite _ _ _) => true
  | _ => false

-- A step that saves nothing, and its kind of errors.
abbrev Step.Quiet (errors : Error → Prop) (s : Step α) : Prop :=
  Step.Within (fun n => n.overwrites = false) errors s

open Step

variable {notes : Note → Prop} {errors : Error → Prop}

theorem Step.forIn_note_within {γ : Type} {f : γ → Note} {items : List γ}
    (kind : ∀ x ∈ items, notes (f x)) :
    Within notes errors (forIn items PUnit.unit fun x _ => do
      note (f x)
      pure (ForInStep.yield PUnit.unit) : Step PUnit) := by
  refine ⟨?_, ?_, ?_⟩
  · intro j
    rw [outcome_eq, onto_forIn_note, onto_forIn_note, List.nil_append]
  · intro n member
    rw [outcome_eq, onto_forIn_note, List.nil_append] at member
    obtain ⟨x, at', rfl⟩ := List.mem_map.mp member
    exact kind x at'
  · intro e failed
    rw [outcome_eq, onto_forIn_note] at failed
    cases failed

theorem decode_quiet (source text : String) :
    Quiet (fun e => ∃ f, e = .yaml f) (decode source text) := by
  unfold decode
  refine bind_within (note_within rfl) fun _ _ => ?_
  refine bind_within (forIn_note_within ?_) fun _ _ => ?_
  · intro r _
    cases r <;> rfl
  · cases (Yaml.events text).fault with
    | none => exact pure_within _
    | some f => exact fail_within ⟨f, rfl⟩

-- The entries of one source are taken or reported; nothing else can happen.
theorem mergeEntries_quiet (source : String) (entries : List (String × Value)) (model : Entries) :
    Quiet (fun _ => False) (mergeEntries source entries model) := by
  induction entries generalizing model with
  | nil => exact pure_within _
  | cons entry rest ih =>
    obtain ⟨key, value⟩ := entry
    unfold mergeEntries
    split
    · exact bind_within (note_within rfl) fun _ _ => ih model
    · exact ih _

theorem mergeLayers_quiet (layers : List Layer) (model : Entries) :
    Quiet (fun _ => False) (mergeLayers layers model) := by
  induction layers generalizing model with
  | nil => exact pure_within _
  | cons layer rest ih =>
    refine bind_within (mergeEntries_quiet layer.source layer.entries model) ?_
    intro model' _
    exact ih model'

theorem buildModel_quiet (source : String) (sidecar global : Entries) (headers row : List String) :
    Quiet (fun _ => False) (buildModel source sidecar global headers row) :=
  mergeLayers_quiet _ _

theorem pathPart_quiet (headers row : List String) (column : String) :
    Quiet (fun e => ∃ table, e = missingColumn column table headers)
      (pathPart headers row column) := by
  unfold pathPart
  split
  · exact fail_within ⟨_, rfl⟩
  · exact pure_within _

theorem checkColumn_quiet (table : Table) (column tableName : String) :
    Quiet (fun e => ∃ shown, e = missingColumn column shown table.headers)
      (checkColumn table column tableName) := by
  unfold checkColumn
  split
  · exact fail_within ⟨_, rfl⟩
  · split
    · exact fail_within ⟨_, rfl⟩
    · exact pure_within _

theorem Table.read_quiet (t : FileTree) (path : String) :
    Quiet (fun e => ∃ f, e = .input f) (Table.read t path) := by
  unfold Table.read
  split
  · exact fail_within ⟨_, rfl⟩
  · split
    · exact fail_within ⟨_, rfl⟩
    · exact bind_within (note_within rfl) fun _ _ => pure_within _

namespace Press

theorem decodeSidecar_quiet (path text : String) :
    Quiet (fun e => ∃ f, e = .sidecar f) (decodeSidecar path text) := by
  refine tryCatch_within (decode_quiet path text) ?_
  rintro _ ⟨f, rfl⟩
  exact fail_within ⟨_, rfl⟩

theorem readSidecar_quiet (path : String) (t : FileTree) :
    Quiet (fun e => ∃ f, e = .sidecar f) (readSidecar path t) := by
  unfold readSidecar
  split
  · exact bind_within (note_within rfl) fun _ _ => pure_within _
  · split
    · exact fail_within ⟨_, rfl⟩
    · refine bind_within (decodeSidecar_quiet path _) fun v _ => ?_
      split
      · exact pure_within _
      · exact fail_within ⟨_, rfl⟩

end Press

namespace Config

theorem decodeDocument_quiet (path text : String) :
    Quiet (fun e => ∃ f, e = .config f) (decodeDocument path text) := by
  refine tryCatch_within (decode_quiet path text) ?_
  rintro _ ⟨f, rfl⟩
  exact fail_within ⟨_, rfl⟩

theorem validate_quiet (c : Config) : Quiet (fun e => ∃ f, e = .config f) c.validate := by
  unfold validate
  split
  · exact fail_within ⟨_, rfl⟩
  · split
    · exact fail_within ⟨_, rfl⟩
    · split
      · exact pure_within _
      · exact fail_within ⟨_, rfl⟩

theorem load_quiet (t : FileTree) (path : String) :
    Quiet (fun e => ∃ f, e = .config f) (load t path) := by
  unfold load
  by_cases missing : (!t.isFile path) = true
  · simp only [if_pos missing]
    exact bind_within (fail_within ⟨_, rfl⟩) fun _ reached => by cases reached
  · simp only [if_neg missing]
    refine bind_within (note_within rfl) fun _ _ => ?_
    split
    · exact fail_within ⟨_, rfl⟩
    · refine bind_within (decodeDocument_quiet path _) fun document _ => ?_
      split
      · exact fail_within ⟨_, rfl⟩
      · exact bind_within (validate_quiet _) fun _ _ => pure_within _

end Config

end RowPress
