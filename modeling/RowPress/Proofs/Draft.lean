import RowPress.Proofs.Normal
/-!
Documents before their scalars are typed. The builder makes one pass; to see what a document writes
at a place, the same pass is made with the texts left as they are. Typing those gives the value.
-/
namespace RowPress

-- What a document writes: references are followed, keys are cleaned, and of the values that are
-- given to one key the first is kept.
inductive Draft where
  | scalar (text : String) (style : Yaml.Style)
  -- A reference that nothing finished stands behind.
  | nothing
  | sequence (items : List Draft)
  | map (entries : List (String × Draft))

namespace Draft

mutual

def typed : Draft → Value
  | .scalar text style => .scalar (coerce (Builder.scalarText text style))
  | .nothing => .text ""
  | .sequence items => .sequence (typedItems items)
  | .map entries => .map (typedEntries entries)

def typedItems : List Draft → List Value
  | [] => []
  | item :: rest => item.typed :: typedItems rest

def typedEntries : List (String × Draft) → Entries
  | [] => []
  | (key, d) :: rest => (key, d.typed) :: typedEntries rest

end

theorem typedItems_eq_map (items : List Draft) : typedItems items = items.map typed := by
  induction items with
  | nil => rfl
  | cons item rest ih => rw [typedItems, ih, List.map_cons]

theorem typedEntries_eq_map (entries : List (String × Draft)) :
    typedEntries entries = entries.map fun (key, d) => (key, d.typed) := by
  induction entries with
  | nil => rfl
  | cons entry rest ih =>
    obtain ⟨key, d⟩ := entry
    rw [typedEntries, ih, List.map_cons]

theorem has_typedEntries (entries : List (String × Draft)) (key : String) :
    (typedEntries entries).has key = entries.any (·.1 == key) := by
  rw [typedEntries_eq_map, Entries.has, List.any_map]
  rfl

-- Only scalars can be keys.
def raw? : Draft → Option String
  | .scalar text style => some (Builder.scalarText text style)
  | _ => none

-- The first half of an entry, as it waits for the second.
def pending (key : Draft) : PendingKey :=
  match key.raw? with
  | some raw => .text raw
  | none => .notText

def finished (d : Draft) : Finished := ⟨d.typed, d.raw?⟩

end Draft

-- A collection that is still open.
inductive DraftFrame where
  | sequence (anchor : Nat) (items : List Draft)
  | mapping (anchor : Nat) (entries : List (String × Draft)) (pending : Option PendingKey)

def DraftFrame.typed : DraftFrame → Frame
  | .sequence anchor items => .sequence anchor (Draft.typedItems items)
  | .mapping anchor entries pending => .mapping anchor (Draft.typedEntries entries) pending

structure Drafting where
  stack : List DraftFrame
  anchors : List (Nat × Draft)
  root : Option Draft

namespace Drafting

def empty : Drafting := ⟨[], [], none⟩

def push (p : Drafting) (d : Draft) : Drafting :=
  match p.stack with
  | [] => { p with root := p.root.or (some d) }
  | .sequence anchor items :: rest =>
    { p with stack := .sequence anchor (items ++ [d]) :: rest }
  | .mapping anchor entries none :: rest =>
    { p with stack := .mapping anchor entries (some d.pending) :: rest }
  | .mapping anchor entries (some .notText) :: rest =>
    { p with stack := .mapping anchor entries none :: rest }
  | .mapping anchor entries (some (.text raw)) :: rest =>
    if entries.any (·.1 == keyOf raw) then { p with stack := .mapping anchor entries none :: rest }
    else { p with stack := .mapping anchor (entries ++ [(keyOf raw, d)]) none :: rest }

def complete (p : Drafting) (anchor : Nat) (d : Draft) : Drafting :=
  let p := if 0 < anchor then { p with anchors := (anchor, d) :: p.anchors } else p
  p.push d

def anchored? (p : Drafting) (anchor : Nat) : Option Draft :=
  (p.anchors.find? (·.1 == anchor)).map (·.2)

def take (p : Drafting) : Yaml.Event → Drafting
  | .scalar text style anchor _ => p.complete anchor (.scalar text style)
  | .sequenceStart anchor _ => { p with stack := .sequence anchor [] :: p.stack }
  | .sequenceEnd =>
    match p.stack with
    | .sequence anchor items :: rest => { p with stack := rest }.complete anchor (.sequence items)
    | _ => { p with stack := p.stack.drop 1 }
  | .mappingStart anchor _ => { p with stack := .mapping anchor [] none :: p.stack }
  | .mappingEnd =>
    match p.stack with
    | .mapping anchor entries _ :: rest => { p with stack := rest }.complete anchor (.map entries)
    | _ => { p with stack := p.stack.drop 1 }
  | .reference anchor => p.push ((p.anchored? anchor).getD .nothing)
  | _ => p

def ofEvents (events : List Yaml.Event) : Drafting := events.foldl take empty

-- A document without content, or with an empty text, is an empty map.
def result (p : Drafting) : Draft :=
  match p.root with
  | none | some .nothing => .map []
  | some (.scalar text style) =>
    if (Builder.scalarText text style).isEmpty then .map [] else .scalar text style
  | some d => d

-- A builder that has seen the same events holds the same, typed.
structure Types (p : Drafting) (b : Builder) : Prop where
  stack : b.stack = p.stack.map DraftFrame.typed
  anchors : b.anchors = p.anchors.map fun (anchor, d) => (anchor, d.finished)
  root : b.root = p.root.map Draft.typed

variable {p : Drafting} {b : Builder}

theorem push_types (types : p.Types b) (d : Draft) : (p.push d).Types (b.push d.finished) := by
  obtain ⟨stack, anchors, root⟩ := types
  cases open' : p.stack with
  | nil =>
    rw [open'] at stack
    simp only [push, Builder.push, open', stack, List.map_nil]
    refine ⟨rfl, anchors, ?_⟩
    cases held : p.root <;> simp [root, held, Draft.finished]
  | cons frame rest =>
    rw [open', List.map_cons] at stack
    cases frame with
    | sequence anchor items =>
      simp only [push, Builder.push, open', stack, DraftFrame.typed]
      refine ⟨?_, anchors, root⟩
      simp [DraftFrame.typed, Draft.typedItems_eq_map, Draft.finished]
    | mapping anchor entries pending =>
      cases pending with
      | none =>
        simp only [push, Builder.push, open', stack, DraftFrame.typed]
        refine ⟨?_, anchors, root⟩
        cases raw : d.raw? <;> simp [DraftFrame.typed, Draft.pending, Draft.finished, raw]
      | some key =>
        cases key with
        | notText =>
          simp only [push, Builder.push, open', stack, DraftFrame.typed]
          exact ⟨rfl, anchors, root⟩
        | text raw =>
          simp only [push, Builder.push, open', stack, DraftFrame.typed, Draft.has_typedEntries]
          split
          · exact ⟨rfl, anchors, root⟩
          · refine ⟨?_, anchors, root⟩
            simp [DraftFrame.typed, Draft.typedEntries_eq_map, Draft.finished]

theorem complete_types (types : p.Types b) (anchor : Nat) (d : Draft) :
    (p.complete anchor d).Types (b.complete anchor d.finished) := by
  refine push_types ?_ d
  split
  · exact ⟨types.stack, by simp [types.anchors], types.root⟩
  · exact types

theorem anchored?_types (types : p.Types b) (anchor : Nat) :
    (b.anchored? anchor).getD ⟨.text "", none⟩ = ((p.anchored? anchor).getD .nothing).finished := by
  have found : b.anchored? anchor = (p.anchored? anchor).map Draft.finished := by
    rw [Builder.anchored?, anchored?, types.anchors, List.find?_map, Option.map_map, Option.map_map]
    rfl
  rw [found]
  cases p.anchored? anchor <;> rfl

theorem take_types (types : p.Types b) (e : Yaml.Event) : (p.take e).Types (b.take e) := by
  cases e with
  | scalar text style anchor tag => exact complete_types types anchor (.scalar text style)
  | sequenceStart anchor tag =>
    exact ⟨by simp [take, Builder.take, types.stack, DraftFrame.typed, Draft.typedItems],
      types.anchors, types.root⟩
  | mappingStart anchor tag =>
    exact ⟨by simp [take, Builder.take, types.stack, DraftFrame.typed, Draft.typedEntries],
      types.anchors, types.root⟩
  | sequenceEnd =>
    have stack := types.stack
    cases open' : p.stack with
    | nil =>
      rw [open', List.map_nil] at stack
      simp only [take, Builder.take, open', stack]
      exact ⟨by simp, types.anchors, types.root⟩
    | cons frame rest =>
      rw [open', List.map_cons] at stack
      cases frame with
      | sequence anchor items =>
        simp only [take, Builder.take, open', stack, DraftFrame.typed]
        have closed : Types { p with stack := rest }
            { b with stack := rest.map DraftFrame.typed } := ⟨rfl, types.anchors, types.root⟩
        exact complete_types closed anchor (.sequence items)
      | mapping anchor entries pending =>
        simp only [take, Builder.take, open', stack, DraftFrame.typed]
        exact ⟨by simp, types.anchors, types.root⟩
  | mappingEnd =>
    have stack := types.stack
    cases open' : p.stack with
    | nil =>
      rw [open', List.map_nil] at stack
      simp only [take, Builder.take, open', stack]
      exact ⟨by simp, types.anchors, types.root⟩
    | cons frame rest =>
      rw [open', List.map_cons] at stack
      cases frame with
      | sequence anchor items =>
        simp only [take, Builder.take, open', stack, DraftFrame.typed]
        exact ⟨by simp, types.anchors, types.root⟩
      | mapping anchor entries pending =>
        simp only [take, Builder.take, open', stack, DraftFrame.typed]
        have closed : Types { p with stack := rest }
            { b with stack := rest.map DraftFrame.typed } := ⟨rfl, types.anchors, types.root⟩
        exact complete_types closed anchor (.map entries)
  | reference anchor =>
    rw [take, Builder.take, anchored?_types types]
    exact push_types types _
  | _ => exact types

theorem ofEvents_types (events : List Yaml.Event) :
    (ofEvents events).Types (Builder.ofEvents events) := by
  have from' : ∀ (p : Drafting) (b : Builder), p.Types b →
      (events.foldl take p).Types (events.foldl Builder.take b) := by
    induction events with
    | nil => exact fun _ _ types => types
    | cons e rest ih => exact fun p b types => ih _ _ (take_types types e)
  exact from' _ _ ⟨rfl, rfl, rfl⟩

theorem result_typed (events : List Yaml.Event) :
    (Builder.ofEvents events).result = (ofEvents events).result.typed := by
  have types := ofEvents_types events
  rw [Builder.result, result, types.root]
  cases (ofEvents events).root with
  | none => rfl
  | some d =>
    cases d with
    | scalar text style =>
      by_cases empty : (Builder.scalarText text style).isEmpty = true
      · have raw := String.isEmpty_iff.mp empty
        simp only [Option.map_some, Draft.typed, raw]
        rfl
      · simp only [if_neg empty, Option.map_some, Draft.typed]
        cases typed : coerce (Builder.scalarText text style) with
        | text s =>
          rw [← coerce_text typed] at empty
          simp only [if_neg empty]
          rfl
        | _ => rfl
    | _ => rfl

end Drafting

-- What the text of a document writes.
def draftOf (text : String) : Draft := (Drafting.ofEvents (Yaml.events text).found).result

-- Decoding a text that can be read types what it writes.
theorem decode_ok_iff {source text : String} {v : Value} :
    (decode source text).outcome.1 = .ok v ↔
      (Yaml.events text).fault = none ∧ v = (draftOf text).typed := by
  rw [outcome_decode, draftOf, ← Drafting.result_typed]
  cases (Yaml.events text).fault with
  | some fault => simp
  | none => simp [eq_comm]

end RowPress
