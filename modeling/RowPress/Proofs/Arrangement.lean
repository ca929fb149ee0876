import RowPress.Proofs.Configuration
/-!
A configuration in many arrangements. The entries of its document, and of each section, can come in
any order and under either of their names; blank ones can be left out, and others can stand between
them. Every such document gives the configuration back.
-/
namespace RowPress

-- An entry of a record: the names it can have, of which the first is the usual one, the value that
-- is written for it, whether it can be left out, and what its value can be changed to.
structure Slot where
  name : String
  otherNames : List String
  value : Value
  Optional : Prop
  Change : Value → Value → Prop

namespace Slot

def names (s : Slot) : List String := s.name :: s.otherNames

def entry (s : Slot) : String × Value := (s.name, s.value)

-- The entries that are written for a slot.
def given (s : Slot) (m : Entries) : Entries := m.filter fun entry => s.names.contains entry.1

-- What can be put in the place of an entry.
inductive Rewrite (s : Slot) : String × Value → Entries → Prop where
  | rename {key key' : String} {v : Value} :
      key ∈ s.names → key' ∈ s.names → Rewrite s (key, v) [(key', v)]
  | inside {key : String} {v v' : Value} :
      key ∈ s.names → s.Change v v' → Rewrite s (key, v) [(key, v')]
  | leaveOut {key : String} {v : Value} : key ∈ s.names → s.Optional → Rewrite s (key, v) []

end Slot

-- One edit of the entries of a record.
inductive Edit (slots : List Slot) : Entries → Entries → Prop where
  | reorder {m m' : Entries} : m.Perm m' → Edit slots m m'
  | add {m : Entries} {key : String} {v : Value} :
      (∀ s ∈ slots, key ∉ s.names) → Edit slots m ((key, v) :: m)
  | rewrite {s : Slot} {before after new : Entries} {entry : String × Value} :
      s ∈ slots → s.Rewrite entry new →
      Edit slots (before ++ entry :: after) (before ++ (new ++ after))

namespace Slot

-- A value that stays as it is, and can be left out if it is what its absence means.
def leaf (name : String) (otherNames : List String) (value absent : Value) : Slot :=
  ⟨name, otherNames, value, value = absent, fun _ _ => False⟩

-- A record inside of a record, which can be left out if everything in it can.
def group (name : String) (slots : List Slot) : Slot :=
  ⟨name, [], .map (slots.map entry), ∀ s ∈ slots, s.Optional,
    fun v v' => ∃ m m', v = .map m ∧ v' = .map m' ∧ Edit slots m m'⟩

@[simp] theorem names_leaf (name : String) (otherNames : List String) (value absent : Value) :
    (leaf name otherNames value absent).names = name :: otherNames := rfl

@[simp] theorem names_group (name : String) (slots : List Slot) :
    (group name slots).names = [name] := rfl

-- How a slot is found after edits: once, with a value that its own may become, or not at all.
def Written (s : Slot) (m : Entries) : Prop :=
  (s.Optional ∧ s.given m = []) ∨
  ∃ key v, s.given m = [(key, v)] ∧ Relation.ReflTransGen s.Change s.value v

variable {slots : List Slot} {s s' : Slot} {m m' : Entries}

theorem names_unique (apart : (slots.flatMap names).Nodup) (member : s ∈ slots)
    (member' : s' ∈ slots) {key : String} (named : key ∈ s.names) (named' : key ∈ s'.names) :
    s = s' := by
  have symmetric : Std.Symm (Function.onFun List.Disjoint names) := ⟨fun _ _ => List.Disjoint.symm⟩
  by_contra other
  exact (List.nodup_flatMap.mp apart).2.forall member member' other named named'

theorem given_named {key : String} (v : Value) (named : key ∈ s.names) :
    s.given ((key, v) :: m) = (key, v) :: s.given m := by
  rw [given, List.filter_cons, if_pos (List.contains_iff_mem.mpr named)]
  rfl

theorem given_other {key : String} (v : Value) (other : key ∉ s.names) :
    s.given ((key, v) :: m) = s.given m := by
  rw [given, List.filter_cons, if_neg]
  · rfl
  · exact fun named => other (List.contains_iff_mem.mp named)

theorem given_append : s.given (m ++ m') = s.given m ++ s.given m' := List.filter_append ..

-- What is put in the place of an entry for another slot is for that slot, too.
theorem Rewrite.given_other {entry : String × Value} {new : Entries}
    (rewritten : s'.Rewrite entry new) (other : ∀ key ∈ s'.names, key ∉ s.names) :
    s.given (entry :: m) = s.given m ∧ s.given new = [] := by
  cases rewritten with
  | rename named named' =>
    exact ⟨Slot.given_other _ (other _ named), Slot.given_other _ (other _ named')⟩
  | inside named changed =>
    exact ⟨Slot.given_other _ (other _ named), Slot.given_other _ (other _ named)⟩
  | leaveOut named optional => exact ⟨Slot.given_other _ (other _ named), rfl⟩

-- What is put in the place of the entry for a slot leaves the slot written.
theorem Rewrite.written {key : String} {v : Value} {new : Entries}
    (rewritten : s.Rewrite (key, v) new) (changed : Relation.ReflTransGen s.Change s.value v) :
    s.Written new := by
  cases rewritten with
  | rename named named' => exact .inr ⟨_, v, given_named v named', changed⟩
  | inside named change => exact .inr ⟨key, _, given_named _ named, changed.tail change⟩
  | leaveOut named optional => exact .inl ⟨optional, rfl⟩

-- An edit leaves every slot written.
theorem Written.edit (apart : (slots.flatMap names).Nodup) (member : s ∈ slots)
    (written : s.Written m) (edit : Edit slots m m') : s.Written m' := by
  cases edit with
  | reorder moved =>
    have kept : (s.given m).Perm (s.given m') := moved.filter _
    obtain ⟨optional, none⟩ | ⟨key, v, one, changed⟩ := written
    · rw [none] at kept
      exact .inl ⟨optional, kept.nil_eq.symm⟩
    · rw [one] at kept
      exact .inr ⟨key, v, (List.singleton_perm.mp kept).symm, changed⟩
  | add unknown =>
    rw [Written, given_other _ (unknown s member)]
    exact written
  | @rewrite s' before after new entry member' rewritten =>
    rw [Written, given_append] at written
    rw [Written, given_append, given_append]
    by_cases same : s' = s
    · subst same
      obtain ⟨key, v⟩ := entry
      have named : key ∈ s'.names := by cases rewritten <;> assumption
      rw [given_named v named] at written
      obtain ⟨_, none⟩ | ⟨key', v', one, changed⟩ := written
      · cases (List.append_eq_nil_iff.mp none).2
      · -- The entry is the only one for its slot, so what comes for it is all there is.
        obtain ⟨front, ⟨rfl, rfl⟩, back⟩ :
            s'.given before = [] ∧ (key = key' ∧ v = v') ∧ s'.given after = [] := by
          simpa [List.append_eq_cons_iff] using one
        rw [front, back, List.nil_append, List.append_nil]
        exact rewritten.written changed
    · have other : ∀ key ∈ s'.names, key ∉ s.names := fun key named' named =>
        same (names_unique apart member' member named' named)
      obtain ⟨old, fresh⟩ := rewritten.given_other other (m := after)
      rw [old] at written
      rw [fresh, List.nil_append]
      exact written

theorem Written.edits (apart : (slots.flatMap names).Nodup)
    (edited : Relation.ReflTransGen (Edit slots) m m') (written : ∀ s ∈ slots, s.Written m) :
    ∀ s ∈ slots, s.Written m' := by
  induction edited with
  | refl => exact written
  | tail _ edit ih => exact fun s member => (ih s member).edit apart member edit

-- Written as it is, a record has every slot in it.
theorem written_entries (apart : (slots.flatMap names).Nodup) (member : s ∈ slots) :
    s.Written (slots.map entry) := by
  induction slots with
  | nil => cases member
  | cons first rest ih =>
    obtain ⟨own, disjoint⟩ := List.nodup_flatMap.mp apart
    obtain ⟨alone, disjoint⟩ := List.pairwise_cons.mp disjoint
    rcases List.mem_cons.mp member with rfl | later
    · have none : s.given (rest.map entry) = [] := by
        refine List.filter_eq_nil_iff.mpr fun e there named => ?_
        obtain ⟨s', later, rfl⟩ := List.mem_map.mp there
        exact alone s' later (List.contains_iff_mem.mp named) List.mem_cons_self
      refine .inr ⟨s.name, s.value, ?_, .refl⟩
      rw [List.map_cons, entry, given_named _ List.mem_cons_self, none]
    · have other : first.name ∉ s.names := fun named =>
        alone s later List.mem_cons_self named
      rw [Written, List.map_cons, entry, given_other _ other]
      refine ih (List.nodup_flatMap.mpr ⟨?_, disjoint⟩) later
      exact fun s later => own s (List.mem_cons_of_mem _ later)

theorem written_leaf {name : String} {otherNames : List String} {value absent : Value}
    (written : (leaf name otherNames value absent).Written m) :
    (value = absent ∧ (leaf name otherNames value absent).given m = []) ∨
    ∃ key, (leaf name otherNames value absent).given m = [(key, value)] := by
  obtain none | ⟨key, v, one, changed⟩ := written
  · exact .inl none
  · cases changed with
    | refl => exact .inr ⟨key, one⟩
    | tail _ change => exact change.elim

-- The record inside of a written group has all its slots written, too.
theorem written_group {name : String} (apart : (slots.flatMap names).Nodup)
    (written : (group name slots).Written m) :
    ((∀ s ∈ slots, s.Optional) ∧ (group name slots).given m = []) ∨
    ∃ key m', (group name slots).given m = [(key, .map m')] ∧ ∀ s ∈ slots, s.Written m' := by
  obtain none | ⟨key, v, one, changed⟩ := written
  · exact .inl none
  · have inside : ∃ m', v = .map m' ∧
        Relation.ReflTransGen (Edit slots) (slots.map entry) m' := by
      clear one
      induction changed with
      | refl => exact ⟨_, rfl, .refl⟩
      | tail _ change ih =>
        obtain ⟨m₁, m₂, rfl, rfl, edit⟩ := change
        obtain ⟨_, same, edits⟩ := ih
        cases same
        exact ⟨m₂, rfl, edits.tail edit⟩
    obtain ⟨m', rfl, edits⟩ := inside
    have whole : ∀ s ∈ slots, s.Written (slots.map entry) := fun s => written_entries apart
    exact .inr ⟨key, m', one, Written.edits apart edits whole⟩

end Slot

namespace Config

open Json

variable {c c' : Config} {m : Entries}

def inputSlots (c : Config) : List Slot := [.leaf "csv_filename" [] (.text c.table) (.text "")]

def templateSlots (c : Config) : List Slot :=
  [.leaf "scriban_filenames" [] (.sequence (c.templates.map .text)) (.sequence []),
    .leaf "base_path" [] (.text c.basePath) (.text "")]

def outputSlots (c : Config) : List Slot :=
  [.leaf "output_path" [] (.text c.outputPath) (.text ""),
    .leaf "csv_column_for_output_path_part" ["csv_column_for_ouput_path_part"] (.text c.column)
      (.text "")]

def dataSlot (c : Config) : Slot := .leaf "data" ["Data"] c.data .empty

def slots (c : Config) : List Slot :=
  [.group "input" c.inputSlots, .group "template" c.templateSlots, .group "output" c.outputSlots,
    c.dataSlot]

-- The document of a configuration, with everything in it.
def tree (c : Config) : Entries := c.slots.map Slot.entry

theorem toJson_tree (c : Config) : (Value.map c.tree).toJson = c.toJson := by
  have names : itemsToJson (c.templates.map .text) = c.templates.map .text := by
    rw [itemsToJson_eq_map, List.map_map]
    rfl
  simp only [toJson, texts, ← names]
  rfl

theorem slots_apart (c : Config) : (c.slots.flatMap Slot.names).Nodup := by
  change ["input", "template", "output", "data", "Data"].Nodup
  decide

theorem dataSlot_mem (c : Config) : c.dataSlot ∈ c.slots := by simp [slots]

section Fields

variable {f : Json.Field Config} {s : Slot} (same : s.names = f.name :: f.otherName.toList)

include same

-- A field and a slot of the same names find the same entries.
theorem filter_answersTo (m : Entries) :
    m.filter (fun entry => f.answersTo entry.1) = s.given m := by
  have answers : ∀ entry ∈ m, f.answersTo entry.1 = s.names.contains entry.1 :=
    fun entry _ => same ▸ f.answersTo_eq entry.1
  rw [List.filter_congr answers, Slot.given]

theorem given_slot (m : Entries) : f.given (entriesToJson m) = entriesToJson (s.given m) := by
  rw [given_entriesToJson, filter_answersTo same]

theorem part?_slot (place : Nat) (m : Entries) :
    f.part? place (Value.map m).toJson = (s.given m).head?.map fun entry => entry.2.toJson := by
  rw [part?_map, filter_answersTo same]

end Fields

namespace TextPart

def value (c : Config) : TextPart → Value
  | .table => .text c.table
  | .templates => .sequence (c.templates.map .text)
  | .basePath => .text c.basePath
  | .outputPath => .text c.outputPath
  | .column => .text c.column

def slot (c : Config) (p : TextPart) : Slot :=
  .leaf p.field.name p.field.otherName.toList (p.value c) (p.value blank)

def slots (c : Config) : TextPart → List Slot
  | .table => c.inputSlots
  | .templates | .basePath => c.templateSlots
  | .outputPath | .column => c.outputSlots

def group (c : Config) (p : TextPart) : Slot := .group p.sectionField.name (p.slots c)

theorem slot_mem (c : Config) (p : TextPart) : p.slot c ∈ p.slots c := by
  cases p
  case basePath | column => exact List.mem_cons_of_mem _ List.mem_cons_self
  all_goals exact List.mem_cons_self

theorem group_mem (c : Config) (p : TextPart) : p.group c ∈ c.slots := by
  cases p <;> simp [group, sectionField, fields, Config.slots, Config.sectionField, slots]

theorem names_slot (c : Config) (p : TextPart) :
    (p.slot c).names = p.field.name :: p.field.otherName.toList := rfl

theorem names_group (c : Config) (p : TextPart) :
    (p.group c).names = p.sectionField.name :: p.sectionField.otherName.toList := by
  cases p <;> rfl

theorem slots_apart (c : Config) (p : TextPart) : ((p.slots c).flatMap Slot.names).Nodup := by
  have apart : (p.siblings.flatMap fun f => f.name :: f.otherName.toList).Nodup := by
    cases p <;> decide
  cases p <;> exact apart

-- A part is given as it is, or not at all if it is blank.
theorem part?_written (written : ∀ s ∈ c.slots, s.Written m) (p : TextPart) :
    (p.value c = p.value blank ∧ p.part? (Value.map m).toJson = none) ∨
    p.part? (Value.map m).toJson = some (p.value c).toJson := by
  rw [part?, part?_slot (p.names_group c)]
  obtain ⟨optional, none⟩ | ⟨key, m', one, inside⟩ :=
    Slot.written_group (p.slots_apart c) (written _ (p.group_mem c))
  · exact .inl ⟨optional _ (p.slot_mem c), by rw [group, none]; rfl⟩
  · rw [group, one]
    simp only [List.head?_cons, Option.map_some, Option.bind_some]
    rw [part?_slot (p.names_slot c)]
    obtain ⟨same, none⟩ | ⟨key, one⟩ := Slot.written_leaf (inside _ (p.slot_mem c))
    · exact .inl ⟨same, by rw [slot, none]; rfl⟩
    · exact .inr (by rw [slot, one]; rfl)

theorem toList_texts (names : List String) :
    toList toScalar (.array (itemsToJson (names.map .text))) = .ok (names.map .text) := by
  rw [toList_eq_ok_iff, itemsToJson_eq_map, List.map_map, List.forall₂_map_left_iff,
    List.forall₂_map_right_iff, List.forall₂_same]
  exact fun _ _ => rfl

-- The texts that come out of it are those that went in.
theorem takes_value {texts : List String} (p : TextPart)
    (takes : p.Takes (p.value c).toJson texts) : texts = p.held c := by
  cases p
  case templates =>
    obtain ⟨names, fitted, rfl⟩ := takes
    rw [value, Value.toJson, toList_texts] at fitted
    cases fitted
    rw [List.map_map]
    exact List.map_id _
  all_goals
    obtain ⟨s, scalar, rfl⟩ := takes
    cases scalar
    rfl

theorem held_blank (p : TextPart) (same : p.value c = p.value blank) :
    p.held c = p.held blank := by
  cases p
  case templates =>
    cases names : c.templates with
    | nil => rw [held, names]; rfl
    | cons name rest =>
      rw [value, names] at same
      cases same
  all_goals exact congrArg (fun s => [s]) (Scalar.text.inj (Value.scalar.inj same))

theorem field_sets (c : Config) (p : TextPart) :
    ∃ change, p.field.set (p.value c).toJson = .ok change := by
  cases p
  case templates => exact ⟨_, templatesField_set_iff.mpr ⟨_, toList_texts c.templates, rfl⟩⟩
  all_goals exact ⟨_, rfl⟩

theorem field_fits (p : TextPart) (written : (p.slot c).Written m) :
    p.field.Fits (entriesToJson m) := by
  rw [Field.Fits, given_slot (p.names_slot c)]
  obtain ⟨_, none⟩ | ⟨key, one⟩ := Slot.written_leaf written
  · exact .inl (by rw [slot, none]; rfl)
  · obtain ⟨change, set⟩ := p.field_sets c
    exact .inr ⟨key, _, change, by rw [slot, one]; rfl, set⟩

theorem siblings_fit (p : TextPart) (written : ∀ s ∈ p.slots c, s.Written m) :
    ∀ f ∈ p.siblings, f.Fits (entriesToJson m) := by
  have own : ∀ q : TextPart, q.slots c = p.slots c → q.field.Fits (entriesToJson m) :=
    fun q same => q.field_fits (written _ (same ▸ q.slot_mem c))
  cases p
  case table => exact List.forall_mem_singleton.mpr (own .table rfl)
  case templates | basePath =>
    exact List.forall_mem_cons.mpr
      ⟨own .templates rfl, List.forall_mem_singleton.mpr (own .basePath rfl)⟩
  case outputPath | column =>
    exact List.forall_mem_cons.mpr
      ⟨own .outputPath rfl, List.forall_mem_singleton.mpr (own .column rfl)⟩

theorem section_sets (p : TextPart) {entries : List (String × Json)} {record : Config}
    (filled : fillByName p.siblings [] entries blank = .ok record) :
    ∃ change, p.sectionField.set (.object entries) = .ok change := by
  have sets : ∀ name kind merge, ∃ change,
      (Config.sectionField name kind p.siblings merge).set (.object entries) = .ok change := by
    intro name kind merge
    exact ⟨_, sectionField_set_iff.mpr ⟨record, by rw [toRecord, filled], rfl⟩⟩
  cases p <;> exact sets _ _ _

theorem section_fits (p : TextPart) (written : (p.group c).Written m) :
    p.sectionField.Fits (entriesToJson m) := by
  rw [Field.Fits, given_slot (p.names_group c)]
  obtain ⟨_, none⟩ | ⟨key, m', one, inside⟩ := Slot.written_group (p.slots_apart c) written
  · exact .inl (by rw [group, none]; rfl)
  · obtain ⟨record, filled⟩ :
        ∃ record, fillByName p.siblings [] (entriesToJson m') blank = .ok record :=
      (fillByName_ok_iff p.siblings_separate).mpr (p.siblings_fit inside)
    obtain ⟨change, set⟩ := p.section_sets filled
    exact .inr ⟨key, _, change, by rw [group, one]; rfl, set⟩

end TextPart

theorem eq_of_parts (texts : ∀ p : TextPart, p.held c = p.held c') (data : c.data = c'.data) :
    c = c' := by
  have table := List.singleton_inj.mp (texts .table)
  have templates := texts .templates
  have basePath := List.singleton_inj.mp (texts .basePath)
  have outputPath := List.singleton_inj.mp (texts .outputPath)
  have column := List.singleton_inj.mp (texts .column)
  cases c
  cases c'
  simp_all [TextPart.held]

theorem data_fits (distinct : c.data.Distinct) (finite : c.data.Finite)
    (written : c.dataSlot.Written m) : dataField.Fits (entriesToJson m) := by
  rw [Field.Fits, given_slot (s := c.dataSlot) rfl]
  obtain ⟨_, none⟩ | ⟨key, one⟩ := Slot.written_leaf written
  · exact .inl (by rw [dataSlot, none]; rfl)
  · exact .inr ⟨key, _, _, by rw [dataSlot, one]; rfl, dataField_sets distinct finite⟩

theorem held_arranged (written : ∀ s ∈ c.slots, s.Written m)
    (fitted : fit (Value.map m).toJson = .ok c') (p : TextPart) : p.held c' = p.held c := by
  obtain ⟨none, blank⟩ | ⟨part, given, takes⟩ := fit_text fitted p
  · obtain ⟨same, _⟩ | given := p.part?_written written
    · exact blank.trans (p.held_blank same).symm
    · rw [none] at given
      cases given
  · obtain ⟨_, none⟩ | given' := p.part?_written written
    · rw [none] at given
      cases given
    · rw [given'] at given
      cases given
      exact p.takes_value takes

theorem data_arranged (distinct : c.data.Distinct) (finite : c.data.Finite)
    (written : c.dataSlot.Written m) (fitted : fit (Value.map m).toJson = .ok c') :
    c'.data = c.data := by
  have given := part?_slot (f := dataField) (s := c.dataSlot) rfl 3 m
  obtain ⟨none, blank⟩ | ⟨part, v, found, fits, same⟩ := fit_data fitted
  · obtain ⟨absent, _⟩ | ⟨key, one⟩ := Slot.written_leaf written
    · exact blank.trans absent.symm
    · rw [none, dataSlot, one] at given
      cases given
  · obtain ⟨_, none⟩ | ⟨key, one⟩ := Slot.written_leaf written
    · rw [found, dataSlot, none] at given
      cases given
    · rw [found, dataSlot, one] at given
      cases given
      rw [toValue_toJson distinct finite] at fits
      rw [same, Except.ok.inj fits]

-- Entries in which every slot is written fit, and fit to nothing but the configuration.
theorem fit_arranged (distinct : c.data.Distinct) (finite : c.data.Finite)
    (written : ∀ s ∈ c.slots, s.Written m) : fit (Value.map m).toJson = .ok c := by
  have data := written _ c.dataSlot_mem
  have sections : ∀ p : TextPart, p.sectionField.Fits (entriesToJson m) := fun p =>
    p.section_fits (written _ (p.group_mem c))
  have fits : ∀ f ∈ fields, f.Fits (entriesToJson m) := by
    simp only [fields, List.forall_mem_cons]
    exact ⟨sections .table, sections .templates, sections .outputPath,
      data_fits distinct finite data, List.forall_mem_nil _⟩
  obtain ⟨c', fitted⟩ : ∃ c', fit (Value.map m).toJson = .ok c' :=
    (fillByName_ok_iff fields_separate).mpr fits
  rw [fitted, eq_of_parts (held_arranged written fitted)
    (data_arranged distinct finite data fitted)]

end Config

-- However the document of a configuration is edited, it comes back as that configuration.
theorem recast_arranged {c : Config} {m : Entries} (distinct : c.data.Distinct)
    (finite : c.data.Finite) (edited : Relation.ReflTransGen (Edit c.slots) c.tree m) :
    (recast Config.fit (.map m)).outcome = (.ok c, []) := by
  have whole : ∀ s ∈ c.slots, s.Written c.tree := fun s => Slot.written_entries c.slots_apart
  have written := Slot.Written.edits c.slots_apart edited whole
  rw [outcome_recast, Config.fit_arranged distinct finite written]

-- A blank path is left out, both other names are used, a decimal that is not finite stands in
-- front, and the sections come backwards. The texts look like numbers and truth values.
theorem recast_arranged_renamed :
    let c : Config :=
      ⟨"007", ["true", "1.0"], "", "p", "-0", .map [("b", .scalar (.decimal 2.0)), ("a", .text "")]⟩
    (recast Config.fit (.map [("note", .scalar (.decimal (1.0 / 0.0))), ("Data", c.data),
      ("output", .map [("output_path", .text "p"), ("csv_column_for_ouput_path_part", .text "-0")]),
      ("template", .map [("scriban_filenames", .sequence [.text "true", .text "1.0"])]),
      ("input", .map [("csv_filename", .text "007")])])).outcome = (.ok c, []) := by
  intro c
  let input : String × Value := ("input", .map [("csv_filename", .text "007")])
  let names : String × Value := ("scriban_filenames", .sequence [.text "true", .text "1.0"])
  let template : String × Value := ("template", .map [names, ("base_path", .text "")])
  let template' : String × Value := ("template", .map [names])
  let path : String × Value := ("output_path", .text "p")
  let column : String × Value := ("csv_column_for_output_path_part", .text "-0")
  let column' : String × Value := ("csv_column_for_ouput_path_part", .text "-0")
  let output : String × Value := ("output", .map [path, column])
  let output' : String × Value := ("output", .map [path, column'])
  have left : Edit c.templateSlots [names, ("base_path", .text "")] [names] :=
    @Edit.rewrite _ c.templateSlots[1] [_] [] [] _ (by simp [Config.templateSlots])
      (.leaveOut (by simp [Config.templateSlots]) rfl)
  have renamed : Edit c.outputSlots [path, column] [path, column'] :=
    @Edit.rewrite _ c.outputSlots[1] [_] [] [_] _ (by simp [Config.outputSlots])
      (.rename (by simp [Config.outputSlots]) (by simp [Config.outputSlots]))
  have one : Edit c.slots c.tree [input, template', output, ("data", c.data)] :=
    @Edit.rewrite _ (.group "template" c.templateSlots) [_] [_, _] [_] template
      (by simp [Config.slots])
      (.inside (by simp) ⟨_, _, rfl, rfl, left⟩)
  have two : Edit c.slots [input, template', output, ("data", c.data)]
      [input, template', output', ("data", c.data)] :=
    @Edit.rewrite _ (.group "output" c.outputSlots) [_, _] [_] [_] _ (by simp [Config.slots])
      (.inside (by simp) ⟨_, _, rfl, rfl, renamed⟩)
  have three : Edit c.slots [input, template', output', ("data", c.data)]
      [input, template', output', ("Data", c.data)] :=
    @Edit.rewrite _ c.dataSlot [_, _, _] [] [_] _ c.dataSlot_mem
      (.rename (by simp [Config.dataSlot]) (by simp [Config.dataSlot]))
  have four : Edit c.slots [input, template', output', ("Data", c.data)]
      [("note", .scalar (.decimal (1.0 / 0.0))), input, template', output', ("Data", c.data)] :=
    .add (by simp [Config.slots, Config.dataSlot])
  have five : Edit c.slots
      [("note", .scalar (.decimal (1.0 / 0.0))), input, template', output', ("Data", c.data)]
      [("note", .scalar (.decimal (1.0 / 0.0))), ("Data", c.data), output', template', input] :=
    .reorder ((List.reverse_perm _).symm.cons _)
  have distinct : c.data.Distinct :=
    .map (by decide) (List.forall_mem_cons.mpr ⟨.scalar, List.forall_mem_singleton.mpr .scalar⟩)
  have edited := ((((Relation.ReflTransGen.single one).tail two).tail three).tail four).tail five
  exact recast_arranged distinct (by decide) edited

end RowPress
