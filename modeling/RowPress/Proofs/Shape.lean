import RowPress.Proofs.FileTree
import RowPress.Proofs.Spelling
/-!
Which documents can be loaded as a configuration. The shape of a document is said without the way it
takes through JSON data: what can be given for each part of a record, by its names or at its place.
-/
namespace RowPress

-- A part of a record: where it is given, and what can be given there.
structure RecordPart extends Spot where
  Fits : Value → Prop

-- A map in which every part that is given fits.
def ByName (parts : List RecordPart) (v : Value) : Prop :=
  (∃ m, v = .map m) ∧ ∀ p ∈ parts, ∀ w ∈ p.given v, p.Fits w

-- What can be taken for a record: no part is given twice, and the parts may also stand in their
-- order, without names, as long as there are not more items than parts.
def Taken (parts : List RecordPart) (v : Value) : Prop :=
  ((∃ m, v = .map m) ∨ ∃ items, v = .sequence items ∧ items.length ≤ parts.length) ∧
    ∀ p ∈ parts, (p.given v).length ≤ 1 ∧ ∀ w ∈ p.given v, p.Fits w

section Shape

variable (Record : List RecordPart → Value → Prop) (Leaf : Scalar → Prop)

def IsText (v : Value) : Prop := ∃ s, v = .scalar s ∧ Leaf s

def AreTexts (v : Value) : Prop := ∃ items, v = .sequence items ∧ ∀ item ∈ items, IsText Leaf item

-- Free data, of which an empty text is as good as none.
def IsData (v : Value) : Prop := (v = .text "" ∨ ∃ m, v = .map m) ∧ ∀ s ∈ v.leaves, Leaf s

def inputParts : List RecordPart := [⟨⟨["csv_filename"], 0⟩, IsText Leaf⟩]

def templateParts : List RecordPart :=
  [⟨⟨["scriban_filenames"], 0⟩, AreTexts Leaf⟩, ⟨⟨["base_path"], 1⟩, IsText Leaf⟩]

def outputParts : List RecordPart :=
  [⟨⟨["output_path"], 0⟩, IsText Leaf⟩,
    ⟨⟨["csv_column_for_output_path_part", "csv_column_for_ouput_path_part"], 1⟩, IsText Leaf⟩]

def sectionSpots : List Spot := [⟨["input"], 0⟩, ⟨["template"], 1⟩, ⟨["output"], 2⟩]

def dataSpot : Spot := ⟨["data", "Data"], 3⟩

def configParts (Data : Value → Prop) : List RecordPart :=
  [⟨⟨["input"], 0⟩, Record (inputParts Leaf)⟩, ⟨⟨["template"], 1⟩, Record (templateParts Leaf)⟩,
    ⟨⟨["output"], 2⟩, Record (outputParts Leaf)⟩, ⟨dataSpot, Data⟩]

def ConfigShape (v : Value) : Prop := Record (configParts Record Leaf (IsData Leaf)) v

end Shape

-- A document whose records are maps throughout.
def Mapped (v : Value) : Prop :=
  (∃ m, v = .map m) ∧ ∀ spot ∈ sectionSpots, ∀ w ∈ spot.given v, ∃ m, w = .map m

-- A text that is there and is not blank.
def Supplied (v : Value) (field : TextField) : Prop :=
  ∃ s, v.follow? field.spots = some (.scalar s) ∧ Config.isBlankText s.display = false

namespace Json

variable {σ : Type} {fields : List (Field σ)} {parts : List RecordPart} {v : Value}

-- A field takes what fits a part.
def Field.Serves (f : Field σ) (p : RecordPart) : Prop :=
  p.names = f.name :: f.otherName.toList ∧
    ∀ v : Value, v.Distinct → ((∃ change, f.set v.toJson = .ok change) ↔ p.Fits v)

theorem toJson_leaf (s : Scalar) :
    (∀ items, s.toJson ≠ .array items) ∧ ∀ entries, s.toJson ≠ .object entries := by
  cases s with
  | decimal x =>
    rw [Scalar.toJson]
    split <;> exact ⟨fun _ => Json.noConfusion, fun _ => Json.noConfusion⟩
  | _ => exact ⟨fun _ => Json.noConfusion, fun _ => Json.noConfusion⟩

theorem fits_named {f : Field σ} {p : RecordPart} (serves : f.Serves p) {m : Entries}
    (distinct : ∀ entry ∈ m, entry.2.Distinct) :
    f.Fits (entriesToJson m) ↔
      (p.given (.map m)).length ≤ 1 ∧ ∀ w ∈ p.given (.map m), p.Fits w := by
  rw [Field.Fits, given_spot serves.1, Spot.given]
  cases found : m.filter fun entry => p.names.contains entry.1 with
  | nil => simp [entriesToJson]
  | cons entry rest =>
    obtain ⟨key, w⟩ := entry
    have member : (key, w) ∈ m := by
      have inside : (key, w) ∈ m.filter fun entry => p.names.contains entry.1 := by
        rw [found]
        exact List.mem_cons_self
      exact (List.mem_filter.mp inside).1
    have fits := serves.2 w (distinct _ member)
    cases rest with
    | nil => simp [entriesToJson, ← fits]
    | cons other rest => simp [entriesToJson]

theorem all_named (serve : List.Forall₂ Field.Serves fields parts) {m : Entries}
    (distinct : ∀ entry ∈ m, entry.2.Distinct) :
    (∀ f ∈ fields, f.Fits (entriesToJson m)) ↔
      ∀ p ∈ parts, (p.given (.map m)).length ≤ 1 ∧ ∀ w ∈ p.given (.map m), p.Fits w := by
  induction serve with
  | nil => simp
  | cons serves _ ih =>
    rw [List.forall_mem_cons, List.forall_mem_cons, fits_named serves distinct, ih]

-- A field and the part that it serves stand at one place, so they meet the same item.
theorem all_placed (serve : List.Forall₂ Field.Serves fields parts) {items : List Value}
    (distinct : ∀ item ∈ items, item.Distinct) :
    (∀ (i : Nat) (f : Field σ) (j : Json), fields[i]? = some f → (itemsToJson items)[i]? = some j →
      ∃ change, f.set j = .ok change) ↔
      ∀ (i : Nat) (p : RecordPart) (w : Value), parts[i]? = some p → items[i]? = some w →
        p.Fits w := by
  refine forall_congr' fun i => ?_
  rw [itemsToJson_eq_map, List.getElem?_map]
  obtain ⟨none, none'⟩ | ⟨f, p, at', at'', serves⟩ := forall₂_at serve i
  · simp [none, none']
  · cases there : items[i]? with
    | none => simp
    | some w => simp [at', at'', serves.2 w (distinct w (List.mem_of_getElem? there))]

-- Of parts that stand in their order, each is given at its own place, and not twice.
theorem given_placed (placed : parts.map (·.place) = List.range parts.length)
    (items : List Value) :
    (∀ (i : Nat) (p : RecordPart) (w : Value), parts[i]? = some p → items[i]? = some w →
      p.Fits w) ↔
      ∀ p ∈ parts, (p.given (.sequence items)).length ≤ 1 ∧
        ∀ w ∈ p.given (.sequence items), p.Fits w := by
  have place : ∀ (i : Nat) (p : RecordPart), parts[i]? = some p → p.place = i := by
    intro i p at'
    have same := congrArg (·[i]?) placed
    obtain ⟨inside, _⟩ := List.getElem?_eq_some_iff.mp at'
    simp only [List.getElem?_map, at', Option.map_some, List.getElem?_range inside] at same
    exact Option.some.inj same
  have single : ∀ o : Option Value, o.toList.length ≤ 1 := fun o => by cases o <;> simp
  simp only [Spot.given, Option.mem_toList, single, true_and]
  constructor
  · intro fits p member w there
    obtain ⟨i, at'⟩ := List.getElem?_of_mem member
    rw [place i p at'] at there
    exact fits i p w at' there
  · intro fits i p w at' there
    exact fits p (List.mem_of_getElem? at') w (by rw [place i p at', there])

-- Fields make a record of exactly what is taken for one with the parts that they serve.
theorem toRecord_ok_iff (kind : String) (blank : σ) (separate : Separate fields)
    (serve : List.Forall₂ Field.Serves fields parts)
    (placed : parts.map (·.place) = List.range parts.length) (distinct : v.Distinct) :
    (∃ record, toRecord kind fields blank v.toJson = .ok record) ↔ Taken parts v := by
  cases v with
  | scalar s =>
    constructor
    · rintro ⟨record, ran⟩
      rw [Value.toJson] at ran
      cases shown : s.toJson with
      | array items => exact absurd shown ((toJson_leaf s).1 items)
      | object entries => exact absurd shown ((toJson_leaf s).2 entries)
      | _ =>
        rw [shown] at ran
        cases ran
    · rintro ⟨⟨m, same⟩ | ⟨items, same, _⟩, _⟩ <;> cases same
  | map m =>
    cases distinct with
    | map _ each =>
      rw [Value.toJson, toRecord, fillByName_ok_iff separate, all_named serve each, Taken]
      exact (and_iff_right (.inl ⟨m, rfl⟩)).symm
  | sequence items =>
    cases distinct with
    | sequence each =>
      rw [Value.toJson, toRecord_array_ok_iff, all_placed serve each, given_placed placed, Taken,
        itemsToJson_eq_map, List.length_map, serve.length_eq]
      refine and_congr_left' ⟨fun short => .inr ⟨items, rfl, short⟩, ?_⟩
      rintro (⟨m, same⟩ | ⟨items, same, short⟩)
      · cases same
      · cases same
        exact short

theorem scalar?_toJson_iff {s : Scalar} : scalar? v.toJson = some s ↔ v = .scalar s ∧ s.Finite := by
  constructor
  · intro back
    cases v with
    | scalar s' =>
      obtain rfl := scalar?_some back
      refine ⟨rfl, ?_⟩
      by_contra infinite
      rw [Value.toJson, toJson_infinite infinite] at back
      cases back
    | _ => cases back
  · rintro ⟨rfl, finite⟩
    exact scalar?_toJson finite

theorem toScalar_ok_iff : (∃ s, toScalar v.toJson = .ok s) ↔ IsText Scalar.Finite v := by
  simp only [IsText, toScalar_eq_ok_iff, scalar?_toJson_iff]

theorem toList_ok_iff {α : Type} {fit : Json → Fitting α} {items : List Json} :
    (∃ fitted, toList fit (.array items) = .ok fitted) ↔ ∀ j ∈ items, ∃ a, fit j = .ok a := by
  simp only [toList_eq_ok_iff]
  induction items with
  | nil => exact ⟨fun _ j member => absurd member List.not_mem_nil, fun _ => ⟨[], .nil⟩⟩
  | cons first rest ih =>
    rw [List.forall_mem_cons, ← ih]
    constructor
    · rintro ⟨_, fits⟩
      cases fits with
      | cons here later => exact ⟨⟨_, here⟩, _, later⟩
    · rintro ⟨⟨a, here⟩, fitted, later⟩
      exact ⟨a :: fitted, .cons here later⟩

end Json

namespace Config

open Json

variable {v : Value} {c : Config}

theorem textField_serves (name : String) (otherName : Option String)
    (set : String → Config → Config) (place : Nat) :
    (textField name otherName set).Serves
      ⟨⟨name :: otherName.toList, place⟩, IsText Scalar.Finite⟩ := by
  refine ⟨rfl, fun v _ => ?_⟩
  exact exists_map_ok_iff.trans (exists_map_ok_iff.trans toScalar_ok_iff)

theorem templatesField_serves :
    templatesField.Serves ⟨⟨["scriban_filenames"], 0⟩, AreTexts Scalar.Finite⟩ := by
  refine ⟨rfl, fun v _ => exists_map_ok_iff.trans ?_⟩
  cases v with
  | sequence items =>
    rw [Value.toJson, itemsToJson_eq_map, toList_ok_iff, List.forall_mem_map]
    simp only [toScalar_ok_iff]
    constructor
    · exact fun each => ⟨items, rfl, each⟩
    · rintro ⟨_, same, each⟩
      cases same
      exact each
  | map m =>
    constructor
    · rintro ⟨_, fitted⟩
      cases fitted
    · rintro ⟨_, same, _⟩
      cases same
  | scalar s =>
    constructor
    · rintro ⟨_, fitted⟩
      rw [Value.toJson] at fitted
      cases shown : s.toJson with
      | array items => exact absurd shown ((toJson_leaf s).1 items)
      | _ =>
        rw [shown] at fitted
        cases fitted
    · rintro ⟨_, same, _⟩
      cases same

theorem dataField_serves : dataField.Serves ⟨dataSpot, Value.Finite⟩ := by
  refine ⟨rfl, fun v distinct => exists_map_ok_iff.trans ?_⟩
  constructor
  · rintro ⟨_, fitted⟩
    by_contra infinite
    rw [toValue_infinite infinite] at fitted
    cases fitted
  · exact fun finite => ⟨v, toValue_toJson distinct finite⟩

theorem sectionField_serves {within : List (Json.Field Config)} {parts : List RecordPart}
    (separate : Separate within) (serve : List.Forall₂ Field.Serves within parts)
    (placed : parts.map (·.place) = List.range parts.length) (name kind : String)
    (merge : Config → Config → Config) (place : Nat) :
    (sectionField name kind within merge).Serves ⟨⟨[name], place⟩, Taken parts⟩ := by
  refine ⟨rfl, fun v distinct => exists_map_ok_iff.trans ?_⟩
  exact toRecord_ok_iff kind blank separate serve placed distinct

-- Each field of a configuration, in its place, serves the part of that name.
theorem fields_serve :
    List.Forall₂ Field.Serves fields (configParts Taken Scalar.Finite Value.Finite) := by
  refine .cons ?_ (.cons ?_ (.cons ?_ (.cons dataField_serves .nil)))
  · exact sectionField_serves (TextPart.siblings_separate .table)
      (.cons (textField_serves _ _ _ _) .nil) rfl _ _ _ _
  · exact sectionField_serves (TextPart.siblings_separate .templates)
      (.cons templatesField_serves (.cons (textField_serves _ _ _ _) .nil)) rfl _ _ _ _
  · exact sectionField_serves (TextPart.siblings_separate .outputPath)
      (.cons (textField_serves _ _ _ _) (.cons (textField_serves _ _ _ _) .nil)) rfl _ _ _ _

theorem ofValue_ok_iff (distinct : v.Distinct) :
    (∃ c, ofValue v = .ok c) ↔ Taken (configParts Taken Scalar.Finite Value.Finite) v :=
  toRecord_ok_iff _ blank fields_separate fields_serve rfl distinct

theorem given_distinct (distinct : v.Distinct) {spot : Spot} {w : Value}
    (given : w ∈ spot.given v) : w.Distinct := by
  cases distinct with
  | scalar => cases given
  | sequence each => exact each w (List.mem_of_getElem? (Option.mem_toList.mp given))
  | map _ each =>
    obtain ⟨entry, kept, rfl⟩ := List.mem_map.mp given
    exact each entry (List.mem_filter.mp kept).1

-- The data that is given is held as it is.
theorem given_data (distinct : v.Distinct) (fitted : ofValue v = .ok c) :
    (dataSpot.given v = [] ∧ c.data = .empty) ∨ dataSpot.given v = [c.data] := by
  obtain ⟨_, fits⟩ := (ofValue_ok_iff distinct).mp ⟨c, fitted⟩
  obtain ⟨once, finite⟩ : (dataSpot.given v).length ≤ 1 ∧ ∀ w ∈ dataSpot.given v, w.Finite :=
    fits ⟨dataSpot, Value.Finite⟩ (by simp [configParts])
  have part : dataField.part? dataSpot.place v.toJson =
      (dataSpot.given v).head?.map Value.toJson := part?_spot rfl v
  obtain ⟨none, same⟩ | ⟨j, w, given, fits, same⟩ := fit_data fitted
  · have none := part.symm.trans none
    rw [Option.map_eq_none_iff, List.head?_eq_none_iff] at none
    exact .inl ⟨none, same⟩
  · have given := part.symm.trans given
    cases all : dataSpot.given v with
    | nil =>
      rw [all] at given
      cases given
    | cons first rest =>
      rw [all] at given once
      have first' : first ∈ dataSpot.given v := by simp [all]
      obtain rfl := Option.some.inj given
      rw [toValue_toJson (given_distinct distinct first') (finite first first')] at fits
      obtain rfl := List.eq_nil_of_length_eq_zero (Nat.le_zero.mp (Nat.le_of_succ_le_succ once))
      exact .inr (by rw [same, Except.ok.inj fits])

-- Data that is a map, or that is settled to be one, is what may be given as data.
theorem settled_data (distinct : v.Distinct) (fitted : ofValue v = .ok c) :
    (∃ m, c.settleData.data = .map m) ↔
      ∀ w ∈ dataSpot.given v, w = .text "" ∨ ∃ m, w = .map m := by
  have settled : (∃ m, c.settleData.data = .map m) ↔ c.data = .text "" ∨ ∃ m, c.data = .map m := by
    cases held : c.data with
    | map m => simp [settleData_map held, held]
    | sequence items => simp [settleData, held, Value.text]
    | scalar s =>
      cases s with
      | text s =>
        by_cases blank : s = "" <;> simp [settleData, held, Value.text, Value.empty, blank]
      | _ => simp [settleData, held, Value.text]
  rw [settled]
  obtain ⟨none, same⟩ | one := given_data distinct fitted
  · simp [none, same, Value.empty]
  · simp [one]

theorem validate_ok_iff : c.validate.outcome.1 = .ok () ↔
    isBlankText c.table = false ∧ isBlankText c.column = false ∧ ∃ m, c.data = .map m := by
  unfold validate
  cases table : isBlankText c.table with
  | true => exact ⟨fun ran => (by cases ran), fun ⟨no, _⟩ => (by cases no)⟩
  | false =>
    cases column : isBlankText c.column with
    | true => exact ⟨fun ran => (by cases ran), fun ⟨_, no, _⟩ => (by cases no)⟩
    | false =>
      cases held : c.data with
      | map m => exact ⟨fun _ => ⟨rfl, rfl, m, rfl⟩, fun _ => rfl⟩
      | _ => exact ⟨fun ran => (by cases ran), fun ⟨_, _, _, no⟩ => (by cases no)⟩

-- A text is held that is not blank exactly if one is given.
theorem supplied_iff {text : String} (fitted : ofValue v = .ok c) (field : TextField)
    (single : field.part ≠ .templates) (all : field.spots.take 2 = field.spots)
    (held : field.part.held c = [text]) : isBlankText text = false ↔ Supplied v field := by
  have part := field.part?_value v
  rw [all] at part
  obtain ⟨none, blank⟩ | ⟨j, given, takes⟩ := fit_text fitted field.part
  · rw [none, eq_comm, Option.map_eq_none_iff] at part
    have empty : text = "" := by
      rw [held] at blank
      generalize field.part = p at single blank
      cases p
      case templates => exact absurd rfl single
      all_goals exact List.head_eq_of_cons_eq blank
    rw [empty, Supplied, part]
    exact ⟨fun no => absurd no (by decide), fun ⟨_, no, _⟩ => (by cases no)⟩
  · obtain ⟨s, scalar, shown⟩ : ∃ s, scalar? j = some s ∧ field.part.held c = [s.display] := by
      generalize field.part = p at single takes
      cases p
      case templates => exact absurd rfl single
      all_goals exact takes
    rw [given] at part
    obtain ⟨w, followed, rfl⟩ := Option.map_eq_some_iff.mp part.symm
    obtain ⟨rfl, _⟩ := scalar?_toJson_iff.mp scalar
    obtain rfl := List.head_eq_of_cons_eq (held.symm.trans shown)
    simp [Supplied, followed]

-- What is asked of a configuration in the end, said of its document.
theorem settled_valid_iff (distinct : v.Distinct) (fitted : ofValue v = .ok c) :
    c.settleData.validate.outcome.1 = .ok () ↔ Supplied v .table ∧ Supplied v .column ∧
      ∀ w ∈ dataSpot.given v, w = .text "" ∨ ∃ m, w = .map m := by
  have table : c.settleData.table = c.table :=
    Option.some.inj (TextField.held?_settleData c .table)
  have column : c.settleData.column = c.column :=
    Option.some.inj (TextField.held?_settleData c .column)
  rw [validate_ok_iff, settled_data distinct fitted, table, column,
    supplied_iff fitted TextField.table nofun rfl rfl,
    supplied_iff fitted TextField.column nofun rfl rfl]

-- Only the document decides whether a configuration is loaded.
theorem load_decoded_iff {t : FileTree} {path text : String} (content : t.readText path = .ok text)
    (decoded : (decode path text).outcome.1 = .ok v) :
    (∃ c, (load t path).outcome.1 = .ok c) ↔
      ∃ c, ofValue v = .ok c ∧ c.settleData.validate.outcome.1 = .ok () := by
  constructor
  · rintro ⟨_, loaded⟩
    obtain ⟨text', document, c, _, content', decoded', fitted, valid, _⟩ := load_ok_iff.mp loaded
    rw [content] at content'
    cases content'
    rw [decoded] at decoded'
    cases decoded'
    exact ⟨c, fitted, valid⟩
  · rintro ⟨c, fitted, valid⟩
    exact ⟨_, load_ok_iff.mpr ⟨text, v, c, FileTree.isFile_of_readText content, content, decoded,
      fitted, valid, rfl⟩⟩

end Config

section Loading

variable {v : Value}

-- What a record that is taken gives fits also where more fits, and the record is named if it is a
-- map.
theorem Taken.byName {parts parts' : List RecordPart} (taken : Taken parts v)
    (weaker : List.Forall₂ (fun p p' : RecordPart => p.toSpot = p'.toSpot ∧
      ∀ w ∈ p.given v, p.Fits w → p'.Fits w) parts parts')
    (map : ∃ m, v = .map m) : ByName parts' v := by
  obtain ⟨-, fits⟩ := taken
  refine ⟨map, ?_⟩
  induction weaker with
  | nil => exact List.forall_mem_nil _
  | cons weaker _ ih =>
    obtain ⟨here, later⟩ := List.forall_mem_cons.mp fits
    refine List.forall_mem_cons.mpr ⟨fun w given => ?_, ih later⟩
    rw [← weaker.1] at given
    exact weaker.2 w given (here.2 w given)

-- The one thing that is taken and is not named is a record without names.
theorem ConfigShape.byName_iff (shape : ConfigShape Taken Scalar.Finite v) :
    ConfigShape ByName (fun _ => True) v ↔ Mapped v := by
  have text : ∀ {w}, IsText Scalar.Finite w → IsText (fun _ => True) w :=
    fun ⟨s, same, _⟩ => ⟨s, same, trivial⟩
  have texts : ∀ {w}, AreTexts Scalar.Finite w → AreTexts (fun _ => True) w :=
    fun ⟨items, same, each⟩ => ⟨items, same, fun item member => text (each item member)⟩
  constructor
  · rintro ⟨map, fits⟩
    simp only [configParts, List.forall_mem_cons] at fits
    obtain ⟨input, template, output, _⟩ := fits
    refine ⟨map, ?_⟩
    simp only [sectionSpots, List.forall_mem_cons]
    exact ⟨fun w given => (input w given).1, fun w given => (template w given).1,
      fun w given => (output w given).1, List.forall_mem_nil _⟩
  · rintro ⟨map, maps⟩
    simp only [sectionSpots, List.forall_mem_cons] at maps
    obtain ⟨input, template, output, _⟩ := maps
    refine Taken.byName shape (.cons ⟨rfl, ?_⟩ (.cons ⟨rfl, ?_⟩ (.cons ⟨rfl, ?_⟩
      (.cons ⟨rfl, ?_⟩ .nil)))) map
    · exact fun w given taken =>
        taken.byName (.cons ⟨rfl, fun _ _ => text⟩ .nil) (input w given)
    · exact fun w given taken =>
        taken.byName (.cons ⟨rfl, fun _ _ => texts⟩ (.cons ⟨rfl, fun _ _ => text⟩ .nil))
          (template w given)
    · exact fun w given taken =>
        taken.byName (.cons ⟨rfl, fun _ _ => text⟩ (.cons ⟨rfl, fun _ _ => text⟩ .nil))
          (output w given)
    · exact fun w _ data => ⟨data.1, fun _ _ => trivial⟩

-- Any data fits that has no infinite decimal; that it is a map is found out later.
theorem configShape_taken_iff : ConfigShape Taken Scalar.Finite v ↔
    Taken (configParts Taken Scalar.Finite Value.Finite) v ∧
      ∀ w ∈ dataSpot.given v, w = .text "" ∨ ∃ m, w = .map m := by
  simp only [ConfigShape, Taken, configParts, List.forall_mem_cons, List.length_cons]
  constructor
  · rintro ⟨record, input, template, output, ⟨once, data⟩, none⟩
    exact ⟨⟨record, input, template, output, ⟨once, fun w given => (data w given).2⟩, none⟩,
      fun w given => (data w given).1⟩
  · rintro ⟨⟨record, input, template, output, ⟨once, finite⟩, none⟩, data⟩
    exact ⟨record, input, template, output,
      ⟨once, fun w given => ⟨data w given, finite w given⟩⟩, none⟩

end Loading

-- Exactly the documents that are taken for a configuration, part for part, and that give its two
-- needed texts, are loaded; any other is an error of the configuration. A document that is loaded
-- has all of its records in maps, or at least one of them in order, without names.
theorem load_shape {t : FileTree} {path text : String} {v : Value}
    (content : t.readText path = .ok text) (decoded : (decode path text).outcome.1 = .ok v) :
    ((∃ c, (Config.load t path).outcome.1 = .ok c) ↔
      ConfigShape Taken Scalar.Finite v ∧ Supplied v .table ∧ Supplied v .column) ∧
    (∀ e, (Config.load t path).outcome.1 = .error e → ∃ f, e = .config f) ∧
    ((∃ c, (Config.load t path).outcome.1 = .ok c) →
      (ConfigShape ByName (fun _ => True) v ↔ Mapped v)) := by
  have distinct := (decode_normal decoded).distinct
  have shape : (∃ c, (Config.load t path).outcome.1 = .ok c) ↔
      ConfigShape Taken Scalar.Finite v ∧ Supplied v .table ∧ Supplied v .column := by
    rw [Config.load_decoded_iff content decoded, configShape_taken_iff,
      ← Config.ofValue_ok_iff distinct]
    constructor
    · rintro ⟨c, fitted, valid⟩
      obtain ⟨table, column, data⟩ := (Config.settled_valid_iff distinct fitted).mp valid
      exact ⟨⟨⟨c, fitted⟩, data⟩, table, column⟩
    · rintro ⟨⟨⟨c, fitted⟩, data⟩, table, column⟩
      exact ⟨c, fitted, (Config.settled_valid_iff distinct fitted).mpr ⟨table, column, data⟩⟩
  exact ⟨shape, (Config.load_quiet t path).failed, fun loaded => (shape.mp loaded).1.byName_iff⟩

set_option maxRecDepth 10000 in
-- A map of sections in order.
theorem load_shape_ordered :
    ∃ (t : FileTree) (text : String) (v : Value), t.readText "c" = .ok text ∧
      (decode "c" text).outcome.1 = .ok v ∧ ConfigShape Taken Scalar.Finite v ∧
      Supplied v .table ∧ Supplied v .column ∧ ¬ ConfigShape ByName (fun _ => True) v := by
  let text := "input: [t]\noutput: [o, k]"
  let n : Yaml.Node := .mapping 0 none
    [(.scalar "input" .plain 0 none, .sequence 0 none [.scalar "t" .plain 0 none]),
      (.scalar "output" .plain 0 none,
        .sequence 0 none [.scalar "o" .plain 0 none, .scalar "k" .plain 0 none])]
  let d : Draft := .map [("input", .sequence [.scalar "t" .plain]),
    ("output", .sequence [.scalar "o" .plain, .scalar "k" .plain])]
  let t := FileTree.empty.put ["work", "c"] (.text text)
  let c : Config := ⟨"t", [], "", "o", "k", .map []⟩
  have events : Yaml.events text = ⟨n.document, none⟩ := by cbv
  have drafted : (Drafting.ofEvents n.document).result = d := by cbv
  have draft : draftOf text = d := by rw [draftOf, events, drafted]
  have decoded : (decode "c" text).outcome.1 = .ok d.typed :=
    decode_ok_iff.mpr ⟨by rw [events], by rw [draft]⟩
  have fitted : Config.ofValue d.typed = .ok c := rfl
  have loaded : (Config.load t "c").outcome.1 = .ok c := by
    refine Config.load_ok rfl rfl rfl (by rw [events]) ?_ (by decide) (by decide)
    rw [draft]
    exact fitted
  obtain ⟨shape, _, named⟩ := load_shape (t := t) rfl decoded
  obtain ⟨taken, table, column⟩ := shape.mp ⟨c, loaded⟩
  refine ⟨t, text, d.typed, rfl, decoded, taken, table, column, fun all => ?_⟩
  obtain ⟨_, maps⟩ := (named ⟨c, loaded⟩).mp all
  obtain ⟨m, same⟩ := maps ⟨["output"], 2⟩ (by simp [sectionSpots])
    (.sequence [.text "o", .text "k"]) (List.mem_singleton_self _)
  cases same

set_option maxRecDepth 10000 in
-- Not even the document as a whole is a map.
theorem load_shape_unnamed :
    ¬ ∀ (t : FileTree) (path text : String) (v : Value) (c : Config),
      t.readText path = .ok text → (decode path text).outcome.1 = .ok v →
      (Config.load t path).outcome.1 = .ok c → ConfigShape ByName (fun _ => True) v := by
  let text := "[[t], [], [o, k]]\n"
  let n : Yaml.Node := .sequence 0 none
    [.sequence 0 none [.scalar "t" .plain 0 none], .sequence 0 none [],
      .sequence 0 none [.scalar "o" .plain 0 none, .scalar "k" .plain 0 none]]
  let d : Draft := .sequence [.sequence [.scalar "t" .plain], .sequence [],
    .sequence [.scalar "o" .plain, .scalar "k" .plain]]
  let t := FileTree.empty.put ["work", "c"] (.text text)
  let c : Config := ⟨"t", [], "", "o", "k", .map []⟩
  have events : Yaml.events text = ⟨n.document, none⟩ := by cbv
  have draft : draftOf text = d := by
    rw [draftOf, events]
    rfl
  have decoded : (decode "c" text).outcome.1 = .ok d.typed :=
    decode_ok_iff.mpr ⟨by rw [events], by rw [draft]⟩
  have fitted : Config.ofValue d.typed = .ok c := rfl
  have loaded : (Config.load t "c").outcome.1 = .ok c := by
    refine Config.load_ok rfl rfl rfl (by rw [events]) ?_ (by decide) (by decide)
    rw [draft]
    exact fitted
  intro named
  obtain ⟨⟨m, same⟩, _⟩ := named t "c" text _ c rfl decoded loaded
  cases same

end RowPress
