import RowPress.Proofs.Draft
import RowPress.Proofs.Record
import RowPress.Proofs.Recasting
/-!
Configurations out of documents. Each part of a configuration comes from the data of one field,
inside of its section, and nothing else that the document holds changes it.
-/
namespace RowPress

theorem itemsToJson_eq_map (items : List Value) : itemsToJson items = items.map Value.toJson := by
  induction items with
  | nil => rfl
  | cons item rest ih => rw [itemsToJson, ih, List.map_cons]

theorem entriesToJson_eq_map (m : Entries) :
    entriesToJson m = m.map fun (key, v) => (key, v.toJson) := by
  induction m with
  | nil => rfl
  | cons entry rest ih =>
    obtain ⟨key, value⟩ := entry
    rw [entriesToJson, ih, List.map_cons]

-- Lists that go together do so at every place.
theorem forall₂_at {α β : Type} {R : α → β → Prop} {as : List α} {bs : List β}
    (all : List.Forall₂ R as bs) (i : Nat) :
    (as[i]? = none ∧ bs[i]? = none) ∨ ∃ a b, as[i]? = some a ∧ bs[i]? = some b ∧ R a b := by
  induction all generalizing i with
  | nil => exact .inl ⟨rfl, rfl⟩
  | cons here _ ih =>
    cases i with
    | zero => exact .inr ⟨_, _, rfl, rfl, here⟩
    | succ i => exact ih i

namespace Json

theorem map_ok_iff {α β : Type} {fitted : Fitting α} {f : α → β} {b : β} :
    (do return f (← fitted) : Fitting β) = .ok b ↔ ∃ a, fitted = .ok a ∧ b = f a := by
  cases fitted <;> simp [bind, Except.bind, pure, Except.pure, eq_comm]

theorem exists_map_ok_iff {α β : Type} {fitted : Fitting α} {f : α → β} :
    (∃ b, (do return f (← fitted) : Fitting β) = .ok b) ↔ ∃ a, fitted = .ok a := by
  simp only [map_ok_iff]
  exact ⟨fun ⟨_, a, same, _⟩ => ⟨a, same⟩, fun ⟨a, same⟩ => ⟨_, a, same, rfl⟩⟩

theorem toList_eq_ok_iff {α : Type} {fit : Json → Fitting α} {items : List Json}
    {fitted : List α} : toList fit (.array items) = .ok fitted ↔
      List.Forall₂ (fun j a => fit j = .ok a) items fitted := by
  rw [toList]
  induction items generalizing fitted with
  | nil => cases fitted <;> simp [pure, Except.pure]
  | cons first rest ih =>
    rw [List.mapM_cons]
    cases here : fit first with
    | error m => cases fitted <;> simp [here, bind, Except.bind]
    | ok a =>
      cases later : rest.mapM fit with
      | error m => cases fitted <;> simp [here, bind, Except.bind, ← ih, later]
      | ok others => cases fitted <;> simp [here, bind, Except.bind, pure, Except.pure, ← ih, later]

theorem toScalar_eq_ok_iff {j : Json} {s : Scalar} :
    toScalar j = .ok s ↔ scalar? j = some s := by
  rw [toScalar]
  cases scalar? j <;> simp

end Json

namespace Config

open Json

theorem decodeDocument_ok_iff {path text : String} {v : Value} :
    (decodeDocument path text).outcome.1 = .ok v ↔ (decode path text).outcome.1 = .ok v := by
  refine Step.tryCatch_ok_iff ?_
  intro e
  cases e <;> exact ⟨_, rfl⟩

-- A configuration is loaded if the document in its file holds one that every run can use.
theorem load_ok_iff {t : FileTree} {path : String} {c : Config} :
    (load t path).outcome.1 = .ok c ↔
      ∃ text document raw, t.isFile path = true ∧ t.readText path = .ok text ∧
        (decode path text).outcome.1 = .ok document ∧ ofValue document = .ok raw ∧
        raw.settleData.validate.outcome.1 = .ok () ∧ c = raw.settleData := by
  constructor
  · intro loaded
    unfold load at loaded
    by_cases missing : (!t.isFile path) = true
    · simp only [if_pos missing] at loaded
      obtain ⟨_, _, failed, _⟩ := Step.bind_ok loaded
      cases failed
    · simp only [if_neg missing] at loaded
      obtain ⟨_, _, _, loaded⟩ := Step.bind_ok loaded
      cases content : t.readText path with
      | error e =>
        rw [content] at loaded
        cases loaded
      | ok text =>
        rw [content] at loaded
        obtain ⟨document, _, decoded, loaded⟩ := Step.onto_bind_ok loaded
        rw [(decodeDocument_quiet path text).steady] at decoded
        cases fitted : ofValue document with
        | error m =>
          simp only [fitted] at loaded
          cases loaded
        | ok raw =>
          simp only [fitted] at loaded
          obtain ⟨_, _, valid, same⟩ := Step.onto_bind_ok loaded
          rw [(validate_quiet _).steady] at valid
          cases same
          exact ⟨text, document, raw, by simpa using missing, rfl,
            decodeDocument_ok_iff.mp (Prod.mk.inj decoded).1, fitted, (Prod.mk.inj valid).1, rfl⟩
  · rintro ⟨text, document, raw, isFile, content, decoded, fitted, valid, rfl⟩
    have decoded := decodeDocument_ok_iff.mpr decoded
    unfold load
    simp only [isFile, Bool.not_true, if_neg Bool.false_ne_true, content]
    rw [Step.outcome_eq, Step.onto_bind, Step.onto_note]
    simp only [Step.onto_bind, (decodeDocument_quiet path text).steady, decoded, fitted,
      (validate_quiet _).steady, valid, Step.onto_pure]

section Loading

variable {c : Config} {m : Entries} (data : c.data = .map m)

include data

theorem settleData_map : c.settleData = c := by
  rw [settleData, data]

-- A configuration that a draft fits is loaded if its two needed texts are there.
theorem load_ok {t : FileTree} {path text : String} (isFile : t.isFile path = true)
    (content : t.readText path = .ok text) (readable : (Yaml.events text).fault = none)
    (fitted : ofValue (draftOf text).typed = .ok c) (table : isBlankText c.table = false)
    (column : isBlankText c.column = false) : (load t path).outcome.1 = .ok c := by
  have valid : c.validate.outcome.1 = .ok () := by
    rw [validate, if_neg (Bool.eq_false_iff.mp table), if_neg (Bool.eq_false_iff.mp column), data]
    rfl
  have settled := settleData_map data
  refine load_ok_iff.mpr ⟨text, _, c, isFile, content, decode_ok_iff.mpr ⟨readable, rfl⟩, fitted,
    ?_, settled.symm⟩
  rw [settled]
  exact valid

end Loading

section Fields

variable {α : Type} {name kind : String} {otherName : Option String} {get : Config → α}
  {within : List (Json.Field Config)} {merge : Config → Config → Config}
  {set : String → Config → Config}

theorem textField_set_iff {j : Json} {change : Config → Config} :
    (textField name otherName set).set j = .ok change ↔
      ∃ s, scalar? j = some s ∧ change = set s.display := by
  simp only [← toScalar_eq_ok_iff]
  cases fitted : toScalar j <;>
    simp [textField, fitText, fitted, bind, Except.bind, pure, Except.pure, eq_comm]

theorem textField_keeps (keeps : ∀ s r, get (set s r) = get r) :
    (textField name otherName set).Keeps get := by
  intro j change changed r
  obtain ⟨s, _, rfl⟩ := textField_set_iff.mp changed
  exact keeps _ r

theorem sectionField_set_iff {j : Json} {change : Config → Config} :
    (sectionField name kind within merge).set j = .ok change ↔
      ∃ part, toRecord kind within blank j = .ok part ∧ change = merge part :=
  map_ok_iff

theorem sectionField_keeps (keeps : ∀ part r, get (merge part r) = get r) :
    (sectionField name kind within merge).Keeps get := by
  intro j change changed r
  obtain ⟨part, _, rfl⟩ := sectionField_set_iff.mp changed
  exact keeps part r

end Fields

def templatesField : Json.Field Config := templateFields[0]

theorem templatesField_set_iff {j : Json} {change : Config → Config} :
    templatesField.set j = .ok change ↔ ∃ names, toList toScalar j = .ok names ∧
      change = fun c => { c with templates := names.map Scalar.display } :=
  map_ok_iff

def dataField : Json.Field Config := fields[3]

theorem dataField_set_iff {j : Json} {change : Config → Config} :
    dataField.set j = .ok change ↔
      ∃ v, toValue j = .ok v ∧ change = fun c => { c with data := v } :=
  map_ok_iff

theorem dataField_sets {v : Value} (distinct : v.Distinct) (finite : v.Finite) :
    dataField.set v.toJson = .ok fun c => { c with data := v } :=
  dataField_set_iff.mpr ⟨v, toValue_toJson distinct finite, rfl⟩

theorem dataField_keeps {α : Type} {get : Config → α}
    (keeps : ∀ (c : Config) v, get { c with data := v } = get c) : dataField.Keeps get := by
  intro j change changed r
  obtain ⟨v, _, rfl⟩ := dataField_set_iff.mp changed
  exact keeps r v

theorem fields_separate : Separate fields := by
  simp [Separate, fields, sectionField, Field.answersTo]

theorem data_kept : Kept fields "data" data := by
  simp only [Kept, fields, List.forall_mem_cons]
  exact ⟨fun _ => sectionField_keeps fun _ _ => rfl, fun _ => sectionField_keeps fun _ _ => rfl,
    fun _ => sectionField_keeps fun _ _ => rfl, fun other => absurd rfl other,
    List.forall_mem_nil _⟩

theorem fit_data {c : Config} {j : Json} (fitted : fit j = .ok c) :
    (dataField.part? 3 j = none ∧ c.data = .empty) ∨
    ∃ part v, dataField.part? 3 j = some part ∧ toValue part = .ok v ∧ c.data = v := by
  obtain ⟨none, same⟩ | ⟨part, change, r, given, set, same⟩ :=
    toRecord_part fields_separate data_kept (rfl : fields[3]? = some dataField) fitted
  · exact .inl ⟨none, same⟩
  · obtain ⟨v, fitted, rfl⟩ := dataField_set_iff.mp set
    exact .inr ⟨part, v, given, fitted, same⟩

-- The parts of a configuration that hold text, each of them in a section.
inductive TextPart where
  | table | templates | basePath | outputPath | column

namespace TextPart

def held (c : Config) : TextPart → List String
  | .table => [c.table]
  | .templates => c.templates
  | .basePath => [c.basePath]
  | .outputPath => [c.outputPath]
  | .column => [c.column]

-- The places of the section and, inside of it, of the field.
def sectionPlace : TextPart → Nat
  | .table => 0
  | .templates | .basePath => 1
  | .outputPath | .column => 2

def place : TextPart → Nat
  | .table | .templates | .outputPath => 0
  | .basePath | .column => 1

def sectionField : TextPart → Json.Field Config
  | .table => fields[0]
  | .templates | .basePath => fields[1]
  | .outputPath | .column => fields[2]

def siblings : TextPart → List (Json.Field Config)
  | .table => inputFields
  | .templates | .basePath => templateFields
  | .outputPath | .column => outputFields

def field : TextPart → Json.Field Config
  | .table => inputFields[0]
  | .templates => templateFields[0]
  | .basePath => templateFields[1]
  | .outputPath => outputFields[0]
  | .column => outputFields[1]

-- What is given for a part.
def part? (p : TextPart) (j : Json) : Option Json :=
  (p.sectionField.part? p.sectionPlace j).bind (p.field.part? p.place)

-- The texts that a part takes from what is given for it.
def Takes (p : TextPart) (j : Json) (texts : List String) : Prop :=
  match p with
  | .templates => ∃ names, toList toScalar j = .ok names ∧ texts = names.map Scalar.display
  | _ => ∃ s, scalar? j = some s ∧ texts = [s.display]

theorem siblings_separate (p : TextPart) : Separate p.siblings := by
  cases p <;>
    simp [Separate, siblings, inputFields, templateFields, outputFields, textField, Field.answersTo]

theorem placed (p : TextPart) : p.siblings[p.place]? = some p.field := by cases p <;> rfl

theorem section_placed (p : TextPart) : fields[p.sectionPlace]? = some p.sectionField := by
  cases p <;> rfl

-- No other section and not the data touch a part, and neither do the fields beside its own.
theorem section_kept (p : TextPart) : Kept fields p.sectionField.name p.held := by
  have data : dataField.Keeps p.held := dataField_keeps fun _ _ => by cases p <;> rfl
  cases p <;> simp only [Kept, fields, List.forall_mem_cons]
  case table =>
    exact ⟨fun other => absurd rfl other, fun _ => sectionField_keeps fun _ _ => rfl,
      fun _ => sectionField_keeps fun _ _ => rfl, fun _ => data, List.forall_mem_nil _⟩
  case templates | basePath =>
    exact ⟨fun _ => sectionField_keeps fun _ _ => rfl, fun other => absurd rfl other,
      fun _ => sectionField_keeps fun _ _ => rfl, fun _ => data, List.forall_mem_nil _⟩
  case outputPath | column =>
    exact ⟨fun _ => sectionField_keeps fun _ _ => rfl,
      fun _ => sectionField_keeps fun _ _ => rfl, fun other => absurd rfl other, fun _ => data,
      List.forall_mem_nil _⟩

theorem kept (p : TextPart) : Kept p.siblings p.field.name p.held := by
  cases p <;>
    simp only [Kept, siblings, inputFields, templateFields, outputFields, List.forall_mem_cons]
  case table => exact ⟨fun other => absurd rfl other, List.forall_mem_nil _⟩
  case templates | outputPath =>
    exact ⟨fun other => absurd rfl other, fun _ => textField_keeps fun _ _ => rfl,
      List.forall_mem_nil _⟩
  case basePath =>
    refine ⟨fun _ => ?_, fun other => absurd rfl other, List.forall_mem_nil _⟩
    intro j change changed r
    obtain ⟨names, _, rfl⟩ := templatesField_set_iff.mp changed
    rfl
  case column =>
    exact ⟨fun _ => textField_keeps fun _ _ => rfl, fun other => absurd rfl other,
      List.forall_mem_nil _⟩

theorem section_set (p : TextPart) {j : Json} {change : Config → Config}
    (changed : p.sectionField.set j = .ok change) :
    ∃ kind part, toRecord kind p.siblings blank j = .ok part ∧
      ∀ r, p.held (change r) = p.held part := by
  cases p <;>
    obtain ⟨part, filled, rfl⟩ := sectionField_set_iff.mp changed <;>
    exact ⟨_, part, filled, fun _ => rfl⟩

theorem field_set (p : TextPart) {j : Json} {change : Config → Config}
    (changed : p.field.set j = .ok change) (r : Config) : p.Takes j (p.held (change r)) := by
  cases p
  case templates =>
    obtain ⟨names, fitted, rfl⟩ := templatesField_set_iff.mp changed
    exact ⟨names, fitted, rfl⟩
  all_goals
    obtain ⟨s, scalar, rfl⟩ := textField_set_iff.mp changed
    exact ⟨s, scalar, rfl⟩

end TextPart

-- What is given for a part decides it, whatever else there is.
theorem fit_text {c : Config} {j : Json} (fitted : fit j = .ok c) (p : TextPart) :
    (p.part? j = none ∧ p.held c = p.held blank) ∨
    ∃ part, p.part? j = some part ∧ p.Takes part (p.held c) := by
  obtain ⟨none, same⟩ | ⟨inner, change, r, given, set, same⟩ :=
    toRecord_part fields_separate p.section_kept p.section_placed fitted
  · exact .inl ⟨by rw [TextPart.part?, none, Option.bind_none], same⟩
  · obtain ⟨kind, record, filled, merged⟩ := p.section_set set
    rw [merged] at same
    rw [TextPart.part?, given, Option.bind_some]
    obtain ⟨none, blank⟩ | ⟨part, change, r, given, set, shown⟩ :=
      toRecord_part p.siblings_separate p.kept p.placed filled
    · exact .inl ⟨none, same.trans blank⟩
    · refine .inr ⟨part, given, ?_⟩
      rw [same, shown]
      exact p.field_set set r

-- The entries for a field are the same before and after they become JSON data.
theorem given_entriesToJson {σ : Type} (f : Json.Field σ) (m : Entries) :
    f.given (entriesToJson m) =
      entriesToJson (m.filter fun entry => f.answersTo entry.1) := by
  rw [Field.given, entriesToJson_eq_map, entriesToJson_eq_map, List.filter_map]
  rfl

theorem part?_map {σ : Type} (f : Json.Field σ) (place : Nat) (m : Entries) :
    f.part? place (Value.map m).toJson =
      (m.filter fun entry => f.answersTo entry.1).head?.map fun entry => entry.2.toJson := by
  have given := given_entriesToJson f m
  rw [Field.given] at given
  rw [Value.toJson, Field.part?, ← List.head?_filter, given, entriesToJson_eq_map, List.head?_map,
    Option.map_map]
  rfl

section Dropping

variable {σ : Type} {f : Json.Field σ} {entries : Entries} {key : String}

-- A field keeps its entries if those of a key that is for another go,
theorem given_dropped (silent : f.answersTo key = false) :
    f.given (entriesToJson (entries.filter (·.1 != key))) = f.given (entriesToJson entries) := by
  rw [given_entriesToJson, given_entriesToJson, List.filter_filter]
  congr 1
  refine List.filter_congr fun entry _ => ?_
  by_cases here : entry.1 = key
  · rw [here, silent, Bool.false_and]
  · simp [here]

-- and has none left if the key was its only one.
theorem given_dropped_only {v : Value}
    (only : entries.filter (fun entry => f.answersTo entry.1) = [(key, v)]) :
    f.given (entriesToJson (entries.filter (·.1 != key))) = [] := by
  have none : (entries.filter (·.1 != key)).filter (fun entry => f.answersTo entry.1) = [] := by
    rw [List.filter_comm, only]
    simp
  rw [given_entriesToJson, none]
  rfl

end Dropping

theorem dataField_answers (key : String) :
    dataField.answersTo key = (key == "data" || key == "Data") := by
  have answers : dataField.answersTo key = ("data" == key || some "Data" == some key) := rfl
  rw [answers, Bool.beq_comm, Option.some_beq_some, Bool.beq_comm (a := "Data")]

section Data

variable {entries m : Entries} {key : String}
  (only : entries.filter (fun entry => dataField.answersTo entry.1) = [(key, .map m)])

include only

-- What is given under the one name or the other, and can be given, decides the data.
theorem ofValue_data {c : Config} (distinct : (Value.map m).Distinct)
    (finite : (Value.map m).Finite) (fitted : ofValue (.map entries) = .ok c) :
    c.data = .map m := by
  have given := part?_map dataField 3 entries
  rw [only] at given
  obtain ⟨none, _⟩ | ⟨part, v, found, fits, same⟩ := fit_data fitted
  · rw [given] at none
    cases none
  · rw [given] at found
    cases found
    rw [toValue_toJson distinct finite] at fits
    rw [same, Except.ok.inj fits]

-- It fits whatever else there is, and does not keep anything else from fitting.
theorem ofValue_without_data (distinct : (Value.map m).Distinct) (finite : (Value.map m).Finite) :
    (∃ c, ofValue (.map entries) = .ok c) ↔
      ∃ c, ofValue (.map (entries.filter (·.1 != key))) = .ok c := by
  have fills : ∀ m : Entries, (∃ c, ofValue (.map m) = .ok c) ↔
      ∀ f ∈ fields, f.Fits (entriesToJson m) := fun m => fillByName_ok_iff fields_separate
  rw [fills, fills]
  refine forall₂_congr fun f member => ?_
  by_cases same : f = dataField
  · subst same
    have given : dataField.given (entriesToJson entries) = [(key, (Value.map m).toJson)] := by
      rw [given_entriesToJson, only]
      rfl
    exact ⟨fun _ => .inl (given_dropped_only only),
      fun _ => .inr ⟨key, _, _, given, dataField_sets distinct finite⟩⟩
  · have answered : dataField.answersTo key = true := by
      have found : (key, Value.map m) ∈ entries.filter fun entry => dataField.answersTo entry.1 := by
        rw [only]
        exact List.mem_singleton_self _
      exact (List.mem_filter.mp found).2
    have silent : f.answersTo key = false := by
      rw [Bool.eq_false_iff]
      intro answers
      exact same (fields_separate.unique member (by simp [dataField]) answers answered)
    rw [Field.Fits, Field.Fits, given_dropped silent]

end Data

end Config

-- What goes to JSON data and comes back is the same if its decimals are all finite, and an error if
-- one of them is not. So the data of a configuration, if it is given once, is the map in the
-- document.
theorem recast_lossless :
    (∀ v : Value, v.Distinct → v.Finite → (recast Json.toValue v).outcome = (.ok v, [])) ∧
    (∀ v : Value, ¬ v.Finite → (recast Json.toValue v).outcome =
      (.error (.decode (.noVariant "GenericValue")), [])) ∧
    ∀ (path text : String) (entries m : Entries) (key : String),
      (decode path text).outcome.1 = .ok (.map entries) →
      entries.filter (fun entry => entry.1 == "data" || entry.1 == "Data") = [(key, .map m)] →
      (Value.map m).Finite →
      (∀ t c, t.readText path = .ok text → (Config.load t path).outcome.1 = .ok c →
        c.data = .map m) ∧
      ((∃ c, Config.ofValue (.map entries) = .ok c) ↔
        ∃ c, Config.ofValue (.map (entries.filter (·.1 != key))) = .ok c) := by
  refine ⟨?_, ?_, ?_⟩
  · intro v distinct finite
    rw [outcome_recast, Json.toValue_toJson distinct finite]
  · intro v infinite
    rw [outcome_recast, Json.toValue_infinite infinite]
  · intro path text entries m key decoded only finite
    simp only [← Config.dataField_answers] at only
    have distinct : (Value.map m).Distinct := by
      have member : (key, Value.map m) ∈ [(key, Value.map m)] := List.mem_singleton_self _
      rw [← only] at member
      cases (decode_normal decoded).distinct with
      | map _ each => exact each _ (List.mem_filter.mp member).1
    refine ⟨?_, Config.ofValue_without_data only distinct finite⟩
    intro t c content loaded
    obtain ⟨text', document, raw, _, content', decoded', fitted, _, rfl⟩ :=
      Config.load_ok_iff.mp loaded
    rw [content] at content'
    cases content'
    rw [decoded] at decoded'
    cases decoded'
    have held := Config.ofValue_data only distinct finite fitted
    rw [Config.settleData_map held, held]

set_option maxRecDepth 10000 in
-- Decimals of a whole value and of none, collections without content, and the other name of the
-- data.
theorem recast_lossless_nested :
    let v : Value := .map [("b", .sequence [.sequence [], .map [], .text "007"]),
      ("a", .map [("x", .scalar (.decimal 2.0)), ("b", .scalar (.integer (-3)))])]
    let w : Value := .map [("b", .sequence [.text "", .scalar (.decimal (1.0 / 0.0))])]
    (recast Json.toValue v).outcome = (.ok v, []) ∧
    (recast Json.toValue w).outcome = (.error (.decode (.noVariant "GenericValue")), []) ∧
    ∃ t c, (Config.load t "c").outcome.1 = .ok c ∧
      c.data = .map [("y", .sequence []), ("x", .text "z")] := by
  intro v w
  have distinct : v.Distinct := by
    refine .map (by decide) (List.forall_mem_cons.mpr ⟨.sequence ?_,
      List.forall_mem_singleton.mpr (.map (by decide) ?_)⟩)
    · simp only [List.forall_mem_cons]
      exact ⟨.sequence (List.forall_mem_nil _), .map .nil (List.forall_mem_nil _), .scalar,
        List.forall_mem_nil _⟩
    · simp only [List.forall_mem_cons]
      exact ⟨.scalar, .scalar, List.forall_mem_nil _⟩
  let text := "Data: \x7by: [], x: z\x7d\ninput: [i]\noutput: [p, o]"
  let n : Yaml.Node := .mapping 0 none
    [(.scalar "Data" .plain 0 none, .mapping 0 none
        [(.scalar "y" .plain 0 none, .sequence 0 none []),
          (.scalar "x" .plain 0 none, .scalar "z" .plain 0 none)]),
      (.scalar "input" .plain 0 none, .sequence 0 none [.scalar "i" .plain 0 none]),
      (.scalar "output" .plain 0 none,
        .sequence 0 none [.scalar "p" .plain 0 none, .scalar "o" .plain 0 none])]
  let data : Entries := [("y", .sequence []), ("x", .text "z")]
  let entries : Entries := [("Data", .map data), ("input", .sequence [.text "i"]),
    ("output", .sequence [.text "p", .text "o"])]
  let t := FileTree.empty.put ["work", "c"] (.text text)
  let d : Draft := .map
    [("Data", .map [("y", .sequence []), ("x", .scalar "z" .plain)]),
      ("input", .sequence [.scalar "i" .plain]),
      ("output", .sequence [.scalar "p" .plain, .scalar "o" .plain])]
  have events : Yaml.events text = ⟨n.document, none⟩ := by cbv
  have draft : (Drafting.ofEvents n.document).result = d := by cbv
  have typed : d.typed = .map entries := rfl
  have decoded : (decode "c" text).outcome.1 = .ok (.map entries) := by
    rw [decode_ok_iff, draftOf, events]
    exact ⟨rfl, by rw [draft, typed]⟩
  let c : Config := ⟨"i", [], "", "p", "o", .map data⟩
  have fitted : Config.ofValue (.map entries) = .ok c := rfl
  have loaded : (Config.load t "c").outcome.1 = .ok c := by
    refine Config.load_ok rfl rfl rfl (by rw [events]) ?_ (by decide) (by decide)
    rw [draftOf, events, draft, typed]
    exact fitted
  refine ⟨recast_lossless.1 v distinct (by decide), recast_lossless.2.1 w (by decide), t, c,
    loaded, ?_⟩
  exact (recast_lossless.2.2 "c" text entries data "Data" decoded rfl (by decide)).1 t c rfl
    loaded

end RowPress
