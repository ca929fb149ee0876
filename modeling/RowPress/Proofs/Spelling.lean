import RowPress.Proofs.Configuration
import RowPress.Proofs.Trimming
/-!
What the text fields of a configuration hold. A scalar of a document is typed before a field takes
it, and the field holds what the typed scalar is shown as. Many spellings of a number or a truth
value are shown in one way, so a field does not always hold the text that is written for it.
-/
namespace RowPress

namespace Text

variable {n : Nat} {c : Char}

theorem isAsciiDigit_toDigits (member : c ∈ Nat.toDigits 10 n) : isAsciiDigit c = true :=
  Nat.isDigit_of_mem_toDigits (by decide) (by decide) member

theorem isBlank_digit (digit : isAsciiDigit c = true) : isBlank c = false := by
  have bounds : 48 ≤ c.toNat ∧ c.toNat ≤ 57 := by
    simpa [isAsciiDigit, Char.le_def, UInt32.le_iff_toNat_le] using digit
  have covers : ∀ point, 48 ≤ point → point ≤ 57 → blanks.covers point = false := by
    intro point low high
    interval_cases point <;> rfl
  exact covers c.toNat bounds.1 bounds.2

theorem splitSign_toDigits (n : Nat) :
    splitSign (Nat.toDigits 10 n) = (false, Nat.toDigits 10 n) := by
  unfold splitSign
  split
  next rest digits =>
    have sign : '+' ∈ Nat.toDigits 10 n := digits ▸ List.mem_cons_self
    exact absurd (isAsciiDigit_toDigits sign) (by decide)
  next rest digits =>
    have sign : '-' ∈ Nat.toDigits 10 n := digits ▸ List.mem_cons_self
    exact absurd (isAsciiDigit_toDigits sign) (by decide)
  next => rfl

end Text

theorem integerOf?_digits {token : List Char} {negative : Bool} {n : Nat}
    (split : Text.splitSign token = (negative, Nat.toDigits 10 n))
    (fits : fitsInteger (if negative then -n else n) = true) :
    integerOf? token = some (Int64.ofInt (if negative then -n else n)) := by
  have digits : Nat.toDigits 10 n ≠ [] ∧ (Nat.toDigits 10 n).all Text.isAsciiDigit :=
    ⟨Nat.toDigits_ne_nil, List.all_eq_true.mpr fun _ => Text.isAsciiDigit_toDigits⟩
  have value : Text.digitsValue (Nat.toDigits 10 n) = n := Nat.ofDigitChars_ten_toDigits
  simp only [integerOf?, split, if_pos digits, value, if_pos fits]

theorem toList_natural (n : Nat) : (toString (Int.ofNat n)).toList = Nat.toDigits 10 n := by
  rw [Int.toString_eq_repr, Int.repr, Nat.repr_eq_ofList_toDigits, String.toList_ofList]

theorem toList_negative (n : Nat) :
    (toString (Int.negSucc n)).toList = '-' :: Nat.toDigits 10 (n + 1) := by
  simp [Int.toString_eq_repr, Int.repr, Nat.repr_eq_ofList_toDigits]

-- The digits of an integer, with a minus in front of a negative one, are typed as that integer.
theorem coerce_integer (n : Int64) : coerce (toString n.toInt) = .integer n := by
  have digits {m : Nat} {c : Char} (member : c ∈ Nat.toDigits 10 m) : Text.isBlank c = false :=
    Text.isBlank_digit (Text.isAsciiDigit_toDigits member)
  have token : ∃ negative magnitude, n.toInt = (if negative then -magnitude else magnitude) ∧
      Text.splitSign (toString n.toInt).toList = (negative, Nat.toDigits 10 magnitude) ∧
      ∀ c ∈ (toString n.toInt).toList, Text.isBlank c = false := by
    cases n.toInt with
    | ofNat m =>
      rw [toList_natural]
      exact ⟨false, m, rfl, Text.splitSign_toDigits m, fun _ => digits⟩
    | negSucc m =>
      rw [toList_negative]
      exact ⟨true, m + 1, rfl, rfl, List.forall_mem_cons.mpr ⟨rfl, fun _ => digits⟩⟩
  obtain ⟨negative, magnitude, same, split, solid⟩ := token
  have typed := integerOf?_digits split (same ▸ fitsInteger_toInt n)
  rw [coerce, Text.trimWhile_none solid, typed, ← same, Int64.ofInt_toInt]

-- The texts that a field keeps: those that are no number and no truth value, and of the others
-- those that are written as their value is shown.
def Settled (written : String) : Prop :=
  coerce written = .text written ∨ written = "true" ∨ written = "false" ∨
  (∃ n : Int64, written = toString n.toInt) ∨
  ∃ x, coerce written = .decimal x ∧ Decimal.plain.write x = written

theorem display_eq_iff (written : String) :
    (coerce written).display = written ↔ Settled written := by
  constructor
  · intro same
    cases typed : coerce written with
    | bool b =>
      rw [typed] at same
      cases b with
      | true => exact .inr (.inl same.symm)
      | false => exact .inr (.inr (.inl same.symm))
    | integer n =>
      rw [typed] at same
      exact .inr (.inr (.inr (.inl ⟨n, same.symm⟩)))
    | decimal x =>
      rw [typed] at same
      exact .inr (.inr (.inr (.inr ⟨x, typed, same⟩)))
    | text s =>
      have same := coerce_text typed
      rw [same] at typed
      exact .inl typed
  · rintro (typed | rfl | rfl | ⟨n, rfl⟩ | ⟨x, typed, same⟩)
    · rw [typed]
      rfl
    · rfl
    · rfl
    · rw [coerce_integer]
      rfl
    · rw [typed]
      exact same

-- A step into a draft: to an entry that has one of the names, or to a place of a sequence.
structure Spot where
  names : List String
  place : Nat

def Draft.at? (d : Draft) (spot : Spot) : Option Draft :=
  match d with
  | .map entries => (entries.find? fun entry => spot.names.contains entry.1).map (·.2)
  | .sequence items => items[spot.place]?
  | _ => none

def Draft.follow? (d : Draft) : List Spot → Option Draft
  | [] => some d
  | spot :: rest => (d.at? spot).bind fun d => d.follow? rest

-- A value may have several entries for a spot; the first is the one that is followed.
def Spot.given (spot : Spot) : Value → List Value
  | .map entries => (entries.filter fun entry => spot.names.contains entry.1).map (·.2)
  | .sequence items => items[spot.place]?.toList
  | .scalar _ => []

def Value.follow? (v : Value) : List Spot → Option Value
  | [] => some v
  | spot :: rest => (spot.given v).head?.bind fun w => w.follow? rest

theorem Draft.typed_given (d : Draft) (spot : Spot) :
    (spot.given d.typed).head? = (d.at? spot).map Draft.typed := by
  cases d with
  | sequence items =>
    rw [typed, typedItems_eq_map, Spot.given, at?, List.getElem?_map]
    cases items[spot.place]? <;> rfl
  | map entries =>
    rw [typed, typedEntries_eq_map, Spot.given, at?, List.head?_map, List.head?_filter,
      List.find?_map, Option.map_map, Option.map_map]
    rfl
  | _ => rfl

-- The typed draft leads to the typed values of what the draft leads to.
theorem Draft.typed_follow? (d : Draft) (spots : List Spot) :
    d.typed.follow? spots = (d.follow? spots).map Draft.typed := by
  induction spots generalizing d with
  | nil => rfl
  | cons spot rest ih =>
    rw [Value.follow?, typed_given, follow?]
    cases d.at? spot with
    | none => rfl
    | some d' => exact ih d'

-- The texts of a configuration. Templates are counted from zero.
inductive TextField where
  | table
  | template (index : Nat)
  | basePath
  | outputPath
  | column

namespace TextField

-- Where a document gives a text.
def spots : TextField → List Spot
  | .table => [⟨["input"], 0⟩, ⟨["csv_filename"], 0⟩]
  | .template index => [⟨["template"], 1⟩, ⟨["scriban_filenames"], 0⟩, ⟨[], index⟩]
  | .basePath => [⟨["template"], 1⟩, ⟨["base_path"], 1⟩]
  | .outputPath => [⟨["output"], 2⟩, ⟨["output_path"], 0⟩]
  | .column => [⟨["output"], 2⟩,
      ⟨["csv_column_for_output_path_part", "csv_column_for_ouput_path_part"], 1⟩]

def held? (c : Config) : TextField → Option String
  | .table => some c.table
  | .template index => c.templates[index]?
  | .basePath => some c.basePath
  | .outputPath => some c.outputPath
  | .column => some c.column

def part : TextField → Config.TextPart
  | .table => .table
  | .template _ => .templates
  | .basePath => .basePath
  | .outputPath => .outputPath
  | .column => .column

end TextField

namespace Json

theorem toJson_scalar_part {σ : Type} (f : Field σ) (place : Nat) (s : Scalar) :
    f.part? place s.toJson = none := by
  cases s with
  | decimal x =>
    rw [Scalar.toJson]
    split <;> rfl
  | _ => rfl

-- The entries for a field are those at a spot of the same names,
theorem given_spot {σ : Type} {f : Field σ} {spot : Spot}
    (names : spot.names = f.name :: f.otherName.toList) (m : Entries) :
    f.given (entriesToJson m) =
      entriesToJson (m.filter fun entry => spot.names.contains entry.1) := by
  have answers : (fun entry : String × Value => f.answersTo entry.1) =
      fun entry => spot.names.contains entry.1 := funext fun entry => by
    rw [names, f.answersTo_eq]
  rw [Config.given_entriesToJson, answers]

-- and a field of the same place takes what is there.
theorem part?_spot {σ : Type} {f : Field σ} {spot : Spot}
    (names : spot.names = f.name :: f.otherName.toList) (v : Value) :
    f.part? spot.place v.toJson = (spot.given v).head?.map Value.toJson := by
  cases v with
  | scalar s => exact toJson_scalar_part f _ s
  | sequence items =>
    rw [Value.toJson, Field.part?, Spot.given, itemsToJson_eq_map, List.getElem?_map]
    cases items[spot.place]? <;> rfl
  | map m =>
    have given := given_spot names m
    rw [Field.given] at given
    rw [Value.toJson, Field.part?, ← List.head?_filter, given, Spot.given, entriesToJson_eq_map,
      List.head?_map, List.head?_map, Option.map_map, Option.map_map]
    rfl

-- What a scalar comes back as is that scalar, if anything.
theorem scalar?_some {s s' : Scalar} (back : scalar? s.toJson = some s') : s' = s := by
  by_cases finite : s.Finite
  · rw [scalar?_toJson finite] at back
    exact (Option.some.inj back).symm
  · rw [toJson_infinite finite] at back
    cases back

end Json

namespace TextField

open Config

-- The parts of a configuration are given where its texts are.
theorem part?_value (field : TextField) (v : Value) :
    field.part.part? v.toJson = (v.follow? (field.spots.take 2)).map Value.toJson := by
  have two : ∀ outer inner : Spot,
      outer.names = field.part.sectionField.name :: field.part.sectionField.otherName.toList →
      inner.names = field.part.field.name :: field.part.field.otherName.toList →
      outer.place = field.part.sectionPlace → inner.place = field.part.place →
      field.part.part? v.toJson = (v.follow? [outer, inner]).map Value.toJson := by
    intro outer inner outerNames innerNames outerPlace innerPlace
    rw [TextPart.part?, ← outerPlace, Json.part?_spot outerNames, ← innerPlace, Value.follow?]
    cases (outer.given v).head? with
    | none => rfl
    | some w =>
      rw [Option.map_some, Option.bind_some, Option.bind_some, Json.part?_spot innerNames,
        Value.follow?]
      cases (inner.given w).head? <;> rfl
  cases field <;> exact two _ _ rfl rfl rfl rfl

theorem held?_settleData (c : Config) (field : TextField) :
    field.held? c.settleData = field.held? c := by
  have same : c.settleData = c ∨ c.settleData = { c with data := .empty } := by
    unfold settleData
    split
    · split
      · exact .inr rfl
      · exact .inl rfl
    · exact .inl rfl
  rcases same with same | same <;> rw [same]
  cases field <;> rfl

end TextField

namespace Config

variable {d : Draft} {written : String} {style : Yaml.Style} {raw : Config} {texts : List String}

-- One text is shown as its scalar is.
theorem takes_one {p : TextPart} (single : p ≠ .templates)
    (takes : p.Takes (Scalar.toJson (coerce written)) texts) :
    texts = [(coerce written).display] := by
  cases p
  case templates => exact absurd rfl single
  all_goals
    obtain ⟨s, scalar, rfl⟩ := takes
    rw [Json.scalar?_some scalar]

-- And so is each of several.
theorem takes_item {items : List Draft} {index : Nat}
    (takes : TextPart.templates.Takes (Draft.sequence items).typed.toJson texts)
    (there : (items[index]?).map (fun d => d.typed.toJson) = some (coerce written).toJson) :
    texts[index]? = some (coerce written).display := by
  obtain ⟨names, all, rfl⟩ := takes
  have there : (itemsToJson (Draft.typedItems items))[index]? = some (coerce written).toJson := by
    rw [itemsToJson_eq_map, Draft.typedItems_eq_map, List.map_map, List.getElem?_map]
    exact there
  obtain ⟨none, _⟩ | ⟨j, s, given, named, scalar⟩ :=
    forall₂_at (Json.toList_eq_ok_iff.mp all) index
  · rw [there] at none
    cases none
  · rw [there] at given
    cases given
    rw [List.getElem?_map, named, Json.scalar?_some (Json.toScalar_eq_ok_iff.mp scalar),
      Option.map_some]

theorem takes_followed {field : TextField} {d' : Draft} (fitted : ofValue d.typed = .ok raw)
    (followed : d.follow? (field.spots.take 2) = some d') :
    field.part.Takes d'.typed.toJson (field.part.held raw) := by
  have part := field.part?_value d.typed
  rw [d.typed_follow?, followed, Option.map_some, Option.map_some] at part
  obtain ⟨none, _⟩ | ⟨_, given, takes⟩ := fit_text fitted field.part
  · rw [part] at none
    cases none
  · rw [part] at given
    cases given
    exact takes

theorem held_shown {field : TextField} (fitted : ofValue d.typed = .ok raw)
    (given : d.follow? field.spots = some (.scalar written style))
    (meant : (Draft.scalar written style).typed = .scalar (coerce written)) :
    field.held? raw = some (coerce written).display := by
  have single (other : field.part ≠ .templates) (all : field.spots.take 2 = field.spots) :
      field.part.held raw = [(coerce written).display] := by
    have takes := takes_followed fitted (all.symm ▸ given)
    rw [meant] at takes
    exact takes_one other takes
  cases field
  case template index =>
    have split : (d.follow? ((TextField.template index).spots.take 2)).bind
        (fun d => d.at? ⟨[], index⟩) = some (.scalar written style) := by
      rw [← given]
      simp only [TextField.spots, List.take, Draft.follow?, Option.bind_assoc, Option.bind_fun_some]
    obtain ⟨list, followed, there⟩ := Option.bind_eq_some_iff.mp split
    have takes := takes_followed fitted followed
    cases list with
    | sequence items =>
      refine takes_item takes ?_
      have there : items[index]? = some (.scalar written style) := there
      rw [there, Option.map_some, meant]
      rfl
    | map entries =>
      -- No name leads to one of several texts.
      obtain ⟨key, found⟩ : ∃ key, entries.find? (fun _ => false) =
          some (key, .scalar written style) := by simpa [Draft.at?] using there
      cases List.find?_some found
    | _ => cases there
  all_goals
    have one := single (fun same => by cases same) rfl
    exact congrArg some (List.head_eq_of_cons_eq one)

end Config

-- A field holds what the scalar that is written for it is shown as, whatever its style, and so the
-- written text exactly if that is settled.
theorem text_field_shown {t : FileTree} {path text written : String} {style : Yaml.Style}
    {c : Config} {field : TextField} (content : t.readText path = .ok text)
    (loaded : (Config.load t path).outcome.1 = .ok c)
    (given : (draftOf text).follow? field.spots = some (.scalar written style))
    (meant : ¬ (style = .plain ∧ Builder.isNull written = true)) :
    field.held? c = some (coerce written).display ∧
    (field.held? c = some written ↔ Settled written) := by
  obtain ⟨text', document, raw, _, content', decoded, fitted, _, rfl⟩ :=
    Config.load_ok_iff.mp loaded
  rw [content] at content'
  cases content'
  obtain ⟨_, rfl⟩ := decode_ok_iff.mp decoded
  have shown : field.held? raw = some (coerce written).display := by
    refine Config.held_shown fitted given ?_
    rw [Draft.typed, Builder.scalarText, if_neg meant]
  rw [← display_eq_iff, TextField.held?_settleData, shown]
  exact ⟨rfl, Option.some_inj⟩

set_option maxRecDepth 10000 in
-- Digits in quotes, the second of two templates.
theorem text_field_shown_quoted :
    ∃ t text c, t.readText "c" = .ok text ∧ (Config.load t "c").outcome.1 = .ok c ∧
      (draftOf text).follow? (TextField.template 1).spots = some (.scalar "7" .singleQuoted) ∧
      (TextField.template 1).held? c = some "7" := by
  let text := "- [i]\n- [[a, '7']]\n- [p, o]"
  let n : Yaml.Node := .sequence 0 none
    [.sequence 0 none [.scalar "i" .plain 0 none],
      .sequence 0 none
        [.sequence 0 none [.scalar "a" .plain 0 none, .scalar "7" .singleQuoted 0 none]],
      .sequence 0 none [.scalar "p" .plain 0 none, .scalar "o" .plain 0 none]]
  let d : Draft := .sequence [.sequence [.scalar "i" .plain],
    .sequence [.sequence [.scalar "a" .plain, .scalar "7" .singleQuoted]],
    .sequence [.scalar "p" .plain, .scalar "o" .plain]]
  let t := FileTree.empty.put ["work", "c"] (.text text)
  let c : Config := ⟨"i", ["a", "7"], "", "p", "o", .map []⟩
  have events : Yaml.events text = ⟨n.document, none⟩ := by cbv
  have draft : draftOf text = d := by
    rw [draftOf, events]
    rfl
  have fitted : Config.ofValue d.typed = .ok c := rfl
  have loaded : (Config.load t "c").outcome.1 = .ok c := by
    refine Config.load_ok rfl rfl rfl (by rw [events]) ?_ (by decide) (by decide)
    rw [draft]
    exact fitted
  have given : (draftOf text).follow? (TextField.template 1).spots =
      some (.scalar "7" .singleQuoted) := by
    rw [draft]
    rfl
  have shown := text_field_shown rfl loaded given (by decide)
  exact ⟨t, text, c, rfl, loaded, given, shown.1⟩

set_option maxRecDepth 10000 in
-- Leading zeros are lost: a table that is named by digits alone is looked for under another name.
theorem text_field_respelled :
    ¬ ∀ (t : FileTree) (path text written : String) (style : Yaml.Style) (c : Config)
      (field : TextField), t.readText path = .ok text →
      (Config.load t path).outcome.1 = .ok c →
      (draftOf text).follow? field.spots = some (.scalar written style) →
      ¬ (style = .plain ∧ Builder.isNull written = true) → field.held? c = some written := by
  let text := "input:\n  csv_filename: 007\noutput: [out, Id]\n"
  let n : Yaml.Node := .mapping 0 none
    [(.scalar "input" .plain 0 none, .mapping 0 none
        [(.scalar "csv_filename" .plain 0 none, .scalar "007" .plain 0 none)]),
      (.scalar "output" .plain 0 none,
        .sequence 0 none [.scalar "out" .plain 0 none, .scalar "Id" .plain 0 none])]
  let d : Draft := .map [("input", .map [("csv_filename", .scalar "007" .plain)]),
    ("output", .sequence [.scalar "out" .plain, .scalar "Id" .plain])]
  let t := FileTree.empty.put ["work", "c"] (.text text)
  let c : Config := ⟨"7", [], "", "out", "Id", .map []⟩
  have events : Yaml.events text = ⟨n.document, none⟩ := by cbv
  have drafted : (Drafting.ofEvents n.document).result = d := by cbv
  have draft : draftOf text = d := by rw [draftOf, events, drafted]
  have fitted : Config.ofValue d.typed = .ok c := rfl
  have loaded : (Config.load t "c").outcome.1 = .ok c := by
    refine Config.load_ok rfl rfl rfl (by rw [events]) ?_ (by decide) (by decide)
    rw [draft]
    exact fitted
  have given : (draftOf text).follow? TextField.table.spots = some (.scalar "007" .plain) := by
    rw [draft]
    rfl
  intro kept
  have same : some "7" = some "007" :=
    kept t "c" text "007" .plain c .table rfl loaded given (by decide)
  exact absurd same (by decide)

end RowPress
