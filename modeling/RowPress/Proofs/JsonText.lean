import RowPress.Proofs.JsonScalar
/-!
Values by way of JSON text. A value without decimals is read back from the text that is written for
it, unless its collections are nested deeper than the reader goes; then the reading stops there.
-/
namespace RowPress

namespace Json

section Collections

variable {readOne : List Char → Except Fault (Json × List Char)} {fuel : Nat}
  {cs rest : List Char} {item next j : Json} {items : List Json} {key : String}
  {field : String × Json} {fields : List (String × Json)}

-- What begins a value, and cannot be taken for the end of a list.
def Opens (cs : List Char) : Prop := ∃ c more, cs = c :: more ∧ isSpace c = false ∧ c ≠ ']'

theorem Opens.append (opens : Opens cs) (rest : List Char) : Opens (cs ++ rest) := by
  obtain ⟨c, more, rfl, begins⟩ := opens
  exact ⟨c, more ++ rest, rfl, begins⟩

-- Data that is read back from what is written for it, whatever follows.
def Reads (readOne : List Char → Except Fault (Json × List Char)) (j : Json) : Prop :=
  ∀ rest, Ended rest → readOne (writeCompact j ++ rest) = .ok (j, rest)

-- Data in which the reading stops because it is nested too deep.
def Sticks (readOne : List Char → Except Fault (Json × List Char)) (j : Json) : Prop :=
  ∀ rest, ∃ left, readOne (writeCompact j ++ rest) = .error ⟨.tooDeep, left⟩

theorem ended_close {c : Char} (close : c ∈ [',', ']', '\x7d']) (rest : List Char) :
    Ended (c :: rest) := by
  intro c' begins
  obtain rfl : c = c' := Option.some.inj begins
  fin_cases close <;> decide

-- An item, and then the items after it.
def readRun (readOne : List Char → Except Fault (Json × List Char)) (fuel : Nat) (cs : List Char) :
    Except Fault (List Json × List Char) := do
  let (value, rest) ← readOne cs
  let (more, rest) ← readItems readOne false fuel rest
  return (value :: more, rest)

theorem readItems_first (opens : Opens cs) (fuel : Nat) :
    readItems readOne true (fuel + 1) cs = readRun readOne fuel cs := by
  obtain ⟨c, more, rfl, solid, other⟩ := opens
  rw [readItems, skip_solid solid]
  split
  next none => cases none
  next close => exact absurd (List.cons.inj close).1 other
  next same =>
    cases same
    rfl

theorem readItems_comma (opens : Opens cs) (fuel : Nat) :
    readItems readOne false (fuel + 1) (',' :: cs) = readRun readOne fuel cs := by
  obtain ⟨c, more, rfl, solid, other⟩ := opens
  have comma : isSpace ',' = false := rfl
  rw [readItems, skip_solid comma]
  split
  next none => cases none
  next close => exact absurd (List.cons.inj close).1 (by decide)
  next begun =>
    cases begun
    rw [if_neg Bool.false_ne_true, if_pos rfl, skip_solid solid]
    split
    next none => cases none
    next close => exact absurd (List.cons.inj close).1 other
    next => rfl

-- What is written for the items after the first.
def laterItems (items : List Json) : List Char := items.flatMap fun j => ',' :: writeCompact j

theorem laterItems_cons (item : Json) (items : List Json) :
    laterItems (item :: items) = ',' :: (writeCompact item ++ laterItems items) := by
  rw [laterItems, List.flatMap_cons, List.cons_append]
  rfl

theorem length_le_later (items : List Json) : items.length ≤ (laterItems items).length := by
  induction items with
  | nil => exact le_rfl
  | cons item items ih =>
    rw [laterItems_cons, List.length_cons, List.length_cons, List.length_append]
    omega

theorem compactItems_cons (item : Json) (items : List Json) :
    compactItems (item :: items) = writeCompact item ++ laterItems items := by
  induction items generalizing item with
  | nil => simp [compactItems, laterItems]
  | cons next items ih =>
    rw [compactItems, ih, laterItems_cons]
    exact List.cons_ne_nil _ _

theorem ended_later (items : List Json) (rest : List Char) :
    Ended (laterItems items ++ ']' :: rest) := by
  cases items with
  | nil => exact ended_close (by simp) _
  | cons item items => exact ended_close (by simp) _

theorem readRun_last (reads : Reads readOne item) (fuel : Nat) (rest : List Char) :
    readRun readOne (fuel + 1) (writeCompact item ++ (laterItems [] ++ ']' :: rest)) =
      .ok ([item], rest) := by
  rw [readRun, reads _ (ended_later [] rest)]
  rfl

theorem readRun_next (reads : Reads readOne item) (opens : Opens (writeCompact next)) (fuel : Nat)
    (rest : List Char) :
    readRun readOne (fuel + 1) (writeCompact item ++ (laterItems (next :: items) ++ ']' :: rest)) =
      (do
        let (more, rest) ←
          readRun readOne fuel (writeCompact next ++ (laterItems items ++ ']' :: rest))
        return (item :: more, rest)) := by
  rw [← readItems_comma (opens.append _), readRun, reads _ (ended_later _ rest), laterItems_cons,
    List.cons_append, List.append_assoc]
  rfl

theorem readRun_all (opens : ∀ j ∈ items, Opens (writeCompact j))
    (reads : ∀ j ∈ item :: items, Reads readOne j) (long : items.length < fuel)
    (rest : List Char) :
    readRun readOne fuel (writeCompact item ++ (laterItems items ++ ']' :: rest)) =
      .ok (item :: items, rest) := by
  induction items generalizing item fuel with
  | nil =>
    obtain ⟨fuel, rfl⟩ := Nat.exists_eq_succ_of_ne_zero (Nat.ne_zero_of_lt long)
    exact readRun_last (reads item List.mem_cons_self) fuel rest
  | cons next items ih =>
    obtain ⟨fuel, rfl⟩ := Nat.exists_eq_succ_of_ne_zero (Nat.ne_zero_of_lt long)
    obtain ⟨here, others⟩ := List.forall_mem_cons.mp reads
    obtain ⟨begins, opens⟩ := List.forall_mem_cons.mp opens
    rw [readRun_next here begins, ih opens others (Nat.lt_of_succ_lt_succ long)]
    rfl

-- The first item that is nested too deep stops the reading.
theorem readRun_stopped (opens : ∀ j ∈ items, Opens (writeCompact j))
    (each : ∀ j ∈ item :: items, ¬ Sticks readOne j → Reads readOne j)
    (stuck : ∃ j ∈ item :: items, Sticks readOne j) (long : items.length < fuel)
    (rest : List Char) :
    ∃ left, readRun readOne fuel (writeCompact item ++ (laterItems items ++ ']' :: rest)) =
      .error ⟨.tooDeep, left⟩ := by
  induction items generalizing item fuel with
  | nil =>
    obtain ⟨j, only, sticks⟩ := stuck
    obtain rfl := List.mem_singleton.mp only
    obtain ⟨left, failed⟩ := sticks (laterItems [] ++ ']' :: rest)
    exact ⟨left, by rw [readRun, failed]; rfl⟩
  | cons next items ih =>
    by_cases sticks : Sticks readOne item
    · obtain ⟨left, failed⟩ := sticks (laterItems (next :: items) ++ ']' :: rest)
      exact ⟨left, by rw [readRun, failed]; rfl⟩
    · obtain ⟨fuel, rfl⟩ := Nat.exists_eq_succ_of_ne_zero (Nat.ne_zero_of_lt long)
      obtain ⟨here, others⟩ := List.forall_mem_cons.mp each
      obtain ⟨begins, opens⟩ := List.forall_mem_cons.mp opens
      have later : ∃ j ∈ next :: items, Sticks readOne j := by
        simpa [sticks] using stuck
      obtain ⟨left, failed⟩ := ih opens others later (Nat.lt_of_succ_lt_succ long)
      refine ⟨left, ?_⟩
      rw [readRun_next (here sticks) begins, failed]
      rfl

-- A field after its key and the colon, and then the fields after it.
def readPairs (readOne : List Char → Except Fault (Json × List Char)) (fuel : Nat) (key : String)
    (cs : List Char) : Except Fault (List (String × Json) × List Char) := do
  let (value, rest) ← readOne cs
  let (more, rest) ← readFields readOne false fuel rest
  return ((key, value) :: more, rest)

-- A field from behind the quote that opens its key.
def readField (readOne : List Char → Except Fault (Json × List Char)) (fuel : Nat)
    (cs : List Char) : Except Fault (List (String × Json) × List Char) := do
  let (key, rest) ← readString cs
  match skip rest with
  | [] => ahead .endInObject []
  | ':' :: rest => readPairs readOne fuel key rest
  | rest => ahead .colonExpected rest

theorem readField_key (fuel : Nat) (key : String) (cs : List Char) :
    readField readOne fuel (key.toList.flatMap escapedChar ++ ['"'] ++ ':' :: cs) =
      readPairs readOne fuel key cs := by
  have read := readString_escaped key (':' :: cs)
  have colon : isSpace ':' = false := rfl
  rw [List.append_assoc, List.singleton_append, readField, read]
  simp only [bind, Except.bind, skip_solid colon]

theorem readFields_first (fuel : Nat) (key : String) (cs : List Char) :
    readFields readOne true (fuel + 1) (writeText key ++ ':' :: cs) =
      readPairs readOne fuel key cs := by
  have quote : isSpace '"' = false := rfl
  rw [← readField_key, writeText, List.cons_append, List.cons_append, readFields, skip_solid quote]
  rfl

theorem readFields_comma (fuel : Nat) (key : String) (cs : List Char) :
    readFields readOne false (fuel + 1) (',' :: (writeText key ++ ':' :: cs)) =
      readPairs readOne fuel key cs := by
  have comma : isSpace ',' = false := rfl
  rw [← readField_key, writeText, List.cons_append, List.cons_append, readFields, skip_solid comma]
  rfl

def laterFields (fields : List (String × Json)) : List Char :=
  fields.flatMap fun (key, j) => ',' :: (writeText key ++ ':' :: writeCompact j)

theorem laterFields_cons (field : String × Json) (fields : List (String × Json)) :
    laterFields (field :: fields) =
      ',' :: (writeText field.1 ++ ':' :: (writeCompact field.2 ++ laterFields fields)) := by
  simp [laterFields]

theorem length_le_laterFields (fields : List (String × Json)) :
    fields.length ≤ (laterFields fields).length := by
  induction fields with
  | nil => exact le_rfl
  | cons field fields ih =>
    rw [laterFields_cons, List.length_cons, List.length_cons, List.length_append, List.length_cons,
      List.length_append]
    omega

theorem compactFields_cons (field : String × Json) (fields : List (String × Json)) :
    compactFields (field :: fields) =
      writeText field.1 ++ ':' :: (writeCompact field.2 ++ laterFields fields) := by
  induction fields generalizing field with
  | nil => simp [compactFields, laterFields]
  | cons next fields ih =>
    rw [compactFields, ih, laterFields_cons]
    · simp
    · exact List.cons_ne_nil _ _

theorem ended_laterFields (fields : List (String × Json)) (rest : List Char) :
    Ended (laterFields fields ++ '\x7d' :: rest) := by
  cases fields with
  | nil => exact ended_close (by simp) _
  | cons field fields => exact ended_close (by simp) _

theorem readPairs_last (reads : Reads readOne j) (fuel : Nat) (key : String) (rest : List Char) :
    readPairs readOne (fuel + 1) key (writeCompact j ++ (laterFields [] ++ '\x7d' :: rest)) =
      .ok ([(key, j)], rest) := by
  rw [readPairs, reads _ (ended_laterFields [] rest)]
  rfl

theorem readPairs_next (reads : Reads readOne j) (fuel : Nat) (key : String) (rest : List Char) :
    readPairs readOne (fuel + 1) key
        (writeCompact j ++ (laterFields (field :: fields) ++ '\x7d' :: rest)) = (do
      let (more, rest) ← readPairs readOne fuel field.1
        (writeCompact field.2 ++ (laterFields fields ++ '\x7d' :: rest))
      return ((key, j) :: more, rest)) := by
  rw [← readFields_comma fuel field.1, readPairs, reads _ (ended_laterFields _ rest),
    laterFields_cons, List.cons_append, List.append_assoc, List.cons_append, List.append_assoc]
  rfl

theorem readPairs_all (reads : ∀ f ∈ (key, j) :: fields, Reads readOne f.2)
    (long : fields.length < fuel) (rest : List Char) :
    readPairs readOne fuel key (writeCompact j ++ (laterFields fields ++ '\x7d' :: rest)) =
      .ok ((key, j) :: fields, rest) := by
  induction fields generalizing key j fuel with
  | nil =>
    obtain ⟨fuel, rfl⟩ := Nat.exists_eq_succ_of_ne_zero (Nat.ne_zero_of_lt long)
    exact readPairs_last (reads _ List.mem_cons_self) fuel key rest
  | cons next fields ih =>
    obtain ⟨fuel, rfl⟩ := Nat.exists_eq_succ_of_ne_zero (Nat.ne_zero_of_lt long)
    obtain ⟨here, others⟩ := List.forall_mem_cons.mp reads
    rw [readPairs_next here, ih others (Nat.lt_of_succ_lt_succ long)]
    rfl

theorem readPairs_stopped (each : ∀ f ∈ (key, j) :: fields, ¬ Sticks readOne f.2 →
      Reads readOne f.2)
    (stuck : ∃ f ∈ (key, j) :: fields, Sticks readOne f.2) (long : fields.length < fuel)
    (rest : List Char) :
    ∃ left, readPairs readOne fuel key
      (writeCompact j ++ (laterFields fields ++ '\x7d' :: rest)) = .error ⟨.tooDeep, left⟩ := by
  induction fields generalizing key j fuel with
  | nil =>
    obtain ⟨f, only, sticks⟩ := stuck
    obtain rfl := List.mem_singleton.mp only
    obtain ⟨left, failed⟩ := sticks (laterFields [] ++ '\x7d' :: rest)
    exact ⟨left, by rw [readPairs, failed]; rfl⟩
  | cons next fields ih =>
    by_cases sticks : Sticks readOne j
    · obtain ⟨left, failed⟩ := sticks (laterFields (next :: fields) ++ '\x7d' :: rest)
      exact ⟨left, by rw [readPairs, failed]; rfl⟩
    · obtain ⟨fuel, rfl⟩ := Nat.exists_eq_succ_of_ne_zero (Nat.ne_zero_of_lt long)
      obtain ⟨here, others⟩ := List.forall_mem_cons.mp each
      have later : ∃ f ∈ next :: fields, Sticks readOne f.2 := by
        simpa [sticks] using stuck
      obtain ⟨left, failed⟩ := ih others later (Nat.lt_of_succ_lt_succ long)
      refine ⟨left, ?_⟩
      rw [readPairs_next (here sticks), failed]
      rfl

end Collections

section Levels

variable {d : Nat} {item : Json} {items : List Json} {fields : List (String × Json)}

theorem readValue_array (d : Nat) (cs : List Char) :
    readValue (d + 1) ('[' :: cs) = (do
      let (items, rest) ← readItems (readValue d) true (cs.length + 1) cs
      return (.array items, rest)) := rfl

theorem readValue_object (d : Nat) (cs : List Char) :
    readValue (d + 1) ('\x7b' :: cs) = (do
      let (fields, rest) ← readFields (readValue d) true (cs.length + 1) cs
      return (.object fields, rest)) := rfl

-- The items of a list are read one level down.
theorem readValue_items (opens : Opens (writeCompact item)) (items : List Json) (d : Nat)
    (rest : List Char) :
    ∃ fuel, items.length < fuel ∧
      readValue (d + 1) (writeCompact (.array (item :: items)) ++ rest) = (do
        let (items, rest) ← readRun (readValue d) fuel
          (writeCompact item ++ (laterItems items ++ ']' :: rest))
        return (.array items, rest)) := by
  have long := length_le_later items
  have text : writeCompact (.array (item :: items)) ++ rest =
      '[' :: (writeCompact item ++ (laterItems items ++ ']' :: rest)) := by
    simp [writeCompact, compactItems_cons]
  refine ⟨(writeCompact item ++ (laterItems items ++ ']' :: rest)).length, ?_, ?_⟩
  · simp only [List.length_append, List.length_cons]
    omega
  · rw [text, readValue_array, readItems_first (opens.append _)]

theorem reads_array (opens : ∀ j ∈ items, Opens (writeCompact j))
    (reads : ∀ j ∈ items, Reads (readValue d) j) : Reads (readValue (d + 1)) (.array items) := by
  cases items with
  | nil => exact fun _ _ => rfl
  | cons item items =>
    obtain ⟨begins, others⟩ := List.forall_mem_cons.mp opens
    intro rest _
    obtain ⟨fuel, long, read⟩ := readValue_items begins items d rest
    rw [read, readRun_all others reads long rest]
    rfl

theorem sticks_array (opens : ∀ j ∈ items, Opens (writeCompact j))
    (each : ∀ j ∈ items, ¬ Sticks (readValue d) j → Reads (readValue d) j)
    (stuck : ∃ j ∈ items, Sticks (readValue d) j) : Sticks (readValue (d + 1)) (.array items) := by
  cases items with
  | nil =>
    obtain ⟨j, none, _⟩ := stuck
    cases none
  | cons item items =>
    obtain ⟨begins, others⟩ := List.forall_mem_cons.mp opens
    intro rest
    obtain ⟨fuel, long, read⟩ := readValue_items begins items d rest
    obtain ⟨left, failed⟩ := readRun_stopped others each stuck long rest
    exact ⟨left, by rw [read, failed]; rfl⟩

theorem readValue_fields (field : String × Json) (fields : List (String × Json)) (d : Nat)
    (rest : List Char) :
    ∃ fuel, fields.length < fuel ∧
      readValue (d + 1) (writeCompact (.object (field :: fields)) ++ rest) = (do
        let (fields, rest) ← readPairs (readValue d) fuel field.1
          (writeCompact field.2 ++ (laterFields fields ++ '\x7d' :: rest))
        return (.object fields, rest)) := by
  have long := length_le_laterFields fields
  have text : writeCompact (.object (field :: fields)) ++ rest = '\x7b' :: (writeText field.1 ++
      ':' :: (writeCompact field.2 ++ (laterFields fields ++ '\x7d' :: rest))) := by
    simp [writeCompact, compactFields_cons]
  refine ⟨(writeText field.1 ++ ':' ::
    (writeCompact field.2 ++ (laterFields fields ++ '\x7d' :: rest))).length, ?_, ?_⟩
  · simp only [List.length_append, List.length_cons]
    omega
  · rw [text, readValue_object, readFields_first]

theorem reads_object (reads : ∀ f ∈ fields, Reads (readValue d) f.2) :
    Reads (readValue (d + 1)) (.object fields) := by
  cases fields with
  | nil => exact fun _ _ => rfl
  | cons field fields =>
    intro rest _
    obtain ⟨fuel, long, read⟩ := readValue_fields field fields d rest
    rw [read, readPairs_all reads long rest]
    rfl

theorem sticks_object (each : ∀ f ∈ fields, ¬ Sticks (readValue d) f.2 → Reads (readValue d) f.2)
    (stuck : ∃ f ∈ fields, Sticks (readValue d) f.2) :
    Sticks (readValue (d + 1)) (.object fields) := by
  cases fields with
  | nil =>
    obtain ⟨f, none, _⟩ := stuck
    cases none
  | cons field fields =>
    intro rest
    obtain ⟨fuel, long, read⟩ := readValue_fields field fields d rest
    obtain ⟨left, failed⟩ := readPairs_stopped each stuck long rest
    exact ⟨left, by rw [read, failed]; rfl⟩

end Levels

end Json

-- How many collections stand in each other.
mutual

def Value.depth : Value → Nat
  | .scalar _ => 0
  | .sequence items => itemsDepth items + 1
  | .map entries => entriesDepth entries + 1

def itemsDepth : List Value → Nat
  | [] => 0
  | item :: rest => max item.depth (itemsDepth rest)

def entriesDepth : List (String × Value) → Nat
  | [] => 0
  | (_, value) :: rest => max value.depth (entriesDepth rest)

end

theorem itemsDepth_le_iff {items : List Value} {n : Nat} :
    itemsDepth items ≤ n ↔ ∀ v ∈ items, v.depth ≤ n := by
  induction items with
  | nil => simp [itemsDepth]
  | cons item rest ih => rw [itemsDepth, Nat.max_le, ih, List.forall_mem_cons]

theorem entriesDepth_le_iff {entries : Entries} {n : Nat} :
    entriesDepth entries ≤ n ↔ ∀ entry ∈ entries, entry.2.depth ≤ n := by
  induction entries with
  | nil => simp [entriesDepth]
  | cons entry rest ih => rw [entriesDepth, Nat.max_le, ih, List.forall_mem_cons]

-- What is written in full: everything but decimals.
def Scalar.Exact : Scalar → Prop
  | .decimal _ => False
  | .bool _ | .integer _ | .text _ => True

instance : DecidablePred Scalar.Exact
  | .decimal _ => isFalse not_false
  | .bool _ | .integer _ | .text _ => isTrue trivial

theorem Scalar.Exact.finite {s : Scalar} (exact : s.Exact) : s.Finite := by
  cases s with
  | decimal x => cases exact
  | bool b => trivial
  | integer n => trivial
  | text s => trivial

def Value.Exact (v : Value) : Prop := ∀ s ∈ v.leaves, s.Exact

instance (v : Value) : Decidable v.Exact := inferInstanceAs (Decidable (∀ s ∈ v.leaves, s.Exact))

theorem itemLeaves_exact {items : List Value} (exact : ∀ s ∈ itemLeaves items, s.Exact) :
    ∀ v ∈ items, v.Exact := by
  induction items with
  | nil => exact List.forall_mem_nil _
  | cons item rest ih =>
    obtain ⟨first, others⟩ := List.forall_mem_append.mp exact
    exact List.forall_mem_cons.mpr ⟨first, ih others⟩

theorem entryLeaves_exact {entries : Entries} (exact : ∀ s ∈ entryLeaves entries, s.Exact) :
    ∀ entry ∈ entries, entry.2.Exact := by
  induction entries with
  | nil => exact List.forall_mem_nil _
  | cons entry rest ih =>
    obtain ⟨first, others⟩ := List.forall_mem_append.mp exact
    exact List.forall_mem_cons.mpr ⟨first, ih others⟩

namespace Json

section Values

variable {d : Nat} {v : Value}

theorem opens_integer (n : Int) : Opens (toString n).toList := by
  cases n with
  | ofNat m =>
    obtain ⟨c, digits, split, _⟩ := toDigits_first m
    have digit : isDigit c = true := Text.isAsciiDigit_toDigits (split ▸ List.mem_cons_self)
    exact ⟨c, digits, (toList_natural m).trans split, isSpace_digit digit,
      ne_of_isDigit digit rfl⟩
  | negSucc m => exact ⟨'-', _, toList_negative m, rfl, by decide⟩

theorem opens_value (exact : v.Exact) : Opens (writeCompact v.toJson) := by
  cases v with
  | scalar s =>
    cases s with
    | decimal x => cases exact _ (List.mem_singleton_self _)
    | bool b => cases b <;> exact ⟨_, _, rfl, rfl, by decide⟩
    | integer n => exact opens_integer n.toInt
    | text s => exact ⟨_, _, rfl, rfl, by decide⟩
  | sequence items => exact ⟨_, _, rfl, rfl, by decide⟩
  | map entries => exact ⟨_, _, rfl, rfl, by decide⟩

theorem reads_scalar {s : Scalar} (exact : s.Exact) (d : Nat) : Reads (readValue d) s.toJson := by
  intro rest ended
  cases s with
  | decimal x => cases exact
  | bool b => exact readValue_bool d b rest
  | integer n => exact readValue_integer d n ended
  | text s => exact readValue_text d s rest

theorem scalar_reads_or_sticks {s : Scalar} (exact : (Value.scalar s).Exact) (d : Nat) :
    ((Value.scalar s).depth ≤ d → Reads (readValue d) (Value.scalar s).toJson) ∧
      (d < (Value.scalar s).depth → Sticks (readValue d) (Value.scalar s).toJson) := by
  constructor
  · intro _
    exact reads_scalar (exact s (List.mem_singleton_self s)) d
  · intro deep
    exact absurd deep (Nat.not_lt_zero d)

-- The induction is on how deep the reader goes: each collection takes one level for what is in it.
theorem reads_or_sticks (exact : v.Exact) :
    (v.depth ≤ d → Reads (readValue d) v.toJson) ∧
      (d < v.depth → Sticks (readValue d) v.toJson) := by
  induction d generalizing v with
  | zero =>
    cases v with
    | scalar s => exact scalar_reads_or_sticks exact 0
    | sequence items =>
      constructor
      · intro shallow
        exact absurd shallow (Nat.not_succ_le_zero _)
      · exact fun _ _ => ⟨_, rfl⟩
    | map entries =>
      constructor
      · intro shallow
        exact absurd shallow (Nat.not_succ_le_zero _)
      · exact fun _ _ => ⟨_, rfl⟩
  | succ d ih =>
    have loose {w : Value} (exact : w.Exact) (free : ¬ Sticks (readValue d) w.toJson) :
        Reads (readValue d) w.toJson := by
      apply (ih exact).1
      exact Nat.not_lt.mp fun deep => free ((ih exact).2 deep)
    cases v with
    | scalar s => exact scalar_reads_or_sticks exact (d + 1)
    | sequence items =>
      have each := itemLeaves_exact exact
      have opens : ∀ j ∈ items.map Value.toJson, Opens (writeCompact j) :=
        List.forall_mem_map.mpr fun item member => opens_value (each item member)
      rw [Value.toJson, itemsToJson_eq_map, Value.depth, Nat.add_le_add_iff_right,
        Nat.add_lt_add_iff_right]
      constructor
      · intro shallow
        rw [itemsDepth_le_iff] at shallow
        exact reads_array opens (List.forall_mem_map.mpr fun item member =>
          (ih (each item member)).1 (shallow item member))
      · intro deep
        rw [← Nat.not_le, itemsDepth_le_iff, not_forall₂] at deep
        obtain ⟨item, member, deep⟩ := deep
        have sticks := (ih (each item member)).2 (Nat.not_le.mp deep)
        exact sticks_array opens (List.forall_mem_map.mpr fun item member =>
          loose (each item member)) ⟨_, List.mem_map_of_mem member, sticks⟩
    | map entries =>
      have each := entryLeaves_exact exact
      rw [Value.toJson, entriesToJson_eq_map, Value.depth, Nat.add_le_add_iff_right,
        Nat.add_lt_add_iff_right]
      constructor
      · intro shallow
        rw [entriesDepth_le_iff] at shallow
        exact reads_object (List.forall_mem_map.mpr fun entry member =>
          (ih (each entry member)).1 (shallow entry member))
      · intro deep
        rw [← Nat.not_le, entriesDepth_le_iff, not_forall₂] at deep
        obtain ⟨entry, member, deep⟩ := deep
        have sticks := (ih (each entry member)).2 (Nat.not_le.mp deep)
        exact sticks_object (List.forall_mem_map.mpr fun entry member =>
          loose (each entry member)) ⟨_, List.mem_map_of_mem member, sticks⟩

-- The reader has as many levels for the collections of a value as `maxDepth` says: up to there the
-- value comes back as it was, its entries in their order, and from there on the text is refused.
theorem valueOfText_compact (distinct : v.Distinct) (exact : v.Exact) :
    (v.depth ≤ 127 → valueOfText v.toJson.compact = .ok v) ∧
    (127 < v.depth → ∃ left,
      valueOfText v.toJson.compact = .error (.malformed ⟨.tooDeep, left⟩)) := by
  obtain ⟨reads, sticks⟩ := reads_or_sticks (d := maxDepth) exact
  have back : toValue v.toJson = .ok v :=
    toValue_toJson distinct fun s member => (exact s member).finite
  have done : expectEnd [] = .ok () := rfl
  unfold valueOfText compact
  rw [String.toList_ofList]
  constructor
  · intro shallow
    have read := reads shallow [] fun _ none => by cases none
    rw [List.append_nil] at read
    simp only [read, back, done]
  · intro deep
    obtain ⟨left, failed⟩ := sticks deep []
    rw [List.append_nil] at failed
    simp only [failed]
    exact ⟨left, rfl⟩

-- Both ends of the integers, texts that spell other scalars, characters that are written by a
-- number or a letter, and the two collections without content.
theorem valueOfText_compact_mixed :
    let v : Value := .map [
      ("ends", .sequence [.scalar (.integer (-9223372036854775808)),
        .scalar (.integer 9223372036854775807), .scalar (.bool false)]),
      ("", .sequence [.text "007", .text "true", .text "null", .text "é\"\\\n\x01"]),
      ("a", .sequence []), ("A", .map [])]
    v.toJson.compact = "\x7b\"ends\":[-9223372036854775808,9223372036854775807,false]," ++
      "\"\":[\"007\",\"true\",\"null\",\"é\\\"\\\\\\n\\u0001\"],\"a\":[],\"A\":\x7b\x7d\x7d" ∧
    valueOfText v.toJson.compact = .ok v := by
  intro v
  have distinct : v.Distinct := by
    refine .map (by decide) ?_
    simp only [List.forall_mem_cons]
    refine ⟨.sequence ?_, .sequence ?_, .sequence (List.forall_mem_nil _),
      .map .nil (List.forall_mem_nil _), List.forall_mem_nil _⟩
    · simp only [List.forall_mem_cons]
      exact ⟨.scalar, .scalar, .scalar, List.forall_mem_nil _⟩
    · simp only [List.forall_mem_cons]
      exact ⟨.scalar, .scalar, .scalar, .scalar, List.forall_mem_nil _⟩
  have exact : v.Exact := by decide
  have shallow : v.depth ≤ 127 := by decide
  exact ⟨by cbv, (valueOfText_compact distinct exact).1 shallow⟩

end Values

end Json

end RowPress
