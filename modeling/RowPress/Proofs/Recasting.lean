import RowPress.Proofs.Normal
/-!
Values by way of JSON data. JSON has no number for a decimal that is not finite; every other value
comes back as it went, and one with such a decimal in it does not come back at all.
-/
namespace RowPress

namespace Decimal

open Float.Model UnpackedFloat

-- A double is finite unless its exponent is all ones, whatever its fraction.
theorem isFinite_iff_kind (x : Float) : x.isFinite = true ↔ ∃ parts, kind x = .finite parts := by
  have exponent : (@unpackExponent Format.binary64 x.toBits.toBitVec).toNat =
      x.toBits.toNat / twoTo 52 % 2048 := by
    rw [unpackExponent_def, BitVec.extractLsb'_toNat, Nat.shiftRight_eq_div_pow]
    rfl
  have ones : @unpackExponent Format.binary64 x.toBits.toBitVec = -1#_ ↔
      x.toBits.toNat / twoTo 52 % 2048 = 2047 := by
    rw [← BitVec.toNat_inj, exponent]
    rfl
  have finite : x.isFinite =
      (UnpackedFloat.unpack Format.binary64 x.toBits.toBitVec).isFinite := rfl
  rw [finite, UnpackedFloat.unpack, kind]
  simp only [ones]
  by_cases full : x.toBits.toNat / twoTo 52 % 2048 = 2047
  · simp only [if_pos full]
    constructor
    · intro held
      split at held <;> cases held
    · rintro ⟨parts, same⟩
      split at same <;> cases same
  · simp only [if_neg full]
    constructor
    · intro _
      split <;> exact ⟨_, rfl⟩
    · intro _
      split
      · split <;> rfl
      · rfl

end Decimal

-- The scalars of a value, at every depth.
mutual

def Value.leaves : Value → List Scalar
  | .scalar s => [s]
  | .sequence items => itemLeaves items
  | .map entries => entryLeaves entries

def itemLeaves : List Value → List Scalar
  | [] => []
  | item :: rest => item.leaves ++ itemLeaves rest

def entryLeaves : List (String × Value) → List Scalar
  | [] => []
  | (_, value) :: rest => value.leaves ++ entryLeaves rest

end

def Scalar.Finite : Scalar → Prop
  | .decimal x => x.isFinite = true
  | .bool _ | .integer _ | .text _ => True

instance : DecidablePred Scalar.Finite
  | .decimal x => inferInstanceAs (Decidable (x.isFinite = true))
  | .bool _ | .integer _ | .text _ => isTrue trivial

def Value.Finite (v : Value) : Prop := ∀ s ∈ v.leaves, s.Finite

instance (v : Value) : Decidable v.Finite := inferInstanceAs (Decidable (∀ s ∈ v.leaves, s.Finite))

-- Every map of a value has each of its keys once.
inductive Value.Distinct : Value → Prop where
  | scalar {s : Scalar} : Distinct (.scalar s)
  | sequence {items : List Value} : (∀ v ∈ items, Distinct v) → Distinct (.sequence items)
  | map {entries : Entries} : entries.keys.Nodup → (∀ entry ∈ entries, Distinct entry.2) →
      Distinct (.map entries)

theorem Value.Normal.distinct {v : Value} (normal : v.Normal) : v.Distinct := by
  induction normal with
  | scalar _ => exact .scalar
  | sequence _ ih => exact .sequence ih
  | map nodup _ _ ih => exact .map nodup ih

theorem Entries.put_fresh {m : Entries} {key : String} (fresh : key ∉ m.keys) (v : Value) :
    m.put key v = m ++ [(key, v)] := by
  have absent : ¬ m.has key = true := by
    simpa [Entries.has, Entries.keys] using fresh
  rw [Entries.put, if_neg absent]

theorem fitsInteger_toInt (n : Int64) : fitsInteger n.toInt = true := by
  have low : minInteger ≤ n.toInt := Int64.le_toInt n
  have high : n.toInt ≤ maxInteger := Int.le_sub_one_of_lt (Int64.toInt_lt n)
  simp only [fitsInteger, low, high, decide_true, Bool.and_self]

namespace Json

theorem scalar?_toJson {s : Scalar} (finite : s.Finite) : scalar? s.toJson = some s := by
  cases s with
  | bool b => rfl
  | integer n =>
    simp only [Scalar.toJson, scalar?, if_pos (fitsInteger_toInt n), Int64.ofInt_toInt]
  | decimal x =>
    obtain ⟨parts, kind⟩ := (Decimal.isFinite_iff_kind x).mp finite
    simp only [Scalar.toJson, kind, scalar?]
  | text s => rfl

theorem toJson_infinite {s : Scalar} (infinite : ¬ s.Finite) : s.toJson = .null := by
  cases s with
  | decimal x =>
    rw [Scalar.toJson]
    split
    · rename_i parts kind
      exact absurd ((Decimal.isFinite_iff_kind x).mpr ⟨parts, kind⟩) infinite
    · rfl
  | _ => exact absurd trivial infinite

-- A scalar is no collection in JSON either.
theorem value?_scalar (s : Scalar) : value? s.toJson = (scalar? s.toJson).map .scalar := by
  cases s with
  | decimal x =>
    rw [Scalar.toJson]
    split <;> rfl
  | _ => rfl

mutual

theorem value?_toJson (v : Value) (distinct : v.Distinct) (finite : v.Finite) :
    value? v.toJson = some v := by
  cases v with
  | scalar s =>
    have finite : s.Finite := finite s (List.mem_singleton_self s)
    rw [Value.toJson, value?_scalar, scalar?_toJson finite, Option.map_some]
  | sequence items =>
    cases distinct with
    | sequence each =>
      rw [Value.toJson, value?, values?_toJson items each finite, Option.map_some]
  | map entries =>
    cases distinct with
    | map nodup each =>
      have kept := entries?_toJson entries [] nodup each finite
      rw [Value.toJson, value?, kept, Option.map_some, List.nil_append]

theorem values?_toJson (items : List Value) (distinct : ∀ v ∈ items, v.Distinct)
    (finite : ∀ s ∈ itemLeaves items, s.Finite) : values? (itemsToJson items) = some items := by
  cases items with
  | nil => rfl
  | cons item rest =>
    obtain ⟨first, others⟩ := List.forall_mem_cons.mp distinct
    obtain ⟨here, there⟩ := List.forall_mem_append.mp finite
    rw [itemsToJson, values?, value?_toJson item first here, values?_toJson rest others there]
    rfl

-- The entries go behind those that are there already.
theorem entries?_toJson (entries before : Entries)
    (distinct : (Entries.keys (before ++ entries)).Nodup)
    (each : ∀ entry ∈ entries, entry.2.Distinct) (finite : ∀ s ∈ entryLeaves entries, s.Finite) :
    entries? (entriesToJson entries) before = some (before ++ entries) := by
  cases entries with
  | nil => rw [entriesToJson, entries?, List.append_nil]
  | cons entry rest =>
    obtain ⟨key, value⟩ := entry
    obtain ⟨first, others⟩ := List.forall_mem_cons.mp each
    obtain ⟨here, there⟩ := List.forall_mem_append.mp finite
    have fresh : key ∉ before.keys := by
      rw [Entries.keys, List.map_append, List.map_cons] at distinct
      exact fun member => (List.nodup_append.mp distinct).2.2 key member key List.mem_cons_self rfl
    rw [List.append_cons] at distinct ⊢
    rw [entriesToJson, entries?, value?_toJson value first here]
    simp only [Option.bind_eq_bind, Option.bind_some]
    rw [Entries.put_fresh fresh]
    exact entries?_toJson rest (before ++ [(key, value)]) distinct others there

end

mutual

theorem value?_infinite (v : Value) (infinite : ¬ v.Finite) : value? v.toJson = none := by
  cases v with
  | scalar s =>
    have infinite : ¬ s.Finite := fun finite => infinite (by simpa [Value.Finite, Value.leaves])
    rw [Value.toJson, toJson_infinite infinite]
    rfl
  | sequence items => rw [Value.toJson, value?, values?_infinite items infinite, Option.map_none]
  | map entries =>
    rw [Value.toJson, value?, entries?_infinite entries [] infinite, Option.map_none]

theorem values?_infinite (items : List Value) (infinite : ¬ ∀ s ∈ itemLeaves items, s.Finite) :
    values? (itemsToJson items) = none := by
  cases items with
  | nil => exact absurd (fun s member => by cases member) infinite
  | cons item rest =>
    rw [itemsToJson, values?]
    by_cases here : item.Finite
    · have there : ¬ ∀ s ∈ itemLeaves rest, s.Finite := fun there =>
        infinite (List.forall_mem_append.mpr ⟨here, there⟩)
      rw [values?_infinite rest there]
      cases value? item.toJson <;> rfl
    · rw [value?_infinite item here]
      rfl

theorem entries?_infinite (entries before : Entries)
    (infinite : ¬ ∀ s ∈ entryLeaves entries, s.Finite) :
    entries? (entriesToJson entries) before = none := by
  cases entries with
  | nil => exact absurd (fun s member => by cases member) infinite
  | cons entry rest =>
    obtain ⟨key, value⟩ := entry
    rw [entriesToJson, entries?]
    by_cases here : value.Finite
    · have there : ¬ ∀ s ∈ entryLeaves rest, s.Finite := fun there =>
        infinite (List.forall_mem_append.mpr ⟨here, there⟩)
      cases value? value.toJson with
      | none => rfl
      | some v => exact entries?_infinite rest (before.put key v) there
    · rw [value?_infinite value here]
      rfl

end

theorem toValue_toJson {v : Value} (distinct : v.Distinct) (finite : v.Finite) :
    toValue v.toJson = .ok v := by
  rw [toValue, value?_toJson v distinct finite]

theorem toValue_infinite {v : Value} (infinite : ¬ v.Finite) :
    toValue v.toJson = .error (.noVariant "GenericValue") := by
  rw [toValue, value?_infinite v infinite]

end Json

theorem outcome_recast (fit : Json → Json.Fitting α) (v : Value) :
    (recast fit v).outcome = (match fit v.toJson with
      | .ok a => .ok a
      | .error m => .error (.decode m), []) := by
  rw [recast]
  cases fit v.toJson <;> rfl

end RowPress
