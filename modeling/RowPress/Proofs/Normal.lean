import RowPress.Proofs.Notes
/-!
Whatever events a builder is fed, well nested or not, the values it holds are normal: the keys of a
map are distinct and clean, a text spells nothing but a text, and a decimal is a number.
-/
namespace RowPress

namespace Decimal

open Float.Model UnpackedFloat

-- Bits are a number unless the exponent is all ones and the fraction is not zero.
theorem isNaN_ofBits {bits : UInt64}
    (number : @isNaNBits Format.binary64 bits.toBitVec = false) :
    (Float.ofBits bits).isNaN = false := by
  have packed : UnpackedFloat.pack Format.binary64
      (UnpackedFloat.unpack Format.binary64 bits.toBitVec) = bits.toBitVec := by
    rw [pack_unpack, if_neg (by rw [number]; decide)]
  have same : (Float.ofBits bits).toModel.toBits.toBitVec = bits.toBitVec := packed
  rw [Bool.eq_false_iff]
  intro nan
  have equal := (isNaN_unpack_iff_of_valid (Float.ofBits bits).toModel.valid).mp nan
  rw [same] at equal
  rw [equal, isNaNBits_packedNaN] at number
  cases number

-- Rounding goes no further than to infinity, whose fraction is zero.
theorem isNaN_nearest (negative : Bool) (num den : Nat) :
    (nearest negative num den).isNaN = false := by
  have bound : magnitudeBits num den ≤ 2047 * 2 ^ 52 := by
    unfold magnitudeBits
    split
    · exact Nat.zero_le _
    · exact Nat.min_le_right _ _
  refine isNaN_ofBits ?_
  rw [isNaNBits, decide_eq_false_iff_not]
  rintro ⟨ones, fraction⟩
  apply fraction
  generalize magnitudeBits num den = magnitude at bound ones ⊢
  have word : (UInt64.ofNat ((if negative then twoTo 63 else 0) + magnitude)).toBitVec.toNat =
      (if negative then 2 ^ 63 else 0) + magnitude := by
    have sign : (if negative then twoTo 63 else 0) = if negative then 2 ^ 63 else 0 := rfl
    rw [UInt64.toNat_toBitVec, UInt64.toNat_ofNat', sign]
    apply Nat.mod_eq_of_lt
    split <;> omega
  have exponent := congrArg BitVec.toNat ones
  rw [unpackExponent_def, BitVec.extractLsb'_toNat, word, Nat.shiftRight_eq_div_pow] at exponent
  have exponent : ((if negative then 2 ^ 63 else 0) + magnitude) / 2 ^ 52 % 2 ^ 11 = 2047 :=
    exponent
  apply BitVec.eq_of_toNat_eq
  rw [unpackMantissa_def, BitVec.extractLsb'_toNat, word, Nat.shiftRight_zero]
  change ((if negative then 2 ^ 63 else 0) + magnitude) % 2 ^ 52 = 0
  cases negative with
  | false =>
    simp only [Bool.false_eq_true, if_false] at exponent ⊢
    omega
  | true =>
    simp only [if_true] at exponent ⊢
    omega

theorem isNaN_ofScientific (negative : Bool) (digits : Nat) (power : Int) :
    (ofScientific negative digits power).isNaN = false := by
  unfold ofScientific
  dsimp only
  split
  · exact isNaN_nearest _ _ _
  · split
    · exact isNaN_nearest _ _ _
    · split
      · exact isNaN_nearest _ _ _
      · split <;> exact isNaN_nearest _ _ _

end Decimal

theorem settleKey_sublist (key : List Char) : (settleKey key).Sublist key := by
  fun_induction settleKey key with
  | case1 key settled => exact List.Sublist.refl key
  | case2 key changed ih => exact ih.trans (keyRound_sublist key)

theorem keyRound_settleKey (key : List Char) : keyRound (settleKey key) = settleKey key := by
  fun_induction settleKey key with
  | case1 key settled => exact settled
  | case2 key changed ih => exact ih

theorem settleKey_settled {key : List Char} (settled : keyRound key = key) :
    settleKey key = key := by
  rw [settleKey, if_pos settled]

theorem underscored_underscored (c : Char) : underscored (underscored c) = underscored c := by
  unfold underscored
  by_cases kept : Text.isAlphanumeric c = true
  · simp [kept]
  · simp [kept]

-- What has been made a key is not changed when it is made a key again.
theorem keyOf_keyOf (raw : String) : keyOf (keyOf raw) = keyOf raw := by
  have clean : ∀ c ∈ settleKey (raw.toList.map underscored), underscored c = c := by
    intro c member
    obtain ⟨c', _, rfl⟩ := List.mem_map.mp ((settleKey_sublist _).mem member)
    exact underscored_underscored c'
  unfold keyOf
  rw [String.toList_ofList, List.map_congr_left clean, List.map_id',
    settleKey_settled (keyRound_settleKey _)]

-- A text that would not be typed as anything else, or a decimal that is a number.
def Scalar.Normal : Scalar → Prop
  | .text s => coerce s = .text s
  | .decimal x => x.isNaN = false
  | .bool _ | .integer _ => True

inductive Value.Normal : Value → Prop where
  | scalar {s : Scalar} : s.Normal → Normal (.scalar s)
  | sequence {items : List Value} : (∀ v ∈ items, Normal v) → Normal (.sequence items)
  | map {entries : Entries} : entries.keys.Nodup → (∀ key ∈ entries.keys, keyOf key = key) →
      (∀ entry ∈ entries, Normal entry.2) → Normal (.map entries)

-- A text is handed on as it came, so typing it again takes the same way.
theorem coerce_text {raw s : String} (typed : coerce raw = .text s) : s = raw := by
  unfold coerce at typed
  dsimp only at typed
  split at typed
  · cases typed
  · split at typed
    · cases typed
    · split at typed
      · cases typed
      · split at typed
        · cases typed
        · cases typed
          rfl

theorem coerce_normal (raw : String) : (coerce raw).Normal := by
  cases typed : coerce raw with
  | bool b => trivial
  | integer n => trivial
  | decimal x =>
    unfold coerce at typed
    dsimp only at typed
    split at typed
    · cases typed
    · split at typed
      · cases typed
        exact Decimal.isNaN_ofScientific _ _ _
      · split at typed
        · cases typed
        · split at typed <;> cases typed
  | text s =>
    have same := coerce_text typed
    rw [same] at typed ⊢
    exact typed

theorem Value.empty_normal : Value.empty.Normal := by
  refine .map List.nodup_nil ?_ ?_
  · intro key member
    cases member
  · intro entry member
    cases member

theorem Value.Normal.ofEmptyText : (Value.text "").Normal := .scalar rfl

theorem Value.Normal.append {items : List Value} {v : Value}
    (items' : (Value.sequence items).Normal) (v' : v.Normal) :
    (Value.sequence (items ++ [v])).Normal := by
  cases items' with
  | sequence each =>
    refine .sequence ?_
    intro w member
    rcases List.mem_append.mp member with old | new
    · exact each w old
    · rw [List.mem_singleton.mp new]
      exact v'

-- An entry whose key is new and clean can be put last.
theorem Value.Normal.insert {entries : Entries} {raw : String} {v : Value}
    (entries' : (Value.map entries).Normal) (fresh : ¬ entries.has (keyOf raw) = true)
    (v' : v.Normal) : (Value.map (entries ++ [(keyOf raw, v)])).Normal := by
  cases entries' with
  | map distinct clean each =>
    have absent : keyOf raw ∉ entries.keys := by
      intro member
      obtain ⟨entry, at', same⟩ := List.mem_map.mp member
      exact fresh (List.any_eq_true.mpr ⟨entry, at', by simpa using same⟩)
    have keys : Entries.keys (entries ++ [(keyOf raw, v)]) = entries.keys ++ [keyOf raw] := by
      simp [Entries.keys]
    refine .map ?_ ?_ ?_
    · rw [keys]
      exact List.nodup_append.mpr ⟨distinct, List.nodup_singleton _, by
        intro key member other last same
        rw [List.mem_singleton.mp last] at same
        exact absent (same ▸ member)⟩
    · rw [keys]
      intro key member
      rcases List.mem_append.mp member with old | new
      · exact clean key old
      · rw [List.mem_singleton.mp new]
        exact keyOf_keyOf raw
    · intro entry member
      rcases List.mem_append.mp member with old | new
      · exact each entry old
      · rw [List.mem_singleton.mp new]
        exact v'

-- The values that wait in an open collection.
inductive Frame.Normal : Frame → Prop where
  | sequence {anchor : Nat} {items : List Value} :
      (Value.sequence items).Normal → Normal (.sequence anchor items)
  | mapping {anchor : Nat} {entries : Entries} {pending : Option PendingKey} :
      (Value.map entries).Normal → Normal (.mapping anchor entries pending)

namespace Builder

-- Every value that the builder holds: in open collections, under an anchor, and as the result.
structure Normal (b : Builder) : Prop where
  stack : ∀ frame ∈ b.stack, frame.Normal
  anchors : ∀ entry ∈ b.anchors, entry.2.value.Normal
  root : ∀ v, b.root = some v → v.Normal

variable {b : Builder}

theorem empty_normal : empty.Normal := by
  refine ⟨?_, ?_, ?_⟩
  · intro frame member
    cases member
  · intro entry member
    cases member
  · intro v held
    cases held

-- The innermost collection is changed, opened or closed.
theorem Normal.onto (normal : b.Normal) {stack : List Frame}
    (frames : ∀ frame ∈ stack, frame.Normal) : { b with stack }.Normal :=
  ⟨frames, normal.anchors, normal.root⟩

theorem Normal.remark (normal : b.Normal) (r : Remark) : (b.remark r).Normal :=
  ⟨normal.stack, normal.anchors, normal.root⟩

theorem Normal.drop (normal : b.Normal) (n : Nat) : { b with stack := b.stack.drop n }.Normal :=
  normal.onto fun frame member => normal.stack frame (List.mem_of_mem_drop member)

-- By cases on what waits for the node: nothing, a sequence, or a map with or without a key.
theorem push_normal (normal : b.Normal) {node : Finished} (node' : node.value.Normal) :
    (b.push node).Normal := by
  have frames := normal.stack
  unfold push
  split
  · refine ⟨normal.stack, normal.anchors, ?_⟩
    intro v held
    cases root : b.root with
    | none =>
      rw [root] at held
      cases held
      exact node'
    | some w =>
      rw [root] at held
      cases held
      exact normal.root _ root
  · rename_i anchor items rest inside
    rw [inside] at frames
    obtain ⟨first, outer⟩ := List.forall_mem_cons.mp frames
    cases first with
    | sequence items' =>
      exact normal.onto (List.forall_mem_cons.mpr ⟨.sequence (.append items' node'), outer⟩)
  all_goals
    rename_i inside
    rw [inside] at frames
    obtain ⟨first, outer⟩ := List.forall_mem_cons.mp frames
    cases first with | mapping entries' => ?_
  · exact normal.onto (List.forall_mem_cons.mpr ⟨.mapping entries', outer⟩)
  · exact (normal.onto (List.forall_mem_cons.mpr ⟨.mapping entries', outer⟩)).remark _
  · dsimp only
    split
    · exact (normal.onto (List.forall_mem_cons.mpr ⟨.mapping entries', outer⟩)).remark _
    · rename_i fresh
      exact normal.onto
        (List.forall_mem_cons.mpr ⟨.mapping (.insert entries' fresh node'), outer⟩)

theorem complete_normal (normal : b.Normal) (anchor : Nat) {node : Finished}
    (node' : node.value.Normal) : (b.complete anchor node).Normal := by
  unfold complete
  refine push_normal ?_ node'
  split
  · exact ⟨normal.stack, List.forall_mem_cons.mpr ⟨node', normal.anchors⟩, normal.root⟩
  · exact normal

theorem anchored_normal (normal : b.Normal) (anchor : Nat) :
    ((b.anchored? anchor).getD ⟨.text "", none⟩).value.Normal := by
  unfold anchored?
  cases found : b.anchors.find? (·.1 == anchor) with
  | none => exact .ofEmptyText
  | some entry => exact normal.anchors entry (List.mem_of_find?_eq_some found)

-- One event, also one that closes a collection of the other kind, or one too many.
theorem take_normal (normal : b.Normal) (e : Yaml.Event) : (b.take e).Normal := by
  cases e with
  | scalar text style anchor tag => exact complete_normal normal anchor (.scalar (coerce_normal _))
  | sequenceStart anchor tag =>
    refine normal.onto (List.forall_mem_cons.mpr ⟨.sequence (.sequence ?_), normal.stack⟩)
    intro v member
    cases member
  | mappingStart anchor tag =>
    exact normal.onto (List.forall_mem_cons.mpr ⟨.mapping Value.empty_normal, normal.stack⟩)
  | sequenceEnd =>
    simp only [take]
    split
    · rename_i anchor items rest inside
      have frames := normal.stack
      rw [inside] at frames
      obtain ⟨first, outer⟩ := List.forall_mem_cons.mp frames
      cases first with
      | sequence items' => exact complete_normal (normal.onto outer) anchor items'
    · exact normal.drop 1
  | mappingEnd =>
    simp only [take]
    split
    · rename_i anchor entries pending rest inside
      have frames := normal.stack
      rw [inside] at frames
      obtain ⟨first, outer⟩ := List.forall_mem_cons.mp frames
      cases first with
      | mapping entries' => exact complete_normal (normal.onto outer) anchor entries'
    · exact normal.drop 1
  | reference anchor => exact push_normal normal (anchored_normal normal anchor)
  | streamStart => exact normal
  | streamEnd => exact normal
  | documentStart => exact normal
  | documentEnd => exact normal

theorem ofEvents_normal (events : List Yaml.Event) : (ofEvents events).Normal := by
  have run : ∀ b : Builder, b.Normal → (events.foldl take b).Normal := by
    induction events with
    | nil => exact fun b normal => normal
    | cons e rest ih => exact fun b normal => ih (b.take e) (take_normal normal e)
  exact run empty empty_normal

theorem result_normal (normal : b.Normal) : b.result.Normal := by
  have root := normal.root
  unfold result
  split
  · exact Value.empty_normal
  · rename_i s held
    split
    · exact Value.empty_normal
    · exact root _ held
  · rename_i v _ held
    exact root v held

end Builder

theorem decode_normal {source text : String} {v : Value}
    (decoded : (decode source text).outcome.1 = .ok v) : v.Normal := by
  rw [outcome_decode] at decoded
  dsimp only at decoded
  split at decoded
  · cases decoded
  · cases decoded
    exact Builder.result_normal (Builder.ofEvents_normal _)

theorem Press.decodeSidecar_ok {path text : String} {v : Value} {j : Journal}
    (decoded : (decodeSidecar path text).outcome = (.ok v, j)) :
    (decode path text).outcome.1 = .ok v := by
  refine (Step.tryCatch_ok_iff ?_).mp (congrArg Prod.fst decoded)
  intro e
  cases e <;> exact ⟨_, rfl⟩

-- The document beside a template is a decoded one, or empty where there is none.
theorem Press.readSidecar_normal {path : String} {t : FileTree} {entries : Entries}
    (read : (readSidecar path t).outcome.1 = .ok entries) : (Value.map entries).Normal := by
  unfold readSidecar at read
  split at read
  · cases read
    exact Value.empty_normal
  · split at read
    · cases read
    · obtain ⟨v, j, decoded, ends⟩ := Step.bind_ok read
      have normal := decode_normal (decodeSidecar_ok decoded)
      split at ends
      · cases ends
        exact normal
      · cases ends

-- Everything a builder holds after any events is normal, and so is every decoded document.
theorem values_normal :
    (∀ events, (Builder.ofEvents events).Normal) ∧
    (∀ source text v, (decode source text).outcome.1 = .ok v → v.Normal) ∧
    ∀ path t entries, (Press.readSidecar path t).outcome.1 = .ok entries →
      (Value.map entries).Normal :=
  ⟨Builder.ofEvents_normal, fun _ _ _ decoded => decode_normal decoded,
    fun _ _ _ read => Press.readSidecar_normal read⟩

set_option maxRecDepth 10000 in
-- Keys that have to be cleaned, one that comes again, and a reference to the map it stands in.
theorem values_normal_knotted :
    ∃ v, (decode "d" "&r\nb-: x\n_: [*r]\nb: y").outcome.1 = .ok v ∧ v.Normal ∧
      v = .map [("b", .text "x"), ("", .sequence [.text ""])] := by
  let n : Yaml.Node := .mapping 1 none
    [(.scalar "b-" .plain 0 none, .scalar "x" .plain 0 none),
      (.scalar "_" .plain 0 none, .sequence 0 none [.reference 1]),
      (.scalar "b" .plain 0 none, .scalar "y" .plain 0 none)]
  have events : Yaml.events "&r\nb-: x\n_: [*r]\nb: y" = ⟨n.document, none⟩ := by cbv
  have result : (Builder.ofEvents n.document).result =
      .map [("b", .text "x"), ("", .sequence [.text ""])] := by cbv
  have decoded : (decode "d" "&r\nb-: x\n_: [*r]\nb: y").outcome.1 =
      .ok (.map [("b", .text "x"), ("", .sequence [.text ""])]) := by
    rw [outcome_decode, events]
    simp only [result]
  exact ⟨_, decoded, values_normal.2.1 _ _ _ decoded, rfl⟩

end RowPress
