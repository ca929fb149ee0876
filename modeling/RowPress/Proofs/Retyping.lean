import RowPress.Proofs.Spelling
import RowPress.Proofs.Typing
/-!
Scalars that are shown and typed again. Blanks around a number or a truth value change nothing, and
what an integer, a truth value or a text is shown as has the same type and value again. Decimals are
left out: one of a whole value is shown without a point.
-/
namespace RowPress

theorem Text.trimWhile_padded {test : Char → Bool} {before after : List Char}
    (front : ∀ c ∈ before, test c = true) (back : ∀ c ∈ after, test c = true) (cs : List Char) :
    trimWhile test (before ++ cs ++ after) = trimWhile test cs := by
  obtain ⟨⟨before', after', parts, front', back'⟩, first, last⟩ := trimWhile_stripped test cs
  refine (Stripped.eq_trimWhile ⟨⟨before ++ before', after' ++ after, ?_, ?_, ?_⟩, first, last⟩).symm
  · nth_rewrite 1 [parts]
    simp only [List.append_assoc]
  · exact List.forall_mem_append.mpr ⟨front, front'⟩
  · exact List.forall_mem_append.mpr ⟨back', back⟩

section

variable {raw before after : String} {s : Scalar}

-- Only a text is the text with everything around it.
theorem coerce_padded (front : ∀ c ∈ before.toList, Text.isBlank c = true)
    (back : ∀ c ∈ after.toList, Text.isBlank c = true) (typed : coerce raw = s)
    (other : ∀ text, s ≠ .text text) : coerce (before ++ raw ++ after) = s := by
  have written := coerce_written raw
  rw [typed] at written
  refine coerce_of_written ?_
  rw [String.toList_append, String.toList_append, Text.trimWhile_padded front back]
  cases s with
  | text text => exact absurd rfl (other text)
  | bool b => exact written
  | integer n => exact written
  | decimal x => exact written

theorem coerce_display (typed : coerce raw = s) (other : ∀ x, s ≠ .decimal x) :
    coerce s.display = s := by
  cases s with
  | bool b => cases b <;> rfl
  | integer n => exact coerce_integer n
  | decimal x => exact absurd rfl (other x)
  | text text =>
    obtain rfl := coerce_text typed
    exact typed

end

-- An integer is typed as itself wherever blanks surround what it is shown as, and all that is typed
-- from a text keeps its type and value when it is shown, unless it is a decimal.
theorem coerce_shown :
    (∀ (n : Int64) (before after : String), (∀ c ∈ before.toList, Text.isBlank c = true) →
      (∀ c ∈ after.toList, Text.isBlank c = true) →
      coerce (before ++ (Scalar.integer n).display ++ after) = .integer n) ∧
    ∀ raw : String, (∀ x, coerce raw ≠ .decimal x) →
      coerce (coerce raw).display = coerce raw := by
  refine ⟨?_, fun raw other => coerce_display rfl other⟩
  intro n before after front back
  refine coerce_padded front back (coerce_integer n) fun text same => ?_
  cases same

-- The least integer of 64 bits between blanks of several kinds, and a spelling that is lost.
theorem coerce_shown_least :
    (∀ c ∈ "\t\u00a0".toList, Text.isBlank c = true) ∧ (∀ c ∈ "\n".toList, Text.isBlank c = true) ∧
    coerce ("\t\u00a0" ++ "-9223372036854775808" ++ "\n") = .integer Int64.minValue ∧
    (∀ x, coerce " +007 " ≠ .decimal x) ∧ coerce "7" = .integer 7 := by
  have front : ∀ c ∈ "\t\u00a0".toList, Text.isBlank c = true :=
    List.forall_mem_cons.mpr ⟨rfl, List.forall_mem_singleton.mpr rfl⟩
  have back : ∀ c ∈ "\n".toList, Text.isBlank c = true :=
    List.forall_mem_singleton.mpr rfl
  have typed : coerce " +007 " = .integer 7 := rfl
  have whole : ∀ x, coerce " +007 " ≠ .decimal x := by
    intro x same
    rw [typed] at same
    cases same
  have again := coerce_shown.2 " +007 " whole
  rw [typed] at again
  exact ⟨front, back, coerce_shown.1 Int64.minValue _ _ front back, whole, again⟩

end RowPress
