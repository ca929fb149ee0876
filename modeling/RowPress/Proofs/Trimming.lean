import Mathlib
import RowPress.Text.Class
/-!
Trimming a text at both ends. What is left is the one part of the text that only trimmed characters
surround and that neither begins nor ends with one.
-/
namespace RowPress.Text

-- All around the part that is left passes the test, and its own first and last character do not.
structure Stripped (test : Char → Bool) (text left : List Char) : Prop where
  around : ∃ before after, text = before ++ left ++ after ∧
    (∀ c ∈ before, test c = true) ∧ ∀ c ∈ after, test c = true
  first : ∀ c, left.head? = some c → test c = false
  last : ∀ c, left.getLast? = some c → test c = false

variable {test : Char → Bool} {cs text left rest : List Char} {c : Char}

theorem dropEndWhile_front (test : Char → Bool) (cs : List Char) : dropEndWhile test cs <+: cs := by
  have dropped := List.dropWhile_suffix (l := cs.reverse) test
  rwa [← List.reverse_prefix, List.reverse_reverse] at dropped

theorem dropEndWhile_last (last : (dropEndWhile test cs).getLast? = some c) : test c = false := by
  have ends := List.head?_dropWhile_not test cs.reverse
  rw [dropEndWhile, List.getLast?_reverse] at last
  rw [last] at ends
  simpa using ends

theorem dropWhile_kept (solid : ∀ c, cs.head? = some c → test c = false) :
    cs.dropWhile test = cs := by
  cases cs with
  | nil => rfl
  | cons c rest => exact List.dropWhile_cons_of_neg (by simp [solid c rfl])

theorem dropEndWhile_kept (solid : ∀ c, cs.getLast? = some c → test c = false) :
    dropEndWhile test cs = cs := by
  rw [← List.head?_reverse] at solid
  rw [dropEndWhile, dropWhile_kept solid, List.reverse_reverse]

theorem trimWhile_stripped (test : Char → Bool) (text : List Char) :
    Stripped test text (trimWhile test text) := by
  have front := List.takeWhile_append_dropWhile (p := test) (l := text)
  have back := congrArg List.reverse
    (List.takeWhile_append_dropWhile (p := test) (l := (text.dropWhile test).reverse))
  rw [List.reverse_append, List.reverse_reverse] at back
  have back : trimWhile test text ++
      ((text.dropWhile test).reverse.takeWhile test).reverse = text.dropWhile test := back
  refine ⟨⟨text.takeWhile test, ((text.dropWhile test).reverse.takeWhile test).reverse, ?_, ?_, ?_⟩,
    ?_, ?_⟩
  · rw [List.append_assoc, back, front]
  · exact fun c member => List.mem_takeWhile_imp member
  · exact fun c member => List.mem_takeWhile_imp (List.mem_reverse.mp member)
  · intro c first
    obtain ⟨more, begun⟩ := List.head?_eq_some_iff.mp first
    have ends := List.head?_dropWhile_not test text
    rw [← back, begun] at ends
    simpa using ends
  · exact fun c last => dropEndWhile_last last

theorem Stripped.eq_trimWhile (stripped : Stripped test text left) :
    left = trimWhile test text := by
  obtain ⟨⟨before, after, rfl, front, back⟩, first, last⟩ := stripped
  rw [trimWhile, List.append_assoc, List.dropWhile_append_of_pos front]
  rcases left.eq_nil_or_concat' with rfl | ⟨start, d, rfl⟩
  · rw [List.nil_append, List.dropWhile_eq_nil_iff.mpr back]
    rfl
  · have solid : test d = false := last d List.getLast?_concat
    have kept : (start ++ [d] ++ after).dropWhile test = start ++ [d] ++ after := by
      cases start with
      | nil => exact List.dropWhile_cons_of_neg (by simp [solid])
      | cons c start => exact List.dropWhile_cons_of_neg (by simp [first c rfl])
    have back' : ∀ c ∈ after.reverse, test c = true :=
      fun c member => back c (List.mem_reverse.mp member)
    rw [kept, dropEndWhile, List.reverse_append, List.dropWhile_append_of_pos back',
      List.reverse_append, List.reverse_singleton, List.singleton_append,
      List.dropWhile_cons_of_neg (by simp [solid]), List.reverse_cons, List.reverse_reverse]

theorem stripped_iff : Stripped test text left ↔ left = trimWhile test text :=
  ⟨Stripped.eq_trimWhile, fun same => same ▸ trimWhile_stripped test text⟩

theorem trimWhile_first (trimmed : trimWhile test cs = c :: rest) : test c = false :=
  (trimWhile_stripped test cs).first c (by rw [trimmed]; rfl)

theorem trimWhile_none (none : ∀ c ∈ cs, test c = false) : trimWhile test cs = cs := by
  have front : cs.dropWhile test = cs :=
    dropWhile_kept fun c first => none c (List.mem_of_head? first)
  rw [trimWhile, front]
  exact dropEndWhile_kept fun c last => none c (List.mem_of_getLast? last)

end RowPress.Text
