import RowPress.Proofs.Cleaning
/-!
Which texts are keys. What a key is made of any text has one form, a text of that form is its own
key, and a machine that keeps one of four states tells this form from every other.
-/
namespace RowPress

-- What can be read of a key: letters, digits and underscores, of which the first is a letter, and
-- no number besides.
def KeyFront (w : List Char) : Prop :=
  (∀ c ∈ w, Text.isAlphanumeric c = true ∨ c = '_') ∧
    ∃ c, w.head? = some c ∧ Text.isAlphanumeric c = true ∧ Text.isNumeric c = false

-- A whole key does not end in an underscore. The empty text is one, too.
def KeyForm (w : List Char) : Prop :=
  w = [] ∨ KeyFront w ∧ ∃ c, w.getLast? = some c ∧ c ≠ '_'

section Form

variable {w : List Char} {c : Char}

theorem underscored_plain (plain : Text.isAlphanumeric c = true ∨ c = '_') : underscored c = c := by
  rcases plain with kept | rfl
  · rw [underscored, if_pos kept]
  · rfl

theorem plain_underscored (clean : underscored c = c) :
    Text.isAlphanumeric c = true ∨ c = '_' := by
  unfold underscored at clean
  split at clean
  next kept => exact .inl kept
  next => exact .inr clean.symm

theorem isLeadless_letter (letter : Text.isAlphanumeric c = true)
    (wordy : Text.isNumeric c = false) : isLeadless c = false := by
  rw [isLeadless, wordy, Bool.or_false]
  by_contra underscore
  have same : c = '_' := by simpa [isUnderscore] using underscore
  rw [same] at letter
  cases letter

-- The one pass finds nothing to drop from a key,
theorem KeyForm.onePass (form : KeyForm w) : onePass w = w := by
  rcases form with rfl | ⟨⟨_, first, begins, letter, wordy⟩, last, ends, other⟩
  · rfl
  · have front : w.dropWhile isLeadless = w := Text.dropWhile_kept fun c head => by
      rw [begins] at head
      cases head
      exact isLeadless_letter letter wordy
    have back : Text.dropEndWhile isUnderscore w = w := Text.dropEndWhile_kept fun c tail => by
      rw [ends] at tail
      cases tail
      simpa [isUnderscore] using other
    rw [RowPress.onePass, front, back]

-- and leaves nothing but a key.
theorem Clean.onePass_form (clean : Clean w) : KeyForm (onePass w) := by
  cases made : onePass w with
  | nil => exact .inl rfl
  | cons first rest =>
    obtain ⟨after, dropped⟩ := Text.dropEndWhile_front isUnderscore (w.dropWhile isLeadless)
    have dropped : first :: rest ++ after = w.dropWhile isLeadless := by rw [← made]; exact dropped
    have inside : ∀ c ∈ first :: rest, c ∈ w := fun c member =>
      (List.dropWhile_sublist isLeadless).mem (dropped ▸ List.mem_append_left after member)
    have plain : ∀ c ∈ first :: rest, Text.isAlphanumeric c = true ∨ c = '_' :=
      fun c member => plain_underscored (clean c (inside c member))
    have leads : isLeadless first = false := by
      have begins := List.head?_dropWhile_not isLeadless w
      rw [← dropped] at begins
      simpa using begins
    obtain ⟨other, wordy⟩ : isUnderscore first = false ∧ Text.isNumeric first = false := by
      simpa [isLeadless] using leads
    have letter : Text.isAlphanumeric first = true := by
      refine (plain first List.mem_cons_self).resolve_right ?_
      rintro rfl
      cases other
    refine .inr ⟨⟨plain, first, rfl, letter, wordy⟩, _, List.getLast?_eq_some_getLast ?_, ?_⟩
    · exact List.cons_ne_nil first rest
    · have ends : (onePass w).getLast? = some ((first :: rest).getLast (List.cons_ne_nil _ _)) := by
        rw [made]
        exact List.getLast?_eq_some_getLast _
      simpa [isUnderscore] using Text.dropEndWhile_last ends

theorem keyForm_keyOf (raw : String) : KeyForm (keyOf raw).toList := by
  have clean := clean_underscored raw.toList
  rw [keyOf, String.toList_ofList, settleKey_onePass clean]
  exact clean.onePass_form

theorem KeyForm.keyOf {s : String} (form : KeyForm s.toList) : keyOf s = s := by
  have clean : Clean s.toList := by
    rcases form with empty | ⟨⟨plain, _⟩, _⟩
    · rw [empty]
      exact fun c member => absurd member List.not_mem_nil
    · exact fun c member => underscored_plain (plain c member)
  have same : s.toList.map underscored = s.toList := by
    rw [List.map_congr_left clean, List.map_id']
  rw [RowPress.keyOf, same, settleKey_onePass clean, form.onePass, String.ofList_toList]

theorem keyFront_single {c : Char} :
    KeyFront [c] ↔ Text.isAlphanumeric c = true ∧ Text.isNumeric c = false := by
  constructor
  · rintro ⟨_, _, begins, letter⟩
    cases begins
    exact letter
  · intro letter
    exact ⟨List.forall_mem_singleton.mpr (.inl letter.1), c, rfl, letter⟩

theorem KeyFront.filled (front : KeyFront w) : w ≠ [] := by
  rintro rfl
  obtain ⟨_, _, begins, _⟩ := front
  cases begins

-- Only the first character has to be more than one that keys are made of.
theorem keyFront_concat (filled : w ≠ []) (c : Char) :
    KeyFront (w ++ [c]) ↔ KeyFront w ∧ (Text.isAlphanumeric c = true ∨ c = '_') := by
  obtain ⟨first, rest, rfl⟩ := List.exists_cons_of_ne_nil filled
  unfold KeyFront
  rw [List.forall_mem_append, List.forall_mem_singleton, List.cons_append, List.head?_cons,
    List.head?_cons]
  exact and_right_comm

end Form

-- What is known of a text that has been read so far: nothing was read, it is a key, it would be one
-- but for underscores at its end, or no key begins like this.
inductive KeyState where
  | start | whole | hanging | refused
deriving DecidableEq

namespace KeyState

instance : Fintype KeyState := ⟨{start, whole, hanging, refused}, fun s => by cases s <;> decide⟩

-- The second and every later character.
def later (c : Char) : KeyState :=
  if c = '_' then hanging else if Text.isAlphanumeric c = true then whole else refused

def next : KeyState → Char → KeyState
  | start, c => if Text.isAlphanumeric c = true ∧ Text.isNumeric c = false then whole else refused
  | refused, _ => refused
  | whole, c | hanging, c => later c

-- What has been read in a state.
def Read : KeyState → List Char → Prop
  | start, w => w = []
  | whole, w => KeyFront w ∧ ∃ c, w.getLast? = some c ∧ c ≠ '_'
  | hanging, w => KeyFront w ∧ w.getLast? = some '_'
  | refused, w => w ≠ [] ∧ ¬ KeyFront w

section

variable {w : List Char} {s : KeyState}

theorem Read.later (front : KeyFront w) (c : Char) : (KeyState.later c).Read (w ++ [c]) := by
  have ends : (w ++ [c]).getLast? = some c := List.getLast?_concat
  have more := keyFront_concat front.filled c
  unfold KeyState.later
  split
  · rename_i underscore
    exact ⟨more.mpr ⟨front, .inr underscore⟩, by rw [ends, underscore]⟩
  · rename_i other
    split
    · rename_i kept
      exact ⟨more.mpr ⟨front, .inl kept⟩, c, ends, other⟩
    · rename_i foreign
      refine ⟨List.append_ne_nil_of_right_ne_nil w (List.cons_ne_nil c []), fun front' => ?_⟩
      rcases (more.mp front').2 with kept | underscore
      · exact foreign kept
      · exact other underscore

theorem Read.next (read : s.Read w) (c : Char) : (s.next c).Read (w ++ [c]) := by
  cases s with
  | start =>
    obtain rfl : w = [] := read
    rw [KeyState.next, List.nil_append]
    split
    · rename_i letter
      refine ⟨keyFront_single.mpr letter, c, rfl, ?_⟩
      rintro rfl
      cases letter.1
    · rename_i other
      exact ⟨List.cons_ne_nil c [], fun front => other (keyFront_single.mp front)⟩
  | whole => exact Read.later read.1 c
  | hanging => exact Read.later read.1 c
  | refused =>
    obtain ⟨filled, other⟩ := read
    exact ⟨List.append_ne_nil_of_left_ne_nil filled [c],
      fun front => other ((keyFront_concat filled c).mp front).1⟩

end

end KeyState

def keyAutomaton : DFA Char KeyState := ⟨KeyState.next, .start, {.start, .whole}⟩

theorem keyAutomaton_read (w : List Char) : (keyAutomaton.eval w).Read w := by
  induction w using List.reverseRecOn with
  | nil => exact rfl
  | append_singleton w c ih =>
    rw [DFA.eval_append_singleton]
    exact ih.next c

theorem mem_keyAutomaton {w : List Char} : w ∈ keyAutomaton.accepts ↔ KeyForm w := by
  have read := keyAutomaton_read w
  rw [DFA.mem_accepts]
  cases state : keyAutomaton.eval w with
  | start =>
    rw [state] at read
    exact ⟨fun _ => .inl read, fun _ => .inl rfl⟩
  | whole =>
    rw [state] at read
    exact ⟨fun _ => .inr read, fun _ => .inr rfl⟩
  | hanging =>
    rw [state] at read
    obtain ⟨front, underscore⟩ := read
    constructor
    · rintro (same | same) <;> cases same
    · rintro (rfl | ⟨_, c, ends, other⟩)
      · cases underscore
      · rw [underscore] at ends
        exact absurd (Option.some.inj ends).symm other
  | refused =>
    rw [state] at read
    obtain ⟨filled, other⟩ := read
    constructor
    · rintro (same | same) <;> cases same
    · rintro (empty | ⟨front, _⟩)
      · exact absurd empty filled
      · exact absurd front other

-- A text is its own key exactly if it has the form of one, and whatever is made a key has it. So
-- making a key twice changes nothing, no two keys become one, and the keys are a regular language.
theorem keyOf_fixed_iff :
    (∀ s : String, keyOf s = s ↔ KeyForm s.toList) ∧
    (∀ raw : String, KeyForm (keyOf raw).toList ∧ keyOf (keyOf raw) = keyOf raw) ∧
    Set.range keyOf = Function.fixedPoints keyOf ∧
    Set.InjOn keyOf {s | KeyForm s.toList} ∧
    Language.IsRegular ({w | KeyForm w} : Set (List Char)) := by
  refine ⟨?_, ?_, ?_, ?_, ?_⟩
  · intro s
    constructor
    · intro fixed
      rw [← fixed]
      exact keyForm_keyOf s
    · exact KeyForm.keyOf
  · exact fun raw => ⟨keyForm_keyOf raw, (keyForm_keyOf raw).keyOf⟩
  · refine Set.Subset.antisymm ?_ fun s fixed => ⟨s, fixed⟩
    rintro _ ⟨raw, rfl⟩
    exact (keyForm_keyOf raw).keyOf
  · intro s form s' form' same
    rw [← KeyForm.keyOf form, same, KeyForm.keyOf form']
  · exact ⟨KeyState, inferInstance, keyAutomaton, Set.ext fun w => mem_keyAutomaton⟩

example : keyOf "a_1" = "a_1" ∧ keyOf "_a" ≠ "_a" ∧ keyOf "a_" ≠ "a_" ∧ keyOf "Ⅷa" = "a" := by
  decide +kernel

end RowPress
