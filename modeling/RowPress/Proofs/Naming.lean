import RowPress.Proofs.Keys
import RowPress.Proofs.Substitution
/-!
Which keys of a document can be used as variables: those of ASCII characters that are no keyword. A
reference to any other key is refused, or shows a literal in the place of a value.
-/
namespace RowPress

open Template

theorem keyOf_settled {raw key : String} (letters : raw.toList.map underscored = key.toList)
    (settled : keyRound key.toList = key.toList) : keyOf raw = key := by
  unfold keyOf
  rw [letters, settleKey_settled settled, String.ofList_toList]

section

variable {raw : String} {c : Char}

theorem keyOf_letters (member : c ∈ (keyOf raw).toList) :
    Text.isAlphanumeric c = true ∨ c = '_' := by
  rcases keyForm_keyOf raw with empty | ⟨⟨plain, _⟩, _⟩
  · rw [empty] at member
    cases member
  · exact plain c member

theorem keyOf_first {cs : List Char} (spelled : (keyOf raw).toList = c :: cs) :
    Text.isAlphabetic c = true := by
  rcases keyForm_keyOf raw with empty | ⟨⟨_, first, begins, letter, wordy⟩, _⟩
  · rw [spelled] at empty
    cases empty
  · rw [spelled] at begins
    cases begins
    rwa [Text.isAlphanumeric, wordy, Bool.or_false] at letter

end

theorem isNameStart_ascii {c : Char} (letter : Text.isAlphabetic c = true)
    (ascii : c.toNat < 128) : isNameStart c = true := by
  unfold Text.isAlphabetic at letter
  rw [if_pos ascii] at letter
  rw [isNameStart, letter, Bool.or_true]

theorem isNameChar_ascii {c : Char} (kept : Text.isAlphanumeric c = true ∨ c = '_')
    (ascii : c.toNat < 128) : isNameChar c = true := by
  rcases kept with alphanumeric | rfl
  · rcases Bool.or_eq_true_iff.mp alphanumeric with letter | digit
    · rw [isNameChar, isNameStart_ascii letter ascii, Bool.true_or]
    · unfold Text.isNumeric at digit
      rw [if_pos ascii] at digit
      rw [isNameChar, digit, Bool.or_true]
  · rfl

-- What a key has before its first character that is not ASCII is a name, if it is not empty.
theorem isName_front {raw : String} {front rest : List Char}
    (spelled : (keyOf raw).toList = front ++ rest) (ascii : ∀ c ∈ front, c.toNat < 128) :
    front = [] ∨ isName (String.ofList front) = true := by
  cases front with
  | nil => exact .inl rfl
  | cons c cs =>
    right
    have member : ∀ d ∈ c :: cs, d ∈ (keyOf raw).toList := by
      intro d inside
      rw [spelled]
      exact List.mem_append_left rest inside
    have start := isNameStart_ascii (keyOf_first spelled) (ascii c List.mem_cons_self)
    have letters : cs.all isNameChar = true := by
      rw [List.all_eq_true]
      intro d inside
      have inside := List.mem_cons_of_mem c inside
      exact isNameChar_ascii (keyOf_letters (member d inside)) (ascii d inside)
    unfold isName
    rw [String.toList_ofList]
    exact Bool.and_eq_true_iff.mpr ⟨start, letters⟩

-- A key is usable if a reference to it shows the text that the model holds for it.
def Usable (key : String) : Prop :=
  ∀ (r : Renderer) (name : String),
    ∃ r', r.compile name ("\x7b\x7b " ++ key ++ " \x7d\x7d") = .ok r' ∧
      ∀ row (model : Entries) (s : String), model.get? key = some (.text s) →
        r'.render name row model = .ok s

theorem usable_variable {key : String} (named : isName key = true) (free : key ∉ keywords) :
    Usable key := by
  intro r name
  have upright : key ≠ "not" := by
    rintro rfl
    exact free (by decide)
  obtain ⟨r', compiled, renders⟩ := render_reference named upright r name
  refine ⟨r', compiled, ?_⟩
  intro row model s held
  have shown : (wordValue model key).display = s := by
    rw [wordValue_variable free, held]
    rfl
  rw [renders row model, shown]

theorem unusable_refused {key : String}
    (refused : ∀ name, ∃ f, parse name (lexemes (sourceOf [.reference key])) = .error f) :
    ¬ Usable key := by
  intro usable
  obtain ⟨r', compiled, _⟩ := usable .empty ""
  obtain ⟨f, stopped⟩ := refused ""
  rw [← sourceOf_reference] at compiled
  unfold Renderer.compile Template.compile at compiled
  rw [stopped] at compiled
  cases compiled

theorem unusable_wide {raw : String} {c : Char} (member : c ∈ (keyOf raw).toList)
    (wide : 128 ≤ c.toNat) : ¬ Usable (keyOf raw) := by
  let ascii (d : Char) : Bool := d.toNat < 128
  cases dropped : (keyOf raw).toList.dropWhile ascii with
  | nil =>
    have narrow := List.dropWhile_eq_nil_iff.mp dropped c member
    have narrow := of_decide_eq_true narrow
    omega
  | cons d rest =>
    have spelled : (keyOf raw).toList = (keyOf raw).toList.takeWhile ascii ++ d :: rest := by
      rw [← dropped, List.takeWhile_append_dropWhile]
    have foreign : 128 ≤ d.toNat := by
      have first := List.head?_dropWhile_not ascii (keyOf raw).toList
      rw [dropped] at first
      simpa [ascii] using first
    have named := isName_front spelled fun e inside =>
      of_decide_eq_true (List.mem_takeWhile_imp inside : ascii e = true)
    obtain ⟨word, cut⟩ := lexemes_wide spelled foreign named
    refine unusable_refused fun name => ?_
    rw [cut]
    exact ⟨_, parse_trouble name 1 word _⟩

-- A literal is written in the place of what the model holds for its name.
theorem unusable_literal {key literal : String} (named : isName key = true)
    (upright : key ≠ "not") (filled : literal ≠ "")
    (fixed : ∀ model, (wordValue model key).display = literal) : ¬ Usable key := by
  intro usable
  obtain ⟨r', compiled, renders⟩ := render_reference named upright .empty ""
  obtain ⟨r'', compiled', shows⟩ := usable .empty ""
  rw [compiled'] at compiled
  cases compiled
  let model : Entries := [(key, .text "")]
  have held : model.get? key = some (.text "") := by simp [model, Entries.get?]
  have same := shows 1 model "" held
  rw [renders 1 model, fixed] at same
  exact filled (Except.ok.inj same)

theorem unusable_not : ¬ Usable "not" := by
  have named : isName "not" = true := rfl
  have readable : ∀ piece ∈ [Piece.reference "not"], piece.Readable :=
    List.forall_mem_singleton.mpr named
  refine unusable_refused fun name => ?_
  rw [lexemes_pieces readable]
  exact ⟨_, parse_not name 1⟩

theorem unusable_keyword {key : String} (keyword : key ∈ keywords) : ¬ Usable key := by
  have truths (b : Bool) : truthText b ≠ "" := by cases b <;> decide
  simp only [keywords, List.mem_cons, List.not_mem_nil, or_false] at keyword
  rcases keyword with rfl | rfl | rfl | rfl | rfl | rfl | rfl
  · exact unusable_not
  · exact unusable_literal rfl (by decide) (truths true) fun _ => rfl
  · exact unusable_literal rfl (by decide) (truths true) fun _ => rfl
  · exact unusable_literal rfl (by decide) (truths false) fun _ => rfl
  · exact unusable_literal rfl (by decide) (truths false) fun _ => rfl
  · exact unusable_literal rfl (by decide) (by decide : "None" ≠ "") fun _ => rfl
  · exact unusable_literal rfl (by decide) (by decide : "None" ≠ "") fun _ => rfl

theorem key_usable_iff (raw : String) (filled : keyOf raw ≠ "") :
    Usable (keyOf raw) ↔
      (∀ c ∈ (keyOf raw).toList, c.toNat < 128) ∧ keyOf raw ∉ keywords := by
  constructor
  · intro usable
    refine ⟨?_, fun keyword => unusable_keyword keyword usable⟩
    intro c member
    by_contra wide
    exact unusable_wide member (Nat.le_of_not_lt wide) usable
  · rintro ⟨ascii, free⟩
    have spelled : (keyOf raw).toList = (keyOf raw).toList ++ [] := (List.append_nil _).symm
    rcases isName_front spelled ascii with empty | named
    · exact absurd (String.toList_eq_nil_iff.mp empty) filled
    · rw [String.ofList_toList] at named
      exact usable_variable named free

-- What is no letter or digit becomes an underscore, so that the key is a name.
theorem key_usable_spaced : keyOf "street name" ≠ "" ∧ Usable "street_name" := by
  have key : keyOf "street name" = "street_name" := keyOf_settled rfl rfl
  have filled : keyOf "street name" ≠ "" := by rw [key]; decide
  have ascii : ∀ c ∈ "street_name".toList, c.toNat < 128 := by simp
  have free : "street_name" ∉ keywords := by decide
  have usable := (key_usable_iff "street name" filled).mpr (by rw [key]; exact ⟨ascii, free⟩)
  rw [key] at usable
  exact ⟨filled, usable⟩

-- A letter that ASCII does not have is kept, but no template can refer to it.
theorem key_unusable_umlaut : keyOf "größe" = "größe" ∧ ¬ Usable "größe" := by
  have key : keyOf "größe" = "größe" := keyOf_settled rfl rfl
  refine ⟨key, ?_⟩
  have member : 'ö' ∈ (keyOf "größe").toList := by rw [key]; decide
  have unusable := unusable_wide member (by decide)
  rwa [key] at unusable

end RowPress
