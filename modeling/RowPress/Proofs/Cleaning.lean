import RowPress.Proofs.Normal
import RowPress.Proofs.Trimming
/-!
How a key is cleaned, without rounds. What the rounds come to is found in one pass over the text:
underscores and digits are dropped from the front, and then underscores from the end. Blanks, which
every round takes off as well, are never there.
-/
namespace RowPress

namespace Text

theorem Ranges.covers_mem {ranges : Ranges} {point : Nat} (covered : ranges.covers point = true) :
    ∃ range ∈ ranges, range.1 ≤ point ∧ point ≤ range.2 := by
  induction ranges with
  | nil => cases covered
  | cons range rest ih =>
    rw [Ranges.covers] at covered
    split at covered
    · cases covered
    · rename_i low
      split at covered
      · rename_i high
        exact ⟨range, List.mem_cons_self, Nat.not_lt.mp low, high⟩
      · obtain ⟨range', member, bounds⟩ := ih covered
        exact ⟨range', List.mem_cons_of_mem _ member, bounds⟩

theorem isAlphanumeric_blanks : ∀ range ∈ blanks, ∀ i < range.2 + 1 - range.1,
    isAlphanumeric (Char.ofNat (range.1 + i)) = false := by decide +kernel

-- The tables of letters and numbers and the one of blanks have no character in common.
theorem isBlank_alphanumeric {c : Char} (kept : isAlphanumeric c = true) : isBlank c = false := by
  rw [Bool.eq_false_iff]
  intro blank
  obtain ⟨range, member, low, high⟩ := Ranges.covers_mem blank
  have apart := isAlphanumeric_blanks range member (c.toNat - range.1) (by omega)
  rw [Nat.add_sub_cancel' low, Char.ofNat_toNat, kept] at apart
  cases apart

section Ends

variable {test wider : Char → Bool} {c : Char} {cs : List Char}

theorem dropEndWhile_cons (test : Char → Bool) (c : Char) (cs : List Char) :
    dropEndWhile test (c :: cs) =
      if dropEndWhile test cs = [] ∧ test c = true then [] else c :: dropEndWhile test cs := by
  unfold dropEndWhile
  rw [List.reverse_cons, List.dropWhile_append]
  cases left : cs.reverse.dropWhile test with
  | nil => cases passed : test c <;> simp [passed]
  | cons d ds => simp

theorem dropEndWhile_idem (test : Char → Bool) (cs : List Char) :
    dropEndWhile test (dropEndWhile test cs) = dropEndWhile test cs := by
  unfold dropEndWhile
  rw [List.reverse_reverse, List.dropWhile_idempotent]

theorem dropWhile_dropWhile (wide : ∀ c, test c = true → wider c = true) (cs : List Char) :
    (cs.dropWhile test).dropWhile wider = cs.dropWhile wider := by
  induction cs with
  | nil => rfl
  | cons c cs ih =>
    cases passed : test c with
    | true => rw [List.dropWhile_cons_of_pos passed, ih, List.dropWhile_cons_of_pos (wide c passed)]
    | false => rw [List.dropWhile_cons_of_neg (by simp [passed])]

-- It does not matter which end is dropped first.
theorem dropWhile_dropEndWhile (wide : ∀ c, test c = true → wider c = true) (cs : List Char) :
    (dropEndWhile test cs).dropWhile wider = dropEndWhile test (cs.dropWhile wider) := by
  induction cs with
  | nil => rfl
  | cons c cs ih =>
    rw [dropEndWhile_cons]
    cases passed : wider c with
    | true =>
      rw [List.dropWhile_cons_of_pos passed, ← ih]
      split
      · rename_i gone
        rw [gone.1]
      · rw [List.dropWhile_cons_of_pos passed]
    | false =>
      have solid : ¬ test c = true := fun narrow => by simp [wide c narrow] at passed
      rw [if_neg fun gone => solid gone.2, List.dropWhile_cons_of_neg (by simp [passed]),
        List.dropWhile_cons_of_neg (by simp [passed]), dropEndWhile_cons,
        if_neg fun gone => solid gone.2]

end Ends

end Text

-- What may not lead a key.
def isLeadless (c : Char) : Bool := isUnderscore c || Text.isNumeric c

-- Cleaning in one pass, of a text whose other characters are underscores already.
def onePass (key : List Char) : List Char :=
  Text.dropEndWhile isUnderscore (key.dropWhile isLeadless)

-- A round but for its last step.
def roundStart (key : List Char) : List Char :=
  match Text.trimWhile isUnderscore key with
  | first :: rest => if Text.isNumeric first then rest else first :: rest
  | [] => []

-- Characters that are left as they are when a key is made of them.
def Clean (key : List Char) : Prop := ∀ c ∈ key, underscored c = c

theorem clean_underscored (cs : List Char) : Clean (cs.map underscored) := by
  intro c member
  obtain ⟨c', _, rfl⟩ := List.mem_map.mp member
  exact underscored_underscored c'

section Rounds

variable {key : List Char}

theorem isLeadless_underscore (c : Char) (underscore : isUnderscore c = true) :
    isLeadless c = true := by
  rw [isLeadless, underscore, Bool.true_or]

theorem isBlank_clean {c : Char} (clean : underscored c = c) : Text.isBlank c = false := by
  unfold underscored at clean
  split at clean
  next kept => exact Text.isBlank_alphanumeric kept
  next => rw [← clean]; rfl

theorem roundStart_sublist (key : List Char) : (roundStart key).Sublist key := by
  have outer := trimWhile_sublist isUnderscore key
  unfold roundStart
  split
  next first rest trimmed =>
    rw [trimmed] at outer
    split
    · exact (List.sublist_cons_self _ _).trans outer
    · exact outer
  next => exact List.nil_sublist _

theorem keyRound_roundStart (key : List Char) :
    keyRound key = Text.trimWhile Text.isBlank (roundStart key) := by
  unfold keyRound roundStart
  cases Text.trimWhile isUnderscore key <;> rfl

theorem trimWhile_roundStart (clean : Clean key) :
    Text.trimWhile Text.isBlank (roundStart key) = roundStart key :=
  Text.trimWhile_none fun c member => isBlank_clean (clean c ((roundStart_sublist key).mem member))

theorem Clean.keyRound (clean : Clean key) : Clean (keyRound key) :=
  fun c member => clean c ((keyRound_sublist key).mem member)

theorem Clean.rounds (clean : Clean key) (n : Nat) : Clean (RowPress.keyRound^[n] key) := by
  induction n generalizing key with
  | zero => exact clean
  | succ n ih => exact ih clean.keyRound

theorem onePass_trimWhile (key : List Char) :
    onePass (Text.trimWhile isUnderscore key) = onePass key := by
  unfold onePass Text.trimWhile
  rw [Text.dropWhile_dropEndWhile isLeadless_underscore, Text.dropEndWhile_idem,
    Text.dropWhile_dropWhile isLeadless_underscore]

-- A round takes off only what the one pass takes off.
theorem onePass_roundStart (key : List Char) : onePass (roundStart key) = onePass key := by
  rw [← onePass_trimWhile key]
  unfold roundStart
  split
  next first rest trimmed =>
    rw [trimmed]
    split
    next digit =>
      have leading : isLeadless first = true := by rw [isLeadless, digit, Bool.or_true]
      rw [onePass, onePass, List.dropWhile_cons_of_pos leading]
    next => rfl
  next trimmed => rw [trimmed]

-- A round that takes off nothing leaves nothing to the one pass.
theorem onePass_settled (settled : roundStart key = key) : onePass key = key := by
  unfold roundStart at settled
  split at settled
  next first rest trimmed =>
    have outer := trimWhile_sublist isUnderscore key
    rw [trimmed] at outer
    split at settled
    next =>
      have short := outer.length_le
      rw [settled, List.length_cons] at short
      omega
    next wordy =>
      rw [settled] at trimmed
      have plain : ¬ isLeadless first = true := by
        rw [← settled] at trimmed
        rw [isLeadless, Text.trimWhile_first trimmed, Bool.false_or]
        exact wordy
      have kept : key.dropWhile isLeadless = key := by
        rw [← settled, List.dropWhile_cons_of_neg plain]
      have plain' : ¬ isUnderscore first = true := fun underscore =>
        plain (isLeadless_underscore first underscore)
      have whole : key.dropWhile isUnderscore = key := by
        rw [← settled, List.dropWhile_cons_of_neg plain']
      rw [onePass, kept]
      rwa [Text.trimWhile, whole] at trimmed
  next => rw [← settled]; rfl

theorem settleKey_onePass (clean : Clean key) : settleKey key = onePass key := by
  fun_induction settleKey key with
  | case1 key settled =>
    rw [keyRound_roundStart, trimWhile_roundStart clean] at settled
    exact (onePass_settled settled).symm
  | case2 key changed ih =>
    rw [ih clean.keyRound, keyRound_roundStart, trimWhile_roundStart clean, onePass_roundStart]

-- Every round before the last one takes something off, so there are no more rounds than characters.
theorem settleKey_rounds (key : List Char) : ∃ rounds ≤ key.length,
    keyRound^[rounds] key = settleKey key ∧
    ∀ n < rounds, keyRound (keyRound^[n] key) ≠ keyRound^[n] key := by
  fun_induction settleKey key with
  | case1 key settled =>
    exact ⟨0, Nat.zero_le _, rfl, fun n less => absurd less (Nat.not_lt_zero n)⟩
  | case2 key changed ih =>
    obtain ⟨rounds, few, comes, changes⟩ := ih
    have shorter : (keyRound key).length < key.length :=
      Nat.lt_of_le_of_ne (keyRound_sublist key).length_le fun same =>
        changed ((keyRound_sublist key).eq_of_length same)
    refine ⟨rounds + 1, by omega, comes, ?_⟩
    intro n less
    cases n with
    | zero => exact changed
    | succ n => exact changes n (by omega)

end Rounds

-- Repeating rounds until one changes nothing comes to an end, with the text that one pass finds. In
-- no round is there a blank to take off.
theorem keyOf_onePass (raw : String) :
    keyOf raw = String.ofList (Text.dropEndWhile isUnderscore
      ((raw.toList.map underscored).dropWhile fun c => isUnderscore c || Text.isNumeric c)) ∧
    (∃ rounds ≤ raw.length,
      keyRound^[rounds] (raw.toList.map underscored) = (keyOf raw).toList ∧
      keyRound (keyOf raw).toList = (keyOf raw).toList ∧
      ∀ n < rounds, keyRound (keyRound^[n] (raw.toList.map underscored)) ≠
        keyRound^[n] (raw.toList.map underscored)) ∧
    ∀ n, let key := keyRound^[n] (raw.toList.map underscored)
      keyRound key = Text.trimWhile Text.isBlank (roundStart key) ∧
      Text.trimWhile Text.isBlank (roundStart key) = roundStart key := by
  have clean := clean_underscored raw.toList
  refine ⟨?_, ?_, ?_⟩
  · exact congrArg String.ofList (settleKey_onePass clean)
  · obtain ⟨rounds, few, comes, changes⟩ := settleKey_rounds (raw.toList.map underscored)
    rw [List.length_map, String.length_toList] at few
    rw [keyOf, String.toList_ofList]
    exact ⟨rounds, few, comes, keyRound_settleKey _, changes⟩
  · intro n
    exact ⟨keyRound_roundStart _, trimWhile_roundStart (clean.rounds n)⟩

example : keyOf "9½_Ⅷ: bill-to!" = "bill_to" := by decide +kernel

end RowPress
