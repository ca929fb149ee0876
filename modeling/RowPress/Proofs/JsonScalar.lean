import RowPress.Json.Printer
import RowPress.Json.Reader
import RowPress.Proofs.Spelling
/-!
Numbers and texts in JSON text. Each is read back from what is written for it: an integer of 64 bits
to its last digit, and a text whatever characters it has.
-/
namespace RowPress.Json

section Numbers

variable {n value taken : Nat} {digits rest : List Char}

-- What may follow a number: nothing that could belong to it.
def Ended (rest : List Char) : Prop :=
  ∀ c ∈ rest.head?, isDigit c = false ∧ c ≠ '.' ∧ c ≠ 'e' ∧ c ≠ 'E'

theorem Ended.isDigit (ended : Ended rest) : rest.head?.any Json.isDigit = false := by
  cases rest with
  | nil => rfl
  | cons c rest => exact (ended c rfl).1

theorem le_ofDigitChars (digits : List Char) (value : Nat) :
    value ≤ Nat.ofDigitChars 10 digits value := by
  induction digits generalizing value with
  | nil => exact le_rfl
  | cons c digits ih =>
    rw [Nat.ofDigitChars_cons]
    have later := ih (10 * value + (c.toNat - '0'.toNat))
    omega

-- A value that fits fits at every digit on the way to it.
theorem takeDigits_all (row : ∀ c ∈ digits, isDigit c = true) (ended : Ended rest)
    (fits : Nat.ofDigitChars 10 digits value ≤ maxUnsigned) :
    takeDigits value taken (digits ++ rest) =
      (Nat.ofDigitChars 10 digits value, taken + digits.length, rest) := by
  induction digits generalizing value taken with
  | nil =>
    cases rest with
    | nil => rfl
    | cons c rest =>
      have other : ¬ isDigit c = true := by simp [(ended c rfl).1]
      rw [List.nil_append, takeDigits, if_neg fun both => other both.1]
      rfl
  | cons c digits ih =>
    obtain ⟨first, row⟩ := List.forall_mem_cons.mp row
    have same : value * 10 + (c.toNat - 48) = 10 * value + (c.toNat - '0'.toNat) := by
      rw [Nat.mul_comm]
      rfl
    rw [Nat.ofDigitChars_cons] at fits ⊢
    have small := (le_ofDigitChars digits _).trans fits
    rw [List.cons_append, takeDigits, same, if_pos ⟨first, small⟩, ih row fits, List.length_cons,
      Nat.add_assoc, Nat.add_comm 1]

-- No number but zero is written with a zero in front.
theorem toDigits_first (n : Nat) :
    ∃ c digits, Nat.toDigits 10 n = c :: digits ∧ (c = '0' → n = 0 ∧ digits = []) := by
  induction n using Nat.strongRecOn with
  | ind n ih =>
    by_cases small : n < 10
    · refine ⟨Nat.digitChar n, [], Nat.toDigits_of_lt_base small, fun zero => ⟨?_, rfl⟩⟩
      interval_cases n <;> first | rfl | exact absurd zero (by decide)
    · rw [Nat.not_lt] at small
      obtain ⟨c, digits, split, zero⟩ := ih (n / 10) (by omega)
      refine ⟨c, digits ++ [Nat.digitChar (n % 10)], ?_, fun first => ?_⟩
      · rw [Nat.toDigits_of_base_le (by decide) small, split, List.cons_append]
      · have none := (zero first).1
        omega

theorem readNumber_toDigits (positive : Bool) (fits : n ≤ maxUnsigned) (ended : Ended rest) :
    readNumber positive (Nat.toDigits 10 n ++ rest) = readNumberEnd positive n rest := by
  have none : ¬ rest.head?.any Json.isDigit = true := by simp [ended.isDigit]
  have row : ∀ c ∈ Nat.toDigits 10 n, Json.isDigit c = true := fun _ => Text.isAsciiDigit_toDigits
  have whole : Nat.ofDigitChars 10 (Nat.toDigits 10 n) 0 = n := Nat.ofDigitChars_ten_toDigits
  obtain ⟨c, digits, split, zero⟩ := toDigits_first n
  rw [split] at row whole ⊢
  obtain ⟨first, row⟩ := List.forall_mem_cons.mp row
  rw [List.cons_append, readNumber]
  by_cases leading : c = '0'
  · obtain ⟨rfl, rfl⟩ := zero leading
    rw [if_pos leading, List.nil_append, if_neg none]
  · rw [Nat.ofDigitChars_cons, Nat.mul_zero, Nat.zero_add] at whole
    have taken : takeDigits (c.toNat - 48) 0 (digits ++ rest) = (n, 0 + digits.length, rest) :=
      whole ▸ takeDigits_all row ended (whole.le.trans fits)
    rw [if_neg leading, if_pos first, taken]
    simp only [if_neg none]

theorem readNumberEnd_ended (positive : Bool) (ended : Ended rest) :
    readNumberEnd positive n rest =
      if positive then .ok (.integer n, rest)
      else if n = 0 ∨ Decimal.twoTo 63 < n then .ok (.decimal (Decimal.nearest true n 1), rest)
      else .ok (.integer (-n), rest) := by
  unfold readNumberEnd
  split
  · exact absurd rfl (ended _ rfl).2.1
  · exact absurd rfl (ended _ rfl).2.2.1
  · exact absurd rfl (ended _ rfl).2.2.2
  · rfl

end Numbers

section Texts

variable {fuel : Nat}

theorem hexValue?_hexDigit {n : Nat} (small : n < 16) :
    Text.hexValue? (Text.hexDigit n) = some n := by
  interval_cases n <;> rfl

-- A control character is written by its number.
theorem readUnicode_control {c : Char} (control : c.toNat < 0x20) (rest : List Char) :
    readUnicode ('0' :: '0' :: Text.hexDigit (c.toNat / 16) :: Text.hexDigit (c.toNat % 16) ::
      rest) = .ok (c, rest) := by
  have zero : Text.hexValue? '0' = some 0 := rfl
  have high : Text.hexValue? (Text.hexDigit (c.toNat / 16)) = some (c.toNat / 16) :=
    hexValue?_hexDigit (by omega)
  have low : Text.hexValue? (Text.hexDigit (c.toNat % 16)) = some (c.toNat % 16) :=
    hexValue?_hexDigit (by omega)
  have number : ((0 * 16 + 0) * 16 + c.toNat / 16) * 16 + c.toNat % 16 = c.toNat := by omega
  have unit : readUnit ('0' :: '0' :: Text.hexDigit (c.toNat / 16) ::
      Text.hexDigit (c.toNat % 16) :: rest) = .ok (c.toNat, rest) := by
    rw [readUnit]
    simp only [zero, high, low, number]
  rw [readUnicode, unit]
  simp only [bind, Except.bind]
  rw [if_neg (by omega), if_pos (by omega), Char.ofNat_toNat]

-- A character is read back from what stands for it.
theorem readText_step (fuel : Nat) (c : Char) (more : List Char) :
    readText (fuel + 1) (escapedChar c ++ more) = (do
      let (cs, rest) ← readText fuel more
      return (c :: cs, rest)) := by
  unfold escapedChar
  split_ifs with quote backslash feed back tab bell page control
  · subst quote
    rfl
  · subst backslash
    rfl
  · subst feed
    rfl
  · subst back
    rfl
  · subst tab
    rfl
  · obtain rfl : c = '\x08' := Char.toNat_inj.mp bell
    rfl
  · obtain rfl : c = '\x0c' := Char.toNat_inj.mp page
    rfl
  · have read := readUnicode_control control more
    simp only [List.cons_append, List.nil_append, readText, readEscape, read]
    rfl
  · simp only [List.cons_append, List.nil_append, readText, if_neg quote, if_neg backslash,
      if_neg control]

theorem readText_escaped (s rest : List Char) (long : s.length < fuel) :
    readText fuel (s.flatMap escapedChar ++ '"' :: rest) = .ok (s, rest) := by
  induction s generalizing fuel with
  | nil =>
    obtain ⟨fuel, rfl⟩ := Nat.exists_eq_succ_of_ne_zero (Nat.ne_zero_of_lt long)
    rfl
  | cons c s ih =>
    obtain ⟨fuel, rfl⟩ := Nat.exists_eq_succ_of_ne_zero (Nat.ne_zero_of_lt long)
    rw [List.flatMap_cons, List.append_assoc, readText_step, ih (Nat.lt_of_succ_lt_succ long)]
    rfl

theorem length_le_escaped (s : List Char) : s.length ≤ (s.flatMap escapedChar).length := by
  have filled : ∀ c, 1 ≤ (escapedChar c).length := by
    intro c
    unfold escapedChar
    split_ifs <;> simp
  induction s with
  | nil => exact le_rfl
  | cons c s ih =>
    rw [List.flatMap_cons, List.length_append, List.length_cons, Nat.add_comm]
    exact Nat.add_le_add (filled c) ih

theorem readString_escaped (s : String) (rest : List Char) :
    readString (s.toList.flatMap escapedChar ++ '"' :: rest) = .ok (s, rest) := by
  have long := length_le_escaped s.toList
  rw [readString, readText_escaped]
  · simp [bind, Except.bind, pure, Except.pure]
  · rw [List.length_append]
    omega

end Texts

section Leaves

variable {rest : List Char}

theorem skip_solid {c : Char} (solid : isSpace c = false) (more : List Char) :
    skip (c :: more) = c :: more := by
  rw [skip, List.dropWhile_cons, if_neg (by simp [solid])]

theorem isSpace_digit {c : Char} (digit : isDigit c = true) : isSpace c = false := by
  rw [← Bool.not_eq_true]
  intro space
  have blank : c = ' ' ∨ c = '\n' ∨ c = '\t' ∨ c = '\r' := by
    simpa [isSpace, or_assoc] using space
  rcases blank with rfl | rfl | rfl | rfl <;> exact absurd digit (by decide)

theorem ne_of_isDigit {c other : Char} (digit : isDigit c = true)
    (apart : isDigit other = false) : c ≠ other := by
  rintro rfl
  rw [digit] at apart
  cases apart

theorem readValue_digit {c : Char} (digit : isDigit c = true) (d : Nat) (cs : List Char) :
    readValue d (c :: cs) = readNumber true (c :: cs) := by
  rw [readValue.eq_def]
  simp only [skip_solid (isSpace_digit digit), if_pos digit,
    if_neg (ne_of_isDigit digit (rfl : isDigit 'n' = false)),
    if_neg (ne_of_isDigit digit (rfl : isDigit 't' = false)),
    if_neg (ne_of_isDigit digit (rfl : isDigit 'f' = false)),
    if_neg (ne_of_isDigit digit (rfl : isDigit '-' = false))]

theorem readValue_minus (d : Nat) (cs : List Char) :
    readValue d ('-' :: cs) = readNumber false cs := by
  rw [readValue.eq_def]
  rfl

theorem readValue_quote (d : Nat) (cs : List Char) :
    readValue d ('"' :: cs) = (do
      let (s, rest) ← readString cs
      return (.text s, rest)) := by
  rw [readValue.eq_def]
  rfl

theorem readValue_bool (d : Nat) (b : Bool) (rest : List Char) :
    readValue d (writeLeaf (.bool b) ++ rest) = .ok (.bool b, rest) := by
  cases b <;> cases d <;> rfl

theorem readValue_text (d : Nat) (s : String) (rest : List Char) :
    readValue d (writeText s ++ rest) = .ok (.text s, rest) := by
  have read := readString_escaped s rest
  rw [writeText, List.cons_append, List.cons_append, List.append_assoc, List.singleton_append,
    readValue_quote, read]
  rfl

-- The least integer has one more behind the minus than the greatest has without it.
theorem readValue_integer (d : Nat) (n : Int64) (ended : Ended rest) :
    readValue d ((toString n.toInt).toList ++ rest) = .ok (.integer n.toInt, rest) := by
  have low := Int64.le_toInt n
  have high := Int64.toInt_lt n
  have most : maxUnsigned = 18446744073709551615 := rfl
  have least : Decimal.twoTo 63 = 9223372036854775808 := rfl
  cases same : n.toInt with
  | ofNat m =>
    rw [same, Int.ofNat_eq_natCast] at high
    have fits : m ≤ maxUnsigned := by omega
    have read := readNumber_toDigits true fits ended
    obtain ⟨c, digits, split, _⟩ := toDigits_first m
    have digit : isDigit c = true := Text.isAsciiDigit_toDigits (split ▸ List.mem_cons_self)
    rw [readNumberEnd_ended true ended, if_pos rfl, split] at read
    rw [toList_natural, split, List.cons_append, readValue_digit digit]
    exact read
  | negSucc m =>
    rw [same, Int.negSucc_eq] at low
    have fits : m + 1 ≤ maxUnsigned := by omega
    have small : ¬ (m + 1 = 0 ∨ Decimal.twoTo 63 < m + 1) := by omega
    have read := readNumber_toDigits false fits ended
    rw [readNumberEnd_ended false ended, if_neg Bool.false_ne_true, if_neg small] at read
    rw [toList_negative, List.cons_append, readValue_minus]
    exact read

end Leaves

end RowPress.Json
