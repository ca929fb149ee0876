import RowPress.Decimal.Read
import RowPress.Proofs.Trimming
import RowPress.Value.Coerce
/-!
What a text is typed as, by the form of what is left of it without the blanks around it: an integer
of 64 bits, another number with at most one point, a truth value, or a text.
-/
namespace RowPress

-- A sign in front of a number, and whether it makes the number negative.
inductive Sign : List Char → Bool → Prop where
  | left : Sign [] false
  | plus : Sign ['+'] false
  | minus : Sign ['-'] true

-- An optional sign and at least one digit, and the integer that they stand for.
def WholeNumber (token : List Char) (n : Int) : Prop :=
  ∃ sign negative digits, token = sign ++ digits ∧ Sign sign negative ∧ digits ≠ [] ∧
    (∀ c ∈ digits, c.isDigit = true) ∧
    n = if negative then -(Nat.ofDigitChars 10 digits 0 : Int) else Nat.ofDigitChars 10 digits 0

def IntegerToken (token : List Char) (n : Int) : Prop :=
  WholeNumber token n ∧ -2 ^ 63 ≤ n ∧ n ≤ 2 ^ 63 - 1

-- Digits and at most one point, and at least one digit.
structure Pointed (body : List Char) : Prop where
  plain : ∀ c ∈ body, c.isDigit = true ∨ c = '.'
  single : body.count '.' ≤ 1
  filled : ∃ c ∈ body, c.isDigit = true

def DecimalToken (token : List Char) : Prop :=
  ∃ sign negative body, token = sign ++ body ∧ Sign sign negative ∧ Pointed body

-- The word for a truth value in letters of either case.
def TruthToken (token : List Char) (b : Bool) : Prop :=
  token.map Char.toLower = (if b then "true" else "false").toList

-- Which texts a scalar is written as, said of the text and of its part without blanks around it.
def Scalar.WrittenAs (raw : String) (token : List Char) : Scalar → Prop
  | .integer i => IntegerToken token i.toInt
  | .decimal x => DecimalToken token ∧ (¬ ∃ n, IntegerToken token n) ∧ Decimal.read? token = some x
  | .bool b => TruthToken token b
  | .text s => s = raw ∧ (¬ ∃ n, IntegerToken token n) ∧ ¬ DecimalToken token ∧
      ¬ ∃ b, TruthToken token b

section Digits

variable {digits whole fraction : List Char}

theorem count_point (row : ∀ c ∈ digits, c.isDigit = true) : digits.count '.' = 0 :=
  List.count_eq_zero.mpr fun point => absurd (row '.' point) (by decide)

theorem Pointed.row (row : ∀ c ∈ digits, c.isDigit = true) (filled : digits ≠ []) :
    Pointed digits := by
  obtain ⟨c, member⟩ := List.exists_mem_of_ne_nil _ filled
  exact ⟨fun c member => .inl (row c member), by rw [count_point row]; exact Nat.zero_le 1,
    c, member, row c member⟩

theorem Pointed.rows (row : ∀ c ∈ whole, c.isDigit = true)
    (row' : ∀ c ∈ fraction, c.isDigit = true) (filled : ¬ (whole = [] ∧ fraction = [])) :
    Pointed (whole ++ '.' :: fraction) := by
  refine ⟨?_, ?_, ?_⟩
  · intro c member
    rw [List.mem_append, List.mem_cons] at member
    rcases member with early | point | late
    · exact .inl (row c early)
    · exact .inr point
    · exact .inl (row' c late)
  · rw [List.count_append, count_point row, List.count_cons_self, count_point row']
  · rw [not_and_or] at filled
    rcases filled with early | late
    · obtain ⟨c, member⟩ := List.exists_mem_of_ne_nil _ early
      exact ⟨c, List.mem_append_left _ member, row c member⟩
    · obtain ⟨c, member⟩ := List.exists_mem_of_ne_nil _ late
      exact ⟨c, List.mem_append_right _ (List.mem_cons_of_mem _ member), row' c member⟩

end Digits

namespace Text

variable {c : Char} {cs body digits sign word : List Char} {negative : Bool}

theorem asciiLower_eq (c : Char) : asciiLower c = c.toLower := by
  have upper : isAsciiUpper c = c.isUpper := by
    simp [isAsciiUpper, Char.isUpper, Char.le_def, Bool.decide_and]
  unfold asciiLower
  split
  · rename_i capital
    exact (Char.toLower_eq_of_isUpper (upper ▸ capital)).symm
  · rename_i small
    exact (Char.toLower_eq_of_not_isUpper (upper ▸ small)).symm

theorem map_asciiLower (cs : List Char) : cs.map asciiLower = cs.map Char.toLower :=
  List.map_congr_left fun c _ => asciiLower_eq c

theorem isAsciiDigit_eq (c : Char) : isAsciiDigit c = c.isDigit := rfl

theorem toLower_digit (digit : c.isDigit = true) : c.toLower = c :=
  Char.toLower_eq_of_not_isUpper fun upper => by
    have low : 48 ≤ c.toNat ∧ c.toNat ≤ 57 := by
      simpa [Char.isDigit, UInt32.le_iff_toNat_le] using digit
    have high : 65 ≤ c.toNat ∧ c.toNat ≤ 90 := by
      simpa [Char.isUpper, UInt32.le_iff_toNat_le] using upper
    omega

-- No text with a digit in it is a word without one.
theorem map_toLower_ne (wordy : ∀ c ∈ word, c.isDigit = false)
    (filled : ∃ c ∈ cs, c.isDigit = true) : cs.map Char.toLower ≠ word := by
  rintro rfl
  obtain ⟨c, member, digit⟩ := filled
  have other := wordy _ (List.mem_map_of_mem member)
  rw [toLower_digit digit, digit] at other
  cases other

theorem splitSign_sign (token : List Char) :
    ∃ sign, token = sign ++ (splitSign token).2 ∧ Sign sign (splitSign token).1 := by
  unfold splitSign
  split
  · exact ⟨['+'], rfl, .plus⟩
  · exact ⟨['-'], rfl, .minus⟩
  · exact ⟨[], rfl, .left⟩

theorem splitSign_append (signed : Sign sign negative)
    (unsigned : ∀ c, body.head? = some c → c.isDigit = true ∨ c = '.') :
    splitSign (sign ++ body) = (negative, body) := by
  cases signed with
  | plus => rfl
  | minus => rfl
  | left =>
    rw [List.nil_append, splitSign]
    · rintro rest rfl
      exact absurd (unsigned '+' rfl) (by decide)
    · rintro rest rfl
      exact absurd (unsigned '-' rfl) (by decide)

theorem takeWhile_digits (row : ∀ c ∈ digits, c.isDigit = true) :
    digits.takeWhile isAsciiDigit = digits ∧ digits.dropWhile isAsciiDigit = [] :=
  ⟨List.takeWhile_eq_self_iff.mpr row, List.dropWhile_eq_nil_iff.mpr row⟩

-- A point stands between two rows of digits, of which one may be empty.
theorem pointed_iff : Pointed body ↔
    (body.dropWhile isAsciiDigit = [] ∧ body.takeWhile isAsciiDigit ≠ []) ∨
    ∃ fraction, body.dropWhile isAsciiDigit = '.' :: fraction ∧
      (∀ c ∈ fraction, c.isDigit = true) ∧
      ¬ (body.takeWhile isAsciiDigit = [] ∧ fraction = []) := by
  have parts := List.takeWhile_append_dropWhile (p := isAsciiDigit) (l := body)
  have whole : ∀ c ∈ body.takeWhile isAsciiDigit, c.isDigit = true :=
    fun c member => List.mem_takeWhile_imp member
  constructor
  · rintro ⟨plain, single, c, member, digit⟩
    cases rest : body.dropWhile isAsciiDigit with
    | nil =>
      rw [rest, List.append_nil] at parts
      exact .inl ⟨rfl, by rw [parts]; exact List.ne_nil_of_mem member⟩
    | cons d fraction =>
      have ends := List.head?_dropWhile_not isAsciiDigit body
      rw [rest] at ends parts
      have other : ¬ d.isDigit = true := by
        rw [← isAsciiDigit_eq]
        simpa using ends
      have inside : ∀ e ∈ d :: fraction, e ∈ body := by
        intro e later
        rw [← parts]
        exact List.mem_append_right _ later
      obtain rfl : d = '.' := (plain d (inside d List.mem_cons_self)).resolve_left other
      rw [← parts, List.count_append, count_point whole, List.count_cons_self] at single
      have none : '.' ∉ fraction := List.count_eq_zero.mp (by omega)
      refine .inr ⟨fraction, rfl, ?_, ?_⟩
      · intro e later
        refine (plain e (inside e (List.mem_cons_of_mem _ later))).resolve_right ?_
        rintro rfl
        exact none later
      · rintro ⟨empty, rfl⟩
        rw [empty] at parts
        rw [← parts, List.nil_append, List.mem_singleton] at member
        exact other (member ▸ digit)
  · rintro (⟨rest, filled⟩ | ⟨fraction, rest, row, filled⟩)
    · rw [rest, List.append_nil] at parts
      rw [← parts]
      exact .row whole filled
    · rw [rest] at parts
      rw [← parts]
      exact .rows whole row filled

end Text

section Numbers

open Text

variable {token : List Char} {n m : Int} {i : Int64}

theorem isDecimalLiteral_split : isDecimalLiteral token = true ↔ Pointed (splitSign token).2 := by
  rw [pointed_iff]
  unfold isDecimalLiteral
  dsimp only
  generalize (splitSign token).2.takeWhile isAsciiDigit = whole
  cases (splitSign token).2.dropWhile isAsciiDigit with
  | nil => simp
  | cons d fraction =>
    by_cases point : d = '.'
    · subst point
      cases whole <;> simp [isAsciiDigit_eq]
    · simp [point]

-- The sign of a number is the one that is split off.
theorem isDecimalLiteral_iff : isDecimalLiteral token = true ↔ DecimalToken token := by
  rw [isDecimalLiteral_split]
  constructor
  · intro pointed
    obtain ⟨sign, split, signed⟩ := splitSign_sign token
    exact ⟨sign, _, _, split, signed, pointed⟩
  · rintro ⟨sign, negative, body, rfl, signed, pointed⟩
    rw [splitSign_append signed fun c first => pointed.plain c (List.mem_of_head? first)]
    exact pointed

theorem fitsInteger_iff : fitsInteger n = true ↔ -2 ^ 63 ≤ n ∧ n ≤ 2 ^ 63 - 1 := by
  have low : minInteger = -2 ^ 63 := rfl
  have high : maxInteger = 2 ^ 63 - 1 := rfl
  rw [fitsInteger, low, high, Bool.and_eq_true, decide_eq_true_eq, decide_eq_true_eq]

theorem wholeNumber_iff : WholeNumber token n ↔
    ((splitSign token).2 ≠ [] ∧ (splitSign token).2.all isAsciiDigit = true) ∧
    n = if (splitSign token).1 then -(digitsValue (splitSign token).2 : Int)
      else digitsValue (splitSign token).2 := by
  constructor
  · rintro ⟨sign, negative, digits, rfl, signed, filled, row, rfl⟩
    rw [splitSign_append signed fun c first => .inl (row c (List.mem_of_head? first))]
    exact ⟨⟨filled, List.all_eq_true.mpr row⟩, rfl⟩
  · rintro ⟨⟨filled, row⟩, rfl⟩
    obtain ⟨sign, split, signed⟩ := splitSign_sign token
    exact ⟨sign, _, _, split, signed, filled, List.all_eq_true.mp row, rfl⟩

theorem integerOf?_eq_some_iff : integerOf? token = some i ↔ IntegerToken token i.toInt := by
  rw [IntegerToken, wholeNumber_iff, ← fitsInteger_iff]
  unfold integerOf?
  dsimp only
  generalize (if (splitSign token).1 = true then -(digitsValue (splitSign token).2 : Int)
    else digitsValue (splitSign token).2) = n
  by_cases digits : (splitSign token).2 ≠ [] ∧ (splitSign token).2.all isAsciiDigit = true
  · rw [if_pos digits]
    by_cases fits : fitsInteger n = true
    · rw [if_pos fits, Option.some_inj]
      obtain ⟨low, high⟩ := fitsInteger_iff.mp fits
      have back : (Int64.ofInt n).toInt = n := Int64.toInt_ofInt_of_le low (by omega)
      constructor
      · rintro rfl
        rw [back]
        exact ⟨⟨digits, rfl⟩, fits⟩
      · rintro ⟨⟨_, same⟩, _⟩
        rw [← same, Int64.ofInt_toInt]
    · rw [if_neg fits]
      constructor
      · intro none
        cases none
      · rintro ⟨⟨_, same⟩, fits'⟩
        rw [same] at fits'
        exact absurd fits' fits
  · rw [if_neg digits]
    constructor
    · intro none
      cases none
    · rintro ⟨⟨row, _⟩, _⟩
      exact absurd row digits

theorem integerOf?_eq_none_iff : integerOf? token = none ↔ ¬ ∃ n, IntegerToken token n := by
  constructor
  · rintro none ⟨n, written⟩
    have back : (Int64.ofInt n).toInt = n :=
      Int64.toInt_ofInt_of_le written.2.1 (Int.lt_of_le_sub_one written.2.2)
    rw [integerOf?_eq_some_iff.mpr (back.symm ▸ written)] at none
    cases none
  · intro none
    cases read : integerOf? token with
    | none => rfl
    | some i => exact absurd ⟨_, integerOf?_eq_some_iff.mp read⟩ none

theorem WholeNumber.unique (whole : WholeNumber token n) (whole' : WholeNumber token m) :
    n = m :=
  (wholeNumber_iff.mp whole).2.trans (wholeNumber_iff.mp whole').2.symm

theorem WholeNumber.decimal (whole : WholeNumber token n) : DecimalToken token := by
  obtain ⟨sign, negative, digits, rfl, signed, filled, row, _⟩ := whole
  exact ⟨sign, negative, digits, rfl, signed, .row row filled⟩

theorem TruthToken.not_decimal {b : Bool} (word : TruthToken token b) : ¬ DecimalToken token := by
  rintro ⟨sign, negative, body, rfl, signed, pointed⟩
  obtain ⟨c, member, digit⟩ := pointed.filled
  have letters : ∀ c ∈ (if b then "true" else "false").toList, c.isDigit = false := by
    cases b <;> simp
  exact map_toLower_ne letters ⟨c, List.mem_append_right _ member, digit⟩ word

-- A literal is read as a number without an exponent, and never as the name of one.
theorem read?_literal (literal : isDecimalLiteral token = true) :
    Decimal.read? token = some (decimalOf token) := by
  have pointed := isDecimalLiteral_split.mp literal
  have unnamed : ∀ word : List Char, (∀ c ∈ word, c.isDigit = false) →
      ((splitSign token).2.map asciiLower == word) = false := by
    intro word letters
    rw [map_asciiLower, beq_eq_false_iff_ne]
    exact map_toLower_ne letters pointed.filled
  have digits : Decimal.readDigits? (splitSign token).1 (splitSign token).2 =
      some (decimalOf token) := by
    rw [pointed_iff] at pointed
    unfold Decimal.readDigits? decimalOf
    rcases pointed with ⟨rest, filled⟩ | ⟨fraction, rest, row, filled⟩
    · simp [rest, filled, Decimal.readExponent?]
    · simp only [rest, takeWhile_digits row]
      generalize (splitSign token).2.takeWhile isAsciiDigit = whole at filled
      have some' : ¬ (whole.isEmpty && fraction.isEmpty) = true := by simpa using filled
      simp [some', Decimal.readExponent?]
  unfold Decimal.read?
  dsimp only
  rw [unnamed "inf".toList (by simp), unnamed "infinity".toList (by simp),
    unnamed "nan".toList (by simp)]
  exact digits

end Numbers

section Scalars

variable {raw : String} {s : Scalar}

-- By what the text is tried as, one after another.
theorem coerce_written (raw : String) :
    (coerce raw).WrittenAs raw (Text.trimWhile Text.isBlank raw.toList) := by
  unfold coerce
  dsimp only
  cases whole : integerOf? (Text.trimWhile Text.isBlank raw.toList) with
  | some i => exact integerOf?_eq_some_iff.mp whole
  | none =>
    have beyond := integerOf?_eq_none_iff.mp whole
    dsimp only
    split
    · rename_i literal
      exact ⟨isDecimalLiteral_iff.mp literal, beyond, read?_literal literal⟩
    · rename_i other
      have noDecimal := fun decimal => other (isDecimalLiteral_iff.mpr decimal)
      rw [Text.map_asciiLower]
      split
      · rename_i true'
        exact true'
      · split
        · rename_i false'
          exact false'
        · rename_i noTrue noFalse
          refine ⟨rfl, beyond, noDecimal, ?_⟩
          rintro ⟨b, word⟩
          cases b with
          | true => exact noTrue word
          | false => exact noFalse word

-- The forms exclude each other.
theorem coerce_of_written
    (written : s.WrittenAs raw (Text.trimWhile Text.isBlank raw.toList)) : coerce raw = s := by
  unfold coerce
  dsimp only
  cases s with
  | integer i => rw [integerOf?_eq_some_iff.mpr written]
  | decimal x =>
    obtain ⟨decimal, beyond, read⟩ := written
    have literal := isDecimalLiteral_iff.mpr decimal
    rw [read?_literal literal] at read
    rw [integerOf?_eq_none_iff.mpr beyond]
    dsimp only
    rw [if_pos literal, Option.some.inj read]
  | bool b =>
    have noDecimal := TruthToken.not_decimal written
    have beyond : integerOf? (Text.trimWhile Text.isBlank raw.toList) = none :=
      integerOf?_eq_none_iff.mpr fun ⟨_, whole⟩ => noDecimal whole.1.decimal
    have written : (Text.trimWhile Text.isBlank raw.toList).map Char.toLower =
      (if b then "true" else "false").toList := written
    rw [beyond]
    dsimp only
    rw [if_neg fun literal => noDecimal (isDecimalLiteral_iff.mp literal), Text.map_asciiLower,
      written]
    cases b with
    | true => rfl
    | false => rfl
  | text s =>
    obtain ⟨rfl, beyond, noDecimal, noTruth⟩ := written
    rw [integerOf?_eq_none_iff.mpr beyond]
    dsimp only
    rw [if_neg fun literal => noDecimal (isDecimalLiteral_iff.mp literal), Text.map_asciiLower]
    exact (if_neg fun true' => noTruth ⟨true, true'⟩).trans
      (if_neg fun false' => noTruth ⟨false, false'⟩)

end Scalars

-- A text is typed by the form of its part without blanks around it, and is of exactly one form. A
-- whole number beyond 64 bits is a decimal, and each decimal literal can be read as a number.
theorem coerce_grammar (raw : String) :
    ∃ token, (∀ left, Text.Stripped Text.isBlank raw.toList left ↔ left = token) ∧
      (∀ s : Scalar, coerce raw = s ↔ s.WrittenAs raw token) ∧
      (∃! s : Scalar, s.WrittenAs raw token) ∧
      (∀ n, WholeNumber token n → (n < -2 ^ 63 ∨ 2 ^ 63 - 1 < n) → ∃ x, coerce raw = .decimal x) ∧
      ∀ literal, isDecimalLiteral literal = true → ∃ x, Decimal.read? literal = some x := by
  have forms : ∀ s : Scalar, coerce raw = s ↔
      s.WrittenAs raw (Text.trimWhile Text.isBlank raw.toList) := by
    intro s
    constructor
    · rintro rfl
      exact coerce_written raw
    · exact coerce_of_written
  refine ⟨Text.trimWhile Text.isBlank raw.toList, fun left => Text.stripped_iff, forms, ?_, ?_, ?_⟩
  · exact ⟨coerce raw, coerce_written raw, fun s written => ((forms s).mpr written).symm⟩
  · intro n whole large
    have decimal : DecimalToken (Text.trimWhile Text.isBlank raw.toList) := whole.decimal
    have literal := isDecimalLiteral_iff.mpr decimal
    refine ⟨_, (forms (.decimal _)).mpr ⟨decimal, ?_, read?_literal literal⟩⟩
    rintro ⟨m, whole', low, high⟩
    have same : n = m := whole.unique whole'
    omega
  · exact fun literal accepted => ⟨_, read?_literal accepted⟩

example : coerce "\t-9223372036854775808 " = .integer Int64.minValue := rfl

example : coerce "1e5" = .text "1e5" := rfl

end RowPress
