import Mathlib
import RowPress.Template.Lexer
/-!
The lexemes of a source that is text without an opening brace and references to variables, and
where reading stops at a character that no token begins with.
-/
namespace RowPress

namespace Text

theorem isAsciiDigit_iff {c : Char} :
    isAsciiDigit c = true ↔ 48 ≤ c.toNat ∧ c.toNat ≤ 57 := by
  simp [isAsciiDigit, Char.le_def, UInt32.le_iff_toNat_le]

theorem isAsciiLetter_iff {c : Char} : isAsciiLetter c = true ↔
    (97 ≤ c.toNat ∧ c.toNat ≤ 122) ∨ (65 ≤ c.toNat ∧ c.toNat ≤ 90) := by
  simp [isAsciiLetter, Char.le_def, UInt32.le_iff_toNat_le]

end Text

namespace Template

-- A part of a source: text as it stands, or a reference to a variable.
inductive Piece where
  | text (s : String)
  | reference (name : String)

def Piece.source : Piece → String
  | .text s => s
  | .reference name => "\x7b\x7b " ++ name ++ " \x7d\x7d"

def sourceOf (pieces : List Piece) : String := String.join (pieces.map Piece.source)

def isName (name : String) : Bool :=
  match name.toList with
  | c :: cs => isNameStart c && cs.all isNameChar
  | [] => false

-- Text that opens nothing, and references that hold a name.
def Piece.Readable : Piece → Prop
  | .text s => '\x7b' ∉ s.toList
  | .reference name => isName name = true

-- What stands between two delimiters of a source. Pieces of text side by side are one chunk.
inductive Chunk where
  | data (text : List Char) (line : Nat)
  | output (name : String) (line : Nat)

def Chunk.lexemes : Chunk → List Lexeme
  | .data text line => [⟨.data (String.ofList text), line⟩]
  | .output name line => [⟨.outputStart, line⟩, ⟨.name name, line⟩, ⟨.outputEnd, line⟩]

def dataChunk (text : List Char) (line : Nat) : List Chunk :=
  if text.isEmpty then [] else [.data text line]

-- The chunks from a line on. The text that was met since the last reference is pending.
def chunks (line : Nat) (pending : List Char) : List Piece → List Chunk
  | [] => dataChunk pending line
  | .text s :: rest => chunks line (pending ++ s.toList) rest
  | .reference name :: rest =>
    let next := line + newLines pending
    dataChunk pending line ++ .output name next :: chunks next [] rest

theorem sourceOf_cons (piece : Piece) (rest : List Piece) :
    (sourceOf (piece :: rest)).toList = piece.source.toList ++ (sourceOf rest).toList := by
  simp [sourceOf]

theorem reference_source (name : String) :
    (Piece.reference name).source.toList =
      '\x7b' :: '\x7b' :: ' ' :: (name.toList ++ [' ', '\x7d', '\x7d']) := by
  simp [Piece.source]

theorem isName_cons {name : String} (named : isName name = true) :
    ∃ c cs, name.toList = c :: cs ∧ isNameStart c = true ∧
      ∀ c' ∈ c :: cs, isNameChar c' = true := by
  unfold isName at named
  split at named
  next c cs spelled =>
    obtain ⟨first, rest⟩ := Bool.and_eq_true_iff.mp named
    refine ⟨c, cs, spelled, first, ?_⟩
    intro c' member
    rcases List.mem_cons.mp member with rfl | later
    · simp [isNameChar, first]
    · exact List.all_eq_true.mp rest c' later
  next => cases named

theorem findOpening_other {c : Char} (other : c ≠ '\x7b') (before rest : List Char) :
    findOpening before (c :: rest) = findOpening (c :: before) rest :=
  findOpening.eq_4 _ _ _ (fun _ equal _ => other equal) (fun _ equal _ => other equal)
    fun _ equal _ => other equal

theorem findOpening_opens {text : List Char} (plain : '\x7b' ∉ text) (before rest : List Char) :
    findOpening before (text ++ '\x7b' :: '\x7b' :: rest) =
      some (text.reverse ++ before, .output, rest) := by
  induction text generalizing before with
  | nil => rfl
  | cons c cs ih =>
    obtain ⟨other, plain⟩ := not_or.mp (mt List.mem_cons.mpr plain)
    rw [List.cons_append, findOpening_other (Ne.symm other), ih plain, List.reverse_cons,
      List.append_assoc]
    rfl

theorem findOpening_never {text : List Char} (plain : '\x7b' ∉ text) (before : List Char) :
    findOpening before text = none := by
  induction text generalizing before with
  | nil => rfl
  | cons c cs ih =>
    obtain ⟨other, plain⟩ := not_or.mp (mt List.mem_cons.mpr plain)
    rw [findOpening_other (Ne.symm other), ih plain]

namespace Lexer

-- In the text of a source, and behind the delimiter that opens an output.
def inText (rest : List Char) (line : Nat) : Lexer := ⟨rest, line, none, false, 0⟩

def inOutput (rest : List Char) (line : Nat) : Lexer := ⟨rest, line, some .output, false, 0⟩

theorem step_opening {text : List Char} (plain : '\x7b' ∉ text) (rest : List Char) (line : Nat) :
    (inText (text ++ '\x7b' :: '\x7b' :: ' ' :: rest) line).step =
      (dataLexeme text line ++ [⟨.outputStart, line + newLines text⟩],
        some (inOutput (' ' :: rest) (line + newLines text))) := by
  have found := findOpening_opens plain [] (' ' :: rest)
  simp [step, inText, Lexer.text, found, takeSign, enter, pass, inOutput, newLines]

theorem step_text {text : List Char} (plain : '\x7b' ∉ text) (line : Nat) :
    (inText text line).step = (dataLexeme text line, none) := by
  simp [step, inText, Lexer.text, findOpening_never plain]

theorem step_gap (rest : List Char) (line : Nat) :
    (inOutput (' ' :: rest) line).step = (inOutput rest line).step := by
  have gap : isGap ' ' = true := rfl
  simp [step, inOutput, inside, passWhile, pass, gap, newLines]

theorem step_closing (rest : List Char) (line : Nat) :
    (inOutput ('\x7d' :: '\x7d' :: rest) line).step =
      ([⟨.outputEnd, line⟩], some (inText rest line)) := by
  have gap : isGap '\x7d' = false := rfl
  simp [step, inOutput, inside, passWhile, pass, gap, newLines, closing?, takeSign, inText]

end Lexer

-- What a name begins with, and everything that ASCII does not have.
def isLetter (c : Char) : Bool := isNameStart c || 128 ≤ c.toNat

theorem ne_of_isLetter {c mark : Char} (letter : isLetter c = true)
    (other : isLetter mark = false) : c ≠ mark := by
  rintro rfl
  rw [letter] at other
  cases other

section

variable {c : Char}

theorem isNameStart_range (start : isNameStart c = true) : 65 ≤ c.toNat ∧ c.toNat ≤ 122 := by
  rcases Bool.or_eq_true_iff.mp start with underscore | letter
  · rw [beq_iff_eq.mp underscore]
    decide
  · have range := Text.isAsciiLetter_iff.mp letter
    omega

theorem isAsciiDigit_letter (letter : isLetter c = true) : Text.isAsciiDigit c = false := by
  rw [Bool.eq_false_iff]
  intro digit
  have low := Text.isAsciiDigit_iff.mp digit
  rcases Bool.or_eq_true_iff.mp letter with start | wide
  · have range := isNameStart_range start
    omega
  · have high := of_decide_eq_true wide
    omega

theorem isNameChar_wide (wide : 128 ≤ c.toNat) : isNameChar c = false := by
  rw [Bool.eq_false_iff]
  intro ascii
  rcases Bool.or_eq_true_iff.mp ascii with start | digit
  · have range := isNameStart_range start
    omega
  · have range := Text.isAsciiDigit_iff.mp digit
    omega

theorem beq_letter {mark : Char} (letter : isLetter c = true) (other : isLetter mark = false) :
    (c == mark) = false :=
  beq_eq_false_iff_ne.mpr (ne_of_isLetter letter other)

theorem isGap_letter (letter : isLetter c = true) : isGap c = false := by
  have other {mark : Char} : isLetter mark = false → (c == mark) = false := beq_letter letter
  rw [isGap, other rfl, other rfl, other rfl, other rfl, other rfl]
  rfl

theorem singleSymbol?_letter (letter : isLetter c = true) : Lexer.singleSymbol? c = none := by
  unfold Lexer.singleSymbol?
  split
  case h_21 => rfl
  all_goals exact absurd letter (by decide)

theorem symbol?_letter (letter : isLetter c = true) (rest : List Char) :
    Lexer.symbol? (c :: rest) = none := by
  have other {mark : Char} : isLetter mark = false → (c == mark) = false := beq_letter letter
  cases rest with
  | nil => rw [Lexer.symbol?, singleSymbol?_letter letter, Option.map_none]
  | cons d rest =>
    have double : Lexer.doubleSymbol? c d = none := by
      rw [Lexer.doubleSymbol?, other rfl, other rfl, other rfl, other rfl, other rfl, other rfl]
      rfl
    rw [Lexer.symbol?, double]
    dsimp only
    rw [singleSymbol?_letter letter, Option.map_none]

end

namespace Lexer

theorem closing?_letter {c : Char} (letter : isLetter c = true) (rest : List Char) :
    closing? .output (c :: rest) = none := by
  have signless : takeSign (c :: rest) = (.kept, c :: rest) :=
    takeSign.eq_3 _ (fun _ equal => ne_of_isLetter letter rfl (List.cons.inj equal).1)
      fun _ equal => ne_of_isLetter letter rfl (List.cons.inj equal).1
  unfold closing?
  rw [signless]
  dsimp only
  split
  next => contradiction
  next same => exact absurd (List.cons.inj same).1 (ne_of_isLetter letter rfl)
  next => rfl

-- Behind an opening delimiter a letter begins a name, or else nothing can be read.
theorem step_letter {c : Char} (letter : isLetter c = true) (rest : List Char) (line : Nat) :
    (inOutput (c :: rest) line).step =
      if isNameStart c then
        ([⟨.name (String.ofList ((c :: rest).takeWhile isNameChar)), line⟩],
          some (inOutput ((c :: rest).dropWhile isNameChar) line))
      else ([⟨.trouble (.of .badForm "unexpected character"), line⟩], none) := by
  have gap := isGap_letter letter
  have still : (inOutput (c :: rest) line).passWhile isGap = inOutput (c :: rest) line := by
    simp [passWhile, pass, inOutput, gap, newLines]
  have token : (inOutput (c :: rest) line).step = (inOutput (c :: rest) line).token c := by
    change (inOutput (c :: rest) line).inside .output = _
    unfold inside
    simp only [still]
    simp only [inOutput, if_true, closing?_letter letter]
  have unquoted : (c == '"' || c == '\'') = false :=
    Bool.or_eq_false_iff.mpr ⟨beq_letter letter rfl, beq_letter letter rfl⟩
  have symbol : symbol? (inOutput (c :: rest) line).rest = none := symbol?_letter letter rest
  rw [token]
  unfold Lexer.token
  rw [symbol]
  simp only [unquoted, isAsciiDigit_letter letter, Bool.false_eq_true, if_false]
  rfl

theorem step_name {c : Char} {cs : List Char} (start : isNameStart c = true)
    (letters : ∀ c' ∈ c :: cs, isNameChar c' = true) {rest : List Char}
    (stops : ∀ c' ∈ rest.head?, isNameChar c' = false) (line : Nat) :
    (inOutput (c :: cs ++ rest) line).step =
      ([⟨.name (String.ofList (c :: cs)), line⟩], some (inOutput rest line)) := by
  have letter : isLetter c = true := by rw [isLetter, start, Bool.true_or]
  have stopped : rest.takeWhile isNameChar = [] ∧ rest.dropWhile isNameChar = rest := by
    cases rest with
    | nil => exact ⟨rfl, rfl⟩
    | cons d rest => simp [stops d rfl]
  have taken : (c :: cs ++ rest).takeWhile isNameChar = c :: cs := by
    rw [List.takeWhile_append_of_pos letters, stopped.1, List.append_nil]
  have dropped : (c :: cs ++ rest).dropWhile isNameChar = rest := by
    rw [List.dropWhile_append_of_pos letters, stopped.2]
  have stepped := step_letter letter (cs ++ rest) line
  rw [if_pos start] at stepped
  rw [List.cons_append] at taken dropped ⊢
  rw [stepped, taken, dropped]

theorem step_wide {c : Char} (wide : 128 ≤ c.toNat) (rest : List Char) (line : Nat) :
    (inOutput (c :: rest) line).step =
      ([⟨.trouble (.of .badForm "unexpected character"), line⟩], none) := by
  have letter : isLetter c = true := by rw [isLetter, decide_eq_true wide, Bool.or_true]
  have foreign := (Bool.or_eq_false_iff.mp (isNameChar_wide wide)).1
  rw [step_letter letter, if_neg (by rw [foreign]; exact Bool.false_ne_true)]

section

variable {l next : Lexer} {made : List Lexeme}

theorem run_on (stepped : l.step = (made, some next)) (gathered : List Lexeme) (fuel : Nat) :
    run gathered (fuel + 1) l = run (made.reverse ++ gathered) fuel next := by
  rw [run, stepped]

theorem run_last (stepped : l.step = (made, none)) (gathered : List Lexeme) (fuel : Nat) :
    run gathered (fuel + 1) l = gathered.reverse ++ made := by
  rw [run, stepped]
  simp

end

theorem dataLexeme_eq (text : List Char) (line : Nat) :
    dataLexeme text line = (dataChunk text line).flatMap Chunk.lexemes := by
  unfold dataLexeme dataChunk
  split <;> rfl

-- One reference, with the text in front of it, takes three steps.
theorem run_reference {name : String} (named : isName name = true) {text : List Char}
    (plain : '\x7b' ∉ text) (rest : List Char) (line : Nat) (gathered : List Lexeme) (fuel : Nat) :
    run gathered (fuel + 3)
        (inText (text ++ (Piece.reference name).source.toList ++ rest) line) =
      run ((dataLexeme text line ++
          (Chunk.output name (line + newLines text)).lexemes).reverse ++ gathered)
        fuel (inText rest (line + newLines text)) := by
  obtain ⟨c, cs, spelled, start, letters⟩ := isName_cons named
  have stops : ∀ c' ∈ (' ' :: '\x7d' :: '\x7d' :: rest).head?, isNameChar c' = false := by
    intro c' first
    cases first
    rfl
  have opening := step_opening plain (name.toList ++ ' ' :: '\x7d' :: '\x7d' :: rest) line
  have source : text ++ (Piece.reference name).source.toList ++ rest =
      text ++ '\x7b' :: '\x7b' :: ' ' :: (name.toList ++ ' ' :: '\x7d' :: '\x7d' :: rest) := by
    rw [reference_source]
    simp
  have naming := step_name start letters stops (line + newLines text)
  rw [← spelled, String.ofList_toList, ← step_gap] at naming
  have closing := step_closing rest (line + newLines text)
  rw [← step_gap] at closing
  rw [source, run_on opening, run_on naming, run_on closing]
  simp [Chunk.lexemes]

theorem run_chunks {pieces : List Piece} (readable : ∀ piece ∈ pieces, piece.Readable)
    {pending : List Char} (plain : '\x7b' ∉ pending) {fuel : Nat}
    (enough : (pending ++ (sourceOf pieces).toList).length < fuel) (line : Nat)
    (gathered : List Lexeme) :
    run gathered fuel (inText (pending ++ (sourceOf pieces).toList) line) =
      gathered.reverse ++ (chunks line pending pieces).flatMap Chunk.lexemes := by
  induction pieces generalizing pending fuel line gathered with
  | nil =>
    obtain ⟨fuel, rfl⟩ := Nat.exists_eq_add_of_lt enough
    have source : pending ++ (sourceOf []).toList = pending := by simp [sourceOf]
    rw [source, run_last (step_text plain line), dataLexeme_eq, chunks]
  | cons piece rest ih =>
    obtain ⟨first, others⟩ := List.forall_mem_cons.mp readable
    rw [sourceOf_cons] at enough ⊢
    cases piece with
    | text s =>
      have plain : '\x7b' ∉ pending ++ s.toList := by
        rw [List.mem_append, not_or]
        exact ⟨plain, first⟩
      rw [← List.append_assoc] at enough ⊢
      exact ih others plain enough line gathered
    | reference name =>
      rw [reference_source] at enough
      simp only [List.length_append, List.length_cons] at enough
      obtain ⟨fuel, rfl⟩ : ∃ less, fuel = less + 3 := ⟨fuel - 3, by omega⟩
      rw [← List.append_assoc, run_reference first plain]
      have shorter : ([] ++ (sourceOf rest).toList).length < fuel := by
        rw [List.nil_append]
        omega
      have rest' := ih others List.not_mem_nil shorter (line + newLines pending)
      rw [List.nil_append] at rest'
      rw [rest', chunks, dataLexeme_eq]
      simp

end Lexer

theorem lexemes_pieces {pieces : List Piece} (readable : ∀ piece ∈ pieces, piece.Readable) :
    lexemes (sourceOf pieces) = (chunks 1 [] pieces).flatMap Chunk.lexemes :=
  Lexer.run_chunks readable List.not_mem_nil (Nat.lt_succ_self _) 1 []

-- Reading ends at a character that ASCII does not have, behind the name in front of it if any.
theorem lexemes_wide {name : String} {front rest : List Char} {c : Char}
    (spelled : name.toList = front ++ c :: rest) (wide : 128 ≤ c.toNat)
    (named : front = [] ∨ isName (String.ofList front) = true) :
    ∃ word : Option String, lexemes (sourceOf [.reference name]) =
      ⟨.outputStart, 1⟩ :: (word.toList.map (⟨.name ·, 1⟩) ++
        [⟨.trouble (.of .badForm "unexpected character"), 1⟩]) := by
  let last := rest ++ [' ', '\x7d', '\x7d']
  have source : (sourceOf [.reference name]).toList =
      [] ++ '\x7b' :: '\x7b' :: ' ' :: (front ++ c :: last) := by
    rw [sourceOf_cons, reference_source, spelled]
    simp [sourceOf, last]
  obtain ⟨fuel, enough⟩ : ∃ fuel, (sourceOf [.reference name]).toList.length + 1 = fuel + 3 := by
    refine ⟨(sourceOf [.reference name]).toList.length - 2, ?_⟩
    rw [source]
    simp
  have opening : (Lexer.inText ([] ++ '\x7b' :: '\x7b' :: ' ' :: (front ++ c :: last)) 1).step =
      ([⟨.outputStart, 1⟩], some (Lexer.inOutput (' ' :: (front ++ c :: last)) 1)) :=
    Lexer.step_opening List.not_mem_nil _ 1
  have stopping := Lexer.step_wide wide last 1
  have run : lexemes (sourceOf [.reference name]) = Lexer.run [⟨.outputStart, 1⟩] (fuel + 2)
      (Lexer.inOutput (' ' :: (front ++ c :: last)) 1) := by
    unfold lexemes
    change Lexer.run [] _ (Lexer.inText _ 1) = _
    rw [enough, source, Lexer.run_on opening]
    rfl
  rw [run]
  rcases named with rfl | named
  · refine ⟨none, ?_⟩
    rw [← Lexer.step_gap] at stopping
    rw [List.nil_append, Lexer.run_last stopping]
    rfl
  · obtain ⟨c', cs, spelled', start, letters⟩ := isName_cons named
    rw [String.toList_ofList] at spelled'
    have stops : ∀ d ∈ (c :: last).head?, isNameChar d = false := by
      intro d first
      cases first
      exact isNameChar_wide wide
    have naming := Lexer.step_name start letters stops 1
    rw [← spelled', ← Lexer.step_gap] at naming
    refine ⟨some (String.ofList front), ?_⟩
    rw [Lexer.run_on naming, Lexer.run_last stopping]
    rfl

end Template

end RowPress
