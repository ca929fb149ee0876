import RowPress.Proofs.Lexing
import RowPress.Template.Statement
/-!
What the grammar makes of a name between delimiters, and of the chunks of a source: one node each.
-/
namespace RowPress.Template

section

variable {σ ε α β : Type} {x : StateT σ (Except ε) α} {s s' : σ} {a : α} {e : ε}

theorem bind_ran (ran : x s = .ok (a, s')) (f : α → StateT σ (Except ε) β) :
    (x >>= f) s = f a s' := by
  change (x s >>= fun r => f r.1 r.2) = _
  rw [ran]
  rfl

theorem bind_stopped (stopped : x s = .error e) (f : α → StateT σ (Except ε) β) :
    (x >>= f) s = .error e := by
  change (x s >>= fun r => f r.1 r.2) = _
  rw [stopped]
  rfl

end

-- The expression that a name stands for: a few names are literals.
def Expr.word (name : String) (line : Nat) : Expr :=
  if name == "true" || name == "True" then .literal (.bool true) line
  else if name == "false" || name == "False" then .literal (.bool false) line
  else if name == "none" || name == "None" then .literal .none line
  else .name name line

namespace Stream

variable {s : Stream} {t : Token} {line : Nat} {rest : List Lexeme}

-- A stream behind its first lexeme.
def past (s : Stream) (line : Nat) (rest : List Lexeme) : Stream := { s with rest, line }

def Shows (s : Stream) (t : Token) : Prop := Parsing.peek s = .ok (some t, s)

theorem get_reads (s : Stream) : (get : Parsing Stream) s = .ok (s, s) := rfl

theorem shows_front (front : s.rest = ⟨t, line⟩ :: rest) (sound : ∀ f, t ≠ .trouble f) :
    s.Shows t := by
  unfold Shows Parsing.peek
  rw [bind_ran (get_reads s), front]
  cases t with
  | trouble f => exact absurd rfl (sound f)
  | _ => rfl

theorem peek_trouble {f : Fault} (front : s.rest = ⟨.trouble f, line⟩ :: rest) :
    Parsing.peek s = .error (f.within s.template line) := by
  unfold Parsing.peek
  rw [bind_ran (get_reads s), front]
  rfl

theorem next_front (front : s.rest = ⟨t, line⟩ :: rest) (sound : ∀ f, t ≠ .trouble f) :
    Parsing.next s = .ok (some t, s.past line rest) := by
  unfold Parsing.next
  rw [bind_ran (shows_front front sound)]
  cases s
  cases front
  rfl

theorem next_end (ended : s.rest = []) : Parsing.next s = .ok (none, s) := by
  have none : Parsing.peek s = .ok (none, s) := by
    unfold Parsing.peek
    rw [bind_ran (get_reads s), ended]
    rfl
  unfold Parsing.next
  rw [bind_ran none]
  cases s
  cases ended
  rfl

end Stream

namespace Parsing

variable {s : Stream} {t : Token}

theorem meets_shown (shows : s.Shows t) (test : Token → Bool) :
    meets test s = .ok (test t, s) := by
  unfold meets
  rw [bind_ran shows]
  rfl

theorem skip_other (shows : s.Shows t) {test : Token → Bool} (other : test t = false) :
    skip test s = .ok (false, s) := by
  unfold skip
  rw [bind_ran (meets_shown shows test), other]
  rfl

theorem skip_front {line : Nat} {rest : List Lexeme} (front : s.rest = ⟨t, line⟩ :: rest)
    (sound : ∀ f, t ≠ .trouble f) {test : Token → Bool} (meant : test t = true) :
    skip test s = .ok (true, s.past line rest) := by
  unfold skip
  rw [bind_ran (meets_shown (Stream.shows_front front sound) test), if_pos meant]
  change ((discard next : Parsing PUnit) >>= fun _ => pure true) s = _
  have gone : (discard next : Parsing PUnit) s = .ok (⟨⟩, s.past line rest) := by
    change (next >>= fun _ => pure ⟨⟩ : Parsing PUnit) s = _
    rw [bind_ran (Stream.next_front front sound)]
    rfl
  rw [bind_ran gone]
  rfl

theorem skip_stopped {e : Fault} (stopped : peek s = .error e) (test : Token → Bool) :
    skip test s = .error e := by
  unfold skip meets
  rw [bind_stopped (bind_stopped stopped _)]

theorem expectAny_front {line : Nat} {rest : List Lexeme} (front : s.rest = ⟨t, line⟩ :: rest)
    (sound : ∀ f, t ≠ .trouble f) (expected : String) :
    expectAny expected s = .ok (t, s.past line rest) := by
  unfold expectAny
  rw [bind_ran (Stream.next_front front sound)]
  rfl

theorem expect_front {line : Nat} {rest : List Lexeme} (front : s.rest = ⟨t, line⟩ :: rest)
    (sound : ∀ f, t ≠ .trouble f) {test : Token → Bool} (meant : test t = true)
    (expected : String) : expect test expected s = .ok ((), s.past line rest) := by
  unfold expect
  rw [bind_ran (expectAny_front front sound expected), if_pos meant]
  rfl

theorem bound_reads (s : Stream) : bound s = .ok (s.size, s) := rfl

end Parsing

namespace Grammar

open Parsing

variable {g : Grammar} {base part : Parsing Expr} {s s' : Stream} {t : Token} {e : Expr}
  {line : Nat} {rest : List Lexeme} {operator? : Token → Option (Expr → Expr → Expr)}

-- The loops that go on where something is attached end at a closing delimiter, whatever their
-- fuel.
theorem postfixes_closing (shows : s.Shows .outputEnd) (fuel : Nat) :
    postfixes g fuel e s = .ok (e, s) := by
  cases fuel with
  | zero => rfl
  | succ fuel => rw [postfixes, bind_ran shows]; rfl

theorem refinements_closing (shows : s.Shows .outputEnd) (fuel : Nat) :
    refinements g base fuel e s = .ok (e, s) := by
  cases fuel with
  | zero => rfl
  | succ fuel =>
    rw [refinements, skipSymbol, bind_ran (skip_other shows rfl), if_neg Bool.false_ne_true,
      skipWord, bind_ran (skip_other shows rfl)]
    rfl

theorem chain_closing (shows : s.Shows .outputEnd) (ends : operator? .outputEnd = none)
    (fuel : Nat) : chain operator? part fuel e s = .ok (e, s) := by
  cases fuel with
  | zero => rfl
  | succ fuel =>
    rw [chain, bind_ran shows, Option.bind_some, ends]
    rfl

theorem comparisons_closing (shows : s.Shows .outputEnd) (fuel : Nat) :
    comparisons part fuel e s = .ok (e, s) := by
  cases fuel with
  | zero => rfl
  | succ fuel =>
    rw [comparisons, bind_ran shows]
    change (skipWord "not" >>= _) s = _
    rw [skipWord, bind_ran (skip_other shows rfl)]
    rfl

theorem conditions_closing (shows : s.Shows .outputEnd) (fuel : Nat) :
    conditions part fuel e s = .ok (e, s) := by
  cases fuel with
  | zero => rfl
  | succ fuel =>
    rw [conditions, skipWord, bind_ran (skip_other shows rfl)]
    rfl

-- Without a sign in front an operand stands for itself, and so does a condition without `not`.
theorem negated_plain (shows : s.Shows t) (signless : t.isSymbol .minus = false) (fuel : Nat) :
    negated base fuel s = base s := by
  cases fuel with
  | zero => rfl
  | succ fuel =>
    rw [negated, skipSymbol, bind_ran (skip_other shows signless)]
    rfl

theorem inverted_plain (shows : s.Shows t) (upright : t.isName "not" = false) (fuel : Nat) :
    inverted part fuel s = part s := by
  cases fuel with
  | zero => rfl
  | succ fuel =>
    rw [inverted, skipWord, bind_ran (skip_other shows upright)]
    rfl

theorem level_reads (read : part s = .ok (e, s')) (shows : s'.Shows .outputEnd)
    (ends : operator? .outputEnd = none) : level operator? part s = .ok (e, s') := by
  unfold level
  rw [bind_ran read, bind_ran (bound_reads s'), chain_closing shows ends]

theorem attached_reads (shows : s.Shows t) (signless : t.isSymbol .minus = false)
    (read : base s = .ok (e, s')) (closing : s'.Shows .outputEnd) :
    attached g base s = .ok (e, s') := by
  have plain : negated base s.size s = .ok (e, s') := by rw [negated_plain shows signless, read]
  unfold attached
  rw [bind_ran (bound_reads s), bind_ran plain, bind_ran (bound_reads s'),
    postfixes_closing closing]

theorem sum_reads (shows : s.Shows t) (signless : t.isSymbol .minus = false)
    (read : base s = .ok (e, s')) (closing : s'.Shows .outputEnd) :
    sum g base s = .ok (e, s') := by
  have refined : unary g base s = .ok (e, s') := by
    unfold unary
    rw [bind_ran (attached_reads shows signless read closing), bind_ran (bound_reads s'),
      refinements_closing closing]
  exact level_reads (level_reads (level_reads (level_reads refined closing rfl) closing rfl)
    closing rfl) closing rfl

theorem disjunction_reads (shows : s.Shows t) (signless : t.isSymbol .minus = false)
    (upright : t.isName "not" = false) (read : base s = .ok (e, s'))
    (closing : s'.Shows .outputEnd) : disjunction g base s = .ok (e, s') := by
  have compared : comparison (sum g base) s = .ok (e, s') := by
    unfold comparison
    rw [bind_ran (sum_reads shows signless read closing), bind_ran (bound_reads s'),
      comparisons_closing closing]
  have stood : (bound >>= fun n => inverted (comparison (sum g base)) n) s = .ok (e, s') := by
    rw [bind_ran (bound_reads s), inverted_plain shows upright, compared]
  exact level_reads (level_reads stood closing rfl) closing rfl

theorem operand_word {name : String} (front : s.rest = ⟨.name name, line⟩ :: rest) :
    operand g s = .ok (.word name line, s.past line rest) := by
  unfold operand
  rw [bind_ran (expectAny_front front nofun _), bind_ran (Stream.get_reads _)]
  unfold Expr.word
  dsimp only [Stream.past]
  split
  · rfl
  · split
    · rfl
    · split <;> rfl

-- Between delimiters a name is the whole expression.
theorem full_word {name : String} (room : Nat) (front : s.rest = ⟨.name name, line⟩ :: rest)
    (upright : name ≠ "not") (closing : (s.past line rest).Shows .outputEnd) :
    (within (room + 2)).full s = .ok (.word name line, s.past line rest) := by
  have read : disjunction (within (room + 1)) (operand (within room)) s =
      .ok (.word name line, s.past line rest) :=
    disjunction_reads (Stream.shows_front front nofun) rfl (beq_eq_false_iff_ne.mpr upright)
      (operand_word front) closing
  change conditional (fun s => disjunction (within (room + 1)) (operand (within room)) s) s = _
  unfold conditional
  rw [bind_ran read, bind_ran (bound_reads _), conditions_closing closing]

theorem inverted_broken {f : Fault} (broken : peek s = .error f) (fuel : Nat) :
    inverted part (fuel + 1) s = .error f := by
  rw [inverted, skipWord, bind_stopped (skip_stopped broken _)]

theorem inverted_not (front : s.rest = ⟨.name "not", line⟩ :: rest) {f : Fault} {fuel : Nat}
    (stopped : inverted part fuel (s.past line rest) = .error f) :
    inverted part (fuel + 1) s = .error f := by
  rw [inverted, skipWord, bind_ran (skip_front front nofun rfl)]
  change (inverted part fuel >>= fun e => pure (Expr.opposite e)) (s.past line rest) = _
  rw [bind_stopped stopped]

theorem attached_stopped (shows : s.Shows t) (signless : t.isSymbol .minus = false) {f : Fault}
    (stopped : base s = .error f) : attached g base s = .error f := by
  have plain : negated base s.size s = .error f := by rw [negated_plain shows signless, stopped]
  unfold attached
  rw [bind_ran (bound_reads s), bind_stopped plain]

-- An operand has been read, but what comes next cannot be.
theorem attached_broken (shows : s.Shows t) (signless : t.isSymbol .minus = false)
    (read : base s = .ok (e, s')) {f : Fault} (broken : peek s' = .error f)
    (filled : 0 < s'.size) : attached g base s = .error f := by
  have plain : negated base s.size s = .ok (e, s') := by rw [negated_plain shows signless, read]
  obtain ⟨fuel, size⟩ : ∃ fuel, s'.size = fuel + 1 := ⟨s'.size - 1, by omega⟩
  unfold attached
  rw [bind_ran (bound_reads s), bind_ran plain, bind_ran (bound_reads s'), size, postfixes,
    bind_stopped broken]

theorem comparison_stopped {f : Fault} (stopped : attached g base s = .error f) :
    comparison (sum g base) s = .error f := by
  have unary : unary g base s = .error f := bind_stopped stopped _
  have sum : sum g base s = .error f :=
    bind_stopped (bind_stopped (bind_stopped (bind_stopped unary _) _) _) _
  exact bind_stopped sum _

theorem full_stopped {f : Fault} (room : Nat)
    (stopped : inverted (comparison (sum (within (room + 1)) (operand (within room)))) s.size s =
      .error f) : (within (room + 2)).full s = .error f := by
  have inner : (bound >>= fun n =>
      inverted (comparison (sum (within (room + 1)) (operand (within room)))) n) s = .error f := by
    rw [bind_ran (bound_reads s), stopped]
  have plain : disjunction (within (room + 1)) (operand (within room)) s = .error f :=
    bind_stopped (bind_stopped inner _) _
  exact bind_stopped plain _

end Grammar

def Chunk.node : Chunk → Node
  | .data text _ => .data (String.ofList text)
  | .output name line => .output (.word name line) line

def Chunk.Upright : Chunk → Prop
  | .data _ _ => True
  | .output name _ => name ≠ "not"

namespace Tag

open Parsing

theorem nodes_chunk {chunk : Chunk} (upright : chunk.Upright) (room : Nat) {tag : Parsing Node}
    {ends : Token → Bool} {s : Stream} {rest : List Lexeme}
    (front : s.rest = chunk.lexemes ++ rest) (fuel : Nat) (gathered : List Node) :
    ∃ s', s'.rest = rest ∧
      nodes (Grammar.within (room + 2)) tag ends (fuel + 1) gathered s =
        nodes (Grammar.within (room + 2)) tag ends fuel (chunk.node :: gathered) s' := by
  cases chunk with
  | data text line =>
    refine ⟨s.past line rest, rfl, ?_⟩
    rw [nodes, bind_ran (Stream.next_front front nofun)]
    rfl
  | output name line =>
    let opened := s.past line (⟨.name name, line⟩ :: ⟨.outputEnd, line⟩ :: rest)
    let named := opened.past line (⟨.outputEnd, line⟩ :: rest)
    have ended : named.rest = ⟨.outputEnd, line⟩ :: rest := rfl
    have closing : named.Shows .outputEnd := Stream.shows_front ended nofun
    have read : (Grammar.within (room + 2)).full opened = .ok (.word name line, named) :=
      Grammar.full_word room rfl upright closing
    refine ⟨named.past line rest, rfl, ?_⟩
    rw [nodes, bind_ran (Stream.next_front front nofun)]
    change ((get : Parsing Stream) >>= _) opened = _
    rw [bind_ran (Stream.get_reads _), bind_ran read, bind_ran (expect_front ended nofun rfl _)]
    rfl

theorem nodes_chunks {chunks : List Chunk} (upright : ∀ chunk ∈ chunks, chunk.Upright)
    (room : Nat) {tag : Parsing Node} {ends : Token → Bool} {s : Stream}
    (spelled : s.rest = chunks.flatMap Chunk.lexemes) {fuel : Nat} (enough : chunks.length < fuel)
    (gathered : List Node) :
    ∃ s', nodes (Grammar.within (room + 2)) tag ends fuel gathered s =
      .ok (gathered.reverse ++ chunks.map Chunk.node, s') := by
  induction chunks generalizing s fuel gathered with
  | nil =>
    obtain ⟨fuel, rfl⟩ := Nat.exists_eq_add_of_lt enough
    refine ⟨s, ?_⟩
    rw [nodes, bind_ran (Stream.next_end spelled), List.map_nil, List.append_nil]
    rfl
  | cons chunk rest ih =>
    obtain ⟨first, others⟩ := List.forall_mem_cons.mp upright
    obtain ⟨fuel, rfl⟩ : ∃ less, fuel = less + 1 := ⟨fuel - 1, by omega⟩
    obtain ⟨s', left, taken⟩ := nodes_chunk first room spelled fuel gathered
    obtain ⟨last, read⟩ := ih others left (Nat.lt_of_succ_lt_succ enough) (chunk.node :: gathered)
    refine ⟨last, ?_⟩
    rw [taken, read]
    simp

end Tag

theorem length_chunks_le (chunks : List Chunk) :
    chunks.length ≤ (chunks.flatMap Chunk.lexemes).length := by
  induction chunks with
  | nil => exact Nat.le_refl 0
  | cons chunk rest ih =>
    have some' : 1 ≤ chunk.lexemes.length := by cases chunk <;> simp [Chunk.lexemes]
    simp only [List.flatMap_cons, List.length_cons, List.length_append]
    omega

theorem parse_chunks {chunks : List Chunk} (upright : ∀ chunk ∈ chunks, chunk.Upright)
    (template : String) :
    parse template (chunks.flatMap Chunk.lexemes) = .ok (chunks.map Chunk.node) := by
  let s := Stream.start template (chunks.flatMap Chunk.lexemes)
  have enough : chunks.length < s.size + 1 := Nat.lt_succ_of_le (length_chunks_le chunks)
  obtain ⟨s', read⟩ : ∃ s', Tag.nodes (Grammar.within 150) (Tag.within 150) (fun _ => false)
      (s.size + 1) [] s = .ok ([].reverse ++ chunks.map Chunk.node, s') :=
    Tag.nodes_chunks upright 148 rfl enough []
  have whole : Tag.body Tag.maxNesting (Tag.within Tag.maxNesting) (fun _ => false) s =
      .ok (chunks.map Chunk.node, s') := by
    unfold Tag.body
    rw [bind_ran (Parsing.bound_reads s)]
    exact read
  unfold parse StateT.run
  rw [whole]
  rfl

-- A template whose first output holds no expression that can be read.
theorem parse_stopped {template : String} {line : Nat} {rest : List Lexeme} {f : Fault}
    (stopped : (Grammar.within Tag.maxNesting).full
      ((Stream.start template (⟨.outputStart, line⟩ :: rest)).past line rest) = .error f) :
    parse template (⟨.outputStart, line⟩ :: rest) = .error f := by
  let s := Stream.start template (⟨.outputStart, line⟩ :: rest)
  have whole : Tag.body Tag.maxNesting (Tag.within Tag.maxNesting) (fun _ => false) s =
      .error f := by
    have front : s.rest = ⟨.outputStart, line⟩ :: rest := rfl
    unfold Tag.body
    rw [bind_ran (Parsing.bound_reads s), Tag.nodes, bind_ran (Stream.next_front front nofun)]
    change ((get : Parsing Stream) >>= _) (s.past line rest) = _
    rw [bind_ran (Stream.get_reads _), bind_stopped stopped]
  unfold parse StateT.run
  rw [whole]
  rfl

-- Behind a delimiter, or behind the name that comes next, nothing can be read.
theorem parse_trouble (template : String) (line : Nat) (name : Option String) (f : Fault) :
    parse template
      (⟨.outputStart, line⟩ :: (name.toList.map (⟨.name ·, line⟩) ++ [⟨.trouble f, line⟩])) =
        .error (f.within template line) := by
  cases name with
  | none =>
    let s := (Stream.start template [⟨.outputStart, line⟩, ⟨.trouble f, line⟩]).past line
      [⟨.trouble f, line⟩]
    have broken : Parsing.peek s = .error (f.within template line) := Stream.peek_trouble rfl
    exact parse_stopped (Grammar.full_stopped 148 (Grammar.inverted_broken broken 1))
  | some word =>
    let s := (Stream.start template
      [⟨.outputStart, line⟩, ⟨.name word, line⟩, ⟨.trouble f, line⟩]).past line
      [⟨.name word, line⟩, ⟨.trouble f, line⟩]
    have front : s.rest = ⟨.name word, line⟩ :: [⟨.trouble f, line⟩] := rfl
    have broken : Parsing.peek (s.past line [⟨.trouble f, line⟩]) =
        .error (f.within template line) := Stream.peek_trouble rfl
    refine parse_stopped (Grammar.full_stopped 148 ?_)
    by_cases upright : word = "not"
    · subst upright
      exact Grammar.inverted_not front (Grammar.inverted_broken broken 1)
    · have shows := Stream.shows_front front nofun
      have read := Grammar.operand_word (g := Grammar.within 148) front
      have stopped : Grammar.comparison (Grammar.sum (Grammar.within 149)
          (Grammar.operand (Grammar.within 148))) s = .error (f.within template line) :=
        Grammar.comparison_stopped (Grammar.attached_broken shows rfl read broken (Nat.succ_pos 2))
      exact (Grammar.inverted_plain shows (beq_eq_false_iff_ne.mpr upright) 3).trans stopped

-- Nothing is left to be inverted.
theorem parse_not (template : String) (line : Nat) :
    parse template (Chunk.output "not" line).lexemes =
      .error ((Fault.of .badForm "unexpected end of variable block").within template line) := by
  let s := (Stream.start template (Chunk.output "not" line).lexemes).past line
    [⟨.name "not", line⟩, ⟨.outputEnd, line⟩]
  let inner := s.past line [⟨.outputEnd, line⟩]
  have front : s.rest = ⟨.name "not", line⟩ :: [⟨.outputEnd, line⟩] := rfl
  have ended : inner.rest = ⟨.outputEnd, line⟩ :: [] := rfl
  have shows := Stream.shows_front ended nofun
  have operand : Grammar.operand (Grammar.within 148) inner =
      .error ((Fault.of .badForm "unexpected end of variable block").within template line) := by
    unfold Grammar.operand
    rw [bind_ran (Parsing.expectAny_front ended nofun _)]
    rfl
  have stopped := Grammar.comparison_stopped (g := Grammar.within 149)
    (Grammar.attached_stopped shows rfl operand)
  exact parse_stopped (Grammar.full_stopped 148 (Grammar.inverted_not front
    ((Grammar.inverted_plain shows rfl 2).trans stopped)))

end RowPress.Template
