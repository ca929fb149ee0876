import RowPress.Proofs.Parsing
import RowPress.Template.Renderer
/-!
Rendering a source of text and references: what it writes is the text as it stands, and for each
reference the display of the value that its name has.
-/
namespace RowPress

open Template

namespace Template

-- The model of a row as a template sees it.
def givenOf (model : Entries) : Variables := model.map fun (key, value) => (key, datumOfValue value)

-- The value that a name has where nothing but the model is in scope.
def wordValue (model : Entries) (name : String) : Datum :=
  if name == "true" || name == "True" then .bool true
  else if name == "false" || name == "False" then .bool false
  else if name == "none" || name == "None" then .nothing
  else (((model.get? name).map datumOfValue).or (Machine.builtin? name)).getD .undefined

def Piece.shown (model : Entries) : Piece → String
  | .text s => s
  | .reference name => (wordValue model name).display

def Chunk.shown (model : Entries) : Chunk → String
  | .data text _ => String.ofList text
  | .output name _ => (wordValue model name).display

theorem get?_givenOf (model : Entries) (name : String) :
    (givenOf model).get? name = (model.get? name).map datumOfValue := by
  unfold givenOf Variables.get? Entries.get?
  rw [List.find?_map, Option.map_map, Option.map_map]
  rfl

-- Text that waits in front of the chunks is written with them.
theorem shown_chunks (model : Entries) (pieces : List Piece) (line : Nat) (pending : List Char) :
    String.join ((chunks line pending pieces).map (Chunk.shown model)) =
      String.ofList pending ++ String.join (pieces.map (Piece.shown model)) := by
  have shown_data (text : List Char) (line : Nat) :
      String.join ((dataChunk text line).map (Chunk.shown model)) = String.ofList text := by
    cases text <;> simp [dataChunk, Chunk.shown]
  induction pieces generalizing line pending with
  | nil => simp [chunks, shown_data]
  | cons piece rest ih =>
    cases piece with
    | text s =>
      rw [chunks, ih, String.ofList_append, String.ofList_toList, String.append_assoc]
      simp [Piece.shown]
    | reference name =>
      rw [chunks, List.map_append, String.join_append, shown_data]
      simp [ih, Chunk.shown, Piece.shown]

theorem chunks_upright {pieces : List Piece} (upright : .reference "not" ∉ pieces) (line : Nat)
    (pending : List Char) : ∀ chunk ∈ chunks line pending pieces, chunk.Upright := by
  have data (text : List Char) (line : Nat) : ∀ chunk ∈ dataChunk text line, chunk.Upright := by
    intro chunk member
    unfold dataChunk at member
    split at member
    · cases member
    · rw [List.mem_singleton.mp member]
      trivial
  induction pieces generalizing line pending with
  | nil => exact data pending line
  | cons piece rest ih =>
    obtain ⟨first, others⟩ := not_or.mp (mt List.mem_cons.mpr upright)
    cases piece with
    | text s => exact ih others line _
    | reference name =>
      intro chunk member
      rcases List.mem_append.mp member with before | after
      · exact data pending line chunk before
      · rcases List.mem_cons.mp after with rfl | later
        · rintro rfl
          exact first rfl
        · exact ih others _ _ chunk later

-- A machine that has done nothing but write, and whose text goes through as it is.
structure Machine.Fresh (model : Entries) (m : Machine) : Prop where
  frames : m.frames = [.empty]
  base : m.base = .model (givenOf model)
  stores : m.stores = #[]
  escape : m.escape = .off
  dropping : m.dropping = false
  parent : m.parent = none

def Machine.wrote (m : Machine) (s : String) : Machine := { m with output := m.output ++ s }

section

variable {model : Entries} {m : Machine}

theorem Machine.Fresh.wrote (fresh : m.Fresh model) (s : String) : (m.wrote s).Fresh model :=
  ⟨fresh.frames, fresh.base, fresh.stores, fresh.escape, fresh.dropping, fresh.parent⟩

theorem wrote_wrote (m : Machine) (s t : String) : (m.wrote s).wrote t = m.wrote (s ++ t) := by
  unfold Machine.wrote
  rw [String.append_assoc]

theorem lookUp?_fresh (fresh : m.Fresh model) (name : String) :
    m.lookUp? name = ((model.get? name).map datumOfValue).or (Machine.builtin? name) := by
  unfold Machine.lookUp? Machine.baseLookUp
  rw [fresh.frames, fresh.base, ← get?_givenOf]
  rfl

theorem eval_word (fresh : m.Fresh model) (levels : Nat) (name : String) (line : Nat) :
    (engine (levels + 1)).eval (.word name line) m = .ok (wordValue model name, m) := by
  change evalStep (engine levels) (.word name line) m = _
  unfold Expr.word wordValue
  rw [← lookUp?_fresh fresh]
  split
  · rfl
  · split
    · rfl
    · split <;> rfl

-- Loops come from tags only.
theorem wordValue_ne_loop (model : Entries) (name : String) (id : Nat) :
    wordValue model name ≠ .loop id := by
  unfold wordValue
  split
  · nofun
  · split
    · nofun
    · split
      · nofun
      · cases model.get? name with
        | none =>
          rw [Option.map_none, Option.none_or]
          unfold Machine.builtin?
          split <;> nofun
        | some v =>
          cases v with
          | scalar s => cases s <;> nofun
          | sequence items => nofun
          | map entries => nofun

theorem settled_word (fresh : m.Fresh model) (name : String) :
    m.settled (wordValue model name) = wordValue model name := by
  have other := wordValue_ne_loop model name
  unfold Machine.settled
  rw [fresh.stores, if_pos (by rfl)]
  split
  next id same => exact absurd same (other id)
  next => rfl

theorem write_off (d : Datum) : Escape.off.write d = .ok d.display := by
  cases d with
  | text s safe => cases safe <;> rfl
  | _ => rfl

theorem emit_fresh (fresh : m.Fresh model) (s : String) :
    Rendering.emit s m = .ok ((), m.wrote s) := by
  change Except.ok ((), if m.dropping then m else m.wrote s) = _
  rw [fresh.dropping]
  rfl

theorem emitDatum_word (fresh : m.Fresh model) (name : String) (line : Nat) :
    emitDatum line (wordValue model name) m =
      .ok ((), m.wrote (wordValue model name).display) := by
  have settled : Template.settled (wordValue model name) m = .ok (wordValue model name, m) := by
    change Except.ok (m.settled (wordValue model name), m) = _
    rw [settled_word fresh]
  have got : (get : Rendering Machine) m = .ok (m, m) := rfl
  have written : Rendering.located line
      (Rendering.ofOutcome (m.escape.write (wordValue model name))) m =
      .ok ((wordValue model name).display, m) := by
    rw [fresh.escape, write_off]
    rfl
  unfold emitDatum
  rw [bind_ran settled, bind_ran got, bind_ran written, emit_fresh fresh]

theorem execNode_chunk (fresh : m.Fresh model) (levels : Nat) (chunk : Chunk) :
    execNode (engine (levels + 1)) chunk.node m = .ok (.on, m.wrote (chunk.shown model)) := by
  cases chunk with
  | data text line =>
    change (Rendering.emit (String.ofList text) >>= fun _ => pure Flow.on) m = _
    rw [bind_ran (emit_fresh fresh _)]
    rfl
  | output name line =>
    change ((engine (levels + 1)).eval (.word name line) >>= fun d =>
      emitDatum (max line (Expr.word name line).lastLine) d >>= fun _ => pure Flow.on) m = _
    rw [bind_ran (eval_word fresh levels name line), bind_ran (emitDatum_word fresh name _)]
    rfl

theorem execStep_chunks (fresh : m.Fresh model) (levels : Nat) (chunks : List Chunk) :
    execStep (engine (levels + 1)) (chunks.map Chunk.node) m =
      .ok (.on, m.wrote (String.join (chunks.map (Chunk.shown model)))) := by
  induction chunks generalizing m with
  | nil =>
    change Except.ok (Flow.on, m) = _
    simp [Machine.wrote]
  | cons chunk rest ih =>
    rw [List.map_cons, execStep, bind_ran (execNode_chunk fresh levels chunk)]
    dsimp only
    rw [ih (fresh.wrote _), wrote_wrote, List.map_cons, String.join_cons]

theorem execInherited_chunks (fresh : m.Fresh model) (levels rounds : Nat)
    (chunks : List Chunk) :
    execInherited (engine (levels + 2)) (rounds + 1) (chunks.map Chunk.node) m =
      .ok ((), m.wrote (String.join (chunks.map (Chunk.shown model)))) := by
  let written := m.wrote (String.join (chunks.map (Chunk.shown model)))
  have ran : (discard ((engine (levels + 2)).exec (chunks.map Chunk.node)) : Rendering PUnit) m =
      .ok (⟨⟩, written) := by
    have executed : (engine (levels + 2)).exec (chunks.map Chunk.node) m = .ok (.on, written) :=
      execStep_chunks fresh levels chunks
    change ((engine (levels + 2)).exec (chunks.map Chunk.node) >>= fun _ => pure ⟨⟩ :
      Rendering PUnit) m = _
    rw [bind_ran executed]
    rfl
  have got : (get : Rendering Machine) written = .ok (written, written) := rfl
  have childless : written.parent = none := fresh.parent
  rw [execInherited, bind_ran ran, bind_ran got, childless]
  rfl

end

-- A template that is made of chunks only, among any others.
theorem renderTemplate_chunks (library : Library) (model : Entries) (name : String) (size : Nat)
    (chunks : List Chunk) :
    renderTemplate library ⟨name, size, chunks.map Chunk.node⟩ (givenOf model) =
      .ok (String.join (chunks.map (Chunk.shown model))) := by
  let template : Compiled := ⟨name, size, chunks.map Chunk.node⟩
  obtain ⟨levels, enough⟩ : ∃ levels, levelsFor library = levels + 2 := by
    refine ⟨levelsFor library - 2, ?_⟩
    unfold levelsFor maxDepth
    omega
  let started := Machine.start library template (givenOf model)
  let opened : Machine := { started with
    inherited := [name]
    blocks := addBlocks template [] }
  have fresh : opened.Fresh model := ⟨rfl, rfl, rfl, rfl, rfl, rfl⟩
  have ran : execTemplate (engine (levelsFor library)) template started =
      .ok ((), opened.wrote (String.join (chunks.map (Chunk.shown model)))) := by
    rw [enough]
    exact execInherited_chunks fresh levels library.count chunks
  unfold renderTemplate StateT.run
  rw [ran]
  change Except.ok ("" ++ String.join (chunks.map (Chunk.shown model))) = _
  rw [String.empty_append]

end Template

-- Whatever the values are, each reference writes the display of its own.
theorem render_pieces {pieces : List Piece} (readable : ∀ piece ∈ pieces, piece.Readable)
    (upright : .reference "not" ∉ pieces) (r : Renderer) (name : String) :
    ∃ r', r.compile name (sourceOf pieces) = .ok r' ∧ ∀ row model,
      r'.render name row model = .ok (String.join (pieces.map (Piece.shown model))) := by
  let nodes := (chunks 1 [] pieces).map Chunk.node
  let template : Compiled := ⟨name, (sourceOf pieces).length, nodes⟩
  have parsed : parse name (lexemes (sourceOf pieces)) = .ok nodes := by
    rw [lexemes_pieces readable, parse_chunks (chunks_upright upright 1 [])]
  have compiled : Template.compile name (sourceOf pieces) = .ok template := by
    unfold Template.compile
    rw [parsed]
    rfl
  refine ⟨r.put template, ?_, ?_⟩
  · unfold Renderer.compile
    rw [compiled]
  · intro row model
    have found : (r.put template).get? name = some template := by
      unfold Renderer.get? Renderer.put
      exact List.find?_cons_of_pos (beq_self_eq_true name)
    have rendered : renderTemplate (.ofList (r.put template).templates) template (givenOf model) =
        .ok (String.join (pieces.map (Piece.shown model))) := by
      rw [renderTemplate_chunks, shown_chunks, String.ofList_nil, String.empty_append]
    unfold givenOf at rendered
    unfold Renderer.render
    rw [found]
    dsimp only
    rw [rendered]

theorem sourceOf_reference (key : String) :
    sourceOf [.reference key] = "\x7b\x7b " ++ key ++ " \x7d\x7d" := by
  simp [sourceOf, Piece.source]

theorem render_reference {key : String} (named : isName key = true) (upright : key ≠ "not")
    (r : Renderer) (name : String) :
    ∃ r', r.compile name ("\x7b\x7b " ++ key ++ " \x7d\x7d") = .ok r' ∧ ∀ row model,
      r'.render name row model = .ok (wordValue model key).display := by
  have readable : ∀ piece ∈ [Piece.reference key], piece.Readable :=
    List.forall_mem_singleton.mpr named
  have upright : Piece.reference "not" ∉ [Piece.reference key] := by
    intro member
    cases List.mem_singleton.mp member
    exact upright rfl
  obtain ⟨r', compiled, renders⟩ := render_pieces readable upright r name
  rw [sourceOf_reference] at compiled
  refine ⟨r', compiled, ?_⟩
  intro row model
  rw [renders row model, List.map_singleton]
  simp [Piece.shown]

namespace Template

-- The words at the start of an expression that name no variable.
def keywords : List String := ["not", "true", "True", "false", "False", "none", "None"]

-- The functions that are there without a model.
def globals : List String := ["range", "dict", "namespace", "debug"]

-- Text that opens nothing, and references to names that are free for a model to take.
def Piece.Plain : Piece → Prop
  | .text s => '\x7b' ∉ s.toList
  | .reference name => isName name = true ∧ name ∉ keywords ∧ name ∉ globals

instance : DecidablePred Piece.Plain
  | .text s => inferInstanceAs (Decidable ('\x7b' ∉ s.toList))
  | .reference name =>
    inferInstanceAs (Decidable (isName name = true ∧ name ∉ keywords ∧ name ∉ globals))

-- What a model may hold, or not hold, for a name that is referred to.
def Simple : Option Value → Prop
  | none => True
  | some (.scalar (.text _)) | some (.scalar (.integer _)) | some (.scalar (.bool _)) => True
  | _ => False

def written : Option Value → String
  | some (.scalar (.text s)) => s
  | some (.scalar (.integer n)) => toString n.toInt
  | some (.scalar (.bool b)) => if b then "True" else "False"
  | _ => ""

def Piece.written (model : Entries) : Piece → String
  | .text s => s
  | .reference name => Template.written (model.get? name)

theorem wordValue_variable {name : String} (free : name ∉ keywords) (model : Entries) :
    wordValue model name =
      (((model.get? name).map datumOfValue).or (Machine.builtin? name)).getD .undefined := by
  simp only [keywords, List.mem_cons, not_or] at free
  simp [wordValue, free]

theorem builtin?_free {name : String} (free : name ∉ globals) : Machine.builtin? name = none := by
  unfold Machine.builtin?
  split
  case h_5 => rfl
  all_goals exact absurd (by decide) free

theorem shown_free {name : String} (keyword : name ∉ keywords) (global : name ∉ globals)
    {model : Entries} (simple : Simple (model.get? name)) :
    (wordValue model name).display = Template.written (model.get? name) := by
  rw [wordValue_variable keyword, builtin?_free global, Option.or_none]
  cases held : model.get? name with
  | none => rfl
  | some v =>
    rw [held] at simple
    cases v with
    | scalar s =>
      cases s with
      | bool b => rfl
      | integer n => rfl
      | decimal x => exact simple.elim
      | text s => rfl
    | sequence items => exact simple.elim
    | map entries => exact simple.elim

end Template

theorem rendering_substitutes {pieces : List Piece} (plain : ∀ piece ∈ pieces, piece.Plain)
    (r : Renderer) (name : String) :
    ∃ r', r.compile name (sourceOf pieces) = .ok r' ∧ ∀ row (model : Entries),
      (∀ k, .reference k ∈ pieces → Simple (model.get? k)) →
        r'.render name row model = .ok (String.join (pieces.map (Piece.written model))) := by
  have readable : ∀ piece ∈ pieces, piece.Readable := by
    intro piece member
    have one := plain piece member
    cases piece with
    | text s => exact one
    | reference k => exact one.1
  have upright : .reference "not" ∉ pieces := by
    intro member
    exact (plain _ member).2.1 (by decide)
  obtain ⟨r', compiled, renders⟩ := render_pieces readable upright r name
  refine ⟨r', compiled, ?_⟩
  intro row model simple
  have same : pieces.map (Piece.shown model) = pieces.map (Piece.written model) := by
    refine List.map_congr_left fun piece member => ?_
    cases piece with
    | text s => rfl
    | reference k =>
      obtain ⟨_, keyword, global⟩ := plain _ member
      exact shown_free keyword global (simple k member)
  rw [renders row model, same]

-- Markup, a line end that two characters make, braces that close nothing, and a value with braces.
theorem rendering_substitutes_markup :
    ∃ r', Renderer.empty.compile "t.html"
        "<p>\x7b\x7b name \x7d\x7d</p>\r\n\x7b\x7b n \x7d\x7d \x7b\x7b gone \x7d\x7d\x7d%\x7d\n" =
        .ok r' ∧
      r'.render "t.html" 1
        [("name", .text "A & \x7b\x7b n \x7d\x7d"), ("n", .scalar (.integer (-5)))] =
        .ok "<p>A & \x7b\x7b n \x7d\x7d</p>\r\n-5 \x7d%\x7d\n" := by
  have plain : ∀ piece ∈ [Piece.text "<p>", .reference "name", .text "</p>\r\n", .reference "n",
      .text " ", .reference "gone", .text "\x7d%\x7d\n"], piece.Plain := by decide
  obtain ⟨r', compiled, renders⟩ := rendering_substitutes plain .empty "t.html"
  refine ⟨r', compiled, renders 1 _ ?_⟩
  intro k member
  simp only [List.mem_cons, Piece.reference.injEq, reduceCtorEq, List.not_mem_nil, false_or,
    or_false] at member
  rcases member with rfl | rfl | rfl <;> trivial

-- A truth value is written with a capital letter.
theorem truth_capitalised :
    ∃ r', Renderer.empty.compile "t" "\x7b\x7b k \x7d\x7d" = .ok r' ∧
      r'.render "t" 1 [("k", .scalar (.bool true))] = .ok "True" ∧ "True" ≠ "true" := by
  obtain ⟨r', compiled, renders⟩ := render_reference (by decide : isName "k" = true) (by decide)
    .empty "t"
  exact ⟨r', compiled, renders 1 _, by decide⟩

end RowPress
