import RowPress.Proofs.Rerunning
/-!
What a run does to the files that it reads. Only a target that leads to one of them can change it,
and then the run tells that the file is replaced.
-/
namespace RowPress

open FileTree

-- While some targets may be saved to, the file at a place stays as it is unless one of them leads
-- there. A file that was there is reported by then, as far as the target could lead to it before
-- its folders were made.
structure Desk.Spares (column : String) (targets : List String) (place : Location)
    (d d' : Desk) : Prop where
  grows : d.tree.Grows d'.tree
  told : ∃ made, d'.journal = d.journal ++ made ∧
    (d'.tree.content? place = d.tree.content? place ∨
      ∃ target ∈ targets, d.tree.placeOf target = place ∧
        (".." ∉ names target → (d.tree.content? place).isSome = true →
          ∃ part, .diagnostic (.overwrite target column part) ∈ made))

namespace Desk

variable {column : String} {targets : List String} {place : Location} {d d' d'' : Desk}

theorem Spares.still (tree : d'.tree = d.tree)
    (journal : ∃ made, d'.journal = d.journal ++ made) : Spares column targets place d d' := by
  obtain ⟨made, journal⟩ := journal
  exact ⟨tree ▸ .refl _, made, journal, .inl (by rw [tree])⟩

theorem Spares.trans (one : Spares column targets place d d')
    (two : Spares column targets place d' d'') : Spares column targets place d d'' := by
  obtain ⟨made, journal, treated⟩ := one.told
  obtain ⟨made', journal', treated'⟩ := two.told
  refine ⟨one.grows.trans two.grows, made ++ made', ?_, ?_⟩
  · rw [journal', journal, List.append_assoc]
  · rcases treated with same | ⟨target, listed, at', told⟩
    · rcases treated' with same' | ⟨target, listed, at', told⟩
      · exact .inl (same'.trans same)
      · rw [placeOf_eq one.grows.workdir] at at'
        refine .inr ⟨target, listed, at', fun down held => ?_⟩
        obtain ⟨part, noted⟩ := told down (by rwa [same])
        exact ⟨part, List.mem_append_right _ noted⟩
    · refine .inr ⟨target, listed, at', fun down held => ?_⟩
      obtain ⟨part, noted⟩ := told down held
      exact ⟨part, List.mem_append_left _ noted⟩

end Desk

-- A work that spares the place wherever it begins.
def Work.Spares (column : String) (targets : List String) (place : Location) (w : Work α) : Prop :=
  ∀ d, Desk.Spares column targets place d (w.outcome d).2

namespace Work

variable {column : String} {targets : List String} {place : Location} {α β : Type}

theorem Spares.pure (a : α) : Spares column targets place (pure a : Work α) :=
  fun _ => .still rfl ⟨[], (List.append_nil _).symm⟩

theorem Spares.bind {w : Work α} {f : α → Work β} (first : Spares column targets place w)
    (next : ∀ a, Spares column targets place (f a)) : Spares column targets place (w >>= f) := by
  intro d
  have one := first d
  rw [outcome_bind]
  rcases ran : w.outcome d with ⟨_ | a, middle⟩
  · rwa [ran] at one
  · rw [ran] at one
    exact one.trans (next a middle)

end Work

namespace Press

open Work

section Sparing

variable {column : String} {targets : List String} {place : Location} {s : Sheet}

-- What a save notes, whether it succeeds or not.
theorem save_journal (column : String) (s : Sheet) (d : Desk) :
    ∃ made, (save s (announce column s d)).2.journal =
      d.journal ++ ((if d.tree.holds s.target then [s.note column] else []) ++ made) := by
  unfold save announce
  split
  · exact ⟨[], by rw [List.append_nil]⟩
  · dsimp only
    split <;> exact ⟨_, List.append_assoc _ _ _⟩

-- A file that the sheet is saved to, in whole or in part, is changed at no other place, and it is
-- told if the file was there.
theorem save_spares (listed : s.target ∈ targets) (d : Desk) :
    Desk.Spares column targets place d (save s (announce column s d)).2 := by
  obtain ⟨made, journal⟩ := save_journal column s d
  have told : ∀ {t : FileTree} {content : Content}, d.tree.Grows t →
      t.lookUp s.target = .ok (.file (s.place d.tree) content) → ".." ∉ names s.target →
      (d.tree.content? (s.place d.tree)).isSome = true →
      s.note column ∈ (if d.tree.holds s.target then [s.note column] else []) ++ made := by
    intro t content grows looked down held
    rw [if_pos ((holds_iff grows down looked).mpr held)]
    exact List.mem_cons_self
  rcases ran : save s (announce column s d) with ⟨e | _, d'⟩
  · rw [ran] at journal
    obtain ⟨cause, torn, _, unsaved⟩ := save_error ran
    refine ⟨unsaved.grows, _, journal, ?_⟩
    by_cases broken : torn = some place
    · obtain ⟨rfl, front, _, looked⟩ := unsaved.front broken
      exact .inr ⟨s.target, listed, rfl, fun down held =>
        ⟨s.part, told unsaved.grows looked down held⟩⟩
    · exact .inl (unsaved.content? broken)
  · rw [ran] at journal
    obtain ⟨t, saved, rfl⟩ := save_ok ran
    refine ⟨saved.grows, _, journal, ?_⟩
    by_cases here : place = s.place d.tree
    · subst here
      exact .inr ⟨s.target, listed, rfl, fun down held =>
        ⟨s.part, told saved.grows saved.lookUp down held⟩⟩
    · exact .inl (by rw [filed, saved.content?, if_neg here])

variable {p : Press} {table : Table} {u : RenderUnit}

theorem renderRow_spares {row : List String}
    (listed : ∀ target, p.target? table.headers u.name row = some target → target ∈ targets)
    (sidecar : Entries) (number : Nat) :
    Spares p.config.column targets place (p.renderRow table u sidecar number row) := by
  intro d
  rw [outcome_renderRow]
  dsimp only
  have noted : Desk.Spares p.config.column targets place d
      { d with journal := d.journal ++ p.rowNotes table u sidecar row } := .still rfl ⟨_, rfl⟩
  cases found : p.rowSheet table d.renderer u sidecar number row with
  | error e => exact noted
  | ok s => exact noted.trans (save_spares (listed _ (rowSheet_target found)) _)

theorem renderRows_spares {rows : List (List String)}
    (listed : ∀ row ∈ rows, ∀ target, p.target? table.headers u.name row = some target →
      target ∈ targets) (sidecar : Entries) (number : Nat) :
    Spares p.config.column targets place (p.renderRows table u sidecar number rows) := by
  induction rows generalizing number with
  | nil => exact .pure 0
  | cons row rest ih =>
    obtain ⟨first, later⟩ := List.forall_mem_cons.mp listed
    rw [renderRows]
    refine .bind (renderRow_spares first sidecar number) fun _ => ?_
    exact .bind (ih later (number + 1)) fun _ => .pure _

theorem loadSidecar_spares (path : String) :
    Spares column targets place (loadSidecar path) := by
  intro d
  have quiet := readSidecar_quiet path d.tree
  unfold loadSidecar
  rw [outcome_look quiet]
  exact .still rfl ⟨_, rfl⟩

-- A rendering spares all places that none of its targets leads to.
theorem renderAll_spares {names : List String}
    (listed : ∀ name ∈ names, ∀ row ∈ table.rows, ∀ target,
      p.target? table.headers name row = some target → target ∈ targets) :
    Spares p.config.column targets place (p.renderAll table (names.map p.unit)) := by
  induction names with
  | nil => exact .pure 0
  | cons name rest ih =>
    obtain ⟨first, later⟩ := List.forall_mem_cons.mp listed
    rw [List.map_cons, renderAll]
    refine .bind (loadSidecar_spares _) fun sidecar => ?_
    refine .bind (renderRows_spares (u := p.unit name) first sidecar 1) fun _ => ?_
    exact .bind (ih later) fun _ => .pure _

end Sparing

section Inputs

variable {p : Press} {d : Desk}

theorem run_ready_spares {table : Table} (ready : p.Ready d.tree table) (place : Location) :
    Desk.Spares p.config.column (p.targets table) place d (p.run.outcome d).2 := by
  have opened : Desk.Spares p.config.column (p.targets table) place d (p.opened table d) :=
    .still rfl ⟨_, p.opened_journal table d⟩
  rw [outcome_run_ready ready]
  refine opened.trans (renderAll_spares ?_ _)
  intro name named row listed target found
  exact List.mem_flatMap.mpr ⟨name, named, List.mem_filterMap.mpr ⟨row, listed, found⟩⟩

theorem run_spares {path : String} {content : Content} (held : d.tree.read path = .ok content) :
    (∃ content', (p.run.outcome d).2.tree.read path = .ok content') ∧
    ((p.run.outcome d).2.tree.read path = .ok content ∨
      ∃ table, p.Ready d.tree table ∧ ∃ target ∈ p.targets table,
        d.tree.placeOf target = d.tree.placeOf path ∧
        ∃ made, (p.run.outcome d).2.journal = d.journal ++ made ∧
          (".." ∉ names target →
            ∃ part, .diagnostic (.overwrite target p.config.column part) ∈ made)) := by
  rcases p.ready_or_blocked d.tree with ⟨table, ready⟩ | ⟨e, code, blocked⟩
  · obtain ⟨grows, made, journal, treated⟩ := run_ready_spares ready (d.tree.placeOf path)
    have looked := read_ok_iff.mp held
    have there : (d.tree.content? (d.tree.placeOf path)).isSome = true := by
      rw [(lookUp_file looked).2.1]
      rfl
    obtain ⟨content', after⟩ := Option.isSome_iff_exists.mp (grows.file _ there)
    have still := lookUp_file_grows grows looked after
    rw [← placeOf_eq grows.workdir] at still
    refine ⟨⟨content', read_ok_iff.mpr still⟩, ?_⟩
    rcases treated with same | ⟨target, named, at', told⟩
    · exact .inl (grows.read held same)
    · exact .inr ⟨table, ready, target, named, at', made, journal, fun down => told down there⟩
  · obtain ⟨d', stopped, tree⟩ := prepare_blocked blocked
    have same : (p.run.outcome d).2.tree = d.tree := by
      rw [outcome_run, stopped]
      exact tree
    rw [same]
    exact ⟨⟨content, held⟩, .inl held⟩

-- However a run ends, a file that it reads is still there and holds what it held, unless the run
-- has come to the rendering and one of its targets leads to the file. Then it is told that the file
-- is replaced; only a target with `..` may not see the file before its folders are made.
theorem inputs_spared (p : Press) (d : Desk) :
    ∀ path ∈ p.inputs, ∀ content, d.tree.read path = .ok content →
      (∃ content', (p.run.outcome d).2.tree.read path = .ok content') ∧
      ((p.run.outcome d).2.tree.read path = .ok content ∨
        ∃ table, p.Ready d.tree table ∧ ∃ target ∈ p.targets table,
          d.tree.placeOf target = d.tree.placeOf path ∧
          ∃ made, (p.run.outcome d).2.journal = d.journal ++ made ∧
            (".." ∉ names target →
              ∃ part, .diagnostic (.overwrite target p.config.column part) ∈ made)) :=
  fun _ _ _ held => run_spares held

-- With no output folder and a cell without letters and digits the text takes the place of its own
-- template, and this is told. The table is kept.
theorem inputs_spared_told :
    let p : Press := ⟨⟨"t", ["x"], "", "", "k", .empty⟩, "y"⟩
    let tree := (FileTree.empty.put ["work", "t"] (.text "k\n!")).put ["work", "x"]
      (.text "\x7b\x7bk\x7d\x7d")
    ∃ d', p.run.outcome ⟨tree, .empty, []⟩ = (.ok 1, d') ∧ d'.tree.read "t" = tree.read "t" ∧
      ∃ part, .diagnostic (.overwrite "x" "k" part) ∈ d'.journal := by
  intro p tree
  let d : Desk := ⟨tree, .empty, []⟩
  have table : d.tree.read "t" = .ok (.text "k\n!") := ok_of_toOption (by decide +kernel)
  have template : d.tree.read "x" = .ok (.text "\x7b\x7bk\x7d\x7d") :=
    ok_of_toOption (by decide +kernel)
  have targets : ∀ rows, p.Ready d.tree rows → p.targets rows = ["x"] := by
    intro rows ready
    have read : (Table.read d.tree p.config.table).outcome.1 = .ok ⟨["k"], [["!"]]⟩ :=
      ok_of_toOption (by decide +kernel)
    cases read.symm.trans ready.read
    decide +kernel
  have text : (p.run.outcome d).2.tree.read "x" = .ok (.text "!") :=
    ok_of_toOption (by decide +kernel)
  obtain ⟨d', ran⟩ : ∃ d', p.run.outcome d = (.ok 1, d') := Work.exists_ran (by decide +kernel)
  have each := inputs_spared p d
  rw [ran] at each text
  refine ⟨d', ran, ?_, ?_⟩
  · rcases (each "t" (by decide +kernel) _ table).2 with
      kept | ⟨rows, ready, target, named, at', _⟩
    · exact kept.trans table.symm
    · rw [targets rows ready, List.mem_singleton] at named
      subst named
      exact absurd at' (by decide +kernel)
  · rcases (each "x" (by decide +kernel) _ template).2 with
      kept | ⟨rows, ready, target, named, _, made, journal, told⟩
    · exact absurd (Except.ok.inj (kept.symm.trans text)) (by decide)
    · rw [targets rows ready, List.mem_singleton] at named
      subst named
      obtain ⟨part, noted⟩ := told (by decide +kernel)
      exact ⟨part, by rw [journal]; exact List.mem_append_right _ noted⟩

-- Nothing is wrong with the configuration, and the template holds another text afterwards.
theorem inputs_replaced :
    let p : Press := ⟨⟨"t", ["x"], "", "", "k", .empty⟩, "y"⟩
    let tree := (FileTree.empty.put ["work", "t"] (.text "k\n!")).put ["work", "x"]
      (.text "\x7b\x7bk\x7d\x7d")
    p.config.validate.outcome.1 = .ok () ∧ "x" ∈ p.inputs ∧
      tree.read "x" = .ok (.text "\x7b\x7bk\x7d\x7d") ∧
      (p.run.outcome ⟨tree, .empty, []⟩).2.tree.read "x" = .ok (.text "!") := by
  intro p tree
  refine ⟨by cbv, by decide +kernel, ok_of_toOption (by decide +kernel), ?_⟩
  exact ok_of_toOption (by decide +kernel)

end Inputs

end Press

end RowPress
