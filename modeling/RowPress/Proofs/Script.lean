import Mathlib
import RowPress.Proofs.Furnishing
import RowPress.Proofs.Stages
/-!
Renderings as scripts. As long as no target is a document beside a template, what a rendering does
is known before it begins: what it tells, which sheets it saves, and in which order.
-/
namespace RowPress

-- What a rendering does at a time.
inductive Act where
  | tell (notes : Journal)
  | save (s : Sheet)
  | stop (e : Error)

namespace Act

def sheet? : Act → Option Sheet
  | .save s => some s
  | _ => none

-- What is noted, but for the sheets that replace something.
def notes : Act → Journal
  | .tell notes => notes
  | .save s => [.writing s.target]
  | .stop _ => []

def sheets (acts : List Act) : List Sheet := acts.filterMap sheet?

theorem mem_sheets {acts : List Act} {s : Sheet} : s ∈ sheets acts ↔ .save s ∈ acts := by
  simp only [sheets, List.mem_filterMap]
  constructor
  · rintro ⟨act, member, found⟩
    cases act <;> cases found
    exact member
  · intro member
    exact ⟨_, member, rfl⟩

theorem sheets_append (one two : List Act) : sheets (one ++ two) = sheets one ++ sheets two :=
  List.filterMap_append

end Act

namespace Press

open FileTree Work

def perform (column : String) : List Act → Desk → Except Error Unit × Desk
  | [], d => (.ok (), d)
  | .tell notes :: rest, d => perform column rest { d with journal := d.journal ++ notes }
  | .stop e :: _, d => (.error e, d)
  | .save s :: rest, d =>
    match save s (announce column s d) with
    | (.ok (), d) => perform column rest d
    | (.error e, d) => (.error e, d)

-- A script that is performed to its end.
structure Performed (column : String) (d : Desk) (acts : List Act) (replaced : List Sheet)
    (d' : Desk) : Prop where
  done : ∀ e, .stop e ∉ acts
  renderer : d'.renderer = d.renderer
  saved : d.tree.SavedAll (Act.sheets acts) replaced d'.tree
  noted : ∃ made, d'.journal = d.journal ++ made ∧
    made.filter Note.overwrites = replaced.map (Sheet.note column) ∧
    made.filter (!·.overwrites) = acts.flatMap Act.notes

section Performing

variable {column : String} {acts rest : List Act} {replaced : List Sheet} {s : Sheet}
  {notes : Journal} {t : FileTree} {d d' middle : Desk}

theorem perform_append (column : String) (one two : List Act) (d : Desk) :
    perform column (one ++ two) d = match perform column one d with
      | (.ok (), d) => perform column two d
      | (.error e, d) => (.error e, d) := by
  induction one generalizing d with
  | nil => rfl
  | cons act rest ih =>
    cases act with
    | tell notes => exact ih _
    | stop e => rfl
    | save s =>
      simp only [List.cons_append, perform]
      rcases save s (announce column s d) with ⟨_ | _, d⟩
      · rfl
      · exact ih d

theorem Performed.nil (column : String) (d : Desk) : Performed column d [] [] d :=
  ⟨fun _ => List.not_mem_nil, rfl, .nil _, [], (List.append_nil _).symm, rfl, rfl⟩

theorem Performed.tell (quiet : ∀ n ∈ notes, n.overwrites = false)
    (later : Performed column { d with journal := d.journal ++ notes } rest replaced d') :
    Performed column d (.tell notes :: rest) replaced d' := by
  obtain ⟨made, journal, told, others⟩ := later.noted
  refine ⟨?_, later.renderer, later.saved, notes ++ made, ?_, ?_, ?_⟩
  · intro e member
    exact later.done e (by simpa using member)
  · rw [journal, List.append_assoc]
  · have none : notes.filter Note.overwrites = [] := by simpa using quiet
    rw [List.filter_append, none, List.nil_append, told]
  · have all : notes.filter (!·.overwrites) = notes := by simpa using quiet
    rw [List.filter_append, all, others, List.flatMap_cons]
    rfl

theorem save_announced (fine : (d.tree.furnish s.target).2 = none) (saved : d.tree.Saved s t) :
    save s (announce column s d) = (.ok (), filed column s t d) := by
  unfold save announce
  rw [FileTree.Saved] at saved
  cases made : d.tree.furnish s.target with
  | mk tree fault =>
    rw [made] at fine saved
    obtain rfl : fault = none := fine
    dsimp only at saved ⊢
    simp only [saved]
    rfl

theorem Performed.save (saved : d.tree.Saved s t)
    (later : Performed column (filed column s t d) rest replaced d') :
    Performed column d (.save s :: rest)
      (if d.tree.holds s.target then s :: replaced else replaced) d' := by
  obtain ⟨made, journal, told, others⟩ := later.noted
  refine ⟨?_, later.renderer, .cons saved later.saved,
    (if d.tree.holds s.target then [s.note column] else []) ++ [.writing s.target] ++ made,
    ?_, ?_, ?_⟩
  · intro e member
    exact later.done e (by simpa using member)
  · rw [journal, filed]
    simp only [List.append_assoc]
  · rw [List.filter_append, told]
    by_cases held : d.tree.holds s.target = true <;>
      simp [held, Sheet.note, Note.overwrites, List.filter]
  · rw [List.filter_append, others, List.flatMap_cons]
    by_cases held : d.tree.holds s.target = true <;>
      simp [held, Sheet.note, Note.overwrites, Act.notes, List.filter]

theorem perform_ok (quiet : ∀ notes, .tell notes ∈ acts → ∀ n ∈ notes, n.overwrites = false)
    (ran : perform column acts d = (.ok (), d')) :
    ∃ replaced, Performed column d acts replaced d' := by
  induction acts generalizing d with
  | nil =>
    cases ran
    exact ⟨[], .nil column _⟩
  | cons act rest ih =>
    have quiets : ∀ notes, .tell notes ∈ rest → ∀ n ∈ notes, n.overwrites = false :=
      fun notes member => quiet notes (List.mem_cons_of_mem _ member)
    cases act with
    | tell notes =>
      obtain ⟨replaced, later⟩ := ih quiets ran
      exact ⟨replaced, later.tell (quiet notes List.mem_cons_self)⟩
    | stop e => cases ran
    | save s =>
      rw [perform] at ran
      rcases first : Press.save s (announce column s d) with ⟨_ | _, middle⟩
      · rw [first] at ran
        cases ran
      · rw [first] at ran
        obtain ⟨t, saved, rfl⟩ := save_ok first
        obtain ⟨replaced, later⟩ := ih quiets ran
        exact ⟨_, later.save saved⟩

-- What can be saved can be performed.
theorem perform_saved (done : ∀ e, .stop e ∉ acts)
    (quiet : ∀ notes, .tell notes ∈ acts → ∀ n ∈ notes, n.overwrites = false)
    (down : ∀ s ∈ Act.sheets acts, ".." ∉ names s.target)
    (saved : d.tree.SavedAll (Act.sheets acts) replaced t) :
    ∃ d', perform column acts d = (.ok (), d') ∧ d'.tree = t ∧
      Performed column d acts replaced d' := by
  induction acts generalizing d replaced with
  | nil =>
    cases saved
    exact ⟨d, rfl, rfl, .nil column d⟩
  | cons act rest ih =>
    have dones : ∀ e, .stop e ∉ rest := fun e member => done e (List.mem_cons_of_mem _ member)
    have quiets : ∀ notes, .tell notes ∈ rest → ∀ n ∈ notes, n.overwrites = false :=
      fun notes member => quiet notes (List.mem_cons_of_mem _ member)
    cases act with
    | tell notes =>
      obtain ⟨d', ran, tree, later⟩ :=
        ih (d := { d with journal := d.journal ++ notes }) dones quiets down saved
      exact ⟨d', ran, tree, later.tell (quiet notes List.mem_cons_self)⟩
    | stop e => exact absurd List.mem_cons_self (done e)
    | save s =>
      obtain ⟨down, downs⟩ := List.forall_mem_cons.mp down
      cases saved with
      | cons one saved =>
        obtain ⟨d', ran, tree, later⟩ :=
          ih (d := filed column s _ d) dones quiets downs saved
        refine ⟨d', ?_, tree, later.save one⟩
        rw [perform, save_announced (one.furnished down) one]
        exact ran

end Performing

def rowActs (p : Press) (table : Table) (r : Renderer) (u : RenderUnit) (sidecar : Entries)
    (number : Nat) (row : List String) : List Act :=
  [.tell (p.rowNotes table u sidecar row),
    match p.rowSheet table r u sidecar number row with
    | .ok s => .save s
    | .error e => .stop e]

def rowsActs (p : Press) (table : Table) (r : Renderer) (u : RenderUnit) (sidecar : Entries) :
    Nat → List (List String) → List Act
  | _, [] => []
  | number, row :: rest =>
    p.rowActs table r u sidecar number row ++ p.rowsActs table r u sidecar (number + 1) rest

def turnActs (p : Press) (table : Table) (r : Renderer) (t : FileTree) (u : RenderUnit) :
    List Act :=
  .tell (readSidecar u.sidecar t).outcome.2 ::
    match (readSidecar u.sidecar t).outcome.1 with
    | .ok sidecar => p.rowsActs table r u sidecar 1 table.rows
    | .error e => [.stop e]

-- All that a rendering does, if the documents beside the templates are as in the tree `t`.
def script (p : Press) (table : Table) (r : Renderer) (t : FileTree) (units : List RenderUnit) :
    List Act := units.flatMap (p.turnActs table r t)

-- Files elsewhere, and folders wherever they are, make no difference to the document.
def Steady (t : FileTree) (u : RenderUnit) : Prop :=
  ∀ v, t.Grows v → v.content? (t.placeOf u.sidecar) = t.content? (t.placeOf u.sidecar) →
    readSidecar u.sidecar v = readSidecar u.sidecar t

def counted (count : Nat) : Except Error Unit × Desk → Except Error Nat × Desk
  | (.ok (), d) => (.ok count, d)
  | (.error e, d) => (.error e, d)

section Scripts

variable {p : Press} {table : Table} {r : Renderer} {t v : FileTree} {u : RenderUnit}
  {units : List RenderUnit} {sidecar : Entries} {number : Nat} {rows : List (List String)}
  {d d' : Desk}

theorem readSidecar_eq {path : String}
    (same : ∀ place content, v.lookUp path = .ok (.file place content) ↔
      t.lookUp path = .ok (.file place content)) : readSidecar path v = readSidecar path t := by
  by_cases there : t.isFile path = true
  · obtain ⟨place, content, looked⟩ := isFile_iff.mp there
    have looked' := (same place content).mpr looked
    simp only [readSidecar, isFile, readText, FileTree.read, looked, looked']
  · have missing : ∀ w : FileTree,
        (∀ place content, w.lookUp path = .ok (.file place content) →
          t.lookUp path = .ok (.file place content)) → w.isFile path = false := by
      intro w only
      rw [← Bool.not_eq_true, isFile_iff]
      rintro ⟨place, content, looked⟩
      exact there (isFile_iff.mpr ⟨place, content, only place content looked⟩)
    have here := missing t fun _ _ looked => looked
    have there := missing v fun place content => (same place content).mp
    unfold readSidecar
    rw [here, there]
    rfl

-- A document beside a template that is there.
theorem unit_steady {template extension : String} (proper : '/' ∉ extension.toList)
    (there : t.isFile template = true) : Steady t ⟨template, sidecarPath template extension⟩ := by
  intro v grows same
  obtain ⟨place, content, looked⟩ := isFile_iff.mp there
  exact readSidecar_eq fun _ _ => lookUp_sidecar grows looked proper same

theorem script_quiet {notes : Journal} (member : .tell notes ∈ p.script table r t units) :
    ∀ n ∈ notes, n.overwrites = false := by
  have rowsQuiet : ∀ u sidecar number rows,
      .tell notes ∈ p.rowsActs table r u sidecar number rows →
        ∀ n ∈ notes, n.overwrites = false := by
    intro u sidecar number rows member
    induction rows generalizing number with
    | nil => cases member
    | cons row rest ih =>
      rcases List.mem_append.mp member with now | later
      · rcases List.mem_cons.mp now with told | ended
        · cases told
          exact rowNotes_quiet _ _ _ _ _
        · cases drawn : p.rowSheet table r u sidecar number row <;> simp [drawn] at ended
      · exact ih _ later
  obtain ⟨u, _, member⟩ := List.mem_flatMap.mp member
  rcases List.mem_cons.mp member with told | later
  · cases told
    exact (readSidecar_quiet _ _).noted
  · cases found : (readSidecar u.sidecar t).outcome.1 with
    | ok sidecar =>
      rw [found] at later
      exact rowsQuiet u sidecar 1 table.rows later
    | error e =>
      rw [found] at later
      cases List.mem_singleton.mp later

theorem save_renderer (column : String) (s : Sheet) (d : Desk) :
    (save s (announce column s d)).2.renderer = d.renderer := by
  unfold save announce
  split
  · rfl
  · dsimp only
    split <;> rfl

theorem perform_renderer (column : String) (acts : List Act) (d : Desk) :
    (perform column acts d).2.renderer = d.renderer := by
  induction acts generalizing d with
  | nil => rfl
  | cons act rest ih =>
    cases act with
    | tell notes => exact ih _
    | stop e => rfl
    | save s =>
      have kept := save_renderer column s d
      rw [perform]
      rcases first : save s (announce column s d) with ⟨_ | _, middle⟩
      · rwa [first] at kept
      · rw [first] at kept
        exact (ih middle).trans kept

theorem outcome_renderRow_acts (same : d.renderer = r) (row : List String) :
    (p.renderRow table u sidecar number row).outcome d =
      perform p.config.column (p.rowActs table r u sidecar number row) d := by
  subst same
  rw [outcome_renderRow, rowActs, perform]
  cases p.rowSheet table d.renderer u sidecar number row with
  | error e => rfl
  | ok s =>
    dsimp only [perform]
    rcases save s (announce p.config.column s
      { d with journal := d.journal ++ p.rowNotes table u sidecar row }) with ⟨_ | _, middle⟩ <;>
      rfl

theorem outcome_renderRows (same : d.renderer = r) :
    (p.renderRows table u sidecar number rows).outcome d = counted rows.length
      (perform p.config.column (p.rowsActs table r u sidecar number rows) d) := by
  induction rows generalizing number d with
  | nil => rfl
  | cons row rest ih =>
    have kept := perform_renderer p.config.column (p.rowActs table r u sidecar number row) d
    rw [renderRows, outcome_bind, outcome_renderRow_acts same, rowsActs, perform_append]
    rcases first : perform p.config.column (p.rowActs table r u sidecar number row) d with
      ⟨_ | _, middle⟩
    · rfl
    · rw [first] at kept
      simp only [outcome_bind, ih (kept.trans same)]
      rcases perform p.config.column (p.rowsActs table r u sidecar (number + 1) rest) middle with
        ⟨_ | _, d'⟩ <;> rfl

theorem outcome_turn (steady : readSidecar u.sidecar d.tree = readSidecar u.sidecar t)
    (same : d.renderer = r) :
    (do
      let sidecar ← loadSidecar u.sidecar
      p.renderRows table u sidecar 1 table.rows : Work Nat).outcome d =
      counted table.rows.length (perform p.config.column (p.turnActs table r t u) d) := by
  have loaded := outcome_look (s := readSidecar u.sidecar) (readSidecar_quiet u.sidecar d.tree)
  rw [steady] at loaded
  rw [outcome_bind, loadSidecar, loaded, turnActs, perform]
  cases (readSidecar u.sidecar t).outcome.1 with
  | error e => rfl
  | ok sidecar => exact outcome_renderRows same

theorem renderAll_cons (p : Press) (table : Table) (u : RenderUnit) (rest : List RenderUnit)
    (d : Desk) :
    (p.renderAll table (u :: rest)).outcome d =
      match (do
        let sidecar ← loadSidecar u.sidecar
        p.renderRows table u sidecar 1 table.rows : Work Nat).outcome d with
      | (.ok written, d) => (do return written + (← p.renderAll table rest) : Work Nat).outcome d
      | (.error e, d) => (.error e, d) := by
  rw [renderAll, outcome_bind, outcome_bind]
  rcases (loadSidecar u.sidecar).outcome d with ⟨_ | sidecar, d⟩
  · rfl
  · dsimp only
    rw [outcome_bind]
    rcases (p.renderRows table u sidecar 1 table.rows).outcome d with ⟨_ | written, d⟩ <;> rfl

-- A rendering follows its script.
theorem outcome_renderAll (steady : ∀ u ∈ units, Steady t u)
    (aside : ∀ u ∈ units, ∀ s ∈ Act.sheets (p.script table r t units),
      s.place t ≠ t.placeOf u.sidecar)
    (same : d.renderer = r) (grows : t.Grows d.tree)
    (kept : ∀ u ∈ units,
      d.tree.content? (t.placeOf u.sidecar) = t.content? (t.placeOf u.sidecar)) :
    (p.renderAll table units).outcome d = counted (units.length * table.rows.length)
      (perform p.config.column (p.script table r t units) d) := by
  induction units generalizing d with
  | nil => simp [renderAll, script, perform, counted]
  | cons u rest ih =>
    obtain ⟨steady', steadies⟩ := List.forall_mem_cons.mp steady
    obtain ⟨kept', keeps⟩ := List.forall_mem_cons.mp kept
    have whole : p.script table r t (u :: rest) =
        p.turnActs table r t u ++ p.script table r t rest := List.flatMap_cons
    have quiet : ∀ notes, .tell notes ∈ p.turnActs table r t u →
        ∀ n ∈ notes, n.overwrites = false := fun notes member =>
      script_quiet (by rw [whole]; exact List.mem_append_left _ member)
    rw [whole, Act.sheets_append] at aside
    rw [renderAll_cons, outcome_turn (steady' d.tree grows kept') same, whole, perform_append]
    rcases first : perform p.config.column (p.turnActs table r t u) d with ⟨_ | _, middle⟩
    · rfl
    · -- The turn leaves the documents of the later ones as they are.
      obtain ⟨replaced, performed⟩ := perform_ok quiet first
      have keeps' : ∀ u' ∈ rest, middle.tree.content? (t.placeOf u'.sidecar) =
          t.content? (t.placeOf u'.sidecar) := by
        intro u' member
        rw [performed.saved.content?_apart, keeps u' member]
        intro s saved
        rw [s.place_eq grows.workdir]
        exact aside u' (List.mem_cons_of_mem _ member) s (List.mem_append_left _ saved)
      have later := ih (d := middle) steadies (fun u' member s saved =>
        aside u' (List.mem_cons_of_mem _ member) s (List.mem_append_right _ saved))
        (performed.renderer.trans same) (grows.trans performed.saved.grows) keeps'
      simp only [counted, outcome_bind, later]
      rcases perform p.config.column (p.script table r t rest) middle with ⟨_ | _, d'⟩
      · rfl
      · simp only [outcome_pure, List.length_cons, Nat.succ_mul, Nat.add_comm]

end Scripts

-- Where the text for a template and a row is saved.
def target? (p : Press) (headers : List String) (name : String) (row : List String) :
    Option String :=
  match (pathPart headers row p.config.column).outcome.1 with
  | .ok part => some (outputFile p.config.outputPath part (saveName name p.config.basePath))
  | .error _ => none

def targetsOf (p : Press) (table : Table) (names : List String) : List String :=
  names.flatMap fun name => table.rows.filterMap (p.target? table.headers name)

-- The targets of all templates and rows, templates outermost.
def targets (p : Press) (table : Table) : List String := p.targetsOf table p.config.templates

section Targets

variable {p : Press} {table : Table} {r : Renderer} {t : FileTree} {u : RenderUnit}
  {sidecar : Entries} {number : Nat} {row : List String} {rows : List (List String)} {s : Sheet}

theorem rowSheet_target (found : p.rowSheet table r u sidecar number row = .ok s) :
    p.target? table.headers u.name row = some s.target := by
  obtain ⟨part, _, _, parted, _, _, rfl⟩ := rowSheet_ok_iff.mp found
  rw [target?, parted]

theorem rowsActs_target (member : .save s ∈ p.rowsActs table r u sidecar number rows) :
    ∃ row ∈ rows, p.target? table.headers u.name row = some s.target := by
  induction rows generalizing number with
  | nil => cases member
  | cons row rest ih =>
    rcases List.mem_append.mp member with now | later
    · refine ⟨row, List.mem_cons_self, ?_⟩
      rw [rowActs] at now
      cases found : p.rowSheet table r u sidecar number row with
      | error e => simp [found] at now
      | ok s' =>
        have same : s = s' := by simpa [found] using now
        rw [same, rowSheet_target found]
    · obtain ⟨row, member, found⟩ := ih later
      exact ⟨row, List.mem_cons_of_mem _ member, found⟩

theorem script_target {names : List String}
    (member : s ∈ Act.sheets (p.script table r t (names.map p.unit))) :
    s.target ∈ p.targetsOf table names := by
  obtain ⟨u, listed, member⟩ := List.mem_flatMap.mp (Act.mem_sheets.mp member)
  obtain ⟨name, named, rfl⟩ := List.mem_map.mp listed
  rw [turnActs] at member
  cases found : (readSidecar (p.unit name).sidecar t).outcome.1 with
  | error e => simp [found] at member
  | ok sidecar =>
    have member : .save s ∈ p.rowsActs table r (p.unit name) sidecar 1 table.rows := by
      simpa [found] using member
    obtain ⟨row, at', target⟩ := rowsActs_target member
    exact List.mem_flatMap.mpr ⟨name, named, List.mem_filterMap.mpr ⟨row, at', target⟩⟩

end Targets

-- The desk with which a run begins to render, and what has been noted by then.
def opened (p : Press) (table : Table) (d : Desk) : Desk :=
  compiling p.config.templates (p.checking table (p.reading d))

def preface (p : Press) (table : Table) (t : FileTree) : Journal :=
  (Table.read t p.config.table).outcome.2 ++
    (checkColumn table p.config.column p.config.table).outcome.2 ++
    p.config.templates.map .compiling

section Runs

variable {p : Press} {table : Table} {names : List String} {written : Nat} {d d' : Desk}

theorem opened_journal (p : Press) (table : Table) (d : Desk) :
    (p.opened table d).journal = d.journal ++ p.preface table d.tree := by
  simp only [opened, preface, compiling, checking, reading, List.append_assoc]

theorem preface_quiet (p : Press) (table : Table) (t : FileTree) :
    ∀ n ∈ p.preface table t, n.overwrites = false := by
  intro n member
  rcases List.mem_append.mp member with early | compiling
  · rcases List.mem_append.mp early with read | checked
    · exact (Table.read_quiet t p.config.table).noted n read
    · exact (checkColumn_quiet table _ _).noted n checked
  · obtain ⟨name, _, rfl⟩ := List.mem_map.mp compiling
    rfl

-- A script that is performed on that desk tells all that the run has noted.
theorem Performed.told {column : String} {acts : List Act} {replaced : List Sheet}
    (performed : Performed column (p.opened table d) acts replaced d') :
    ∃ made, d'.journal = d.journal ++ made ∧
      made.filter Note.overwrites = replaced.map (Sheet.note column) ∧
      made.filter (!·.overwrites) = p.preface table d.tree ++ acts.flatMap Act.notes := by
  obtain ⟨made, journal, told, others⟩ := performed.noted
  refine ⟨p.preface table d.tree ++ made, ?_, ?_, ?_⟩
  · rw [journal, opened_journal, List.append_assoc]
  · have none : (p.preface table d.tree).filter Note.overwrites = [] := by
      simpa using p.preface_quiet table d.tree
    rw [List.filter_append, none, List.nil_append, told]
  · have all : (p.preface table d.tree).filter (!·.overwrites) = p.preface table d.tree := by
      simpa using p.preface_quiet table d.tree
    rw [List.filter_append, all, others]

theorem ready_isFile {t : FileTree} {name : String} (ready : p.Ready t table)
    (listed : name ∈ p.config.templates) : t.isFile name = true := by
  have none := ready.found
  rw [missing, List.filter_eq_nil_iff] at none
  simpa using none name listed

theorem outcome_run_ready (ready : p.Ready d.tree table) : p.run.outcome d =
    (p.renderAll table (p.config.templates.map p.unit)).outcome (p.opened table d) := by
  rw [outcome_run, prepare_ready ready]
  rfl

end Runs

-- What rendering these templates does, from what is on the desk.
def plan (p : Press) (table : Table) (names : List String) (d : Desk) : List Act :=
  p.script table d.renderer d.tree (names.map p.unit)

-- Templates that are there, none of whose documents is a target. The extension is part of a name.
structure Apart (p : Press) (table : Table) (names : List String) (t : FileTree) : Prop where
  proper : '/' ∉ p.extension.toList
  there : ∀ name ∈ names, t.isFile name = true
  aside : ∀ target ∈ p.targetsOf table names, ∀ name ∈ names,
    t.placeOf target ≠ t.placeOf (sidecarPath name p.extension)

-- The command line takes the extension from the name of the configuration.
theorem extension_pressFor (path : String) (c : Config) :
    '/' ∉ (CommandLine.pressFor path c).extension.toList ∧
      '.' ∉ (CommandLine.pressFor path c).extension.toList := by
  change '/' ∉ (Config.sidecarExtension path).toList ∧ '.' ∉ (Config.sidecarExtension path).toList
  unfold Config.sidecarExtension
  cases found : Path.extension? path with
  | none => decide
  | some extension => exact Path.extension?_plain found

section Apart

variable {p : Press} {table : Table} {names : List String} {replaced : List Sheet}
  {t : FileTree} {written : Nat} {d d' : Desk}

theorem Apart.outcome (apart : p.Apart table names d.tree) :
    (p.renderAll table (names.map p.unit)).outcome d =
      counted (names.length * table.rows.length)
        (perform p.config.column (p.plan table names d) d) := by
  have steady : ∀ u ∈ names.map p.unit, Steady d.tree u := by
    intro u listed
    obtain ⟨name, named, rfl⟩ := List.mem_map.mp listed
    exact unit_steady apart.proper (apart.there name named)
  have aside : ∀ u ∈ names.map p.unit,
      ∀ s ∈ Act.sheets (p.script table d.renderer d.tree (names.map p.unit)),
        s.place d.tree ≠ d.tree.placeOf u.sidecar := by
    intro u listed s saved
    obtain ⟨name, named, rfl⟩ := List.mem_map.mp listed
    exact apart.aside s.target (script_target saved) name named
  have follows := outcome_renderAll steady aside rfl (.refl d.tree) fun _ _ => rfl
  rwa [List.length_map] at follows

theorem Apart.performed (apart : p.Apart table names d.tree)
    (ran : (p.renderAll table (names.map p.unit)).outcome d = (.ok written, d')) :
    written = names.length * table.rows.length ∧
      ∃ replaced, Performed p.config.column d (p.plan table names d) replaced d' := by
  rw [apart.outcome] at ran
  rcases first : perform p.config.column (p.plan table names d) d with ⟨_ | _, d''⟩
  · rw [first] at ran
    cases ran
  · rw [first] at ran
    obtain ⟨count, rfl⟩ := Prod.mk.inj ran
    exact ⟨(Except.ok.inj count).symm, perform_ok (fun _ => script_quiet) first⟩

theorem Apart.saved (apart : p.Apart table names d.tree)
    (done : ∀ e, .stop e ∉ p.plan table names d)
    (down : ∀ target ∈ p.targetsOf table names, ".." ∉ FileTree.names target)
    (saved : d.tree.SavedAll (Act.sheets (p.plan table names d)) replaced t) :
    ∃ d', (p.renderAll table (names.map p.unit)).outcome d =
        (.ok (names.length * table.rows.length), d') ∧ d'.tree = t ∧
      Performed p.config.column d (p.plan table names d) replaced d' := by
  obtain ⟨d', ran, tree, performed⟩ := perform_saved done (fun _ => script_quiet)
    (fun s listed => down s.target (script_target listed)) saved
  refine ⟨d', ?_, tree, performed⟩
  rw [apart.outcome, ran]
  rfl

end Apart

end Press

end RowPress
