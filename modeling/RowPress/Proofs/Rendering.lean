import RowPress.Proofs.Notes
import RowPress.Proofs.Saving
/-!
Rendering, row by row and template by template. What is saved follows the order of the jobs, and a
run that fails has done a front part of them.
-/
namespace RowPress

-- A template that has its turn after others, and a row with its number.
structure Job where
  earlier : List RenderUnit
  unit : RenderUnit
  number : Nat
  row : List String

namespace Job

def turn (earlier : List RenderUnit) (u : RenderUnit) : Nat → List (List String) → List Job
  | _, [] => []
  | number, row :: rest => ⟨earlier, u, number, row⟩ :: turn earlier u (number + 1) rest

def turns (rows : List (List String)) : List RenderUnit → List RenderUnit → List Job
  | _, [] => []
  | earlier, u :: rest => turn earlier u 1 rows ++ turns rows (earlier ++ [u]) rest

-- Every template with every row, templates outermost.
def all (units : List RenderUnit) (rows : List (List String)) : List Job := turns rows [] units

variable {rows : List (List String)} {earlier units : List RenderUnit} {u : RenderUnit} {job : Job}

theorem mem_turn {number : Nat} (member : job ∈ turn earlier u number rows) :
    job.earlier = earlier ∧ job.unit = u ∧
      ∃ i, job.number = number + i ∧ rows[i]? = some job.row := by
  induction rows generalizing number with
  | nil => cases member
  | cons row rest ih =>
    rcases List.mem_cons.mp member with rfl | later
    · exact ⟨rfl, rfl, 0, rfl, rfl⟩
    · obtain ⟨before, which, i, numbered, at'⟩ := ih later
      exact ⟨before, which, i + 1, by omega, at'⟩

-- A job knows the templates before its own, and its row by the number.
theorem mem_turns (member : job ∈ turns rows earlier units) :
    (∃ front back, units = front ++ job.unit :: back ∧ job.earlier = earlier ++ front) ∧
      ∃ i, job.number = i + 1 ∧ rows[i]? = some job.row := by
  induction units generalizing earlier with
  | nil => cases member
  | cons u rest ih =>
    rcases List.mem_append.mp member with now | later
    · obtain ⟨before, rfl, i, numbered, at'⟩ := mem_turn now
      exact ⟨⟨[], rest, rfl, by rw [before, List.append_nil]⟩, i, by omega, at'⟩
    · obtain ⟨⟨front, back, split, before⟩, numbered⟩ := ih later
      exact ⟨⟨u :: front, back, by rw [split, List.cons_append], by simp [before]⟩, numbered⟩

end Job

theorem Renderer.render_error {r : Renderer} {name : String} {row : Nat} {model : Entries}
    {e : Error} (failed : r.render name row model = .error e) : ∃ f, e = .render name row f := by
  unfold render at failed
  split at failed
  · cases failed
    exact ⟨_, rfl⟩
  · dsimp only at failed
    split at failed
    · cases failed
    · cases failed
      exact ⟨_, rfl⟩

def Sheet.note (column : String) (s : Sheet) : Note :=
  .diagnostic (.overwrite s.target column s.part)

-- The sheets are saved in order, and those that replace something are reported.
structure Desk.Wrote (column : String) (d : Desk) (sheets : List Sheet) (d' : Desk) : Prop where
  renderer : d'.renderer = d.renderer
  saved : ∃ replaced made, d.tree.SavedAll sheets replaced d'.tree ∧
    d'.journal = d.journal ++ made ∧ made.filter Note.overwrites = replaced.map (Sheet.note column)

namespace Desk

variable {column : String} {d d' d'' : Desk} {sheets sheets' : List Sheet}

theorem Wrote.quiet {made : Journal} (quiet : ∀ n ∈ made, n.overwrites = false) :
    Wrote column d [] { d with journal := d.journal ++ made } := by
  refine ⟨rfl, [], made, .nil _, rfl, ?_⟩
  rw [List.map_nil, List.filter_eq_nil_iff]
  intro n member overwrites
  rw [quiet n member] at overwrites
  cases overwrites

theorem Wrote.refl (column : String) (d : Desk) : Wrote column d [] d :=
  ⟨rfl, [], [], .nil _, (List.append_nil _).symm, rfl⟩

theorem Wrote.trans (one : Wrote column d sheets d') (two : Wrote column d' sheets' d'') :
    Wrote column d (sheets ++ sheets') d'' := by
  obtain ⟨replaced, made, saved, journal, told⟩ := one.saved
  obtain ⟨replaced', made', saved', journal', told'⟩ := two.saved
  refine ⟨two.renderer.trans one.renderer, replaced ++ replaced', made ++ made',
    saved.append saved', ?_, ?_⟩
  · rw [journal', journal, List.append_assoc]
  · rw [List.filter_append, List.map_append, told, told']

end Desk

namespace Press

open FileTree Work

-- First it is told what is replaced.
def announce (column : String) (s : Sheet) (d : Desk) : Desk :=
  { d with journal := d.journal ++ if d.tree.holds s.target then [s.note column] else [] }

-- Then the folders are made, and then the file.
def save (s : Sheet) (d : Desk) : Except Error Unit × Desk :=
  match d.tree.furnish s.target with
  | (tree, some e) => (.error (.io e), { d with tree })
  | (tree, none) =>
    let told := d.journal ++ [.writing s.target]
    match tree.write s.target (.text s.text) with
    | (tree, some e) => (.error (.io e), { d with tree, journal := told })
    | (tree, none) => (.ok (), { d with tree, journal := told })

theorem outcome_saving (s : Sheet) (d : Desk) :
    (do
      match Path.parent? s.target with
      | some parent => change (·.makeFolders parent)
      | none => pure ()
      step (Step.note (.writing s.target))
      change (·.write s.target (.text s.text)) : Work Unit).outcome d = save s d := by
  unfold save furnish
  cases above : Path.parent? s.target with
  | none =>
    cases wrote : d.tree.write s.target (.text s.text) with
    | mk tree fault => cases fault <;> simp [outcome_bind, outcome_change, wrote]
  | some parent =>
    cases made : d.tree.makeFolders parent with
    | mk tree fault =>
      cases fault with
      | some e => simp [outcome_bind, outcome_change, made]
      | none =>
        cases wrote : tree.write s.target (.text s.text) with
        | mk tree' fault => cases fault <;> simp [outcome_bind, outcome_change, made, wrote]

theorem outcome_writeOutput (column : String) (s : Sheet) (d : Desk) :
    (writeOutput s.target s.text column s.part).outcome d = save s (announce column s d) := by
  unfold writeOutput announce
  rw [outcome_bind, outcome_desk]
  by_cases held : d.tree.holds s.target = true
  · simp only [if_pos held, Step.report]
    rw [outcome_bind, outcome_note]
    exact outcome_saving s _
  · simp only [if_neg held, List.append_nil]
    exact outcome_saving s d

-- The desk after one sheet has been saved.
def filed (column : String) (s : Sheet) (t : FileTree) (d : Desk) : Desk :=
  { d with
    tree := t
    journal := d.journal ++ (if d.tree.holds s.target then [s.note column] else []) ++
      [.writing s.target] }

theorem save_ok {column : String} {s : Sheet} {d d' : Desk}
    (ran : save s (announce column s d) = (.ok (), d')) :
    ∃ t, d.tree.Saved s t ∧ d' = filed column s t d := by
  unfold save announce at ran
  split at ran
  · cases ran
  · rename_i furnished made
    dsimp only at made ran
    split at ran
    · cases ran
    · rename_i t wrote
      refine ⟨t, ?_, (Prod.mk.inj ran).2.symm⟩
      rw [FileTree.Saved, made]
      exact wrote

theorem filed_wrote {column : String} {s : Sheet} {t : FileTree} {d : Desk}
    (saved : d.tree.Saved s t) : d.Wrote column [s] (filed column s t d) := by
  refine ⟨rfl, _, _, .cons saved (.nil t), List.append_assoc _ _ _, ?_⟩
  by_cases held : d.tree.holds s.target = true <;>
    simp [held, Sheet.note, Note.overwrites, List.filter]

theorem save_error {column : String} {s : Sheet} {d d' : Desk} {e : Error}
    (ran : save s (announce column s d) = (.error e, d')) :
    ∃ cause torn, e = .io cause ∧ d.tree.Unsaved s cause torn d'.tree := by
  unfold save announce at ran
  split at ran
  · rename_i furnished cause made
    dsimp only at made
    cases ran
    have at' : (d.tree.furnish s.target).1 = furnished := by rw [made]
    exact ⟨cause, none, rfl, at' ▸ .folders (by rw [made])⟩
  · rename_i furnished made
    dsimp only at made ran
    have fine : (d.tree.furnish s.target).2 = none := by rw [made]
    have at' : (d.tree.furnish s.target).1 = furnished := by rw [made]
    split at ran
    · rename_i tree cause wrote
      cases ran
      rw [← at'] at wrote
      obtain ⟨torn, unsaved⟩ := unsaved_write fine wrote
      exact ⟨cause, torn, rfl, unsaved⟩
    · cases ran

-- What one template makes of one row.
def rowSheet (p : Press) (table : Table) (r : Renderer) (u : RenderUnit) (sidecar : Entries)
    (number : Nat) (row : List String) : Except Error Sheet := do
  let part ← (pathPart table.headers row p.config.column).outcome.1
  let global := p.config.data.entries?.getD []
  let model ← (buildModel u.sidecar sidecar global table.headers row).outcome.1
  let text ← r.render u.name number model
  return ⟨outputFile p.config.outputPath part (saveName u.name p.config.basePath), part, text⟩

-- What is noted before the text of a row is there.
def rowNotes (p : Press) (table : Table) (u : RenderUnit) (sidecar : Entries)
    (row : List String) : Journal :=
  (do
    let _ ← pathPart table.headers row p.config.column
    let global := p.config.data.entries?.getD []
    buildModel u.sidecar sidecar global table.headers row : Step Entries).outcome.2

section RowSheet

variable {p : Press} {table : Table} {r : Renderer} {u : RenderUnit} {sidecar : Entries}
  {number : Nat} {row : List String} {s : Sheet} {part : String} {model : Entries} {e : Error}

-- Once the folder and the model of a row are known, only the template can fail.
theorem rowSheet_rendered
    (parted : (pathPart table.headers row p.config.column).outcome.1 = .ok part)
    (built : (buildModel u.sidecar sidecar (p.config.data.entries?.getD []) table.headers
      row).outcome.1 = .ok model) :
    p.rowSheet table r u sidecar number row = (r.render u.name number model).map fun text =>
      ⟨outputFile p.config.outputPath part (saveName u.name p.config.basePath), part, text⟩ := by
  unfold rowSheet
  rw [parted]
  simp only [bind, Except.bind, built]
  cases r.render u.name number model <;> rfl

theorem rowSheet_ok_iff :
    p.rowSheet table r u sidecar number row = .ok s ↔ ∃ part model text,
      (pathPart table.headers row p.config.column).outcome.1 = .ok part ∧
      (buildModel u.sidecar sidecar (p.config.data.entries?.getD []) table.headers
        row).outcome.1 = .ok model ∧
      r.render u.name number model = .ok text ∧
      s = ⟨outputFile p.config.outputPath part (saveName u.name p.config.basePath), part,
        text⟩ := by
  constructor
  · intro found
    cases first : (pathPart table.headers row p.config.column).outcome.1 with
    | error e => simp [rowSheet, first, bind, Except.bind] at found
    | ok part =>
      cases second : (buildModel u.sidecar sidecar (p.config.data.entries?.getD []) table.headers
          row).outcome.1 with
      | error e => simp [rowSheet, first, second, bind, Except.bind] at found
      | ok model =>
        rw [rowSheet_rendered first second] at found
        cases third : r.render u.name number model with
        | error e =>
          rw [third] at found
          cases found
        | ok text =>
          rw [third] at found
          cases found
          exact ⟨part, model, text, rfl, rfl, third, rfl⟩
  · rintro ⟨part, model, text, parted, built, rendered, rfl⟩
    rw [rowSheet_rendered parted built, rendered]
    rfl

theorem rowSheet_error (failed : p.rowSheet table r u sidecar number row = .error e) :
    (pathPart table.headers row p.config.column).outcome.1 = .error e ∨
      ∃ f, e = .render u.name number f := by
  have quiet := buildModel_quiet u.sidecar sidecar (p.config.data.entries?.getD []) table.headers
    row
  cases first : (pathPart table.headers row p.config.column).outcome.1 with
  | error e' =>
    rw [rowSheet, first] at failed
    cases failed
    exact .inl rfl
  | ok part =>
    cases second : (buildModel u.sidecar sidecar (p.config.data.entries?.getD []) table.headers
        row).outcome.1 with
    | error e' => exact (quiet.failed e' second).elim
    | ok model =>
      rw [rowSheet_rendered first second] at failed
      cases third : r.render u.name number model with
      | error e' =>
        rw [third] at failed
        cases failed
        exact .inr (Renderer.render_error third)
      | ok text =>
        rw [third] at failed
        cases failed

end RowSheet

theorem rowNotes_quiet (p : Press) (table : Table) (u : RenderUnit) (sidecar : Entries)
    (row : List String) : ∀ n ∈ p.rowNotes table u sidecar row, n.overwrites = false := by
  have parted := pathPart_quiet table.headers row p.config.column
  have built := buildModel_quiet u.sidecar sidecar (p.config.data.entries?.getD []) table.headers
    row
  have parted : Step.Quiet (fun _ => True) (pathPart table.headers row p.config.column) :=
    ⟨parted.steady, parted.noted, fun _ _ => trivial⟩
  have built : Step.Quiet (fun _ => True) (buildModel u.sidecar sidecar
      (p.config.data.entries?.getD []) table.headers row) :=
    ⟨built.steady, built.noted, fun _ _ => trivial⟩
  exact (Step.bind_within parted fun _ _ => built).noted

theorem outcome_renderRow (p : Press) (table : Table) (u : RenderUnit) (sidecar : Entries)
    (number : Nat) (row : List String) (d : Desk) :
    (p.renderRow table u sidecar number row).outcome d =
      let noted := { d with journal := d.journal ++ p.rowNotes table u sidecar row }
      match p.rowSheet table d.renderer u sidecar number row with
      | .error e => (.error e, noted)
      | .ok s => save s (announce p.config.column s noted) := by
  have parted := pathPart_quiet table.headers row p.config.column
  have built := buildModel_quiet u.sidecar sidecar (p.config.data.entries?.getD []) table.headers
    row
  unfold renderRow
  rw [outcome_bind, outcome_step parted]
  cases first : (pathPart table.headers row p.config.column).outcome.1 with
  | error e =>
    have failed : p.rowSheet table d.renderer u sidecar number row = .error e := by
      simp [rowSheet, first, bind, Except.bind]
    have noted : p.rowNotes table u sidecar row =
        (pathPart table.headers row p.config.column).outcome.2 :=
      congrArg Prod.snd (Step.outcome_bind_error first _)
    rw [failed, noted]
  | ok part =>
    have noted : p.rowNotes table u sidecar row =
        (pathPart table.headers row p.config.column).outcome.2 ++ (buildModel u.sidecar sidecar
          (p.config.data.entries?.getD []) table.headers row).outcome.2 :=
      congrArg Prod.snd (Step.outcome_bind_ok (f := fun _ => buildModel u.sidecar sidecar
        (p.config.data.entries?.getD []) table.headers row) first built)
    rw [noted]
    simp only [outcome_bind, outcome_step built]
    cases second : (buildModel u.sidecar sidecar (p.config.data.entries?.getD []) table.headers
        row).outcome.1 with
    | error e => exact (built.failed e second).elim
    | ok model =>
      simp only [outcome_desk, List.append_assoc]
      rw [rowSheet_rendered first second]
      cases d.renderer.render u.name number model with
      | error e => rfl
      | ok text =>
        generalize outputFile p.config.outputPath part _ = target
        exact outcome_writeOutput p.config.column ⟨target, part, text⟩ _

-- The tree with which the turn of the next template begins is the one that the run over the earlier
-- ones leaves.
def deskAfter (p : Press) (table : Table) (earlier : List RenderUnit) (d : Desk) : Desk :=
  ((p.renderAll table earlier).outcome d).2

def sidecarAt (p : Press) (table : Table) (d : Desk) (earlier : List RenderUnit) (u : RenderUnit) :
    Except Error Entries :=
  (readSidecar u.sidecar (p.deskAfter table earlier d).tree).outcome.1

-- The sheet that a job makes: its model is merged from the document beside the template as the turn
-- finds it, the data of the configuration, and the row.
def sheet (p : Press) (table : Table) (d : Desk) (job : Job) : Except Error Sheet := do
  let sidecar ← p.sidecarAt table d job.earlier job.unit
  p.rowSheet table d.renderer job.unit sidecar job.number job.row

def Sheets (p : Press) (table : Table) (d : Desk) (jobs : List Job) (sheets : List Sheet) : Prop :=
  List.Forall₂ (fun job s => p.sheet table d job = .ok s) jobs sheets

-- A job that cannot be done, in the tree `t`: either there is no text for it, or the text cannot be
-- saved, and then `t'` is what is left of it.
def Fails (p : Press) (table : Table) (d : Desk) (job : Job) (e : Error) (t : FileTree)
    (torn : Option Location) (t' : FileTree) : Prop :=
  (∃ sidecar, p.sidecarAt table d job.earlier job.unit = .ok sidecar ∧
    p.rowSheet table d.renderer job.unit sidecar job.number job.row = .error e ∧
    torn = none ∧ t' = t) ∨
  ∃ s cause, p.sheet table d job = .ok s ∧ e = .io cause ∧ t.Unsaved s cause torn t'

section Rows

variable {p : Press} {table : Table} {earlier : List RenderUnit} {u : RenderUnit}
  {sidecar : Entries} {number written : Nat} {row : List String} {rows : List (List String)}
  {start d d' : Desk} {e : Error}

theorem renderRow_ok (ran : (p.renderRow table u sidecar number row).outcome d = (.ok (), d')) :
    ∃ s, p.rowSheet table d.renderer u sidecar number row = .ok s ∧
      d.Wrote p.config.column [s] d' := by
  rw [outcome_renderRow] at ran
  dsimp only at ran
  split at ran
  · cases ran
  · rename_i s found
    obtain ⟨t, saved, rfl⟩ := save_ok ran
    exact ⟨s, found, (Desk.Wrote.quiet (p.rowNotes_quiet _ _ _ _)).trans (filed_wrote saved)⟩

theorem renderRow_error
    (ran : (p.renderRow table u sidecar number row).outcome d = (.error e, d')) :
    (p.rowSheet table d.renderer u sidecar number row = .error e ∧ d'.tree = d.tree) ∨
      ∃ s cause torn, p.rowSheet table d.renderer u sidecar number row = .ok s ∧ e = .io cause ∧
        d.tree.Unsaved s cause torn d'.tree := by
  rw [outcome_renderRow] at ran
  dsimp only at ran
  split at ran
  · rename_i failed
    cases ran
    exact .inl ⟨failed, rfl⟩
  · rename_i s found
    obtain ⟨cause, torn, kind, unsaved⟩ := save_error ran
    exact .inr ⟨s, cause, torn, found, kind, unsaved⟩

theorem sheet_row (loaded : p.sidecarAt table d earlier u = .ok sidecar) (number : Nat)
    (row : List String) :
    p.sheet table d ⟨earlier, u, number, row⟩ =
      p.rowSheet table d.renderer u sidecar number row := by
  simp [sheet, loaded, bind, Except.bind]

theorem renderRows_ok (loaded : p.sidecarAt table start earlier u = .ok sidecar)
    (same : d.renderer = start.renderer)
    (ran : (p.renderRows table u sidecar number rows).outcome d = (.ok written, d')) :
    written = rows.length ∧ ∃ sheets, p.Sheets table start (Job.turn earlier u number rows) sheets ∧
      d.Wrote p.config.column sheets d' := by
  induction rows generalizing number written d with
  | nil =>
    cases ran
    exact ⟨rfl, [], .nil, .refl _ _⟩
  | cons row rest ih =>
    obtain ⟨_, middle, first, ran⟩ := bind_ok ran
    obtain ⟨count, _, later, ends⟩ := bind_ok ran
    cases ends
    obtain ⟨s, found, one⟩ := renderRow_ok first
    obtain ⟨rfl, sheets, founds, more⟩ := ih (one.renderer.trans same) later
    rw [same, ← sheet_row loaded] at found
    exact ⟨rfl, s :: sheets, .cons found founds, one.trans more⟩

-- A turn that fails has done a front part of its jobs.
theorem renderRows_error (loaded : p.sidecarAt table start earlier u = .ok sidecar)
    (same : d.renderer = start.renderer)
    (ran : (p.renderRows table u sidecar number rows).outcome d = (.error e, d')) :
    ∃ done job later sheets middle torn, Job.turn earlier u number rows = done ++ job :: later ∧
      p.Sheets table start done sheets ∧ d.Wrote p.config.column sheets middle ∧
      p.Fails table start job e middle.tree torn d'.tree := by
  induction rows generalizing number d with
  | nil => cases ran
  | cons row rest ih =>
    rcases bind_error ran with failed | ⟨_, middle, first, ran⟩
    · rcases renderRow_error failed with ⟨none, tree⟩ | ⟨s, cause, torn, found, kind, unsaved⟩
      · exact ⟨[], ⟨earlier, u, number, row⟩, _, [], d, .none, rfl, .nil, .refl _ _,
          .inl ⟨sidecar, loaded, same ▸ none, rfl, tree⟩⟩
      · rw [same, ← sheet_row loaded] at found
        exact ⟨[], ⟨earlier, u, number, row⟩, _, [], d, torn, rfl, .nil, .refl _ _,
          .inr ⟨s, cause, found, kind, unsaved⟩⟩
    · obtain ⟨s, found, one⟩ := renderRow_ok first
      rw [same, ← sheet_row loaded] at found
      rcases bind_error ran with failed | ⟨_, _, _, ends⟩
      · obtain ⟨done, job, later, sheets, middle', torn, split, founds, more, fails⟩ :=
          ih (one.renderer.trans same) failed
        refine ⟨⟨earlier, u, number, row⟩ :: done, job, later, s :: sheets, middle', torn, ?_,
          .cons found founds, one.trans more, fails⟩
        rw [Job.turn, split, List.cons_append]
      · cases ends

end Rows

-- Where a rendering can stop: before the first row of a template, or at a row.
inductive Stop where
  | turn (earlier : List RenderUnit) (u : RenderUnit)
  | row (job : Job)

-- The jobs done before the stop, of those that are left after the earlier turns.
def Stop.After (rows : List (List String)) (earlier units : List RenderUnit) (done : List Job) :
    Stop → Prop
  | .turn before u => ∃ front back, units = front ++ u :: back ∧ before = earlier ++ front ∧
      done = Job.turns rows earlier front
  | .row job => ∃ later, Job.turns rows earlier units = done ++ job :: later

def Stop.Fails (p : Press) (table : Table) (d : Desk) (e : Error) (t : FileTree)
    (torn : Option Location) (t' : FileTree) : Stop → Prop
  | .turn earlier u => p.sidecarAt table d earlier u = .error e ∧ torn = none ∧ t' = t
  | .row job => p.Fails table d job e t torn t'

section Turns

variable {p : Press} {table : Table} {earlier units : List RenderUnit} {u : RenderUnit}
  {n k written : Nat} {start d d' : Desk} {e : Error}

theorem loadSidecar_quiet {path : String} {r : Except Error Entries}
    (ran : (loadSidecar path).outcome d = (r, d')) :
    (readSidecar path d.tree).outcome.1 = r ∧ d'.tree = d.tree ∧
      ∀ column, d.Wrote column [] d' := by
  have quiet := readSidecar_quiet path d.tree
  unfold loadSidecar at ran
  rw [outcome_look quiet] at ran
  obtain ⟨rfl, rfl⟩ := Prod.mk.inj ran
  exact ⟨rfl, rfl, fun _ => .quiet quiet.noted⟩

theorem renderAll_turn {sidecar : Entries} {opened : Desk}
    (loaded : (loadSidecar u.sidecar).outcome d = (.ok sidecar, opened))
    (rendered : (p.renderRows table u sidecar 1 table.rows).outcome opened = (.ok n, d')) :
    (p.renderAll table [u]).outcome d = (.ok n, d') := by
  rw [renderAll, outcome_bind, loaded]
  simp only [outcome_bind, rendered]
  rfl

theorem renderAll_snoc (before : (p.renderAll table earlier).outcome start = (.ok n, d))
    (last : (p.renderAll table [u]).outcome d = (.ok k, d')) :
    (p.renderAll table (earlier ++ [u])).outcome start = (.ok (n + k), d') := by
  induction earlier generalizing start n with
  | nil =>
    cases before
    rw [List.nil_append, Nat.zero_add]
    exact last
  | cons first rest ih =>
    obtain ⟨sidecar, opened, loaded, before⟩ := bind_ok before
    obtain ⟨written, filled, rendered, before⟩ := bind_ok before
    obtain ⟨count, _, after, ends⟩ := bind_ok before
    cases ends
    have whole := ih after
    rw [List.cons_append, renderAll, outcome_bind, loaded]
    simp only [outcome_bind, rendered, whole, outcome_pure, Nat.add_assoc]

-- One turn, as it is seen from the start of the rendering.
theorem sidecarAt_reached (before : (p.renderAll table earlier).outcome start = (.ok n, d))
    (u : RenderUnit) :
    p.sidecarAt table start earlier u = (readSidecar u.sidecar d.tree).outcome.1 := by
  unfold sidecarAt deskAfter
  rw [before]

-- A rendering that fails has done a front part of its jobs.
theorem renderAll_error (before : (p.renderAll table earlier).outcome start = (.ok n, d))
    (same : d.renderer = start.renderer)
    (ran : (p.renderAll table units).outcome d = (.error e, d')) :
    ∃ (done : List Job) (sheets : List Sheet) (stop : Stop) (middle : Desk)
      (torn : Option Location),
      stop.After table.rows earlier units done ∧ p.Sheets table start done sheets ∧
      d.Wrote p.config.column sheets middle ∧
      stop.Fails p table start e middle.tree torn d'.tree := by
  induction units generalizing earlier n d with
  | nil => cases ran
  | cons u rest ih =>
    -- The turn cannot begin, or stops at one of its rows, or ends and a later one fails.
    rcases bind_error ran with failed | ⟨sidecar, opened, loaded, ran⟩
    · obtain ⟨found, tree, quiet⟩ := loadSidecar_quiet failed
      rw [← sidecarAt_reached before] at found
      exact ⟨[], [], .turn earlier u, d, none, ⟨[], rest, rfl, (List.append_nil _).symm, rfl⟩,
        .nil, .refl _ _, found, rfl, tree⟩
    · obtain ⟨found, _, quiet⟩ := loadSidecar_quiet loaded
      rw [← sidecarAt_reached before] at found
      have quiet := quiet p.config.column
      rcases bind_error ran with failed | ⟨count, middle, rendered, ran⟩
      · obtain ⟨done, job, later, sheets, middle, torn, split, founds, wrote, fails⟩ :=
          renderRows_error found (quiet.renderer.trans same) failed
        refine ⟨done, sheets, .row job, middle, torn,
          ⟨later ++ Job.turns table.rows (earlier ++ [u]) rest, ?_⟩, founds, quiet.trans wrote,
          fails⟩
        rw [Job.turns, split, List.append_assoc, List.cons_append]
      · rcases bind_error ran with failed | ⟨_, _, _, ends⟩
        · have turned := renderAll_turn loaded rendered
          obtain ⟨_, sheets, founds, one⟩ :=
            renderRows_ok found (quiet.renderer.trans same) rendered
          have one := quiet.trans one
          obtain ⟨done, sheets', stop, last, torn, after, founds', more, fails⟩ :=
            ih (renderAll_snoc before turned) (one.renderer.trans same) failed
          refine ⟨Job.turn earlier u 1 table.rows ++ done, sheets ++ sheets', stop, last, torn, ?_,
            List.rel_append founds founds', one.trans more, fails⟩
          cases stop with
          | turn before' u' =>
            obtain ⟨front, back, rfl, rfl, rfl⟩ := after
            exact ⟨u :: front, back, rfl, by simp, rfl⟩
          | row job =>
            obtain ⟨later, split⟩ := after
            exact ⟨later, by rw [Job.turns, split, List.append_assoc]⟩
        · cases ends

end Turns

end Press

end RowPress
