import RowPress.CommandLine
import RowPress.Proofs.Rendering
/-!
The stages of a run. The first of them that fails decides how the run ends, and up to the rendering
no file is touched.
-/
namespace RowPress

-- The column can be found in the header and in every row.
def Table.Supplies (t : Table) (column : String) : Prop :=
  ∃ index, t.columnIndex? column = some index ∧ ∀ row ∈ t.rows, index < row.length

def Compiles (t : FileTree) (name : String) : Prop :=
  ∃ source template, t.readText name = .ok source ∧ Template.compile name source = .ok template

-- A template that cannot be used, with the error it ends a run with, and the exit code.
inductive Broken (t : FileTree) (name : String) : Error → Nat → Prop where
  | unreadable {cause : OsError} : t.readText name = .error cause → Broken t name (.io cause) 9
  | malformed {source : String} {f : Template.Fault} : t.readText name = .ok source →
      Template.compile name source = .error f → Broken t name (.templateCompile name f) 1

-- A template replaces those of its name.
theorem Renderer.filter_put (r : Renderer) (c : Template.Compiled) (names : List String) :
    (r.put c).templates.filter (fun c' => c'.name ∉ names) =
      [c].filter (fun c' => c'.name ∉ names) ++
        r.templates.filter (fun c' => c'.name ∉ c.name :: names) := by
  rw [put, ← List.singleton_append, List.filter_append, List.filter_filter]
  congr 1
  refine List.filter_congr fun c' _ => ?_
  by_cases replaced : c'.name = c.name <;> simp [replaced]

namespace Press

def missing (p : Press) (t : FileTree) : List String :=
  p.config.templates.filter fun name => !t.isFile name

-- What the first stages hand on.
structure Tabled (p : Press) (t : FileTree) (table : Table) : Prop where
  read : (Table.read t p.config.table).outcome.1 = .ok table
  supplies : table.Supplies p.config.column

-- The first thing that is wrong, in the order of the stages. Whatever else is wrong with later
-- stages plays no part.
inductive Blocked (p : Press) (t : FileTree) : Error → Nat → Prop where
  | table {f : InputFault} : (Table.read t p.config.table).outcome.1 = .error (.input f) →
      Blocked p t (.input f) 5
  | header {table : Table} : (Table.read t p.config.table).outcome.1 = .ok table →
      table.columnIndex? p.config.column = none →
      Blocked p t (missingColumn p.config.column s!"the csv file '{p.config.table}'"
        table.headers) 4
  | shortRow {table : Table} {index : Nat} {row : List String} :
      (Table.read t p.config.table).outcome.1 = .ok table →
      table.columnIndex? p.config.column = some index → row ∈ table.rows → row.length ≤ index →
      Blocked p t (missingColumn p.config.column s!"every row of the csv file '{p.config.table}'"
        table.headers) 4
  | noTemplates {table : Table} : p.Tabled t table → p.config.templates = [] →
      Blocked p t .noTemplates 3
  | notFound {table : Table} : p.Tabled t table → p.missing t ≠ [] →
      Blocked p t (.templateNotFound (p.missing t)) 2
  | template {table : Table} {before after : List String} {name : String} {e : Error}
      {code : Nat} : p.Tabled t table → p.missing t = [] →
      p.config.templates = before ++ name :: after → (∀ good ∈ before, Compiles t good) →
      Broken t name e code → Blocked p t e code

-- Nothing is wrong before the rendering.
structure Ready (p : Press) (t : FileTree) (table : Table) : Prop extends p.Tabled t table where
  configured : p.config.templates ≠ []
  found : p.missing t = []
  compiles : ∀ name ∈ p.config.templates, Compiles t name

def unit (p : Press) (name : String) : RenderUnit := ⟨name, sidecarPath name p.extension⟩

-- What a template in the tree compiles to.
def compiled? (t : FileTree) (name : String) : Option Template.Compiled :=
  match t.readText name with
  | .ok source => (Template.compile name source).toOption
  | .error _ => none

-- The desk once the table has been read, its column has been checked, and some templates have been
-- compiled.
def reading (p : Press) (d : Desk) : Desk :=
  { d with journal := d.journal ++ (Table.read d.tree p.config.table).outcome.2 }

def checking (p : Press) (table : Table) (d : Desk) : Desk :=
  { d with journal :=
    d.journal ++ (checkColumn table p.config.column p.config.table).outcome.2 }

def compiling (names : List String) (d : Desk) : Desk :=
  { d with
    renderer := (names.filterMap (compiled? d.tree)).foldl Renderer.put d.renderer
    journal := d.journal ++ names.map .compiling }

-- A run up to the rendering.
def prepare (p : Press) : Work (Table × List RenderUnit) := do
  let table ← p.readTable
  let _ ← p.validate table
  return (table, ← p.compile)

section Preparing

variable {p : Press} {t : FileTree} {table : Table} {d : Desk} {name : String} {e : Error}
  {code : Nat}

theorem compiles_or_broken (t : FileTree) (name : String) :
    Compiles t name ∨ ∃ e code, Broken t name e code := by
  cases source : t.readText name with
  | error cause => exact .inr ⟨_, _, .unreadable source⟩
  | ok text =>
    cases compiled : Template.compile name text with
    | error f => exact .inr ⟨_, _, .malformed source compiled⟩
    | ok template => exact .inl ⟨text, template, source, compiled⟩

theorem compile_or_first (t : FileTree) (names : List String) :
    (∀ name ∈ names, Compiles t name) ∨ ∃ before name after e code,
      names = before ++ name :: after ∧ (∀ good ∈ before, Compiles t good) ∧
      Broken t name e code := by
  induction names with
  | nil => exact .inl (by simp)
  | cons name rest ih =>
    rcases compiles_or_broken t name with good | ⟨e, code, broken⟩
    · rcases ih with all | ⟨before, bad, after, e, code, split, goods, broken⟩
      · exact .inl (List.forall_mem_cons.mpr ⟨good, all⟩)
      · exact .inr ⟨name :: before, bad, after, e, code, by rw [split, List.cons_append],
          List.forall_mem_cons.mpr ⟨good, goods⟩, broken⟩
    · exact .inr ⟨[], name, rest, e, code, rfl, by simp, broken⟩

theorem ready_or_blocked (p : Press) (t : FileTree) :
    (∃ table, p.Ready t table) ∨ ∃ e code, p.Blocked t e code := by
  cases read : (Table.read t p.config.table).outcome.1 with
  | error e =>
    obtain ⟨f, rfl⟩ := (Table.read_quiet t p.config.table).failed e read
    exact .inr ⟨_, _, .table read⟩
  | ok table =>
    cases column : table.columnIndex? p.config.column with
    | none => exact .inr ⟨_, _, .header read column⟩
    | some index =>
      by_cases long : ∀ row ∈ table.rows, index < row.length
      · have tabled : p.Tabled t table := ⟨read, index, column, long⟩
        by_cases none : p.config.templates = []
        · exact .inr ⟨_, _, .noTemplates tabled none⟩
        · by_cases found : p.missing t = []
          · rcases compile_or_first t p.config.templates with
              all | ⟨before, name, after, e, code, split, goods, broken⟩
            · exact .inl ⟨table, tabled, none, found, all⟩
            · exact .inr ⟨e, code, .template tabled found split goods broken⟩
          · exact .inr ⟨_, _, .notFound tabled found⟩
      · simp only [not_forall, Nat.not_lt] at long
        obtain ⟨row, member, short⟩ := long
        exact .inr ⟨_, _, .shortRow read column member short⟩

theorem read_rows {path : String} (read : (Table.read t path).outcome.1 = .ok table) :
    table.rows ≠ [] := by
  unfold Table.read at read
  split at read
  · cases read
  · rename_i content _
    split at read
    · cases read
    · rename_i table' made
      have same : table' = table := by
        cases read
        rfl
      subst same
      cases listed : Table.records path content with
      | error f => simp [listed, bind, Except.bind] at made
      | ok records =>
        rw [listed] at made
        obtain _ | ⟨header, _ | ⟨row, rows⟩⟩ := records
        · cases made
        · cases made
        · cases made
          exact List.cons_ne_nil _ _

theorem outcome_readTable (p : Press) (d : Desk) : p.readTable.outcome d =
    ((Table.read d.tree p.config.table).outcome.1, p.reading d) := by
  have quiet := Table.read_quiet d.tree p.config.table
  exact @Work.outcome_look _ _ _ (fun t => Table.read t p.config.table) d quiet

theorem outcome_validate (p : Press) (filled : table.rows ≠ []) (d : Desk) :
    (p.validate table).outcome d =
      ((checkColumn table p.config.column p.config.table).outcome.1, p.checking table d) := by
  have filled : ¬ table.rows.isEmpty = true := by simpa using filled
  unfold validate
  simp only [if_neg filled]
  exact Work.outcome_step (checkColumn_quiet table _ _) d

theorem checkColumn_header {column tableName : String} (absent : table.columnIndex? column = none) :
    (checkColumn table column tableName).outcome.1 =
      .error (missingColumn column s!"the csv file '{tableName}'" table.headers) := by
  unfold checkColumn
  rw [absent]
  rfl

theorem checkColumn_shortRow {column tableName : String} {index : Nat} {row : List String}
    (at' : table.columnIndex? column = some index) (member : row ∈ table.rows)
    (short : row.length ≤ index) : (checkColumn table column tableName).outcome.1 =
      .error (missingColumn column s!"every row of the csv file '{tableName}'" table.headers) := by
  have found : (table.rows.any fun row => row.length ≤ index) = true :=
    List.any_eq_true.mpr ⟨row, member, by simpa using short⟩
  unfold checkColumn
  simp only [at', if_pos found]
  rfl

theorem checkColumn_found {column tableName : String} {index : Nat}
    (at' : table.columnIndex? column = some index) (long : ∀ row ∈ table.rows, index < row.length) :
    (checkColumn table column tableName).outcome.1 = .ok index := by
  have none : ¬ (table.rows.any fun row => row.length ≤ index) = true := by
    simpa using long
  unfold checkColumn
  simp only [at', if_neg none]
  rfl

theorem checkColumn_supplied {column tableName : String} (supplies : table.Supplies column) :
    ∃ index, (checkColumn table column tableName).outcome.1 = .ok index := by
  obtain ⟨index, at', long⟩ := supplies
  exact ⟨index, checkColumn_found at' long⟩

theorem compiled?_name {c : Template.Compiled} (made : compiled? t name = some c) :
    c.name = name := by
  unfold compiled? at made
  split at made
  · rename_i source _
    unfold Template.compile at made
    cases parsed : Template.parse name (Template.lexemes source) with
    | error f =>
      rw [parsed] at made
      cases made
    | ok nodes =>
      rw [parsed] at made
      cases made
      rfl
  · cases made

theorem compiled?_made {source : String} {c : Template.Compiled}
    (read : t.readText name = .ok source) (compiled : Template.compile name source = .ok c) :
    compiled? t name = some c := by
  unfold compiled?
  rw [read]
  simp only [compiled]
  rfl

theorem outcome_compileOne (p : Press) (compiles : Compiles d.tree name) :
    (p.compileOne name).outcome d = (.ok (p.unit name), compiling [name] d) := by
  obtain ⟨source, template, read, compiled⟩ := compiles
  have made := compiled?_made read compiled
  unfold compileOne compiling
  simp only [Work.outcome_bind, Work.outcome_note, Work.outcome_desk, read, Work.outcome_ofIo_ok,
    Renderer.compile, compiled, Work.outcome_modify, Work.outcome_pure, List.filterMap_cons, made]
  rfl

theorem outcome_compileOne_broken (p : Press) (broken : Broken d.tree name e code) :
    ∃ journal, (p.compileOne name).outcome d = (.error e, { d with journal }) := by
  unfold compileOne
  cases broken with
  | unreadable read =>
    simp only [Work.outcome_bind, Work.outcome_note, Work.outcome_desk, read,
      Work.outcome_ofIo_error]
    exact ⟨_, rfl⟩
  | malformed read compiled =>
    simp only [Work.outcome_bind, Work.outcome_note, Work.outcome_desk, read, Work.outcome_ofIo_ok,
      Renderer.compile, compiled, Work.outcome_throw]
    exact ⟨_, rfl⟩

theorem compiling_cons (name : String) (rest : List String) (d : Desk) :
    compiling rest (compiling [name] d) = compiling (name :: rest) d := by
  unfold compiling
  cases made : compiled? d.tree name <;> simp [made]

-- Compiling goes on as long as nothing is wrong.
theorem outcome_compileEach (p : Press) {names : List String}
    (compiles : ∀ name ∈ names, Compiles d.tree name) :
    (names.mapM p.compileOne).outcome d = (.ok (names.map p.unit), compiling names d) := by
  induction names generalizing d with
  | nil => simp [compiling]
  | cons name rest ih =>
    obtain ⟨good, goods⟩ := List.forall_mem_cons.mp compiles
    have later := ih (d := compiling [name] d) goods
    rw [compiling_cons] at later
    simp only [List.mapM_cons, Work.outcome_bind, outcome_compileOne p good, later,
      Work.outcome_pure, List.map_cons]

-- The templates before the first that is broken stay compiled.
theorem outcome_compileEach_broken (p : Press) {before : List String} (after : List String)
    (compiles : ∀ good ∈ before, Compiles d.tree good) (broken : Broken d.tree name e code) :
    ∃ journal, ((before ++ name :: after).mapM p.compileOne).outcome d =
      (.error e, { compiling before d with journal }) := by
  induction before generalizing d with
  | nil =>
    obtain ⟨journal, failed⟩ := outcome_compileOne_broken p broken
    refine ⟨journal, ?_⟩
    simp only [List.nil_append, List.mapM_cons, Work.outcome_bind, failed]
    rfl
  | cons first rest ih =>
    obtain ⟨good, goods⟩ := List.forall_mem_cons.mp compiles
    obtain ⟨journal, failed⟩ := ih (d := compiling [first] d) goods broken
    refine ⟨journal, ?_⟩
    simp only [List.cons_append, List.mapM_cons, Work.outcome_bind, outcome_compileOne p good,
      failed, compiling_cons]

theorem outcome_compile (p : Press) (configured : p.config.templates ≠ [])
    (found : p.missing d.tree = []) :
    p.compile.outcome d = (p.config.templates.mapM p.compileOne).outcome d := by
  have configured : ¬ p.config.templates.isEmpty = true := by simpa using configured
  unfold missing at found
  unfold compile
  simp only [if_neg configured, Work.outcome_bind, Work.outcome_desk, found]
  rfl

theorem outcome_compile_notFound (p : Press) (some : p.missing d.tree ≠ []) :
    ∃ journal, p.compile.outcome d =
      (.error (.templateNotFound (p.missing d.tree)), { d with journal }) := by
  have configured : ¬ p.config.templates.isEmpty = true := by
    intro none
    apply some
    rw [missing, List.isEmpty_iff.mp none, List.filter_nil]
  have some : (!(p.config.templates.filter fun name => !d.tree.isFile name).isEmpty) = true := by
    simpa [missing] using some
  unfold compile
  simp only [if_neg configured, Work.outcome_bind, Work.outcome_desk, if_pos some,
    Work.outcome_forIn_note, Work.outcome_throw]
  exact ⟨_, rfl⟩

-- The first stages, up to the templates.
theorem prepare_tabled (tabled : p.Tabled d.tree table) : p.prepare.outcome d =
    (do return (table, ← p.compile) : Work _).outcome (p.checking table (p.reading d)) := by
  obtain ⟨index, supplied⟩ : ∃ index,
      (checkColumn table p.config.column p.config.table).outcome.1 = .ok index :=
    checkColumn_supplied tabled.supplies
  unfold prepare
  rw [Work.outcome_bind, outcome_readTable, tabled.read]
  simp only [Work.outcome_bind, outcome_validate p (read_rows tabled.read), supplied]

theorem prepare_ready (ready : p.Ready d.tree table) : p.prepare.outcome d =
    (.ok (table, p.config.templates.map p.unit),
      compiling p.config.templates (p.checking table (p.reading d))) := by
  have found : p.missing (p.checking table (p.reading d)).tree = [] := ready.found
  have compiles : ∀ name ∈ p.config.templates,
      Compiles (p.checking table (p.reading d)).tree name := ready.compiles
  rw [prepare_tabled ready.toTabled, Work.outcome_bind, outcome_compile p ready.configured found,
    outcome_compileEach p compiles]
  rfl

theorem prepare_unsupplied (made : (Table.read d.tree p.config.table).outcome.1 = .ok table)
    (failed : (checkColumn table p.config.column p.config.table).outcome.1 = .error e) :
    ∃ d', p.prepare.outcome d = (.error e, d') ∧ d'.tree = d.tree := by
  refine ⟨p.checking table (p.reading d), ?_, rfl⟩
  rw [prepare, Work.outcome_bind, outcome_readTable, made]
  simp only [Work.outcome_bind, outcome_validate p (read_rows made), failed]

theorem prepare_blocked (blocked : p.Blocked d.tree e code) :
    ∃ d', p.prepare.outcome d = (.error e, d') ∧ d'.tree = d.tree := by
  cases blocked with
  | table failed =>
    refine ⟨p.reading d, ?_, rfl⟩
    rw [prepare, Work.outcome_bind, outcome_readTable, failed]
  | header made absent => exact prepare_unsupplied made (checkColumn_header absent)
  | shortRow made at' member short =>
    exact prepare_unsupplied made (checkColumn_shortRow at' member short)
  | @noTemplates table tabled none =>
    have none : p.config.templates.isEmpty = true := List.isEmpty_iff.mpr none
    refine ⟨p.checking table (p.reading d), ?_, rfl⟩
    rw [prepare_tabled tabled, Work.outcome_bind, compile]
    simp only [if_pos none, Work.outcome_bind, Work.outcome_throw]
  | notFound tabled some =>
    obtain ⟨journal, failed⟩ :=
      outcome_compile_notFound (d := p.checking _ (p.reading d)) p some
    refine ⟨{ d with journal }, ?_, rfl⟩
    rw [prepare_tabled tabled, Work.outcome_bind, failed]
    rfl
  | @template table before _ _ _ _ tabled found split compiles broken =>
    have found : p.missing (p.checking table (p.reading d)).tree = [] := found
    obtain ⟨journal, failed⟩ :=
      outcome_compileEach_broken (d := p.checking table (p.reading d)) p _ compiles broken
    have configured : p.config.templates ≠ [] := by simp [split]
    refine ⟨{ compiling before d with journal }, ?_, rfl⟩
    rw [prepare_tabled tabled, Work.outcome_bind, outcome_compile p configured found, split, failed]
    rfl

theorem exitCode_blocked (blocked : p.Blocked t e code) : e.exitCode = code := by
  cases blocked with
  | template _ _ _ _ broken => cases broken <;> rfl
  | _ => rfl

theorem outcome_run (p : Press) (d : Desk) : p.run.outcome d = match p.prepare.outcome d with
    | (.ok made, d) => (p.renderAll made.1 made.2).outcome d
    | (.error e, d) => (.error e, d) := by
  unfold run prepare
  rw [Work.outcome_bind, Work.outcome_bind]
  rcases p.readTable.outcome d with ⟨_ | table, d⟩
  · rfl
  · simp only [Work.outcome_bind]
    rcases (p.validate table).outcome d with ⟨_ | index, d⟩
    · rfl
    · dsimp only
      rcases p.compile.outcome d with ⟨_ | units, d⟩ <;> rfl

-- The column is known to be in every row, so that nothing but the document beside a template, the
-- rendering of a text, or saving it can fail.
theorem exitCode_renderAll {units : List RenderUnit} {d' : Desk}
    (supplies : table.Supplies p.config.column)
    (ran : (p.renderAll table units).outcome d = (.error e, d')) : e.exitCode = 9 := by
  have before : (p.renderAll table []).outcome d = (.ok 0, d) := rfl
  obtain ⟨done, sheets, stop, middle, _, after, _, _, fails⟩ := renderAll_error before rfl ran
  cases stop with
  | turn earlier u =>
    obtain ⟨f, rfl⟩ := (readSidecar_quiet _ _).failed e fails.1
    rfl
  | row job =>
    obtain ⟨later, split⟩ := after
    have member : job ∈ Job.turns table.rows [] units := by simp [split]
    obtain ⟨_, i, _, at'⟩ := Job.mem_turns member
    rcases fails with ⟨sidecar, _, failed, _⟩ | ⟨s, cause, _, rfl, _⟩
    · rcases rowSheet_error failed with parted | ⟨f, rfl⟩
      · obtain ⟨index, column, long⟩ := supplies
        have long := long job.row (List.mem_of_getElem? at')
        have column : table.headers.findIdx? (· == p.config.column) = some index := column
        simp [pathPart, column, List.getElem?_eq_getElem long] at parted
        cases parted
      · rfl
    · rfl

end Preparing

end Press

namespace CommandLine

-- The press that a configuration asks for.
def pressFor (path : String) (c : Config) : Press := ⟨c, Config.sidecarExtension path⟩

inductive Blocked (t : FileTree) (path : String) : Error → Nat → Prop where
  | config {f : ConfigFault} : (Config.load t path).outcome.1 = .error (.config f) →
      Blocked t path (.config f) 6
  | press {c : Config} {e : Error} {code : Nat} : (Config.load t path).outcome.1 = .ok c →
      (pressFor path c).Blocked t e code → Blocked t path e code

-- The rendering that is come to once all stages before have passed, and how it ends.
def Renders (t : FileTree) (path : String) (r : Except Error Nat) (d' : Desk) : Prop :=
  ∃ c journal table d, (Config.load t path).outcome = (.ok c, journal) ∧
    (pressFor path c).Ready t table ∧
    (pressFor path c).prepare.outcome ⟨t, .empty, journal⟩ =
      (.ok (table, c.templates.map (pressFor path c).unit), d) ∧
    d.tree = t ∧
    ((pressFor path c).renderAll table (c.templates.map (pressFor path c).unit)).outcome d = (r, d')

-- The message of an error is the last thing that is printed.
def Outcome.Tells (o : Outcome) (e : Error) : Prop :=
  ∃ shown, o.stderr = shown ++ e.message ++ "\n"

-- How a run ends that has come to the rendering.
def Outcome.Ends (o : Outcome) : Except Error Nat → Prop
  | .ok _ => o.exitCode = 0
  | .error e => o.exitCode = 9 ∧ o.Tells e

section Ends

variable {t : FileTree} {a : Arguments} {e : Error} {code : Nat}

theorem blocked_or_renders (t : FileTree) (path : String) :
    (∃ e code, Blocked t path e code) ∨ ∃ r d', Renders t path r d' := by
  rcases loaded : (Config.load t path).outcome with ⟨e | c, journal⟩
  · obtain ⟨f, rfl⟩ := (Config.load_quiet t path).failed e (by rw [loaded])
    exact .inl ⟨_, _, .config (by rw [loaded])⟩
  · rcases (pressFor path c).ready_or_blocked t with ⟨table, ready⟩ | ⟨e, code, blocked⟩
    · have start : (pressFor path c).Ready (Desk.mk t .empty journal).tree table := ready
      exact .inr ⟨_, _, c, journal, table, _, loaded, ready, Press.prepare_ready start, rfl, rfl⟩
    · exact .inl ⟨e, code, .press (by rw [loaded]) blocked⟩

theorem work_blocked (blocked : Blocked t a.configPath e code) :
    (work t a).exitCode = code ∧ (work t a).tree = t ∧ (work t a).Tells e := by
  unfold work
  cases blocked with
  | config failed =>
    rcases loaded : (Config.load t a.configPath).outcome with ⟨e | c, journal⟩
    · rw [loaded] at failed
      cases failed
      exact ⟨rfl, rfl, _, rfl⟩
    · rw [loaded] at failed
      cases failed
  | @press c _ _ made blocked =>
    rcases loaded : (Config.load t a.configPath).outcome with ⟨e | c', journal⟩
    · rw [loaded] at made
      cases made
    · rw [loaded] at made
      obtain rfl : c' = c := Except.ok.inj made
      have start : (pressFor a.configPath c').Blocked (Desk.mk t .empty journal).tree e code :=
        blocked
      obtain ⟨d', prepared, tree⟩ := Press.prepare_blocked start
      have ran := Press.outcome_run (pressFor a.configPath c') ⟨t, .empty, journal⟩
      rw [prepared] at ran
      unfold pressFor at ran
      simp only [ran]
      exact ⟨Press.exitCode_blocked blocked, tree, _, rfl⟩

theorem code_positive (blocked : Blocked t a.configPath e code) : 0 < code := by
  cases blocked with
  | config => decide
  | press _ blocked =>
    cases blocked with
    | template _ _ _ _ broken => cases broken <;> decide
    | _ => decide

theorem renders_unblocked {r : Except Error Nat} {d' : Desk}
    (renders : Renders t a.configPath r d') (e : Error) (code : Nat) :
    ¬ Blocked t a.configPath e code := by
  obtain ⟨c, journal, table, d, loaded, _, prepared, _⟩ := renders
  intro blocked
  cases blocked with
  | config failed =>
    rw [loaded] at failed
    cases failed
  | @press c' _ _ made blocked =>
    rw [loaded] at made
    obtain rfl : c = c' := Except.ok.inj made
    have start : (pressFor a.configPath c).Blocked (Desk.mk t .empty journal).tree e code := blocked
    obtain ⟨_, stopped, _⟩ := Press.prepare_blocked start
    rw [prepared] at stopped
    cases stopped

theorem work_renders {r : Except Error Nat} {d' : Desk} (renders : Renders t a.configPath r d') :
    (work t a).tree = d'.tree ∧ (work t a).Ends r := by
  obtain ⟨c, journal, table, d, loaded, ready, prepared, _, ran⟩ := renders
  have whole := Press.outcome_run (pressFor a.configPath c) ⟨t, .empty, journal⟩
  rw [prepared] at whole
  dsimp only at whole
  rw [ran] at whole
  unfold pressFor at whole
  unfold work
  simp only [loaded, whole]
  cases r with
  | ok written => exact ⟨rfl, rfl⟩
  | error e => exact ⟨rfl, Press.exitCode_renderAll ready.supplies ran, _, rfl⟩

-- The first stage that fails decides the exit code and the message, and up to the rendering the
-- files stay as they are. The run ends well if no stage fails, and only then.
theorem work_stages (t : FileTree) (a : Arguments) :
    (∀ e code, Blocked t a.configPath e code →
      (work t a).exitCode = code ∧ (work t a).tree = t ∧ (work t a).Tells e) ∧
    ((∀ e code, ¬ Blocked t a.configPath e code) → ∃ r d', Renders t a.configPath r d') ∧
    (∀ r d', Renders t a.configPath r d' →
      (∀ e code, ¬ Blocked t a.configPath e code) ∧ (work t a).tree = d'.tree ∧
        (work t a).Ends r) ∧
    ((work t a).exitCode = 0 ↔ ∃ written d', Renders t a.configPath (.ok written) d') ∧
    (1 ≤ (work t a).exitCode → (work t a).exitCode ≤ 6 → (work t a).tree = t) := by
  refine ⟨fun _ _ => work_blocked, ?_, ?_, ⟨?_, ?_⟩, ?_⟩
  · intro free
    rcases blocked_or_renders t a.configPath with ⟨e, code, blocked⟩ | renders
    · exact absurd blocked (free e code)
    · exact renders
  · intro r d' renders
    exact ⟨renders_unblocked renders, work_renders renders⟩
  · intro well
    rcases blocked_or_renders t a.configPath with ⟨e, code, blocked⟩ | ⟨r, d', renders⟩
    · have ends := (work_blocked blocked).1
      have positive := code_positive blocked
      omega
    · cases r with
      | ok written => exact ⟨written, d', renders⟩
      | error e =>
        have ends := (work_renders renders).2.1
        omega
  · rintro ⟨written, d', renders⟩
    exact (work_renders renders).2
  · intro least most
    rcases blocked_or_renders t a.configPath with ⟨e, code, blocked⟩ | ⟨r, d', renders⟩
    · exact (work_blocked blocked).2.1
    · cases r with
      | ok written =>
        have ends : (work t a).exitCode = 0 := (work_renders renders).2
        omega
      | error e =>
        have ends := (work_renders renders).2.1
        omega

end Ends

end CommandLine

end RowPress
