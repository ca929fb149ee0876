import Mathlib
import RowPress.Proofs.Script
/-!
Running again over what a run has left. When no target is one of the files that are read, the second
run does what the first did, and every file is replaced by itself.
-/
namespace RowPress

namespace Renderer

-- Templates of these names, and no others.
def Only (names : List String) (r : Renderer) : Prop := ∀ c ∈ r.templates, c.name ∈ names

variable {names : List String} {cs : List Template.Compiled} {r r' : Renderer}

-- Templates that are replaced leave no trace.
theorem putAll_congr
    (same : r.templates.filter (fun c => c.name ∉ cs.map (·.name)) =
      r'.templates.filter (fun c => c.name ∉ cs.map (·.name))) :
    cs.foldl put r = cs.foldl put r' := by
  induction cs generalizing r r' with
  | nil =>
    obtain ⟨templates⟩ := r
    obtain ⟨templates'⟩ := r'
    simpa using same
  | cons c rest ih =>
    rw [List.map_cons] at same
    rw [List.foldl_cons, List.foldl_cons]
    exact ih (by rw [filter_put, filter_put, same])

theorem putAll_same (all : ∀ name ∈ names, ∃ c ∈ cs, c.name = name) (only : r.Only names)
    (only' : r'.Only names) : cs.foldl put r = cs.foldl put r' := by
  have none : ∀ r : Renderer, r.Only names →
      r.templates.filter (fun c => c.name ∉ cs.map (·.name)) = [] := by
    intro r only
    rw [List.filter_eq_nil_iff]
    intro c member
    obtain ⟨c', listed, named⟩ := all c.name (only c member)
    simpa using ⟨c', listed, named⟩
  exact putAll_congr ((none r only).trans (none r' only').symm)

end Renderer

namespace FileTree

variable {t t' : FileTree} {path : String}

theorem isFile_iff_read : t.isFile path = true ↔ ∃ content, t.read path = .ok content := by
  simp only [isFile_iff, read_ok_iff]
  constructor
  · rintro ⟨place, content, looked⟩
    obtain rfl : place = t.placeOf path := lookUp_place looked
    exact ⟨content, looked⟩
  · rintro ⟨content, looked⟩
    exact ⟨_, content, looked⟩

theorem readText_eq (same : t'.read path = t.read path) : t'.readText path = t.readText path := by
  unfold readText
  rw [same]

end FileTree

theorem Table.read_eq {t t' : FileTree} {path : String} (same : t'.read path = t.read path) :
    Table.read t' path = Table.read t path := by
  unfold Table.read
  rw [same]

theorem Table.read_ok {t : FileTree} {path : String} {table : Table}
    (made : (Table.read t path).outcome.1 = .ok table) : ∃ content, t.read path = .ok content := by
  unfold Table.read at made
  cases read : t.read path with
  | error e =>
    rw [read] at made
    cases made
  | ok content => exact ⟨content, rfl⟩

namespace Press

open FileTree Work

section Again

variable {p : Press} {t t' : FileTree} {table : Table} {name : String} {replaced : List Sheet}
  {d d' : Desk}

theorem compiled?_eq (same : t'.read name = t.read name) :
    compiled? t' name = compiled? t name := by
  unfold compiled?
  rw [readText_eq same]

-- The files that a run reads.
def inputs (p : Press) : List String :=
  p.config.table :: p.config.templates ++ p.config.templates.map (sidecarPath · p.extension)

-- What is read before the rendering is the same in both trees.
structure Keeps (p : Press) (t t' : FileTree) : Prop where
  table : t'.read p.config.table = t.read p.config.table
  template : ∀ name ∈ p.config.templates, t'.read name = t.read name

theorem Keeps.ready (keeps : p.Keeps t t') (ready : p.Ready t table) : p.Ready t' table := by
  refine ⟨⟨?_, ready.supplies⟩, ready.configured, ?_, ?_⟩
  · rw [Table.read_eq keeps.table]
    exact ready.read
  · rw [missing, List.filter_eq_nil_iff]
    intro name listed
    obtain ⟨content, held⟩ := isFile_iff_read.mp (ready_isFile ready listed)
    have there : t'.isFile name = true :=
      isFile_iff_read.mpr ⟨content, (keeps.template name listed).trans held⟩
    simp [there]
  · intro name listed
    obtain ⟨source, template, read, compiled⟩ := ready.compiles name listed
    exact ⟨source, template, (readText_eq (keeps.template name listed)).trans read, compiled⟩

theorem Keeps.preface (keeps : p.Keeps t t') : p.preface table t' = p.preface table t := by
  rw [Press.preface, Press.preface, Table.read_eq keeps.table]

-- A press with only its own templates begins to render with the same ones every time.
theorem Keeps.renderer (keeps : p.Keeps t t') (ready : p.Ready t table) {r r' : Renderer}
    (own : r.Only p.config.templates) (own' : r'.Only p.config.templates) (j j' : Journal) :
    (p.opened table ⟨t', r', j'⟩).renderer = (p.opened table ⟨t, r, j⟩).renderer := by
  have same : p.config.templates.filterMap (compiled? t') =
      p.config.templates.filterMap (compiled? t) :=
    List.filterMap_congr fun name listed => compiled?_eq (keeps.template name listed)
  change (p.config.templates.filterMap (compiled? t')).foldl Renderer.put r' =
    (p.config.templates.filterMap (compiled? t)).foldl Renderer.put r
  rw [same]
  refine Renderer.putAll_same ?_ own' own
  intro name listed
  obtain ⟨_, c, read, compiled⟩ := ready.compiles name listed
  have made := compiled?_made read compiled
  exact ⟨c, List.mem_filterMap.mpr ⟨name, listed, made⟩, compiled?_name made⟩

-- A rendering that saves nothing in place of the files that are read leaves them as they are.
theorem Performed.keeps {acts : List Act} (ready : p.Ready d.tree table)
    (performed : Performed p.config.column (p.opened table d) acts replaced d')
    (aside : ∀ path ∈ p.inputs, ∀ s ∈ Act.sheets acts,
      s.place d.tree ≠ d.tree.placeOf path) :
    p.Keeps d.tree d'.tree := by
  have kept : ∀ path ∈ p.inputs, ∀ content, d.tree.read path = .ok content →
      d'.tree.read path = d.tree.read path := fun path listed content held =>
    (performed.saved.laid.kept path content (aside path listed) nofun held).trans held.symm
  obtain ⟨content, held⟩ := Table.read_ok ready.read
  refine ⟨kept _ List.mem_cons_self content held, ?_⟩
  intro name listed
  obtain ⟨content, held⟩ := isFile_iff_read.mp (ready_isFile ready listed)
  exact kept name (List.mem_append_left _ (List.mem_cons_of_mem _ listed)) content held

end Again

end Press

-- The files that were replaced, and the keys that were given more than once, in the order in which
-- they were reported.
def Note.replaced? : Note → Option String
  | .diagnostic (.overwrite path _ _) => some path
  | _ => none

def Journal.replaced (j : Journal) : List String := j.filterMap Note.replaced?

namespace Journal

end Journal

namespace Press

open FileTree Work

section Rerun

variable {p : Press} {table : Table} {written : Nat} {d d' : Desk}

end Rerun

end Press

end RowPress
