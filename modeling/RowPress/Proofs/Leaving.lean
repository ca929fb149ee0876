import RowPress.Proofs.Merging
import RowPress.Proofs.Target
/-!
What a rendering leaves, whether it ends well or fails. The sheets that it saves are known in their
parts: where they lie, and what the template was given.
-/
namespace RowPress

open RowPress.Path

namespace Press

open FileTree

-- The sheet of a job in its parts. The letters and digits of the cell name a folder in the output
-- folder, and in that the text is saved under the name that the template gives. The text is made
-- from the document beside the template as its turn has found it, before the data of the
-- configuration, before the row.
structure Drawn (p : Press) (table : Table) (d : Desk) (job : Job) (s : Sheet) : Prop where
  part : ∃ cell, cell? table.headers job.row p.config.column = some cell ∧
    s.part.toList = lettersOf cell
  target : (fileName? job.unit.name).isSome = true →
    components s.target.toList = components p.config.outputPath.toList ++ ofPart s.part ++
      if p.config.outputPath = "" ∧ s.part = "" then
        components (saveName job.unit.name p.config.basePath).toList
      else (components (saveName job.unit.name p.config.basePath).toList).filter (· ≠ .here)
  text : ∃ (sidecar global model : Entries),
    p.sidecarAt table d job.earlier job.unit = .ok sidecar ∧
    global = p.config.data.entries?.getD [] ∧
    model = Given.model (Given.all job.unit.sidecar sidecar global table.headers job.row) ∧
    (∀ key, model.get? key = ((sidecar.get? key).or (global.get? key)).or
      (((table.headers.idxOf? key).bind (job.row[·]?)).map Value.text)) ∧
    d.renderer.render job.unit.name job.number model = .ok s.text

section Parts

variable {p : Press} {table : Table} {d : Desk} {job : Job} {jobs : List Job} {s : Sheet}
  {sheets : List Sheet}

theorem sheet_ok_iff : p.sheet table d job = .ok s ↔ ∃ sidecar,
    p.sidecarAt table d job.earlier job.unit = .ok sidecar ∧
      p.rowSheet table d.renderer job.unit sidecar job.number job.row = .ok s := by
  unfold sheet
  cases p.sidecarAt table d job.earlier job.unit <;> simp [bind, Except.bind]

theorem sheet_drawn (found : p.sheet table d job = .ok s) : p.Drawn table d job s := by
  obtain ⟨sidecar, loaded, found⟩ := sheet_ok_iff.mp found
  obtain ⟨part, model, text, parted, built, rendered, rfl⟩ := rowSheet_ok_iff.mp found
  obtain ⟨cell, at', same⟩ := pathPart_ok_iff.mp parted
  rw [outcome_buildModel] at built
  refine ⟨⟨cell, at', same⟩, fun named => ?_, sidecar, _, model, loaded, rfl,
    (Except.ok.inj built).symm, ?_, rendered⟩
  · exact components_target (lettersOf_letters same) (saveName_relative named _).2 _
  · rw [← Except.ok.inj built]
    exact get?_buildModel _ _ _ _ _

theorem Sheets.drawn (founds : p.Sheets table d jobs sheets) :
    List.Forall₂ (p.Drawn table d) jobs sheets :=
  founds.imp fun _ _ => sheet_drawn

end Parts

section Results

variable {p : Press} {table : Table} {units : List RenderUnit} {written : Nat} {d d' : Desk}
  {e : Error}

-- What a rendering leaves when it fails: the sheets of the jobs before the stop, and at most some
-- folders for the job at the stop. Where its file was opened and the system gave up, a front part
-- of the text is left in the place of what the file held.
theorem rendering_stops (ran : (p.renderAll table units).outcome d = (.error e, d')) :
    ∃ (done : List Job) (sheets replaced : List Sheet) (stop : Stop) (t : FileTree)
      (torn : Option Location),
      stop.After table.rows [] units done ∧ p.Sheets table d done sheets ∧
      List.Forall₂ (p.Drawn table d) done sheets ∧
      d.tree.SavedAll sheets replaced t ∧ stop.Fails p table d e t torn d'.tree ∧
      d.tree.Laid sheets torn d'.tree ∧
      (∀ place, torn = some place → ∃ job s cause front, stop = .row job ∧
        p.sheet table d job = .ok s ∧ place = s.place d.tree ∧ e = .io cause ∧
        d.tree.Keeps place (.text s.text) cause front ∧ d'.tree.content? place = some front) ∧
      (∀ place, d'.tree.isFolder place = true → d.tree.isFolder place = true ∨
        (∃ s ∈ sheets, s.Needs d.tree place) ∨
        ∃ job s, stop = .row job ∧ p.sheet table d job = .ok s ∧ s.Needs d.tree place) ∧
      (∀ name number f, e = .render name number f → ∃ job, stop = .row job ∧
        name = job.unit.name ∧ number = job.number ∧
        ∃ i, number = i + 1 ∧ table.rows[i]? = some job.row) ∧
      (∀ f, e = .sidecar f → ∃ earlier u, stop = .turn earlier u) := by
  have before : (p.renderAll table []).outcome d = (.ok 0, d) := rfl
  obtain ⟨done, sheets, stop, middle, torn, after, founds, wrote, fails⟩ :=
    renderAll_error before rfl ran
  obtain ⟨replaced, _, saved, _⟩ := wrote.saved
  refine ⟨done, sheets, replaced, stop, middle.tree, torn, after, founds, founds.drawn, saved,
    fails, ?_⟩
  cases stop with
  | turn earlier u =>
    obtain ⟨failed, rfl, tree⟩ := fails
    obtain ⟨f, rfl⟩ := (readSidecar_quiet _ _).failed e failed
    rw [tree]
    refine ⟨saved.laid, nofun, ?_, nofun, fun _ _ => ⟨earlier, u, rfl⟩⟩
    intro place folder
    exact (saved.isFolder folder).imp_right .inl
  | row job =>
    obtain ⟨later, split⟩ := after
    have member : job ∈ Job.turns table.rows [] units := by simp [split]
    obtain ⟨_, i, numbered, at'⟩ := Job.mem_turns member
    rcases fails with ⟨sidecar, _, failed, rfl, tree⟩ | ⟨s, cause, found, rfl, unsaved⟩
    · rw [tree]
      refine ⟨saved.laid, nofun, fun place folder => (saved.isFolder folder).imp_right .inl, ?_⟩
      rcases rowSheet_error failed with parted | ⟨f, rfl⟩
      · obtain ⟨shown, rfl⟩ := (pathPart_quiet _ _ _).failed e parted
        exact ⟨nofun, nofun⟩
      · refine ⟨?_, nofun⟩
        intro name number f' same
        cases same
        exact ⟨job, rfl, rfl, rfl, i, numbered, at'⟩
    · refine ⟨saved.laid_grows unsaved.grows fun place whole => unsaved.content? whole, ?_, ?_,
        nofun, nofun⟩
      · intro place broken
        obtain ⟨here, front, keeps, left⟩ := saved.unsaved_front unsaved broken
        exact ⟨job, s, cause, front, rfl, found, here, rfl, keeps, left⟩
      · intro place folder
        refine (saved.unsaved_isFolder unsaved folder).imp_right (Or.imp_right ?_)
        exact fun needs => ⟨job, s, rfl, found, needs⟩

-- The second row is too short for what the template asks of it.
theorem rendering_stops_short :
    let p : Press := ⟨⟨"t", ["x"], "", "o", "k", .empty⟩, "y"⟩
    let d : Desk := ⟨.empty, ⟨[⟨"x", 1,
      [.output (.name "k" 1) 1, .output (.attribute (.name "m" 1) "x") 1]⟩]⟩, []⟩
    ∃ f d', (p.renderAll ⟨["k", "m"], [["a", "1"], ["b"], ["c", "3"]]⟩ [⟨"x", "s"⟩]).outcome d =
        (.error (.render "x" 2 f), d') ∧
      d'.tree.read "o/a/x" = .ok (.text "a") ∧
      d'.tree.content? ["work", "o", "b", "x"] = none ∧
      d'.tree.content? ["work", "o", "c", "x"] = none := by
  intro p d
  let table : Table := ⟨["k", "m"], [["a", "1"], ["b"], ["c", "3"]]⟩
  have ends : (match ((p.renderAll table [⟨"x", "s"⟩]).outcome d).1 with
      | .error (.render name number _) => some (name, number)
      | _ => none) = some ("x", 2) := by decide +kernel
  have one : p.sheet table d ⟨[], ⟨"x", "s"⟩, 1, ["a", "1"]⟩ = .ok ⟨"o/a/x", "a", "a"⟩ :=
    ok_of_toOption (by decide +kernel)
  have lies : Sheet.place ⟨"o/a/x", "a", "a"⟩ d.tree = ["work", "o", "a", "x"] := by
    decide +kernel
  rcases ran : (p.renderAll table [⟨"x", "s"⟩]).outcome d with ⟨e | written, d'⟩
  · rw [ran] at ends
    obtain ⟨f, rfl⟩ : ∃ f, e = .render "x" 2 f := by
      cases e <;> simp at ends
      obtain ⟨rfl, rfl⟩ := ends
      exact ⟨_, rfl⟩
    obtain ⟨done, sheets, _, stop, t, torn, after, founds, _, _, _, laid, broken, _, named, _⟩ :=
      rendering_stops ran
    obtain ⟨job, rfl, _, numbered, _⟩ := named _ _ _ rfl
    obtain rfl : torn = none := by
      cases torn with
      | none => rfl
      | some place =>
        obtain ⟨_, _, _, _, _, _, _, kind, _⟩ := broken place rfl
        cases kind
    obtain ⟨later, split⟩ := after
    have split : [⟨[], ⟨"x", "s"⟩, 1, ["a", "1"]⟩, ⟨[], ⟨"x", "s"⟩, 2, ["b"]⟩,
      ⟨[], ⟨"x", "s"⟩, 3, ["c", "3"]⟩] = done ++ job :: later := split
    obtain _ | ⟨first, _ | ⟨second, rest⟩⟩ := done
    · cases split
      cases numbered
    · cases split
      obtain _ | ⟨found, _ | _⟩ := founds
      obtain rfl := Except.ok.inj (one.symm.trans found)
      refine ⟨f, d', rfl, laid.last [] _ [] rfl (by simp) nofun, ?_, ?_⟩
      · exact laid.apart ["work", "o", "b", "x"] (by simp [lies]) nofun
      · exact laid.apart ["work", "o", "c", "x"] (by simp [lies]) nofun
    · obtain _ | ⟨third, _ | ⟨_, _⟩⟩ := rest
      · cases split
        cases numbered
      · simp at split
      · simp at split
  · rw [ran] at ends
    cases ends

-- A file that was there, and that no earlier job has touched, is cut short by the job at the stop.
-- And a folder that an earlier job came through is left, which is not on the way to the target at
-- the stop.
theorem stop_leaves_traces :
    (let p : Press := ⟨⟨"t", ["x"], "", "", "k", .empty⟩, "y"⟩
      let tree : FileTree := { FileTree.empty.put ["work", "x"] (.text "old") with
        limits := [⟨["work", "x"], 1, .noSpace⟩] }
      let d : Desk := ⟨tree, ⟨[⟨"x", 1, [.data "new"]⟩]⟩, []⟩
      ∃ d', (p.renderAll ⟨["k"], [["!"]]⟩ [⟨"x", "s"⟩]).outcome d = (.error (.io .noSpace), d') ∧
        tree.read "x" = .ok (.text "old") ∧ d'.tree.read "x" = .ok (.text "n")) ∧
    (let p : Press := ⟨⟨"t", ["b/q/../x", "b/z"], "b/", "o", "k", .empty⟩, "y"⟩
      let d : Desk := ⟨.empty, ⟨[⟨"b/q/../x", 1, [.data "u"]⟩]⟩, []⟩
      ∃ f d', (p.renderAll ⟨["k"], [["a"]]⟩ [⟨"b/q/../x", "s"⟩, ⟨"b/z", "s"⟩]).outcome d =
          (.error (.render "b/z" 1 f), d') ∧
        p.target? ["k"] "b/z" ["a"] = some "o/a/z" ∧
        d.tree.isFolder ["work", "o", "a", "q"] = false ∧
        d'.tree.isFolder ["work", "o", "a", "q"] = true) := by
  constructor
  · intro p tree d
    let work := p.renderAll ⟨["k"], [["!"]]⟩ [⟨"x", "s"⟩]
    have ends : (match (work.outcome d).1 with
        | .error (.io .noSpace) => true
        | _ => false) = true := by decide +kernel
    have before : (tree.read "x").toOption = some (.text "old") := by decide +kernel
    have after : ((work.outcome d).2.tree.read "x").toOption = some (.text "n") := by
      decide +kernel
    refine ⟨(work.outcome d).2, Prod.ext ?_ rfl, ok_of_toOption before, ok_of_toOption after⟩
    split at ends
    · assumption
    · cases ends
  · intro p d
    let work := p.renderAll ⟨["k"], [["a"]]⟩ [⟨"b/q/../x", "s"⟩, ⟨"b/z", "s"⟩]
    have ends : (match (work.outcome d).1 with
        | .error (.render name number _) => some (name, number)
        | _ => none) = some ("b/z", 1) := by decide +kernel
    have target : p.target? ["k"] "b/z" ["a"] = some "o/a/z" := by decide +kernel
    have left : (work.outcome d).2.tree.isFolder ["work", "o", "a", "q"] = true := by
      decide +kernel
    split at ends
    · rename_i name number f failed
      obtain ⟨rfl, rfl⟩ := Prod.mk.inj (Option.some.inj ends)
      exact ⟨f, (work.outcome d).2, Prod.ext failed rfl, target, by decide +kernel, left⟩
    · cases ends

end Results

end Press

end RowPress
