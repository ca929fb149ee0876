import RowPress.Proofs.Reordering
/-!
The templates of a press outlive its calls. When a call stops at a template that cannot be compiled,
those before it in the list have taken the place of what was there; nothing else is changed.
-/
namespace RowPress

namespace Renderer

open Press

variable {r : Renderer} {c : Template.Compiled} {cs : List Template.Compiled} {t : FileTree}
  {names : List String}

-- No two templates of one name.
def Distinct (r : Renderer) : Prop := (r.templates.map (·.name)).Nodup

theorem distinct_empty : empty.Distinct := List.nodup_nil

theorem Distinct.put (distinct : r.Distinct) (c : Template.Compiled) : (r.put c).Distinct := by
  refine List.nodup_cons.mpr ⟨?_, List.Nodup.sublist (List.filter_sublist.map _) distinct⟩
  intro named
  obtain ⟨c', kept, same⟩ := List.mem_map.mp named
  simpa [same] using (List.mem_filter.mp kept).2

theorem Distinct.putAll (distinct : r.Distinct) (cs : List Template.Compiled) :
    (cs.foldl Renderer.put r).Distinct := by
  induction cs generalizing r with
  | nil => exact distinct
  | cons c rest ih => exact ih (distinct.put c)

theorem get?_put (r : Renderer) (c : Template.Compiled) (name : String) :
    (r.put c).get? name = if c.name = name then some c else r.get? name := by
  unfold put get?
  by_cases same : c.name = name
  · rw [List.find?_cons_of_pos (by simpa using same), if_pos same]
  · rw [List.find?_cons_of_neg (by simpa using same), if_neg same, List.find?_filter]
    congr 1
    funext c'
    by_cases other : c'.name = name
    · simp [other, Ne.symm same]
    · simp [other]

theorem get?_putAll (compiles : ∀ name ∈ names, Compiles t name) (name : String) :
    ((names.filterMap (compiled? t)).foldl put r).get? name =
      if name ∈ names then compiled? t name else r.get? name := by
  induction names generalizing r with
  | nil => rfl
  | cons first rest ih =>
    obtain ⟨⟨_, c, read, compiled⟩, others⟩ := List.forall_mem_cons.mp compiles
    have made := compiled?_made read compiled
    rw [List.filterMap_cons_some made, List.foldl_cons, ih others, get?_put, compiled?_name made]
    by_cases later : name ∈ rest
    · rw [if_pos later, if_pos (List.mem_cons_of_mem _ later)]
    · by_cases here : first = name
      · rw [if_neg later, if_pos here, if_pos (here ▸ List.mem_cons_self), ← here, made]
      · simp [later, here, Ne.symm here]

theorem filter_front_perm (distinct : (cs.map (·.name)).Nodup) (member : c ∈ cs) :
    (c :: cs.filter (·.name != c.name)).Perm cs := by
  induction cs with
  | nil => cases member
  | cons first rest ih =>
    obtain ⟨other, distinct⟩ := List.nodup_cons.mp distinct
    rcases List.mem_cons.mp member with rfl | later
    · have kept : rest.filter (·.name != c.name) = rest := by
        rw [List.filter_eq_self]
        intro c' listed
        have apart : c'.name ≠ c.name := fun same =>
          other (List.mem_map.mpr ⟨c', listed, same⟩)
        simpa using apart
      rw [List.filter_cons_of_neg (by simp), kept]
    · have apart : first.name ≠ c.name := fun same =>
        other (List.mem_map.mpr ⟨c, later, same.symm⟩)
      rw [List.filter_cons_of_pos (by simpa using apart)]
      exact (List.Perm.swap first c _).trans ((ih distinct later).cons first)

-- A template that is replaced by itself only comes to the front.
theorem put_perm (distinct : r.Distinct) (held : r.get? c.name = some c) :
    (r.put c).templates.Perm r.templates :=
  filter_front_perm distinct (List.mem_of_find?_eq_some held)

theorem putAll_held (distinct : r.Distinct) (held : ∀ c ∈ cs, r.get? c.name = some c) :
    (cs.foldl put r).templates.Perm r.templates ∧ (cs.foldl put r).get? = r.get? := by
  induction cs generalizing r with
  | nil => exact ⟨.refl _, rfl⟩
  | cons c rest ih =>
    obtain ⟨here, others⟩ := List.forall_mem_cons.mp held
    have same : (r.put c).get? = r.get? := by
      funext name
      rw [get?_put]
      split
      · rename_i named
        rw [← named, here]
      · rfl
    obtain ⟨perm, found⟩ := ih (distinct.put c) (same ▸ others)
    exact ⟨perm.trans (put_perm distinct here), found.trans same⟩

-- What renderings can come to is the same exactly if every template was there as it is now.
theorem library_putAll_iff (distinct : r.Distinct) (compiles : ∀ name ∈ names, Compiles t name) :
    Template.Library.ofList ((names.filterMap (compiled? t)).foldl put r).templates =
        Template.Library.ofList r.templates ↔
      ∀ name ∈ names, r.get? name = compiled? t name := by
  constructor
  · intro same name named
    have found := congrFun (congrArg Template.Library.get? same) name
    have after := get?_putAll (r := r) compiles name
    rw [if_pos named] at after
    exact found.symm.trans after
  · intro held
    have each : ∀ c ∈ names.filterMap (compiled? t), r.get? c.name = some c := by
      intro c member
      obtain ⟨name, named, made⟩ := List.mem_filterMap.mp member
      rw [compiled?_name made, held name named, made]
    obtain ⟨perm, found⟩ := putAll_held distinct each
    exact Template.Library.ofList_perm perm (congrFun found)

end Renderer

-- A work after which the templates have a property that they had before.
def Work.Carries (inv : Renderer → Prop) (w : Work α) : Prop :=
  ∀ d, inv d.renderer → inv (w.outcome d).2.renderer

namespace Work

variable {inv : Renderer → Prop} {α β : Type}

theorem Carries.pure (a : α) : Carries inv (pure a : Work α) := fun _ before => before

theorem Carries.bind {w : Work α} {f : α → Work β} (first : Carries inv w)
    (next : ∀ a, Carries inv (f a)) : Carries inv (w >>= f) := by
  intro d before
  have middle := first d before
  rw [outcome_bind]
  rcases ran : w.outcome d with ⟨_ | a, d'⟩
  · rwa [ran] at middle
  · rw [ran] at middle
    exact next a d' middle

theorem look_carries (s : FileTree → Step α) : Carries inv (look s) := by
  intro d before
  unfold look
  rw [outcome_bind, outcome_desk]
  dsimp only
  rcases (s d.tree).run.run d.journal with ⟨_ | _, journal⟩ <;> exact before

end Work

namespace Press

open Work Renderer

section Rendering

variable {inv : Renderer → Prop}

theorem save_carries {column : String} {s : Sheet} {d : Desk} (before : inv d.renderer) :
    inv (save s (announce column s d)).2.renderer := by
  unfold save announce
  split
  · exact before
  · dsimp only
    split <;> exact before

theorem renderRow_carries (p : Press) (table : Table) (u : RenderUnit) (sidecar : Entries)
    (number : Nat) (row : List String) :
    Carries inv (p.renderRow table u sidecar number row) := by
  intro d before
  rw [outcome_renderRow]
  dsimp only
  split
  · exact before
  · exact save_carries before

theorem renderRows_carries (p : Press) (table : Table) (u : RenderUnit) (sidecar : Entries)
    (number : Nat) (rows : List (List String)) :
    Carries inv (p.renderRows table u sidecar number rows) := by
  induction rows generalizing number with
  | nil => exact .pure 0
  | cons row rest ih =>
    rw [renderRows]
    refine .bind (renderRow_carries p table u sidecar number row) fun _ => ?_
    exact .bind (ih (number + 1)) fun _ => .pure _

-- Rendering leaves the templates as they are.
theorem renderAll_carries (p : Press) (table : Table) (units : List RenderUnit) :
    Carries inv (p.renderAll table units) := by
  induction units with
  | nil => exact .pure 0
  | cons u rest ih =>
    rw [renderAll]
    refine .bind (look_carries _) fun sidecar => ?_
    refine .bind (renderRows_carries p table u sidecar 1 table.rows) fun _ => ?_
    exact .bind ih fun _ => .pure _

end Rendering

-- Where compiling stops, and the templates that have been compiled by then.
inductive Stopped (p : Press) (t : FileTree) : List String → Error → Prop where
  | noTemplates : p.config.templates = [] → Stopped p t [] .noTemplates
  | notFound : p.missing t ≠ [] → Stopped p t [] (.templateNotFound (p.missing t))
  | template {done after : List String} {name : String} {e : Error} {code : Nat} :
      p.missing t = [] → p.config.templates = done ++ name :: after →
      (∀ good ∈ done, Compiles t good) → Broken t name e code → Stopped p t done e

theorem Stopped.compiles {p : Press} {t : FileTree} {done : List String} {e : Error}
    (stopped : p.Stopped t done e) : ∀ name ∈ done, Compiles t name := by
  cases stopped with
  | noTemplates none => exact List.forall_mem_nil _
  | notFound some => exact List.forall_mem_nil _
  | template found split compiles broken => exact compiles

-- The calls of a press, and changes of the files between them.
inductive Call (p : Press) : Desk → Desk → Prop where
  | edited {d : Desk} (t : FileTree) : Call p d { d with tree := t }
  | compiled {d : Desk} : Call p d (p.compile.outcome d).2
  | ran {d : Desk} : Call p d (p.run.outcome d).2
  | rendered {d : Desk} (table : Table) (units : List RenderUnit) :
      Call p d ((p.renderAll table units).outcome d).2

-- The desks that a press comes to.
inductive Reached (p : Press) : Desk → Prop where
  | fresh (t : FileTree) : Reached p ⟨t, .empty, []⟩
  | step {d d' : Desk} : Reached p d → Call p d d' → Reached p d'

section Compiling

variable {p : Press} {d d' : Desk} {e : Error}

theorem compile_ends (p : Press) (d : Desk) : ∃ done journal,
    (p.compile.outcome d).2 = { compiling done d with journal } ∧
    (done = p.config.templates ∧
        (p.compile.outcome d).1 = .ok (p.config.templates.map p.unit) ∨
      ∃ e, p.Stopped d.tree done e ∧ (p.compile.outcome d).1 = .error e) := by
  by_cases none : p.config.templates = []
  · have ran : p.compile.outcome d = (.error .noTemplates, d) := by
      unfold compile
      rw [if_pos (List.isEmpty_iff.mpr none)]
      rfl
    rw [ran]
    exact ⟨[], d.journal, rfl, .inr ⟨_, .noTemplates none, rfl⟩⟩
  · by_cases found : p.missing d.tree = []
    · rw [outcome_compile p none found]
      rcases compile_or_first d.tree p.config.templates with
        all | ⟨before, name, after, e, code, split, goods, broken⟩
      · rw [outcome_compileEach p all]
        exact ⟨_, _, rfl, .inl ⟨rfl, rfl⟩⟩
      · obtain ⟨journal, failed⟩ := outcome_compileEach_broken p after goods broken
        rw [split, failed]
        exact ⟨before, journal, rfl, .inr ⟨e, .template found split goods broken, rfl⟩⟩
    · obtain ⟨journal, failed⟩ := outcome_compile_notFound p found
      rw [failed]
      exact ⟨[], journal, rfl, .inr ⟨_, .notFound found, rfl⟩⟩

theorem compile_distinct (p : Press) : Carries Distinct p.compile := by
  intro d distinct
  obtain ⟨done, journal, ended, _⟩ := p.compile_ends d
  rw [ended]
  exact distinct.putAll _

theorem run_distinct (p : Press) : Carries Distinct p.run := by
  unfold run readTable validate step
  refine .bind (look_carries _) fun table => ?_
  refine .bind (look_carries _) fun _ => ?_
  refine .bind (compile_distinct p) fun units => ?_
  exact renderAll_carries p table units

theorem Call.distinct (call : p.Call d d') (distinct : d.renderer.Distinct) :
    d'.renderer.Distinct := by
  cases call with
  | edited t => exact distinct
  | compiled => exact compile_distinct p d distinct
  | ran => exact run_distinct p d distinct
  | rendered table units => exact renderAll_carries p table units d distinct

theorem Reached.distinct (reached : p.Reached d) : d.renderer.Distinct := by
  induction reached with
  | fresh t => exact distinct_empty
  | step _ call ih => exact call.distinct ih

-- A call of compile that fails has compiled the templates before the one it stops at, and keeps
-- them. All is rendered as before if each of these was there as it is now, and in particular if
-- the list is empty, a file is missing, or the first template is the one that is broken.
theorem compile_failed (reached : p.Reached d)
    (failed : p.compile.outcome d = (.error e, d')) :
    d'.tree = d.tree ∧ ∃ done, p.Stopped d.tree done e ∧
      (∀ name, d'.renderer.get? name =
        if name ∈ done then compiled? d.tree name else d.renderer.get? name) ∧
      (Template.Library.ofList d'.renderer.templates =
          Template.Library.ofList d.renderer.templates ↔
        ∀ name ∈ done, d.renderer.get? name = compiled? d.tree name) ∧
      ((∀ name ∈ done, d.renderer.get? name = compiled? d.tree name) →
        ∀ name row model,
          d'.renderer.render name row model = d.renderer.render name row model) := by
  obtain ⟨done, journal, ended, made⟩ := p.compile_ends d
  rw [failed] at ended made
  replace ended : d' = { compiling done d with journal } := ended
  have tree : d'.tree = d.tree := (congrArg Desk.tree ended :)
  have renderer : d'.renderer = (done.filterMap (compiled? d.tree)).foldl put d.renderer :=
    congrArg Desk.renderer ended
  rcases made with ⟨_, ended⟩ | ⟨e', stopped, ended⟩
  · cases ended
  · cases ended
    have same := library_putAll_iff reached.distinct stopped.compiles
    rw [← renderer] at same
    refine ⟨tree, done, stopped, ?_, same, ?_⟩
    · intro name
      rw [renderer, get?_putAll stopped.compiles]
    · intro held name row model
      rw [render_congr (same.mpr held)]

-- Between the two calls the second template is spoilt, and the first is left as it is.
theorem compile_failed_held :
    let p : Press := ⟨⟨"t", ["a", "b"], "", "", "k", .empty⟩, "y"⟩
    ∃ d d' e, p.Reached d ∧ p.compile.outcome d = (.error e, d') ∧
      d.renderer.render "a" 1 [] = .ok "1" ∧
      ∀ name row model, d'.renderer.render name row model = d.renderer.render name row model := by
  intro p
  let tree := (FileTree.empty.put ["work", "a"] (.text "1")).put ["work", "b"] (.text "u")
  let tree' := (FileTree.empty.put ["work", "a"] (.text "1")).put ["work", "b"]
    (.text "\x7b% if %\x7d")
  let d : Desk := { (p.compile.outcome ⟨tree, .empty, []⟩).2 with tree := tree' }
  have reached : p.Reached d := .step (.step (.fresh tree) .compiled) (.edited tree')
  have stops : (p.compile.outcome d).1.toOption = none := by decide +kernel
  have before : d.renderer.render "a" 1 [] = .ok "1" := rfl
  have held : d.renderer.get? "a" = compiled? tree' "a" := rfl
  rcases ran : p.compile.outcome d with ⟨e | units, d'⟩
  · obtain ⟨_, done, stopped, _, _, same⟩ := compile_failed reached ran
    have kept : ∀ name ∈ done, d.renderer.get? name = compiled? d.tree name := by
      cases stopped with
      | noTemplates none => cases none
      | notFound some => exact List.forall_mem_nil _
      | template _ split _ _ =>
        obtain _ | ⟨first, _ | ⟨second, rest⟩⟩ := done
        · exact List.forall_mem_nil _
        · cases split
          exact List.forall_mem_singleton.mpr held
        · simp [p] at split
    exact ⟨d, d', e, reached, ran, before, same kept⟩
  · rw [ran] at stops
    cases stops

-- Here the first template is changed as well, and is compiled anew before the call stops.
theorem compile_replaces_earlier :
    let p : Press := ⟨⟨"t", ["a", "b"], "", "", "k", .empty⟩, "y"⟩
    ∃ d d' e, p.Reached d ∧ p.compile.outcome d = (.error e, d') ∧
      d.renderer.render "a" 1 [] = .ok "1" ∧
      d'.renderer.render "a" 1 [] = .ok "2" := by
  intro p
  let tree := (FileTree.empty.put ["work", "a"] (.text "1")).put ["work", "b"] (.text "u")
  let tree' := (FileTree.empty.put ["work", "a"] (.text "2")).put ["work", "b"]
    (.text "\x7b% if %\x7d")
  let d : Desk := { (p.compile.outcome ⟨tree, .empty, []⟩).2 with tree := tree' }
  have reached : p.Reached d := .step (.step (.fresh tree) .compiled) (.edited tree')
  have stops : (p.compile.outcome d).1.toOption = none := by decide +kernel
  have before : d.renderer.render "a" 1 [] = .ok "1" := rfl
  have after : (p.compile.outcome d).2.renderer.render "a" 1 [] = .ok "2" := rfl
  rcases ran : p.compile.outcome d with ⟨e | units, d'⟩
  · rw [ran] at after
    exact ⟨d, d', e, reached, ran, before, after⟩
  · rw [ran] at stops
    cases stops

end Compiling

end Press

end RowPress
