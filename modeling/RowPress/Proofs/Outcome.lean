import Mathlib
import RowPress.Run
/-!
How steps and works end. A step adds notes to the journal and does not hang on those made before it;
a work is taken apart at its binds, whether it succeeds or fails.
-/
namespace RowPress

theorem ok_of_toOption {ε α : Type} {r : Except ε α} {a : α} (found : r.toOption = some a) :
    r = .ok a := by
  cases r with
  | error e => cases found
  | ok b => exact congrArg Except.ok (Option.some.inj found)

namespace Step

variable {α β : Type} {notes : Note → Prop} {errors errors' : Error → Prop}

-- What a step makes of a journal that has notes already.
def onto (s : Step α) (j : Journal) : Except Error α × Journal := s.run.run j

@[simp] theorem onto_pure (a : α) (j : Journal) : (pure a : Step α).onto j = (.ok a, j) := rfl

@[simp] theorem onto_fail (e : Error) (j : Journal) :
    (fail e : Step α).onto j = (.error e, j) := rfl

@[simp] theorem onto_note (n : Note) (j : Journal) : (note n).onto j = (.ok (), j ++ [n]) := rfl

theorem onto_bind (s : Step α) (f : α → Step β) (j : Journal) :
    (s >>= f).onto j = match s.onto j with
      | (.ok a, j) => (f a).onto j
      | (.error e, j) => (.error e, j) := by
  unfold onto ExceptT.run StateT.run
  simp only [bind, ExceptT.bind, ExceptT.mk, StateT.bind, ExceptT.bindCont]
  cases s j with
  | mk r j => cases r <;> rfl

theorem onto_tryCatch (s : Step α) (handler : Error → Step α) (j : Journal) :
    (tryCatch s handler).onto j = match s.onto j with
      | (.ok a, j) => (.ok a, j)
      | (.error e, j) => (handler e).onto j := by
  unfold onto ExceptT.run StateT.run
  simp only [tryCatch, tryCatchThe, MonadExceptOf.tryCatch, ExceptT.tryCatch, bind, ExceptT.mk,
    StateT.bind]
  cases s j with
  | mk r j => cases r <;> rfl

theorem outcome_eq (s : Step α) : s.outcome = s.onto [] := rfl

-- The result does not hang on the notes made before, the notes made are of one kind, and so are
-- the errors.
structure Within (notes : Note → Prop) (errors : Error → Prop) (s : Step α) : Prop where
  steady : ∀ j, s.onto j = (s.outcome.1, j ++ s.outcome.2)
  noted : ∀ n ∈ s.outcome.2, notes n
  failed : ∀ e, s.outcome.1 = .error e → errors e

theorem pure_within (a : α) : Within notes errors (pure a : Step α) where
  steady j := by simp [outcome_eq]
  noted := by simp [outcome_eq]
  failed := by simp [outcome_eq]

theorem note_within {n : Note} (kind : notes n) : Within notes errors (note n) where
  steady j := by simp [outcome_eq]
  noted := by simpa [outcome_eq] using kind
  failed := by simp [outcome_eq]

theorem fail_within {e : Error} (kind : errors e) : Within notes errors (fail e : Step α) where
  steady j := by simp [outcome_eq]
  noted := by simp [outcome_eq]
  failed := by simpa [outcome_eq] using kind

theorem outcome_bind_ok {s : Step α} {f : α → Step β} {a : α} (first : s.outcome.1 = .ok a)
    (next : Within notes errors (f a)) :
    (s >>= f).outcome = ((f a).outcome.1, s.outcome.2 ++ (f a).outcome.2) := by
  rw [outcome_eq] at first ⊢
  rw [onto_bind, outcome_eq s]
  cases ran : s.onto [] with
  | mk r j =>
    rw [ran] at first
    cases first
    exact next.steady j

theorem outcome_bind_error {s : Step α} {e : Error} (first : s.outcome.1 = .error e)
    (f : α → Step β) : (s >>= f).outcome = (.error e, s.outcome.2) := by
  rw [outcome_eq] at first ⊢
  rw [onto_bind, outcome_eq s]
  cases ran : s.onto [] with
  | mk r j =>
    rw [ran] at first
    cases first
    rfl

theorem onto_bind_ok {s : Step α} {f : α → Step β} {j : Journal} {b : β}
    (ran : ((s >>= f).onto j).1 = .ok b) :
    ∃ a j', s.onto j = (.ok a, j') ∧ ((f a).onto j').1 = .ok b := by
  rw [onto_bind] at ran
  cases first : s.onto j with
  | mk r j' =>
    rw [first] at ran
    cases r with
    | ok a => exact ⟨a, j', rfl, ran⟩
    | error e => cases ran

theorem bind_ok {s : Step α} {f : α → Step β} {b : β}
    (ran : (s >>= f).outcome.1 = .ok b) :
    ∃ a j, s.outcome = (.ok a, j) ∧ ((f a).onto j).1 = .ok b :=
  onto_bind_ok ran

-- To catch errors only to fail in another way changes no result.
theorem tryCatch_ok_iff {s : Step α} {handler : Error → Step α} {a : α}
    (fails : ∀ e, ∃ e', handler e = fail e') :
    (tryCatch s handler).outcome.1 = .ok a ↔ s.outcome.1 = .ok a := by
  rw [outcome_eq, outcome_eq, onto_tryCatch]
  cases s.onto [] with
  | mk r j =>
    cases r with
    | ok b => exact Iff.rfl
    | error e =>
      obtain ⟨e', same⟩ := fails e
      simp [same]

theorem bind_within {s : Step α} {f : α → Step β} (within : Within notes errors s)
    (next : ∀ a, s.outcome.1 = .ok a → Within notes errors (f a)) :
    Within notes errors (s >>= f) := by
  cases first : s.outcome.1 with
  | ok a =>
    have after := next a first
    have ends := outcome_bind_ok first after
    refine ⟨?_, ?_, ?_⟩
    · intro j
      rw [onto_bind, within.steady, first, ends]
      simp only [after.steady, List.append_assoc]
    · intro n member
      rw [ends] at member
      rcases List.mem_append.mp member with early | late
      · exact within.noted n early
      · exact after.noted n late
    · intro e failed
      rw [ends] at failed
      exact after.failed e failed
  | error e =>
    have ends := outcome_bind_error first f
    refine ⟨?_, ?_, ?_⟩
    · intro j
      rw [onto_bind, within.steady, first, ends]
    · intro n member
      rw [ends] at member
      exact within.noted n member
    · intro e' failed
      rw [ends] at failed
      cases failed
      exact within.failed e first

-- Errors of one kind are turned into errors of another.
theorem tryCatch_within {s : Step α} {handler : Error → Step α} (within : Within notes errors s)
    (handled : ∀ e, errors e → Within notes errors' (handler e)) :
    Within notes errors' (tryCatch s handler) := by
  cases first : s.outcome.1 with
  | ok a =>
    have ran : s.onto [] = (.ok a, s.outcome.2) := by rw [← outcome_eq, ← first]
    have ends : (tryCatch s handler).outcome = (.ok a, s.outcome.2) := by
      rw [outcome_eq, onto_tryCatch, ran]
    refine ⟨?_, ?_, ?_⟩
    · intro j
      rw [onto_tryCatch, within.steady, first, ends]
    · intro n member
      rw [ends] at member
      exact within.noted n member
    · intro e failed
      rw [ends] at failed
      cases failed
  | error e =>
    have after := handled e (within.failed e first)
    have ran : s.onto [] = (.error e, s.outcome.2) := by rw [← outcome_eq, ← first]
    have ends : (tryCatch s handler).outcome =
        ((handler e).outcome.1, s.outcome.2 ++ (handler e).outcome.2) := by
      rw [outcome_eq, onto_tryCatch, ran]
      exact after.steady _
    refine ⟨?_, ?_, ?_⟩
    · intro j
      rw [onto_tryCatch, within.steady, first, ends]
      simp only [after.steady, List.append_assoc]
    · intro n member
      rw [ends] at member
      rcases List.mem_append.mp member with early | late
      · exact within.noted n early
      · exact after.noted n late
    · intro e' failed
      rw [ends] at failed
      exact after.failed e' failed

-- A list of things to tell, told one after the other.
theorem onto_forIn_note {γ : Type} (f : γ → Note) (items : List γ) (j : Journal) :
    (forIn items PUnit.unit fun x _ => do
      note (f x)
      pure (ForInStep.yield PUnit.unit) : Step PUnit).onto j = (.ok (), j ++ items.map f) := by
  induction items generalizing j with
  | nil => simp
  | cons x rest ih =>
    rw [List.forIn_cons, onto_bind, onto_bind, onto_note]
    simp only [onto_pure, ih, List.map_cons, List.append_assoc, List.singleton_append]

end Step

namespace Work

variable {α β : Type} {notes : Note → Prop} {errors : Error → Prop}

@[simp] theorem outcome_pure (a : α) (d : Desk) : (pure a : Work α).outcome d = (.ok a, d) := rfl

@[simp] theorem outcome_throw (e : Error) (d : Desk) :
    (throw e : Work α).outcome d = (.error e, d) := rfl

theorem outcome_desk (d : Desk) : (getThe Desk : Work Desk).outcome d = (.ok d, d) := rfl

@[simp] theorem outcome_get (d : Desk) : (get : Work Desk).outcome d = (.ok d, d) := rfl

@[simp] theorem outcome_modify (f : Desk → Desk) (d : Desk) :
    (modify f : Work Unit).outcome d = (.ok (), f d) := rfl

@[simp] theorem outcome_ofIo_ok (a : α) (d : Desk) : (ofIo (.ok a)).outcome d = (.ok a, d) := rfl

@[simp] theorem outcome_ofIo_error (e : OsError) (d : Desk) :
    (ofIo (.error e) : Work α).outcome d = (.error (.io e), d) := rfl

theorem outcome_bind (w : Work α) (f : α → Work β) (d : Desk) :
    (w >>= f).outcome d = match w.outcome d with
      | (.ok a, d) => (f a).outcome d
      | (.error e, d) => (.error e, d) := by
  unfold outcome ExceptT.run StateT.run
  simp only [bind, ExceptT.bind, ExceptT.mk, StateT.bind, ExceptT.bindCont]
  cases w d with
  | mk r d => cases r <;> rfl

-- What a change of the files has done is kept, also when it ends in an error.
theorem outcome_change (f : FileTree → FileTree × Option OsError) (d : Desk) :
    (change f).outcome d = match f d.tree with
      | (tree, some e) => (.error (.io e), { d with tree })
      | (tree, none) => (.ok (), { d with tree }) := by
  unfold change
  rw [outcome_bind, outcome_desk]
  cases ran : f d.tree with
  | mk tree fault => cases fault <;> simp only [ran, outcome_bind, outcome_modify] <;> rfl

theorem bind_ok {w : Work α} {f : α → Work β} {d d' : Desk} {b : β}
    (ran : (w >>= f).outcome d = (.ok b, d')) :
    ∃ a middle, w.outcome d = (.ok a, middle) ∧ (f a).outcome middle = (.ok b, d') := by
  rw [outcome_bind] at ran
  cases first : w.outcome d with
  | mk r middle =>
    rw [first] at ran
    cases r with
    | ok a => exact ⟨a, middle, rfl, ran⟩
    | error e => cases ran

theorem bind_error {w : Work α} {f : α → Work β} {d d' : Desk} {e : Error}
    (ran : (w >>= f).outcome d = (.error e, d')) :
    w.outcome d = (.error e, d') ∨
      ∃ a middle, w.outcome d = (.ok a, middle) ∧ (f a).outcome middle = (.error e, d') := by
  rw [outcome_bind] at ran
  cases first : w.outcome d with
  | mk r middle =>
    rw [first] at ran
    cases r with
    | ok a => exact .inr ⟨a, middle, rfl, ran⟩
    | error e' =>
      cases ran
      exact .inl rfl

theorem exists_ran {w : Work α} {d : Desk} {a : α}
    (ends : (w.outcome d).1.toOption = some a) : ∃ d', w.outcome d = (.ok a, d') :=
  ⟨_, Prod.ext (ok_of_toOption ends) rfl⟩

-- Looking at the files changes nothing but the journal.
theorem outcome_look {s : FileTree → Step α} {d : Desk}
    (within : Step.Within notes errors (s d.tree)) :
    (look s).outcome d =
      ((s d.tree).outcome.1, { d with journal := d.journal ++ (s d.tree).outcome.2 }) := by
  unfold look
  rw [outcome_bind, outcome_desk]
  have ran := within.steady d.journal
  unfold Step.onto at ran
  simp only [ran]
  cases (s d.tree).outcome.1 <;> rfl

theorem outcome_step {s : Step α} (within : Step.Within notes errors s) (d : Desk) :
    (step s).outcome d = (s.outcome.1, { d with journal := d.journal ++ s.outcome.2 }) :=
  outcome_look (s := fun _ => s) within

@[simp] theorem outcome_note (n : Note) (d : Desk) :
    (step (Step.note n)).outcome d = (.ok (), { d with journal := d.journal ++ [n] }) := rfl

theorem outcome_forIn_note {γ : Type} (f : γ → Note) (items : List γ) (d : Desk) :
    (forIn items PUnit.unit fun x _ => do
      step (Step.note (f x))
      pure (ForInStep.yield PUnit.unit) : Work PUnit).outcome d =
      (.ok (), { d with journal := d.journal ++ items.map f }) := by
  induction items generalizing d with
  | nil => simp
  | cons x rest ih =>
    rw [List.forIn_cons, outcome_bind, outcome_bind, outcome_note]
    simp only [outcome_pure, ih, List.map_cons, List.append_assoc, List.singleton_append]

end Work

end RowPress
