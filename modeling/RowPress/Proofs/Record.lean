import Mathlib
import RowPress.Json.Fit
/-!
Records out of JSON data. A record is filled if every one of its fields is given at most once, in a
form that fits; each field then decides its own part of the record, wherever it stands.
-/
namespace RowPress.Json

variable {σ α : Type} {fields : List (Field σ)} {f : Field σ} {get : σ → α}
  {entries : List (String × Json)} {items : List Json} {seen : List String} {record record' : σ}

-- No name is an answer of two fields.
def Separate (fields : List (Field σ)) : Prop :=
  fields.Pairwise fun f f' => ∀ key, f.answersTo key = true → f'.answersTo key = false

-- The entries that give a field.
def Field.given (f : Field σ) (entries : List (String × Json)) : List (String × Json) :=
  entries.filter fun entry => f.answersTo entry.1

-- The data that a field gets: that of the first entry for it, or that at its place.
def Field.part? (f : Field σ) (place : Nat) : Json → Option Json
  | .object entries => (entries.find? fun entry => f.answersTo entry.1).map (·.2)
  | .array items => items[place]?
  | _ => none

-- A field is given at most once, in a form that fits.
def Field.Fits (f : Field σ) (entries : List (String × Json)) : Prop :=
  f.given entries = [] ∨ ∃ key j change, f.given entries = [(key, j)] ∧ f.set j = .ok change

-- A part of the record that a field does not change.
def Field.Keeps (f : Field σ) (get : σ → α) : Prop :=
  ∀ j change, f.set j = .ok change → ∀ r, get (change r) = get r

-- A part of the record that only fields of one name change.
def Kept (fields : List (Field σ)) (name : String) (get : σ → α) : Prop :=
  ∀ f ∈ fields, f.name ≠ name → f.Keeps get

theorem Field.answersTo_name (f : Field σ) : f.answersTo f.name = true := by
  simp [answersTo]

theorem Field.answersTo_eq (f : Field σ) (key : String) :
    f.answersTo key = (f.name :: f.otherName.toList).contains key := by
  rw [Field.answersTo, List.contains_cons, Bool.beq_comm]
  cases f.otherName with
  | none => rfl
  | some other =>
    rw [Option.toList_some, List.contains_cons, List.contains_nil, Bool.or_false,
      Option.some_beq_some, Bool.beq_comm (a := other)]

theorem Field.given_cons (f : Field σ) (key : String) (j : Json) :
    f.given ((key, j) :: entries) =
      if f.answersTo key = true then (key, j) :: f.given entries else f.given entries :=
  List.filter_cons

theorem Separate.find? (separate : Separate fields) (member : f ∈ fields) {key : String}
    (answers : f.answersTo key = true) : fields.find? (·.answersTo key) = some f := by
  induction fields with
  | nil => cases member
  | cons first rest ih =>
    obtain ⟨apart, separate⟩ := List.pairwise_cons.mp separate
    rw [List.find?_cons]
    rcases List.mem_cons.mp member with rfl | later
    · rw [answers]
    · cases taken : first.answersTo key with
      | true =>
        rw [apart f later key taken] at answers
        cases answers
      | false => exact ih separate later

theorem Separate.unique (separate : Separate fields) {f' : Field σ} (member : f ∈ fields)
    (member' : f' ∈ fields) {key : String} (answers : f.answersTo key = true)
    (answers' : f'.answersTo key = true) : f = f' :=
  Option.some.inj ((separate.find? member answers).symm.trans (separate.find? member' answers'))

-- An entry that is for one field leaves the others as they are.
theorem Separate.given_cons (separate : Separate fields) {f' : Field σ} (member : f ∈ fields)
    (member' : f' ∈ fields) {key : String} (answers : f.answersTo key = true)
    (other : f'.name ≠ f.name) (j : Json) : f'.given ((key, j) :: entries) = f'.given entries := by
  rw [f'.given_cons, if_neg]
  exact fun answers' => other (congrArg Field.name
    (separate.unique member' member answers' answers))

theorem Separate.named (separate : Separate fields) {f' : Field σ} (member : f ∈ fields)
    (member' : f' ∈ fields) (same : f'.name = f.name) : f' = f :=
  separate.unique member' member f'.answersTo_name (same ▸ f.answersTo_name)

-- The first entry is for no field, or for the one field that answers to it.
theorem fillByName_cons {key : String} {j : Json}
    (ran : fillByName fields seen ((key, j) :: entries) record = .ok record') :
    (fields.find? (·.answersTo key) = none ∧
      fillByName fields seen entries record = .ok record') ∨
    ∃ f change, fields.find? (·.answersTo key) = some f ∧ f.name ∉ seen ∧ f.set j = .ok change ∧
      fillByName fields (f.name :: seen) entries (change record) = .ok record' := by
  rw [fillByName] at ran
  split at ran
  · rename_i none
    exact .inl ⟨none, ran⟩
  · rename_i f found
    split at ran
    · cases ran
    · rename_i fresh
      cases set : f.set j with
      | error m =>
        rw [set] at ran
        cases ran
      | ok change =>
        rw [set] at ran
        exact .inr ⟨f, change, found, by simpa using fresh, set, ran⟩

-- A field that has been given is not given again.
theorem fillByName_seen (separate : Separate fields) (member : f ∈ fields)
    (known : f.name ∈ seen) (ran : fillByName fields seen entries record = .ok record') :
    f.given entries = [] := by
  induction entries generalizing seen record with
  | nil => rfl
  | cons entry rest ih =>
    obtain ⟨key, j⟩ := entry
    rw [f.given_cons]
    obtain ⟨none, later⟩ | ⟨f', change, found, fresh, set, later⟩ := fillByName_cons ran
    · rw [if_neg (List.find?_eq_none.mp none f member)]
      exact ih known later
    · have silent : ¬ f.answersTo key = true := by
        intro answers
        rw [separate.find? member answers] at found
        exact fresh (Option.some.inj found ▸ known)
      rw [if_neg silent]
      exact ih (List.mem_cons_of_mem _ known) later

-- What a record holds in the part of a field: what it held before, or what the one entry for the
-- field makes of it.
theorem fillByName_part (separate : Separate fields) (member : f ∈ fields)
    (kept : Kept fields f.name get)
    (ran : fillByName fields seen entries record = .ok record') :
    (f.given entries = [] ∧ get record' = get record) ∨
    ∃ key j change r, f.given entries = [(key, j)] ∧ f.set j = .ok change ∧
      get record' = get (change r) := by
  induction entries generalizing seen record with
  | nil =>
    cases ran
    exact .inl ⟨rfl, rfl⟩
  | cons entry rest ih =>
    obtain ⟨key, j⟩ := entry
    obtain ⟨none, later⟩ | ⟨f', change, found, fresh, set, later⟩ := fillByName_cons ran
    · rw [f.given_cons, if_neg (List.find?_eq_none.mp none f member)]
      exact ih later
    · have member' := List.mem_of_find?_eq_some found
      have answers := List.find?_some found
      by_cases same : f.name = f'.name
      · cases separate.named member' member same
        rw [f.given_cons, if_pos answers,
          fillByName_seen separate member List.mem_cons_self later]
        obtain ⟨_, same⟩ | ⟨_, _, _, _, again, _⟩ := ih later
        · exact .inr ⟨key, j, change, record, rfl, set, same⟩
        · rw [fillByName_seen separate member List.mem_cons_self later] at again
          cases again
      · rw [separate.given_cons member' member answers same]
        obtain ⟨empty, held⟩ | given := ih later
        · exact .inl ⟨empty, held.trans (kept f' member' (Ne.symm same) j change set record)⟩
        · exact .inr given

theorem fillByName_ok (separate : Separate fields)
    (known : ∀ f ∈ fields, f.name ∈ seen → f.given entries = [])
    (fits : ∀ f ∈ fields, f.Fits entries) :
    ∃ record', fillByName fields seen entries record = .ok record' := by
  induction entries generalizing seen record with
  | nil => exact ⟨record, rfl⟩
  | cons entry rest ih =>
    obtain ⟨key, j⟩ := entry
    rw [fillByName]
    cases found : fields.find? (·.answersTo key) with
    | none =>
      have silent : ∀ f ∈ fields, f.given ((key, j) :: rest) = f.given rest := by
        intro f member
        rw [f.given_cons, if_neg (List.find?_eq_none.mp found f member)]
      refine ih ?_ ?_
      · intro f member seen
        rw [← silent f member]
        exact known f member seen
      · intro f member
        rw [Field.Fits, ← silent f member]
        exact fits f member
    | some f =>
      have member := List.mem_of_find?_eq_some found
      have answers := List.find?_some found
      have here : f.given ((key, j) :: rest) = (key, j) :: f.given rest := by
        rw [f.given_cons, if_pos answers]
      obtain empty | ⟨_, _, change, only, set⟩ := fits f member
      · rw [here] at empty
        cases empty
      · rw [here] at only
        obtain ⟨same, last⟩ := List.cons.inj only
        cases same
        have fresh : ¬ seen.contains f.name = true := by
          intro old
          rw [known f member (by simpa using old)] at here
          cases here
        simp only [if_neg fresh, set]
        -- The other fields are given by the entries that are left, if at all.
        refine ih ?_ ?_
        · intro f' member' old
          by_cases same : f'.name = f.name
          · rw [separate.named member member' same]
            exact last
          · rw [← separate.given_cons member member' answers same j]
            rcases List.mem_cons.mp old with new | old
            · exact absurd new same
            · exact known f' member' old
        · intro f' member'
          by_cases same : f'.name = f.name
          · rw [separate.named member member' same]
            exact .inl last
          · rw [Field.Fits, ← separate.given_cons member member' answers same j]
            exact fits f' member'

-- Filling fails in no other way than by a field that comes twice or does not fit.
theorem fillByName_ok_iff (separate : Separate fields) :
    (∃ record', fillByName fields [] entries record = .ok record') ↔
      ∀ f ∈ fields, f.Fits entries := by
  constructor
  · rintro ⟨record', ran⟩ f member
    have kept : Kept fields f.name fun _ : σ => () := fun _ _ _ _ _ _ _ => rfl
    obtain ⟨empty, _⟩ | ⟨key, j, change, _, given, set, _⟩ :=
      fillByName_part separate member kept ran
    · exact .inl empty
    · exact .inr ⟨key, j, change, given, set⟩
  · intro fits
    refine fillByName_ok separate ?_ fits
    intro f member old
    cases old

theorem Separate.name_ne {first : Field σ} (separate : Separate (first :: fields))
    (member : f ∈ fields) : first.name ≠ f.name := by
  intro same
  have silent := (List.pairwise_cons.mp separate).1 f member first.name first.answersTo_name
  rw [same, f.answersTo_name] at silent
  cases silent

theorem fillInOrder_cons {first : Field σ} {j : Json}
    (ran : fillInOrder (first :: fields) (j :: items) record = .ok record') :
    ∃ change, first.set j = .ok change ∧
      fillInOrder fields items (change record) = .ok record' := by
  rw [fillInOrder] at ran
  cases set : first.set j with
  | error m =>
    rw [set] at ran
    cases ran
  | ok change =>
    rw [set] at ran
    exact ⟨change, rfl, ran⟩

theorem fillInOrder_kept {name : String} (kept : Kept fields name get)
    (others : ∀ f ∈ fields, f.name ≠ name)
    (ran : fillInOrder fields items record = .ok record') : get record' = get record := by
  induction fields generalizing items record with
  | nil =>
    cases ran
    rfl
  | cons first rest ih =>
    cases items with
    | nil =>
      cases ran
      rfl
    | cons j items =>
      obtain ⟨change, set, later⟩ := fillInOrder_cons ran
      obtain ⟨other, others⟩ := List.forall_mem_cons.mp others
      obtain ⟨here, kept⟩ := List.forall_mem_cons.mp kept
      rw [ih kept others later, here other j change set]

-- Fields may also be given by position. Each part comes from the place of its field, if the data
-- goes that far.
theorem fillInOrder_part {place : Nat} (separate : Separate fields)
    (kept : Kept fields f.name get) (placed : fields[place]? = some f)
    (ran : fillInOrder fields items record = .ok record') :
    (items[place]? = none ∧ get record' = get record) ∨
    ∃ j change r, items[place]? = some j ∧ f.set j = .ok change ∧ get record' = get (change r) := by
  induction fields generalizing items record place with
  | nil => cases placed
  | cons first rest ih =>
    obtain ⟨here, later⟩ := List.forall_mem_cons.mp kept
    cases items with
    | nil =>
      cases ran
      exact .inl ⟨rfl, rfl⟩
    | cons j items =>
      obtain ⟨change, set, filled⟩ := fillInOrder_cons ran
      cases place with
      | zero =>
        cases placed
        have same :=
          fillInOrder_kept later (fun f' member => (separate.name_ne member).symm) filled
        exact .inr ⟨j, change, record, rfl, set, same⟩
      | succ place =>
        have other := separate.name_ne (List.mem_of_getElem? placed)
        obtain ⟨short, same⟩ | given :=
          ih (List.pairwise_cons.mp separate).2 later placed filled
        · exact .inl ⟨short, same.trans (here other j change set record)⟩
        · exact .inr given

-- By position, too, only data that does not fit keeps a record from being filled.
theorem fillInOrder_ok_iff (record : σ) :
    (∃ record', fillInOrder fields items record = .ok record') ↔
    ∀ (i : Nat) (f : Field σ) (j : Json), fields[i]? = some f → items[i]? = some j →
      ∃ change, f.set j = .ok change := by
  induction fields generalizing items record with
  | nil => exact ⟨fun _ i f j there => (by cases there), fun _ => ⟨record, rfl⟩⟩
  | cons first rest ih =>
    cases items with
    | nil => exact ⟨fun _ i f j _ there => (by cases there), fun _ => ⟨record, rfl⟩⟩
    | cons j items =>
      constructor
      · rintro ⟨record', ran⟩ i f j' placed there
        obtain ⟨change, set, later⟩ := fillInOrder_cons ran
        cases i with
        | zero =>
          cases placed
          cases there
          exact ⟨change, set⟩
        | succ i => exact (ih _).mp ⟨record', later⟩ i f j' placed there
      · intro sets
        obtain ⟨change, set⟩ := sets 0 first j rfl rfl
        obtain ⟨record', later⟩ := (ih _).mpr fun i => sets (i + 1)
        exact ⟨record', by rw [fillInOrder, set]; exact later⟩

theorem toRecord_array_ok_iff {kind : String} {blank : σ} :
    (∃ record, toRecord kind fields blank (.array items) = .ok record) ↔
      items.length ≤ fields.length ∧
      ∀ (i : Nat) (f : Field σ) (j : Json), fields[i]? = some f → items[i]? = some j →
        ∃ change, f.set j = .ok change := by
  rw [← fillInOrder_ok_iff blank, toRecord]
  cases filled : fillInOrder fields items blank with
  | error m =>
    constructor
    · rintro ⟨_, ran⟩
      cases ran
    · rintro ⟨_, _, ran⟩
      cases ran
  | ok record =>
    by_cases long : fields.length < items.length
    · simp [bind, Except.bind, long]
    · simp [bind, Except.bind, long, pure, Except.pure, Nat.le_of_not_lt long]

theorem toRecord_part {kind : String} {blank : σ} {j : Json} {place : Nat}
    (separate : Separate fields) (kept : Kept fields f.name get) (placed : fields[place]? = some f)
    (ran : toRecord kind fields blank j = .ok record) :
    (f.part? place j = none ∧ get record = get blank) ∨
    ∃ part change r, f.part? place j = some part ∧ f.set part = .ok change ∧
      get record = get (change r) := by
  cases j with
  | object entries =>
    rw [Field.part?, ← List.head?_filter]
    have member := List.mem_of_getElem? placed
    obtain ⟨none, same⟩ | ⟨key, part, change, r, given, set, same⟩ :=
      fillByName_part separate member kept ran
    · rw [Field.given] at none
      rw [none]
      exact .inl ⟨rfl, same⟩
    · rw [Field.given] at given
      rw [given]
      exact .inr ⟨part, change, r, rfl, set, same⟩
  | array items =>
    rw [toRecord] at ran
    cases filled : fillInOrder fields items blank with
    | error m =>
      rw [filled] at ran
      cases ran
    | ok record' =>
      have same : record' = record := by
        rw [filled] at ran
        simp only [bind, Except.bind] at ran
        split at ran
        · cases ran
        · exact Except.ok.inj ran
      rw [same] at filled
      exact fillInOrder_part separate kept placed filled
  | _ => cases ran

end RowPress.Json
