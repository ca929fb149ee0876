import RowPress.Proofs.Target
/-!
The base path is taken off the front of a template path as a text. Where it ends at a folder, the
names that are left are those below that folder; it may as well end inside a name, and then the name
is cut.
-/
namespace RowPress

open RowPress.Path

-- The template path begins with the text of the base path, and not only separators follow.
structure TakenOff (template base : String) (rest : List Char) : Prop where
  filled : base ≠ ""
  split : template.toList = base.toList ++ rest
  leaves : ∃ c ∈ rest, isSeparator c = false

-- The base path ends inside a name, between what stands before the cut and what stands after it.
structure Cut (base rest front before after behind : List Char) : Prop where
  base : base = front ++ before
  rest : rest = after ++ behind
  ahead : Ahead front
  apart : behind = [] ∨ behind.head? = some '/'
  filled : before ≠ [] ∧ after ≠ []
  plain : '/' ∉ before ++ after

section Texts

variable {front cs rest base : List Char}

theorem dropFront?_eq_some_iff : dropFront? front cs = some rest ↔ cs = front ++ rest := by
  induction front generalizing cs with
  | nil => simp [dropFront?]
  | cons a front ih =>
    cases cs with
    | nil => simp [dropFront?]
    | cons c cs =>
      by_cases same : a = c
      · simp [dropFront?, same, ih]
      · simp [dropFront?, same, Ne.symm same]

theorem dropWhile_isSeparator (leaves : ∃ c ∈ rest, isSeparator c = false) :
    rest.dropWhile isSeparator ≠ [] := by
  obtain ⟨c, member, other⟩ := leaves
  intro none
  rw [List.dropWhile_eq_nil_iff.mp none c member] at other
  cases other

-- Slashes at the front of a path add no names.
theorem steps_dropWhile (slashes : '\\' ∉ rest.takeWhile isSeparator) :
    steps (rest.dropWhile isSeparator) = steps rest := by
  induction rest with
  | nil => rfl
  | cons c rest ih =>
    cases separator : isSeparator c with
    | false => rw [List.dropWhile_cons_of_neg (by simp [separator])]
    | true =>
      rw [List.takeWhile_cons_of_pos separator, List.mem_cons, not_or] at slashes
      have slash : c = '/' := by
        have either : c = '/' ∨ c = '\\' := by simpa [isSeparator] using separator
        exact either.resolve_right (Ne.symm slashes.1)
      rw [List.dropWhile_cons_of_pos separator, ih slashes.2, slash, steps_root]

theorem exists_cut (filled : base ≠ []) (left : rest ≠ []) (inside : ¬ AtFolder base rest) :
    ∃ front before after behind, Cut base rest front before after behind := by
  rw [AtFolder, not_or] at inside
  obtain ⟨front, before, split, ahead, plain⟩ := last_name base
  have whole := List.takeWhile_append_dropWhile (p := (· ≠ '/')) (l := rest)
  refine ⟨front, before, rest.takeWhile (· ≠ '/'), rest.dropWhile (· ≠ '/'), split, whole.symm,
    ahead, ?_, ⟨?_, ?_⟩, ?_⟩
  · have ends := List.head?_dropWhile_not (· ≠ '/') rest
    cases behind : rest.dropWhile (· ≠ '/') with
    | nil => exact .inl rfl
    | cons c more =>
      rw [behind] at ends
      have slash : c = '/' := by simpa using ends
      exact .inr (by rw [slash]; rfl)
  · rintro rfl
    rw [List.append_nil] at split
    subst split
    rcases ahead with rfl | ⟨before, rfl⟩
    · exact filled rfl
    · exact inside.1 List.getLast?_concat
  · intro none
    obtain ⟨c, more, rfl⟩ := List.exists_cons_of_ne_nil left
    have other : c ≠ '/' := fun slash => inside.2 (by rw [slash]; rfl)
    simp [other] at none
  · intro member
    rcases List.mem_append.mp member with early | late
    · exact plain early
    · have passed := List.mem_takeWhile_imp late
      simp at passed

-- The two parts of the name are one name of the whole path.
theorem Cut.steps {before after behind : List Char}
    (cut : Cut base rest front before after behind) :
    steps (base ++ rest) = Path.steps front ++ Path.steps (before ++ after) ++
      Path.steps behind := by
  have whole : base ++ rest = front ++ ((before ++ after) ++ behind) := by
    rw [cut.base, cut.rest, List.append_assoc, List.append_assoc]
  have last : Path.steps ((before ++ after) ++ behind) =
      Path.steps (before ++ after) ++ Path.steps behind := by
    rcases cut.apart with rfl | begun
    · have none : Path.steps [] = [] := rfl
      rw [none, List.append_nil, List.append_nil]
    · obtain ⟨more, rfl⟩ := List.head?_eq_some_iff.mp begun
      rw [steps_slash, steps_root]
  rw [whole, steps_ahead cut.ahead, last, List.append_assoc]

end Texts

section SaveNames

variable {template base name : String} {rest : List Char}

-- The file name is the last component.
theorem fileName?_last (named : fileName? template = some name) :
    (components template.toList).getLast? = some (.name name.toList) := by
  obtain ⟨⟨front, last⟩, split, same⟩ := Option.map_eq_some_iff.mp named
  obtain rfl : String.ofList last = name := same
  have plain := splitName_plain split
  have kept := steps_dropTail template.toList.reverse
  have whole := List.takeWhile_append_dropWhile (p := (· ≠ '/'))
    (l := dropTail template.toList.reverse)
  unfold splitName at split
  dsimp only at split
  split at split
  · cases split
  · rename_i proper
    obtain ⟨rfl, rfl⟩ := Prod.mk.inj (Option.some.inj split)
    simp only [not_or] at proper
    obtain ⟨filled, noDot, down⟩ := proper
    have ahead : Ahead ((dropTail template.toList.reverse).dropWhile (· ≠ '/')).reverse := by
      rcases dropTail_name template.toList.reverse with none | ⟨more, begun, _⟩
      · rw [none]
        exact .inl rfl
      · rw [begun]
        exact .inr ⟨more.reverse, List.reverse_cons⟩
    rw [← whole, List.reverse_append, steps_ahead ahead, steps_name plain,
      if_neg (not_or.mpr ⟨filled, noDot⟩), List.reverse_reverse] at kept
    rw [components_eq, ← kept, List.map_append, ← List.append_assoc, String.toList_ofList]
    exact List.getLast?_concat.trans (congrArg some (if_neg down))

theorem saveName_taken (taken : TakenOff template base rest) :
    saveName template base = String.ofList (rest.dropWhile isSeparator) := by
  have filled : ¬ base.isEmpty = true := by simpa using taken.filled
  unfold saveName
  rw [if_neg filled, dropFront?_eq_some_iff.mpr taken.split]
  exact if_neg (dropWhile_isSeparator taken.leaves)

theorem saveName_kept (named : fileName? template = some name)
    (kept : ∀ rest, ¬ TakenOff template base rest) : saveName template base = name := by
  unfold saveName
  rw [named]
  dsimp only [Option.getD_some]
  split
  · rfl
  · rename_i filled
    split
    · rfl
    · rename_i rest found
      split
      · rfl
      · rename_i some
        have split := dropFront?_eq_some_iff.mp found
        refine absurd ⟨by simpa using filled, split, ?_⟩ (kept rest)
        by_contra none
        exact some (List.dropWhile_eq_nil_iff.mpr (by simpa using none))

-- A base path takes off what its text is at the front of the template path. Where it ends at a
-- folder, its components stand before those of the template path that are left; where it ends
-- inside a name, what it leaves of the name comes first. Otherwise the name is the file name.
theorem saveName_base (named : fileName? template = some name) (base : String) :
    (∀ rest, TakenOff template base rest →
      saveName template base = String.ofList (rest.dropWhile isSeparator) ∧
      (AtFolder base.toList rest →
        components template.toList = components base.toList ++ (steps rest).map component ∧
        ('\\' ∉ rest.takeWhile isSeparator →
          (components (saveName template base).toList).filter (· ≠ .here) =
            (steps rest).map component)) ∧
      (¬ AtFolder base.toList rest → ∃ front before after behind,
        Cut base.toList rest front before after behind ∧
        steps template.toList = steps front ++ steps (before ++ after) ++ steps behind)) ∧
    ((∀ rest, ¬ TakenOff template base rest) → saveName template base = name) ∧
    (components template.toList).getLast? = some (.name name.toList) := by
  refine ⟨?_, saveName_kept named, fileName?_last named⟩
  intro rest taken
  have filled : base.toList ≠ [] := by simpa using taken.filled
  have saved := saveName_taken taken
  refine ⟨saved, ?_, ?_⟩
  · intro folder
    refine ⟨by rw [taken.split, components_divided filled folder], ?_⟩
    intro slashes
    have relative := (saveName_relative (Option.isSome_of_eq_some named) base).2
    rw [components_aside relative, saved, String.toList_ofList, steps_dropWhile slashes]
  · intro inside
    have left : rest ≠ [] := by
      rintro rfl
      obtain ⟨c, none, _⟩ := taken.leaves
      cases none
    obtain ⟨front, before, after, behind, cut⟩ := exists_cut filled left inside
    exact ⟨front, before, after, behind, cut, by rw [taken.split, cut.steps]⟩

-- A dot below the base path is kept, and counts for nothing. The second base path is spelled in
-- another way than the template path.
theorem saveName_base_dotted :
    fileName? "t/./a/b.txt" = some "b.txt" ∧
    saveName "t/./a/b.txt" "t" = "./a/b.txt" ∧
    components "t/./a/b.txt".toList = components "t".toList ++ [.name ['a'], .name "b.txt".toList] ∧
    (components "./a/b.txt".toList).filter (· ≠ .here) = [.name ['a'], .name "b.txt".toList] ∧
    saveName "t/./a/b.txt" "t//" = "b.txt" := by
  have named : fileName? "t/./a/b.txt" = some "b.txt" := by cbv
  obtain ⟨taken, _⟩ := saveName_base named "t"
  obtain ⟨_, kept, _⟩ := saveName_base named "t//"
  have split : "t/./a/b.txt".toList = "t".toList ++ "/./a/b.txt".toList := by decide
  have names : (steps "/./a/b.txt".toList).map component =
      [.name ['a'], .name "b.txt".toList] := by decide
  obtain ⟨saved, folder, _⟩ := taken "/./a/b.txt".toList ⟨by decide, split, 'a', by decide, rfl⟩
  obtain ⟨whole, below⟩ := folder (.inr rfl)
  have text : saveName "t/./a/b.txt" "t" = "./a/b.txt" := saved
  rw [names] at whole below
  rw [text] at below
  refine ⟨named, text, whole, below (by decide), kept ?_⟩
  rintro rest ⟨_, other, _⟩
  cases other

-- A base path that is no folder of the template path, but the front of the name of one.
theorem saveName_cuts_name :
    fileName? "templates/a/b.txt" = some "b.txt" ∧
    ¬ components "temp".toList <+: components "templates/a/b.txt".toList ∧
    saveName "templates/a/b.txt" "temp" = "lates/a/b.txt" := by
  decide

end SaveNames

end RowPress
