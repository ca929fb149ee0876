import Mathlib
import RowPress.Proofs.FileTree
import RowPress.Target
/-!
The names in paths. The path without its last component has all names but the last, and a document
beside a template has the names of the template, but for the last one.
-/
namespace RowPress

namespace Path

-- The pieces of a path that count.
def steps (path : List Char) : List (List Char) :=
  (pieces path).filter fun p => p ≠ [] ∧ p ≠ ['.']

section Pieces

variable {front back name : List Char}

theorem pieces_ne_nil (path : List Char) : pieces path ≠ [] := by
  cases path with
  | nil => exact List.cons_ne_nil _ _
  | cons c rest =>
    rw [pieces]
    split
    · exact List.cons_ne_nil _ _
    · split <;> exact List.cons_ne_nil _ _

theorem pieces_slash (front back : List Char) :
    pieces (front ++ '/' :: back) = pieces front ++ pieces back := by
  induction front with
  | nil => rfl
  | cons c rest ih =>
    rw [List.cons_append, pieces, pieces, ih]
    by_cases slash : c = '/'
    · rw [if_pos slash, if_pos slash, List.cons_append]
    · rw [if_neg slash, if_neg slash]
      cases split : pieces rest with
      | nil => exact absurd split (pieces_ne_nil rest)
      | cons first more => rfl

theorem pieces_name (plain : '/' ∉ name) : pieces name = [name] := by
  induction name with
  | nil => rfl
  | cons c rest ih =>
    have first : ¬ c = '/' := fun slash => plain (slash ▸ List.mem_cons_self)
    rw [pieces, if_neg first, ih fun member => plain (List.mem_cons_of_mem _ member)]

theorem steps_slash (front back : List Char) :
    steps (front ++ '/' :: back) = steps front ++ steps back := by
  rw [steps, pieces_slash, List.filter_append, steps, steps]

theorem steps_root (more : List Char) : steps ('/' :: more) = steps more := steps_slash [] more

theorem steps_name (plain : '/' ∉ name) :
    steps name = if name = [] ∨ name = ['.'] then [] else [name] := by
  rw [steps, pieces_name plain]
  by_cases bare : name = [] ∨ name = ['.']
  · rw [if_pos bare]
    rcases bare with rfl | rfl <;> rfl
  · rw [if_neg bare]
    rw [not_or] at bare
    simp [bare]

theorem steps_name_length (plain : '/' ∉ name) : (steps name).length ≤ 1 := by
  rw [steps_name plain]
  split <;> simp

end Pieces

section Tails

variable {path : List Char}

theorem dropTail_suffix (path : List Char) : dropTail path <:+ path := by
  fun_induction dropTail path with
  | case1 rest ih => exact ih.trans (List.suffix_cons _ _)
  | case2 rest ih => exact ih.trans (List.suffix_cons _ _)
  | case3 path => exact List.suffix_rfl

-- What is taken off counts for nothing.
theorem steps_dropTail (path : List Char) : steps (dropTail path).reverse = steps path.reverse := by
  fun_induction dropTail path with
  | case1 rest ih =>
    rw [ih, List.reverse_cons, steps_slash]
    exact (List.append_nil _).symm
  | case2 rest ih =>
    rw [ih, List.reverse_cons, steps_slash, List.reverse_cons, List.reverse_cons,
      List.append_assoc, List.singleton_append, steps_slash]
    rfl
  | case3 path => rfl

-- Then a name comes first that counts, unless it is all there is.
theorem dropTail_name (path : List Char) :
    (dropTail path).dropWhile (· ≠ '/') = [] ∨
      ∃ more, (dropTail path).dropWhile (· ≠ '/') = '/' :: more ∧
        (dropTail path).takeWhile (· ≠ '/') ≠ [] ∧
        (dropTail path).takeWhile (· ≠ '/') ≠ ['.'] := by
  fun_induction dropTail path with
  | case1 rest ih => exact ih
  | case2 rest ih => exact ih
  | case3 path noSlash noDot =>
    have whole := List.takeWhile_append_dropWhile (p := (· ≠ '/')) (l := path)
    cases left : path.dropWhile (· ≠ '/') with
    | nil => exact .inl rfl
    | cons c more =>
      have slash : c = '/' := by
        have ends := List.head?_dropWhile_not (· ≠ '/') path
        rw [left] at ends
        simpa using ends
      subst slash
      rw [left] at whole
      refine .inr ⟨more, rfl, ?_, ?_⟩
      · intro none
        rw [none] at whole
        exact noSlash _ whole.symm
      · intro dot
        rw [dot] at whole
        exact noDot _ whole.symm

end Tails

section Parents

variable {path parent : String}

theorem names_eq (path : String) :
    FileTree.names path = (steps path.toList).map String.ofList := rfl

-- What stands before the last name of a path, read backwards. It is all that the parent has, but
-- for the slash of an absolute path with one name.
def above (path : List Char) : List Char :=
  dropTail ((dropTail path.reverse).dropWhile (· ≠ '/'))

theorem parent_text (found : parent? path = some parent) :
    parent = (if above path.toList = [] ∧ isAbsolute path.toList = true then "/"
      else String.ofList (above path.toList).reverse) := by
  unfold parent? at found
  dsimp only at found
  split at found
  · cases found
  · exact (Option.some.inj found).symm

theorem steps_parent (found : parent? path = some parent) :
    steps parent.toList = steps (above path.toList).reverse := by
  rw [parent_text found]
  split
  · rename_i top
    rw [top.1]
    rfl
  · rw [String.toList_ofList]

theorem above_front (path : List Char) : (above path).reverse <+: path := by
  have suffix := (dropTail_suffix ((dropTail path.reverse).dropWhile (· ≠ '/'))).trans
    ((List.dropWhile_suffix _).trans (dropTail_suffix path.reverse))
  have front := List.reverse_prefix.mpr suffix
  rwa [List.reverse_reverse] at front

theorem isAbsolute_append {front rest : List Char} (some : front ≠ []) :
    isAbsolute (front ++ rest) = isAbsolute front := by
  cases front with
  | nil => exact absurd rfl some
  | cons c more => rfl

-- A path and its parent begin in the same folder.
theorem isAbsolute_parent (found : parent? path = some parent) :
    isAbsolute parent.toList = isAbsolute path.toList := by
  rw [parent_text found]
  split
  · rename_i top
    rw [top.2]
    rfl
  · rename_i inner
    obtain ⟨rest, split⟩ := above_front path.toList
    rw [String.toList_ofList]
    by_cases none : above path.toList = []
    · have relative : isAbsolute path.toList = false :=
        Bool.eq_false_iff.mpr fun root => inner ⟨none, root⟩
      rw [relative, none]
      rfl
    · rw [← isAbsolute_append fun empty => none (List.reverse_eq_nil_iff.mp empty), split]

theorem names_parent (found : parent? path = some parent) :
    FileTree.names parent = (FileTree.names path).dropLast := by
  have whole := List.takeWhile_append_dropWhile (p := (· ≠ '/')) (l := dropTail path.toList.reverse)
  have same := steps_dropTail path.toList.reverse
  rw [List.reverse_reverse] at same
  have plain : '/' ∉ ((dropTail path.toList.reverse).takeWhile (· ≠ '/')).reverse := by
    intro member
    have passed := List.mem_takeWhile_imp (List.mem_reverse.mp member)
    simp at passed
  rw [names_eq, names_eq, steps_parent found, above, steps_dropTail, ← List.map_dropLast, ← same]
  rcases dropTail_name path.toList.reverse with none | ⟨more, left, some, noDot⟩
  · rw [none, List.append_nil] at whole
    rw [whole] at plain
    have short := steps_name_length plain
    rw [none]
    cases named : steps (dropTail path.toList.reverse).reverse with
    | nil => rfl
    | cons name rest =>
      rw [named] at short
      have last : rest = [] := by simpa using short
      rw [last]
      rfl
  · have counts : steps ((dropTail path.toList.reverse).takeWhile (· ≠ '/')).reverse =
        [((dropTail path.toList.reverse).takeWhile (· ≠ '/')).reverse] := by
      rw [steps_name plain, if_neg]
      rintro (none | dot)
      · exact some (List.reverse_eq_nil_iff.mp none)
      · exact noDot (by rw [← List.reverse_reverse (List.takeWhile _ _), dot]; rfl)
    rw [left] at whole ⊢
    rw [← whole, List.reverse_append, List.reverse_cons, List.append_assoc, List.singleton_append,
      steps_slash, steps_slash, counts, List.dropLast_concat]
    exact congrArg _ (List.append_nil _)

theorem above_shorter (found : parent? path = some parent) :
    (above path.toList).length < path.toList.length := by
  have some : dropTail path.toList.reverse ≠ [] := by
    intro none
    simp [parent?, none] at found
  have whole := congrArg List.length
    (List.takeWhile_append_dropWhile (p := (· ≠ '/')) (l := dropTail path.toList.reverse))
  have tail := (dropTail_suffix path.toList.reverse).length_le
  have less := (dropTail_suffix
    ((dropTail path.toList.reverse).dropWhile (· ≠ '/'))).length_le
  have positive := List.length_pos_of_ne_nil some
  rw [List.length_append] at whole
  rw [List.length_reverse] at tail
  rw [above]
  rcases dropTail_name path.toList.reverse with none | ⟨more, _, name, _⟩
  · rw [none] at less ⊢
    exact Nat.lt_of_le_of_lt less (Nat.lt_of_lt_of_le positive tail)
  · have named := List.length_pos_of_ne_nil name
    omega

-- The parent is a front part of the path.
theorem parent_front (found : parent? path = some parent) :
    ∃ rest, rest ≠ [] ∧ path.toList = parent.toList ++ rest := by
  have shorter := above_shorter found
  rw [parent_text found]
  split
  · rename_i top
    obtain ⟨more, split⟩ : ∃ more, path.toList = '/' :: more := by
      have first := top.2
      cases whole : path.toList with
      | nil => rw [whole] at first; cases first
      | cons c more =>
        rw [whole] at first
        have slash : c = '/' := by simpa [isAbsolute] using first
        exact ⟨more, by rw [slash]⟩
    refine ⟨more, ?_, split⟩
    rintro rfl
    simp [parent?, split, dropTail] at found
  · obtain ⟨rest, split⟩ := above_front path.toList
    refine ⟨rest, ?_, by rw [String.toList_ofList, split]⟩
    rintro rfl
    have size := congrArg List.length split
    rw [List.append_nil, List.length_reverse] at size
    omega

end Parents

-- A path is what stands before its last name, up to a slash, and that name.
def Ahead (front : List Char) : Prop := front = [] ∨ ∃ before, front = before ++ ['/']

-- A path whose last name is one of its own, as the path of a file has to be.
structure Named (path front name : List Char) : Prop where
  split : path = front ++ name
  ahead : Ahead front
  plain : '/' ∉ name
  filled : name ≠ []
  noDot : name ≠ ['.']
  down : name ≠ ['.', '.']

-- What is left of a name without its extension. A dot that comes first begins no extension.
inductive Stem : List Char → List Char → Prop where
  | dotted {stem after : List Char} : stem ≠ [] → '.' ∉ after → Stem (stem ++ '.' :: after) stem
  | bare {name : List Char} : '.' ∉ name.tail → Stem name name

-- An extension with the dot before it. An empty one has no dot either.
def withDot (extension : List Char) : List Char := if extension = [] then [] else '.' :: extension

section Names

variable {path front name extension stem : List Char}

theorem last_name (path : List Char) :
    ∃ front name, path = front ++ name ∧ Ahead front ∧ '/' ∉ name := by
  refine ⟨(path.reverse.dropWhile (· ≠ '/')).reverse, (path.reverse.takeWhile (· ≠ '/')).reverse,
    ?_, ?_, ?_⟩
  · rw [← List.reverse_append, List.takeWhile_append_dropWhile, List.reverse_reverse]
  · cases left : path.reverse.dropWhile (· ≠ '/') with
    | nil => exact .inl rfl
    | cons c before =>
      have ends := List.head?_dropWhile_not (· ≠ '/') path.reverse
      rw [left] at ends
      have slash : c = '/' := by simpa using ends
      exact .inr ⟨before.reverse, by rw [slash, List.reverse_cons]⟩
  · intro member
    have passed := List.mem_takeWhile_imp (List.mem_reverse.mp member)
    simp at passed

-- What stands before the last name decides where a path begins.
theorem isAbsolute_name (plain : '/' ∉ name) :
    isAbsolute (front ++ name) = isAbsolute front := by
  cases front with
  | cons c more => rfl
  | nil =>
    cases name with
    | nil => rfl
    | cons c more =>
      have other : c ≠ '/' := fun slash => plain (slash ▸ List.mem_cons_self)
      simp [isAbsolute, other]

theorem steps_ahead (ahead : Ahead front) (name : List Char) :
    steps (front ++ name) = steps front ++ steps name := by
  rcases ahead with rfl | ⟨before, rfl⟩
  · rfl
  · rw [List.append_assoc, List.singleton_append, steps_slash, steps_slash, List.append_assoc]
    rfl

theorem pieces_getLast (ahead : Ahead front) (plain : '/' ∉ name) :
    (pieces (front ++ name)).getLast? = some name := by
  rcases ahead with rfl | ⟨before, rfl⟩
  · rw [List.nil_append, pieces_name plain]
    rfl
  · rw [List.append_assoc, List.singleton_append, pieces_slash, pieces_name plain,
      List.getLast?_concat]

-- A path can be split so in one way only.
theorem last_unique {front' name' : List Char} (ahead : Ahead front) (plain : '/' ∉ name)
    (ahead' : Ahead front') (plain' : '/' ∉ name') (same : front ++ name = front' ++ name') :
    front = front' ∧ name = name' := by
  have last := pieces_getLast ahead plain
  rw [same, pieces_getLast ahead' plain'] at last
  obtain rfl := Option.some.inj last
  exact ⟨List.append_cancel_right same, rfl⟩

theorem Named.names_eq {path : String} (named : Named path.toList front name) :
    FileTree.names path = (steps front).map String.ofList ++ [String.ofList name] := by
  rw [Path.names_eq, named.split, steps_ahead named.ahead, steps_name named.plain,
    if_neg (not_or.mpr ⟨named.filled, named.noDot⟩), List.map_append]
  rfl

theorem splitName_ahead (ahead : Ahead front) (plain : '/' ∉ name) (filled : name ≠ [])
    (noDot : name ≠ ['.']) :
    splitName (front ++ name) = if name = ['.', '.'] then none else some (front, name) := by
  have kept : dropTail (front ++ name).reverse = name.reverse ++ front.reverse := by
    rw [List.reverse_append, dropTail]
    · intro rest begins
      cases backwards : name.reverse with
      | nil => exact filled (List.reverse_eq_nil_iff.mp backwards)
      | cons c cs =>
        rw [backwards] at begins
        have first : c = '/' := (List.cons.inj begins).1
        exact plain (List.mem_reverse.mp (by simp [backwards, first]))
    · intro rest begins
      rcases backwards : name.reverse with _ | ⟨c, _ | ⟨c', cs⟩⟩
      · exact filled (List.reverse_eq_nil_iff.mp backwards)
      · rw [backwards] at begins
        have first : c = '.' := (List.cons.inj begins).1
        rw [first] at backwards
        exact noDot (List.reverse_injective backwards)
      · rw [backwards] at begins
        have second : c' = '/' := (List.cons.inj (List.cons.inj begins).2).1
        exact plain (List.mem_reverse.mp (by simp [backwards, second]))
  have each : ∀ c ∈ name.reverse, decide (c ≠ '/') = true := by
    intro c member
    have other : c ≠ '/' := fun slash => plain (slash ▸ List.mem_reverse.mp member)
    simpa using other
  have front' : front.reverse.takeWhile (· ≠ '/') = [] ∧
      front.reverse.dropWhile (· ≠ '/') = front.reverse := by
    rcases ahead with rfl | ⟨before, rfl⟩
    · exact ⟨rfl, rfl⟩
    · simp
  unfold splitName
  dsimp only
  rw [kept, List.takeWhile_append_of_pos each, List.dropWhile_append_of_pos each, front'.1,
    front'.2, List.append_nil, List.reverse_reverse, List.reverse_reverse]
  by_cases up : name = ['.', '.']
  · simp [up]
  · simp [filled, noDot, up]

theorem splitDot_dotted {after : List Char} (filled : stem ≠ []) (plain : '.' ∉ after) :
    splitDot (stem ++ '.' :: after) = (stem, some after) := by
  have each : ∀ c ∈ after.reverse, decide (c ≠ '.') = true := by
    intro c member
    have other : c ≠ '.' := fun dot => plain (dot ▸ List.mem_reverse.mp member)
    simpa using other
  have backwards : (stem ++ '.' :: after).reverse = after.reverse ++ '.' :: stem.reverse := by simp
  have taken : (stem ++ '.' :: after).reverse.takeWhile (· ≠ '.') = after.reverse := by
    rw [backwards, List.takeWhile_append_of_pos each]
    simp
  have left : (stem ++ '.' :: after).reverse.dropWhile (· ≠ '.') = '.' :: stem.reverse := by
    rw [backwards, List.dropWhile_append_of_pos each]
    simp
  unfold splitDot
  dsimp only
  rw [taken, left, List.reverse_reverse]
  cases last : stem.reverse with
  | nil => exact absurd (List.reverse_eq_nil_iff.mp last) filled
  | cons c before =>
    dsimp only
    rw [← last, List.reverse_reverse]

theorem splitDot_bare (bare : '.' ∉ name.tail) : splitDot name = (name, none) := by
  cases name with
  | nil => rfl
  | cons c rest =>
    have each : ∀ c ∈ rest.reverse, decide (c ≠ '.') = true := by
      intro c member
      have other : c ≠ '.' := fun dot => bare (dot ▸ List.mem_reverse.mp member)
      simpa using other
    unfold splitDot
    rw [List.reverse_cons, List.dropWhile_append_of_pos each]
    by_cases dot : c = '.'
    · simp [dot]
    · simp [dot]

theorem Stem.splitDot_eq (stemmed : Stem name stem) : (splitDot name).1 = stem := by
  cases stemmed with
  | dotted filled plain => rw [splitDot_dotted filled plain]
  | bare bare => rw [splitDot_bare bare]

theorem Stem.unique {stem' : List Char} (one : Stem name stem) (two : Stem name stem') :
    stem = stem' :=
  one.splitDot_eq.symm.trans two.splitDot_eq

theorem Stem.subset (stemmed : Stem name stem) : stem ⊆ name := by
  cases stemmed with
  | dotted _ _ => exact List.subset_append_left _ _
  | bare _ => exact List.Subset.refl _

theorem Stem.filled (stemmed : Stem name stem) (filled : name ≠ []) : stem ≠ [] := by
  cases stemmed with
  | dotted some _ => exact some
  | bare _ => exact filled

theorem exists_stem (name : List Char) : ∃ stem, Stem name stem := by
  by_cases dot : '.' ∈ name.tail
  · -- The last dot is the first one from behind.
    obtain ⟨after, before, split, plain⟩ := List.eq_append_cons_of_mem (List.mem_reverse.mpr dot)
    cases name with
    | nil => cases dot
    | cons c rest =>
      have whole : c :: rest = (c :: before.reverse) ++ '.' :: after.reverse := by
        have back := congrArg List.reverse split
        simpa using back
      rw [whole]
      exact ⟨_, .dotted (List.cons_ne_nil _ _) fun member => plain (List.mem_reverse.mp member)⟩
  · exact ⟨name, .bare dot⟩

theorem splitDot_some {after : List Char} (split : (splitDot name).2 = some after) :
    ∃ stem, name = stem ++ '.' :: after ∧ '.' ∉ after := by
  obtain ⟨stem, stemmed⟩ := exists_stem name
  cases stemmed with
  | dotted filled plain =>
    rw [splitDot_dotted filled plain] at split
    cases split
    exact ⟨stem, rfl, plain⟩
  | bare bare =>
    rw [splitDot_bare bare] at split
    cases split

theorem splitName_plain (split : splitName path = some (front, name)) :
    '/' ∉ name := by
  unfold splitName at split
  dsimp only at split
  split at split
  · cases split
  · obtain ⟨-, rfl⟩ := Prod.mk.inj (Option.some.inj split)
    intro member
    have passed := List.mem_takeWhile_imp (List.mem_reverse.mp member)
    simp at passed

-- An extension is a part of a name, behind its last dot.
theorem extension?_plain {path extension : String} (found : extension? path = some extension) :
    '/' ∉ extension.toList ∧ '.' ∉ extension.toList := by
  obtain ⟨⟨front, name⟩, named, found⟩ := Option.bind_eq_some_iff.mp found
  obtain ⟨after, dotted, found⟩ := Option.bind_eq_some_iff.mp found
  cases found
  obtain ⟨stem, rfl, noDot⟩ := splitDot_some dotted
  rw [String.toList_ofList]
  exact ⟨fun member => splitName_plain named
    (List.mem_append_right _ (List.mem_cons_of_mem _ member)), noDot⟩

theorem replaceExtension_ahead (ahead : Ahead front) (plain : '/' ∉ name) (filled : name ≠ [])
    (noDot : name ≠ ['.']) (stemmed : Stem name stem) :
    replaceExtension (front ++ name) extension =
      front ++ if name = ['.', '.'] then name else stem ++ withDot extension := by
  unfold replaceExtension
  rw [splitName_ahead ahead plain filled noDot]
  by_cases up : name = ['.', '.']
  · rw [if_pos up, if_pos up]
  · rw [if_neg up, if_neg up]
    dsimp only
    rw [stemmed.splitDot_eq, List.append_assoc]
    rfl

end Names

section Extensions

variable {path extension : String} {front name stem : List Char}

theorem Named.extension?_eq (named : Named path.toList front name) :
    extension? path = (splitDot name).2.map String.ofList := by
  unfold extension?
  rw [named.split, splitName_ahead named.ahead named.plain named.filled named.noDot,
    if_neg named.down]
  cases last : (splitDot name).2 <;> simp [last]

-- Another extension changes the last name and nothing before it. What is a single dot without its
-- extension becomes two dots.
theorem Named.withExtension_eq (named : Named path.toList front name) (stemmed : Stem name stem) :
    (withExtension path extension).toList =
      front ++ if stem = ['.'] then ['.', '.'] else stem ++ withDot extension.toList := by
  have found := named.extension?_eq
  unfold withExtension
  rw [String.toList_ofList, found, named.split]
  cases stemmed with
  | bare bare =>
    have all : (front ++ name).take ((front ++ name).length - 0) = front ++ name := by simp
    simp only [splitDot_bare bare, Option.map_none, Option.getD_none, List.length_nil, all]
    rw [replaceExtension_ahead named.ahead named.plain named.filled named.noDot (.bare bare),
      if_neg named.down, if_neg named.noDot]
  | @dotted _ after filled noDot =>
    have kept : (front ++ (stem ++ '.' :: after)).take
        ((front ++ (stem ++ '.' :: after)).length - after.length) = front ++ (stem ++ ['.']) := by
      have whole : front ++ (stem ++ '.' :: after) = front ++ (stem ++ ['.']) ++ after := by simp
      rw [whole, List.length_append, Nat.add_sub_cancel, List.take_left']
      rfl
    have plain : '/' ∉ stem ++ ['.'] := by
      have plain := named.plain
      simp only [List.mem_append, List.mem_cons] at plain ⊢
      tauto
    have single : stem ++ ['.'] ≠ ['.'] := fun dot => filled (List.append_left_eq_self.mp dot)
    have dots : stem ++ ['.'] = ['.', '.'] ↔ stem = ['.'] :=
      ⟨fun same => (List.append_inj' same rfl).1, fun same => by rw [same]; rfl⟩
    simp only [splitDot_dotted filled noDot, Option.map_some, Option.getD_some,
      String.toList_ofList, kept]
    rw [replaceExtension_ahead named.ahead plain (by simp) single
      (.dotted filled List.not_mem_nil)]
    by_cases dot : stem = ['.']
    · rw [if_pos (dots.mpr dot), if_pos dot, dot]
      rfl
    · rw [if_neg (fun same => dot (dots.mp same)), if_neg dot]

theorem withDot_plain (proper : '/' ∉ extension.toList) : '/' ∉ withDot extension.toList := by
  unfold withDot
  split
  · exact List.not_mem_nil
  · simpa using proper

-- In whatever way it comes out, the last name is a name.
theorem Named.withExtension_ahead (named : Named path.toList front name)
    (proper : '/' ∉ extension.toList) :
    ∃ name', '/' ∉ name' ∧ (withExtension path extension).toList = front ++ name' := by
  obtain ⟨stem, stemmed⟩ := exists_stem name
  refine ⟨_, ?_, named.withExtension_eq stemmed⟩
  split
  · decide
  · intro member
    rcases List.mem_append.mp member with early | late
    · exact named.plain (stemmed.subset early)
    · exact withDot_plain proper late

end Extensions

end Path

namespace FileTree

section Beside

variable {t v : FileTree} {template extension : String} {place inner : Location}
  {content : Content}

theorem walk_append {ns rest : List String} {near : Location}
    (walked : t.walk place ns = .ok (.folder near)) :
    t.walk place (ns ++ rest) = t.walk near rest := by
  induction ns generalizing place with
  | nil =>
    rw [walk] at walked
    cases walked
    rfl
  | cons name ns ih =>
    by_cases up : name = ".."
    · subst up
      rw [walk_up] at walked
      rw [List.cons_append, walk_up]
      exact ih walked
    · obtain ⟨short, ⟨folder, walked⟩ | ⟨_, _, ⟨_, _, same⟩ | ⟨_, same⟩⟩⟩ := walk_cases up walked
      · rw [List.cons_append, walk_name up, if_neg (Nat.not_lt.mpr short), if_pos folder]
        exact ih walked
      · cases same
      · cases same

-- What leads to a file leads through a folder to its last name.
theorem walk_file_last {ns : List String} (walked : t.walk place ns = .ok (.file inner content)) :
    ∃ front last near, ns = front ++ [last] ∧ last ≠ ".." ∧
      t.walk place front = .ok (.folder near) := by
  induction ns generalizing place with
  | nil => rw [walk] at walked; cases walked
  | cons name rest ih =>
    by_cases up : name = ".."
    · subst up
      rw [walk_up] at walked
      obtain ⟨front, last, near, rfl, down, reached⟩ := ih walked
      exact ⟨".." :: front, last, near, rfl, down, by rwa [walk_up]⟩
    · obtain ⟨short, ⟨folder, walked⟩ | ⟨_, rfl, _⟩⟩ := walk_cases up walked
      · obtain ⟨front, last, near, rfl, down, reached⟩ := ih walked
        refine ⟨name :: front, last, near, rfl, down, ?_⟩
        rw [walk_name up, if_neg (Nat.not_lt.mpr short), if_pos folder, reached]
      · exact ⟨[], name, place, rfl, up, by rw [walk]⟩

-- The path of a file ends in its name.
theorem file_named {path : String} (looked : t.lookUp path = .ok (.file place content)) :
    ∃ front name, Path.Named path.toList front name := by
  obtain ⟨_, walked, settled⟩ := lookUp_ok_iff.mp looked
  have plain : ¬ meansFolder path = true := by
    intro plain
    simp [settle, plain] at settled
  obtain ⟨front, name, split, ahead, bare⟩ := Path.last_name path.toList
  have ends := Path.pieces_getLast ahead bare
  rw [← split] at ends
  have filled : name ≠ [] := by
    rintro rfl
    exact plain (by simp [meansFolder, ends])
  have noDot : name ≠ ['.'] := by
    rintro rfl
    exact plain (by simp [meansFolder, ends])
  refine ⟨front, name, split, ahead, bare, filled, noDot, ?_⟩
  obtain ⟨before, last, near, found, down, _⟩ := walk_file_last walked
  rw [Path.names_eq, split, Path.steps_ahead ahead, Path.steps_name bare,
    if_neg (not_or.mpr ⟨filled, noDot⟩), List.map_append] at found
  rintro rfl
  exact down (List.cons.inj (List.append_inj' found rfl).2).1.symm

theorem base_sidecar (looked : t.lookUp template = .ok (.file place content))
    (proper : '/' ∉ extension.toList) :
    t.base (sidecarPath template extension) = t.base template := by
  obtain ⟨front, name, named⟩ := file_named looked
  obtain ⟨name', bare', made⟩ := named.withExtension_ahead proper
  rw [base, base, sidecarPath, made, named.split, Path.isAbsolute_name bare',
    Path.isAbsolute_name named.plain]

-- The document beside a file is looked for in the folder of the file.
theorem names_sidecar (looked : t.lookUp template = .ok (.file place content))
    (proper : '/' ∉ extension.toList) :
    ∃ near last, last.length ≤ 1 ∧
      t.walk (t.base (sidecarPath template extension)) (names template).dropLast =
        .ok (.folder near) ∧
      names (sidecarPath template extension) = (names template).dropLast ++ last := by
  obtain ⟨_, walked, _⟩ := lookUp_ok_iff.mp looked
  obtain ⟨front, name, named⟩ := file_named looked
  obtain ⟨before, last, near, found, _, reached⟩ := walk_file_last walked
  rw [named.names_eq] at found
  obtain ⟨rfl, _⟩ := List.append_inj' found rfl
  obtain ⟨name', bare', made⟩ := named.withExtension_ahead proper
  refine ⟨near, (Path.steps name').map String.ofList, ?_, ?_, ?_⟩
  · rw [List.length_map]
    exact Path.steps_name_length bare'
  · rw [base_sidecar looked proper, named.names_eq, List.dropLast_concat, reached]
  · rw [named.names_eq, List.dropLast_concat, sidecarPath, Path.names_eq, made,
      Path.steps_ahead named.ahead, List.map_append]

theorem walk_last_file (grows : t.Grows v) {near : Location} {last : List String}
    (short : last.length ≤ 1)
    (same : v.content? (last.foldl follow near) = t.content? (last.foldl follow near)) :
    v.walk near last = .ok (.file inner content) ↔
      t.walk near last = .ok (.file inner content) := by
  obtain _ | ⟨name, _ | ⟨_, _⟩⟩ := last
  · simp [walk]
  · by_cases up : name = ".."
    · subst up
      simp [walk]
    · have step : [name].foldl follow near = near ++ [name] := if_neg up
      rw [step] at same
      constructor
      · intro walked
        obtain ⟨size, ⟨_, inside⟩ | ⟨folder, _, ⟨held, there, found⟩ | ⟨_, found⟩⟩⟩ :=
          walk_cases up walked
        · rw [walk] at inside
          cases inside
        · cases found
          have apart : ¬ t.isFolder (near ++ [name]) = true := fun early => by
            rw [grows.folder _ early] at folder
            cases folder
          rw [walk_name up, if_neg (Nat.not_lt.mpr size), if_neg apart, ← same, there]
        · cases found
      · intro walked
        obtain ⟨size, ⟨_, inside⟩ | ⟨folder, _, ⟨held, there, found⟩ | ⟨_, found⟩⟩⟩ :=
          walk_cases up walked
        · rw [walk] at inside
          cases inside
        · cases found
          exact walk_file_grows grows walked (same.trans there)
        · cases found
  · simp at short

-- Whether there is a document beside a file, and what it holds, is for its own place to say.
theorem lookUp_sidecar (grows : t.Grows v) (looked : t.lookUp template = .ok (.file place content))
    (proper : '/' ∉ extension.toList)
    (same : v.content? (t.placeOf (sidecarPath template extension)) =
      t.content? (t.placeOf (sidecarPath template extension))) {held : Content} :
    v.lookUp (sidecarPath template extension) = .ok (.file inner held) ↔
      t.lookUp (sidecarPath template extension) = .ok (.file inner held) := by
  obtain ⟨near, last, short, reached, listed⟩ := names_sidecar looked proper
  have reached' := walk_follows grows.folder reached
  have at' : near = (names template).dropLast.foldl follow
      (t.base (sidecarPath template extension)) := walk_place reached
  rw [placeOf, listed, List.foldl_append, ← at'] at same
  rw [lookUp_ok_iff, lookUp_ok_iff, base_eq grows.workdir, listed, walk_append reached,
    walk_append reached', walk_last_file grows short same]

end Beside

end FileTree

end RowPress
