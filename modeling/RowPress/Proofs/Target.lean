import RowPress.Proofs.Script
/-!
The components of a target: those of the output folder, then the folder of the row as one name, then
those of the save name. No cell of a table can make it lead anywhere else.
-/
namespace RowPress

namespace Path

-- What a path begins with before its names: the root, or the dot of a relative path.
def lead (path : List Char) : List Component :=
  if isAbsolute path then [.root] else if (pieces path).head? = some ['.'] then [.here] else []

theorem components_eq (path : List Char) :
    components path = lead path ++ (steps path).map component := rfl

-- A first part of a path that does not end inside a name.
def AtFolder (base rest : List Char) : Prop := base.getLast? = some '/' ∨ rest.head? = some '/'

section Joining

variable {front base rest : List Char} {path more : String}

theorem lead_slash (filled : front ≠ []) (more : List Char) :
    lead (front ++ '/' :: more) = lead front := by
  obtain ⟨c, cs, rfl⟩ := List.exists_cons_of_ne_nil filled
  obtain ⟨first, others, split⟩ := List.exists_cons_of_ne_nil (pieces_ne_nil (c :: cs))
  rw [lead, lead, pieces_slash, split]
  rfl

theorem lead_ended (front more : List Char) :
    lead (front ++ '/' :: more) = lead (front ++ ['/']) := by
  cases front with
  | nil => rfl
  | cons c cs => rw [lead_slash (List.cons_ne_nil _ _), lead_slash (List.cons_ne_nil _ _)]

-- A path that is divided at a folder has the components of the first part, and then the names of
-- the second.
theorem components_divided (filled : base ≠ []) (folder : AtFolder base rest) :
    components (base ++ rest) = components base ++ (steps rest).map component := by
  rcases folder with ended | begun
  · obtain ⟨front, rfl⟩ := List.getLast?_eq_some_iff.mp ended
    have none : steps [] = [] := rfl
    rw [List.append_assoc, List.singleton_append, components_eq, components_eq, lead_ended,
      steps_slash, steps_slash, none, List.append_nil, List.map_append, List.append_assoc]
  · obtain ⟨more, rfl⟩ := List.head?_eq_some_iff.mp begun
    rw [components_eq, components_eq, lead_slash filled, steps_slash, steps_root, List.map_append,
      List.append_assoc]

-- What is joined to a path adds its names, and nothing before them is lost.
theorem components_join (relative : isAbsolute more.toList = false) (filled : path ≠ "") :
    components (join path more).toList =
      components path.toList ++ (steps more.toList).map component := by
  have absolute : ¬ isAbsolute more.toList = true := by simp [relative]
  have filled' : path.toList ≠ [] := by simpa using filled
  unfold join
  rw [if_neg absolute]
  by_cases ended : path.toList.getLast? = some '/'
  · rw [if_pos (.inr ended), String.toList_append, components_divided filled' (.inl ended)]
  · have open' : ¬ (path.isEmpty = true ∨ path.toList.getLast? = some '/') := by
      simpa [ended] using filled
    have text : (path ++ "/" ++ more).toList = path.toList ++ '/' :: more.toList := by
      rw [String.toList_append, String.toList_append, List.append_assoc]
      rfl
    rw [if_neg open', text, components_divided filled' (.inr rfl), steps_root]

theorem join_empty (relative : isAbsolute more.toList = false) : join "" more = more := by
  simp [join, relative]

theorem join_filled (relative : isAbsolute more.toList = false) (filled : path ≠ "") :
    join path more ≠ "" := by
  have absolute : ¬ isAbsolute more.toList = true := by simp [relative]
  unfold join
  rw [if_neg absolute]
  split <;> simp [filled]

-- Of what a path begins with, only the dot can stand in a relative one.
theorem lead_relative (relative : isAbsolute front = false) :
    lead front = [] ∨ lead front = [.here] := by
  have absolute : ¬ isAbsolute front = true := by simp [relative]
  unfold lead
  rw [if_neg absolute]
  split
  · exact .inr rfl
  · exact .inl rfl

theorem component_here (piece : List Char) : component piece ≠ .here := by
  unfold component
  split <;> exact Component.noConfusion

theorem components_aside (relative : isAbsolute front = false) :
    (components front).filter (· ≠ .here) = (steps front).map component := by
  have names : ((steps front).map component).filter (· ≠ .here) = (steps front).map component := by
    rw [List.filter_eq_self]
    intro c member
    obtain ⟨piece, _, rfl⟩ := List.mem_map.mp member
    simpa using component_here piece
  rw [components_eq, List.filter_append, names]
  rcases lead_relative relative with none | dot
  · rw [none]
    rfl
  · rw [dot]
    rfl

end Joining

-- The component that a folder named by a cell adds. A cell without letters and digits names none.
def ofPart (part : String) : List Component := if part = "" then [] else [.name part.toList]

section Parts

variable {part path name : String}

theorem isAlphanumeric_ne {c : Char} (letter : Text.isAlphanumeric c = true) :
    c ≠ '/' ∧ c ≠ '.' := by
  constructor
  · rintro rfl
    exact absurd letter (by decide)
  · rintro rfl
    exact absurd letter (by decide)

theorem fileName?_some (found : fileName? path = some name) : name ≠ "" ∧ '/' ∉ name.toList := by
  obtain ⟨⟨front, last⟩, split, named⟩ := Option.map_eq_some_iff.mp found
  obtain rfl : String.ofList last = name := named
  have plain := splitName_plain split
  unfold splitName at split
  dsimp only at split
  split at split
  · cases split
  · rename_i proper
    obtain ⟨-, rfl⟩ := Prod.mk.inj (Option.some.inj split)
    rw [not_or] at proper
    refine ⟨fun none => proper.1 ?_, by rwa [String.toList_ofList]⟩
    simpa using congrArg String.toList none

theorem isAbsolute_plain {text : List Char} (plain : '/' ∉ text) : isAbsolute text = false := by
  cases text with
  | nil => rfl
  | cons c cs =>
    have other : c ≠ '/' := fun slash => plain (slash ▸ List.mem_cons_self)
    simpa [isAbsolute] using other

variable (letters : ∀ c ∈ part.toList, Text.isAlphanumeric c = true)

include letters

theorem part_relative : isAbsolute part.toList = false :=
  isAbsolute_plain fun slash => (isAlphanumeric_ne (letters _ slash)).1 rfl

theorem steps_part : (steps part.toList).map component = ofPart part := by
  have plain : '/' ∉ part.toList := fun slash => (isAlphanumeric_ne (letters _ slash)).1 rfl
  have noDot : '.' ∉ part.toList := fun dot => (isAlphanumeric_ne (letters _ dot)).2 rfl
  rw [steps_name plain, ofPart]
  by_cases none : part = ""
  · subst none
    rfl
  · have filled : part.toList ≠ [] := by simpa using none
    have other : part.toList ≠ ['.'] := fun dot => noDot (by simp [dot])
    have down : part.toList ≠ ['.', '.'] := fun dots => noDot (by simp [dots])
    simp [none, filled, other, component, down]

-- A part is a path of one name, or the empty one.
theorem components_part : components part.toList = ofPart part := by
  have plain : '/' ∉ part.toList := fun slash => (isAlphanumeric_ne (letters _ slash)).1 rfl
  have noDot : '.' ∉ part.toList := fun dot => (isAlphanumeric_ne (letters _ dot)).2 rfl
  have begins : (pieces part.toList).head? ≠ some ['.'] := by
    rw [pieces_name plain]
    intro dot
    exact noDot (by simp [Option.some.inj dot])
  have relative : ¬ isAbsolute part.toList = true := by simp [part_relative letters]
  rw [components_eq, steps_part letters, lead, if_neg relative, if_neg begins, List.nil_append]

end Parts

end Path

open RowPress.Path

section Targets

variable {template root name part part' : String}

-- A template that is there has a file name.
theorem FileTree.isFile_named {t : FileTree} {path : String} (there : t.isFile path = true) :
    (fileName? path).isSome = true := by
  obtain ⟨place, content, looked⟩ := isFile_iff.mp there
  obtain ⟨front, last, named⟩ := file_named looked
  rw [fileName?, named.split, splitName_ahead named.ahead named.plain named.filled named.noDot,
    if_neg named.down]
  rfl

theorem saveName_relative (named : (fileName? template).isSome = true) (base : String) :
    saveName template base ≠ "" ∧ isAbsolute (saveName template base).toList = false := by
  obtain ⟨last, found⟩ := Option.isSome_iff_exists.mp named
  obtain ⟨filled, plain⟩ := fileName?_some found
  unfold saveName
  rw [found]
  dsimp only [Option.getD_some]
  split
  · exact ⟨filled, isAbsolute_plain plain⟩
  · split
    · exact ⟨filled, isAbsolute_plain plain⟩
    · rename_i rest _
      split
      · exact ⟨filled, isAbsolute_plain plain⟩
      · rename_i some
        have ends := List.head?_dropWhile_not isSeparator rest
        obtain ⟨c, cs, left⟩ := List.exists_cons_of_ne_nil some
        rw [left] at ends ⊢
        refine ⟨by simp, ?_⟩
        have other : isSeparator c = false := by simpa using ends
        have slash : c ≠ '/' := by
          rintro rfl
          cases other
        simpa [isAbsolute] using slash

-- What stands before the names that a template gives: the root, the part, and a dot only where
-- both are empty.
def ahead (root part name : String) : List Component :=
  components root.toList ++ ofPart part ++
    if root = "" ∧ part = "" then lead name.toList else []

theorem components_outputFile (letters : ∀ c ∈ part.toList, Text.isAlphanumeric c = true)
    (relative : isAbsolute name.toList = false) (root : String) :
    components (outputFile root part name).toList =
      ahead root part name ++ (steps name.toList).map component := by
  have inner := part_relative letters
  unfold outputFile ahead
  by_cases bare : root = ""
  · subst bare
    rw [join_empty inner]
    by_cases none : part = ""
    · subst none
      rw [join_empty relative, if_pos ⟨rfl, rfl⟩, components_eq]
      rfl
    · rw [components_join relative none, components_part letters, if_neg (fun both => none both.2),
        List.append_nil]
      rfl
  · rw [components_join relative (join_filled inner bare), components_join inner bare,
      steps_part letters, if_neg (fun both => bare both.1), List.append_nil]

-- Dots that name no folder are dropped, but where nothing stands before.
theorem components_target (letters : ∀ c ∈ part.toList, Text.isAlphanumeric c = true)
    (relative : isAbsolute name.toList = false) (root : String) :
    components (outputFile root part name).toList = components root.toList ++ ofPart part ++
      if root = "" ∧ part = "" then components name.toList
      else (components name.toList).filter (· ≠ .here) := by
  rw [components_outputFile letters relative, ahead, components_aside relative]
  split
  · rw [components_eq name.toList, List.append_assoc]
  · rw [List.append_nil]

-- Different parts make different targets.
theorem ahead_inj (relative : isAbsolute name.toList = false)
    (same : ahead root part name = ahead root part' name) : part = part' := by
  have apart : ∀ {one other : String}, one = "" → other ≠ "" →
      ahead root one name ≠ ahead root other name := by
    rintro one other rfl some same
    by_cases bare : root = ""
    · subst bare
      have begins : lead name.toList = [.name other.toList] := by
        simpa [ahead, ofPart, some, components_eq, lead, steps, pieces] using same
      rcases lead_relative relative with none | dot
      · rw [none] at begins
        cases begins
      · rw [dot] at begins
        cases begins
    · simp [ahead, ofPart, some, bare] at same
  by_cases none : part = ""
  · by_cases none' : part' = ""
    · rw [none, none']
    · exact absurd same (apart none none')
  · by_cases none' : part' = ""
    · exact absurd same.symm (apart none' none)
    · have texts : part.toList = part'.toList := by
        simpa [ahead, ofPart, none, none'] using same
      exact String.toList_injective texts

-- The cell of a row that names its folder, and what is kept of it.
def cell? (headers row : List String) (column : String) : Option String :=
  headers.findIdx? (· == column) >>= (row[·]?)

def lettersOf (cell : String) : List Char := cell.toList.filter Text.isAlphanumeric

theorem pathPart_ok_iff {headers row : List String} {column : String} :
    (pathPart headers row column).outcome.1 = .ok part ↔
      ∃ cell, cell? headers row column = some cell ∧ part.toList = lettersOf cell := by
  unfold pathPart cell?
  cases headers.findIdx? (· == column) >>= (row[·]?) with
  | none =>
    constructor
    · intro made
      cases made
    · rintro ⟨cell, found, _⟩
      cases found
  | some cell =>
    constructor
    · intro made
      cases made
      exact ⟨cell, rfl, String.toList_ofList⟩
    · rintro ⟨cell', found, kept⟩
      cases found
      have same : String.ofList (cell.toList.filter Text.isAlphanumeric) = part := by
        rw [← String.toList_inj, String.toList_ofList, kept, lettersOf]
      rw [← same]
      rfl

theorem lettersOf_letters {cell : String} (same : part.toList = lettersOf cell) :
    ∀ c ∈ part.toList, Text.isAlphanumeric c = true := by
  intro c member
  rw [same] at member
  exact (List.mem_filter.mp member).2

-- The targets of a run that comes to the rendering are all inside the output folder.
theorem Press.Ready.target_ahead {p : Press} {t : FileTree} {table : Table} {target : String}
    (ready : p.Ready t table) (listed : target ∈ p.targets table) :
    ∃ name ∈ p.config.templates, ∃ part, (∀ c ∈ part.toList, Text.isAlphanumeric c = true) ∧
      components target.toList = ahead p.config.outputPath part (saveName name p.config.basePath) ++
        (steps (saveName name p.config.basePath).toList).map component := by
  obtain ⟨name, named, listed⟩ := List.mem_flatMap.mp listed
  obtain ⟨row, _, found⟩ := List.mem_filterMap.mp listed
  have relative := (saveName_relative (FileTree.isFile_named (ready_isFile ready named))
    p.config.basePath).2
  unfold target? at found
  split at found
  · rename_i part made
    cases found
    obtain ⟨cell, _, same⟩ := pathPart_ok_iff.mp made
    have letters := lettersOf_letters same
    exact ⟨name, named, part, letters, components_outputFile letters relative _⟩
  · cases found

-- Whatever is in the cells, a target is the output folder, in it the folder of the row, and in that
-- what the template gives.
theorem targets_contained (named : (fileName? template).isSome = true) (root base column : String)
    (headers : List String) :
    let name := saveName template base
    (name ≠ "" ∧ isAbsolute name.toList = false) ∧
    (∀ row part, (pathPart headers row column).outcome.1 = .ok part →
      (∃ cell, cell? headers row column = some cell ∧ part.toList = lettersOf cell) ∧
      components part.toList = ofPart part ∧
      components (outputFile root part name).toList = components root.toList ++ ofPart part ++
        if root = "" ∧ part = "" then components name.toList
        else (components name.toList).filter (· ≠ .here)) ∧
    ∀ row row' cell cell' part part', cell? headers row column = some cell →
      cell? headers row' column = some cell' →
      (pathPart headers row column).outcome.1 = .ok part →
      (pathPart headers row' column).outcome.1 = .ok part' →
      (outputFile root part name = outputFile root part' name ↔
        lettersOf cell = lettersOf cell') ∧
      (components (outputFile root part name).toList =
          components (outputFile root part' name).toList ↔ lettersOf cell = lettersOf cell') := by
  intro name
  have relative : isAbsolute name.toList = false := (saveName_relative named base).2
  refine ⟨saveName_relative named base, ?_, ?_⟩
  · intro row part made
    obtain ⟨cell, found, same⟩ := pathPart_ok_iff.mp made
    exact ⟨⟨cell, found, same⟩, components_part (lettersOf_letters same),
      components_target (lettersOf_letters same) relative root⟩
  · intro row row' cell cell' part part' at' at'' made made'
    obtain ⟨_, found, same⟩ := pathPart_ok_iff.mp made
    obtain ⟨_, found', same'⟩ := pathPart_ok_iff.mp made'
    cases at'.symm.trans found
    cases at''.symm.trans found'
    have parts : part = part' ↔ lettersOf cell = lettersOf cell' := by
      rw [← same, ← same', String.toList_inj]
    have apart : components (outputFile root part name).toList =
        components (outputFile root part' name).toList → part = part' := by
      rw [components_outputFile (lettersOf_letters same) relative,
        components_outputFile (lettersOf_letters same') relative, List.append_left_inj]
      exact ahead_inj relative
    rw [← parts]
    refine ⟨⟨fun equal => apart (by rw [equal]), ?_⟩, ⟨apart, ?_⟩⟩
    · rintro rfl
      rfl
    · rintro rfl
      rfl

-- A cell that looks like a way out, below the root of the file system.
theorem targets_contained_below_root :
    (fileName? "t/./x").isSome = true ∧ saveName "t/./x" "t" = "./x" ∧
    (pathPart ["k"] ["/../A."] "k").outcome.1 = .ok "A" ∧
    components (outputFile "/" "A" "./x").toList = [.root, .name ['A'], .name ['x']] ∧
    outputFile "/" "A" "./x" ≠ outputFile "/" "" "./x" := by
  have named : (fileName? "t/./x").isSome = true := by decide +kernel
  have saved : saveName "t/./x" "t" = "./x" := by decide +kernel
  have made : (pathPart ["k"] ["/../A."] "k").outcome.1 = .ok "A" := by cbv
  have made' : (pathPart ["k"] ["/.."] "k").outcome.1 = .ok "" := by cbv
  obtain ⟨_, inside, apart⟩ := targets_contained named "/" "t" "k" ["k"]
  rw [saved] at inside apart
  obtain ⟨_, _, whole⟩ := inside _ _ made
  refine ⟨named, saved, made, whole.trans (by decide +kernel), ?_⟩
  obtain ⟨texts, _⟩ := apart ["/../A."] ["/.."] "/../A." "/.." "A" "" rfl rfl made made'
  exact fun same => absurd (texts.mp same) (by decide +kernel)

end Targets

end RowPress
