import RowPress.FileTree
/-!
What paths lead to, and what writing and making folders leave alone. A path always leads to the same
place, whatever else happens in the tree: only whether the place can be reached changes.
-/
namespace RowPress

-- The path itself, the path without its last component, and so on up.
inductive Path.AtOrAbove : String → String → Prop where
  | self (path : String) : AtOrAbove path path
  | up {path parent far : String} : Path.parent? path = some parent → AtOrAbove far parent →
      AtOrAbove far path

namespace FileTree

def follow (place : Location) (name : String) : Location :=
  if name = ".." then outer place else place ++ [name]

def placeOf (t : FileTree) (path : String) : Location := (names path).foldl follow (t.base path)

def Found.place : Found → Location
  | .file place _ => place
  | .folder place => place
  | .free place => place

-- What a tree has at a place.
def occupant (t : FileTree) (place : Location) : Found :=
  if t.isFolder place then .folder place
  else match t.content? place with
    | some content => .file place content
    | none => .free place

-- What is found in this tree where something was found in another.
def Found.within (t : FileTree) : Found → Found
  | .folder place => .folder place
  | .file place _ | .free place => t.occupant place

theorem occupant_file_iff {t : FileTree} {place inner : Location} {content : Content} :
    t.occupant place = .file inner content ↔
      place = inner ∧ t.content? place = some content ∧ t.isFolder place = false := by
  unfold occupant
  cases t.isFolder place <;> cases t.content? place <;> simp

theorem occupant_free_iff {t : FileTree} {place inner : Location} :
    t.occupant place = .free inner ↔
      place = inner ∧ t.content? place = none ∧ t.isFolder place = false := by
  unfold occupant
  cases t.isFolder place <;> cases t.content? place <;> simp

section Soundness

variable {t t' : FileTree} {place rest : Location} {content : Content}

theorem isFolder_iff : t.isFolder place = true ↔ place = [] ∨ place ∈ t.folders := by
  simp [isFolder]

theorem fits_iff : t.Fits place ↔ Housed t.folders place ∧ place ∉ t.folders := by
  have apart : t.isFolder place = false ↔ ¬ (place = [] ∨ place ∈ t.folders) := by
    rw [← isFolder_iff, Bool.not_eq_true]
  unfold Fits Housed
  rw [isFolder_iff, apart, not_or]
  exact ⟨fun ⟨filled, inside, _, other⟩ => ⟨⟨filled, inside⟩, other⟩,
    fun ⟨⟨filled, inside⟩, other⟩ => ⟨filled, inside, filled, other⟩⟩

theorem content?_some (held : t.content? place = some content) : (place, content) ∈ t.files := by
  obtain ⟨f, found, rfl⟩ := Option.map_eq_some_iff.mp held
  have at' : f.1 = place := by simpa using List.find?_some found
  rw [← at']
  exact List.mem_of_find?_eq_some found

-- Every file is where a file can be.
theorem fits_of_content? (held : (t.content? place).isSome = true) : t.Fits place := by
  obtain ⟨content, held⟩ := Option.isSome_iff_exists.mp held
  have listed := content?_some held
  have member : place ∈ t.files.map (·.1) ++ t.folders :=
    List.mem_append_left _ (List.mem_map.mpr ⟨_, listed, rfl⟩)
  exact fits_iff.mpr ⟨t.sound.housed place member, t.sound.apart _ listed⟩

theorem isFolder_base (t : FileTree) (path : String) : t.isFolder (t.base path) = true := by
  unfold base
  split
  · rfl
  · exact isFolder_iff.mpr t.sound.working

theorem isFolder_outer (folder : t.isFolder place = true) : t.isFolder (outer place) = true := by
  rcases isFolder_iff.mp folder with rfl | listed
  · rfl
  · exact isFolder_iff.mpr (t.sound.housed place (List.mem_append_right _ listed)).2

theorem isFolder_front (folder : t.isFolder (place ++ rest) = true) : t.isFolder place = true := by
  induction rest generalizing place with
  | nil => rwa [List.append_nil] at folder
  | cons name rest ih =>
    have inner : t.isFolder (place ++ [name]) = true :=
      ih (by rwa [List.append_assoc, List.singleton_append])
    have above := isFolder_outer inner
    rwa [outer, List.dropLast_concat] at above

-- Whatever lies further in, the folders on the way are there.
theorem isFolder_above (below : rest ≠ []) (held : (t.content? (place ++ rest)).isSome = true) :
    t.isFolder place = true := by
  have inside := (fits_of_content? held).2.1
  rw [List.dropLast_append_of_ne_nil below] at inside
  exact isFolder_front inside

end Soundness

section Walking

variable {t t' : FileTree} {place inner : Location} {content : Content} {found : Found}

theorem walk_up (t : FileTree) (place : Location) (rest : List String) :
    t.walk place (".." :: rest) = t.walk (outer place) rest := by rw [walk]

theorem walk_name {name : String} (down : name ≠ "..") (rest : List String) :
    t.walk place (name :: rest) =
      if maxName < name.utf8ByteSize then .error .nameTooLong
      else if t.isFolder (place ++ [name]) then t.walk (place ++ [name]) rest
      else match t.content? (place ++ [name]), rest with
        | some content, [] => .ok (.file (place ++ [name]) content)
        | some _, _ :: _ => .error .notDirectory
        | none, [] => .ok (.free (place ++ [name]))
        | none, _ :: _ => .error .notFound := by
  rw [walk.eq_def]
  split
  · rename_i empty
    cases empty
  · rename_i equal
    exact absurd (List.cons.inj equal).1 down
  · rename_i equal
    cases equal
    rfl

-- What one name of a path that can be followed does: it leads to a folder, from which the rest is
-- followed, or it is the last one.
theorem walk_cases {name : String} {rest : List String} (down : name ≠ "..")
    (walked : t.walk place (name :: rest) = .ok found) :
    name.utf8ByteSize ≤ maxName ∧
      ((t.isFolder (place ++ [name]) = true ∧ t.walk (place ++ [name]) rest = .ok found) ∨
        (t.isFolder (place ++ [name]) = false ∧ rest = [] ∧
          ((∃ content, t.content? (place ++ [name]) = some content ∧
              found = .file (place ++ [name]) content) ∨
            (t.content? (place ++ [name]) = none ∧ found = .free (place ++ [name]))))) := by
  rw [walk_name down] at walked
  split at walked
  · cases walked
  · rename_i short
    refine ⟨by omega, ?_⟩
    split at walked
    · rename_i folder
      exact .inl ⟨folder, walked⟩
    · rename_i folder
      refine .inr ⟨by simpa using folder, ?_⟩
      split at walked
      · cases walked
        exact ⟨rfl, .inl ⟨_, ‹_›, rfl⟩⟩
      · cases walked
      · cases walked
        exact ⟨rfl, .inr ⟨‹_›, rfl⟩⟩
      · cases walked

theorem walk_place {ns : List String} (walked : t.walk place ns = .ok found) :
    found.place = ns.foldl follow place := by
  induction ns generalizing place with
  | nil =>
    rw [walk] at walked
    cases walked
    rfl
  | cons name rest ih =>
    by_cases up : name = ".."
    · subst up
      rw [walk_up] at walked
      exact ih walked
    · have next : follow place name = place ++ [name] := if_neg up
      rw [List.foldl_cons, next]
      obtain ⟨_, ⟨_, walked⟩ | ⟨_, rfl, ⟨_, _, rfl⟩ | ⟨_, rfl⟩⟩⟩ := walk_cases up walked
      · exact ih walked
      · rfl
      · rfl

-- In a tree with more folders the same paths can be followed. What they lead to is what the other
-- tree has at the place.
theorem walk_follows (folders : ∀ place, t.isFolder place = true → t'.isFolder place = true)
    {ns : List String} (walked : t.walk place ns = .ok found) :
    t'.walk place ns = .ok (found.within t') := by
  induction ns generalizing place with
  | nil =>
    rw [walk] at walked ⊢
    cases walked
    rfl
  | cons name rest ih =>
    by_cases up : name = ".."
    · subst up
      rw [walk_up] at walked ⊢
      exact ih walked
    · obtain ⟨short, ⟨folder, walked⟩ | ⟨_, rfl, ends⟩⟩ := walk_cases up walked
      · rw [walk_name up, if_neg (Nat.not_lt.mpr short), if_pos (folders _ folder)]
        exact ih walked
      · rw [walk_name up, if_neg (Nat.not_lt.mpr short)]
        rcases ends with ⟨content, _, rfl⟩ | ⟨_, rfl⟩ <;>
        · simp only [Found.within, occupant]
          split
          · rw [walk]
          · cases t'.content? (place ++ [name]) <;> rfl

theorem walk_file {ns : List String} (walked : t.walk place ns = .ok (.file inner content)) :
    t.content? inner = some content ∧ t.isFolder inner = false := by
  have itself := (walk_follows (fun _ same => same) walked).symm.trans walked
  exact (occupant_file_iff.mp (Except.ok.inj itself)).2

theorem walk_free {ns : List String} (walked : t.walk place ns = .ok (.free inner)) :
    t.content? inner = none ∧ t.isFolder inner = false := by
  have itself := (walk_follows (fun _ same => same) walked).symm.trans walked
  exact (occupant_free_iff.mp (Except.ok.inj itself)).2

-- What is free lies in a folder.
theorem walk_free_fits (folder : t.isFolder place = true) {ns : List String}
    (walked : t.walk place ns = .ok (.free inner)) : t.Fits inner := by
  induction ns generalizing place with
  | nil => rw [walk] at walked; cases walked
  | cons name rest ih =>
    by_cases up : name = ".."
    · subst up
      rw [walk_up] at walked
      exact ih (isFolder_outer folder) walked
    · obtain ⟨_, ⟨inside, walked⟩ | ⟨apart, _, ⟨_, _, same⟩ | ⟨_, same⟩⟩⟩ := walk_cases up walked
      · exact ih inside walked
      · cases same
      · cases same
        exact ⟨by simp, by rwa [List.dropLast_concat], apart⟩

end Walking

-- What the system asks of a path before it looks at the tree.
structure Sayable (path : String) : Prop where
  noNull : path.toList.contains '\x00' = false
  filled : ¬ path.isEmpty = true
  short : path.utf8ByteSize ≤ maxPath

-- A path that ends like one of a folder leads to no file.
def settle (path : String) : Found → Except OsError Found
  | .file place content =>
    if meansFolder path then .error .notDirectory else .ok (.file place content)
  | found => .ok found

theorem settle_ok {path : String} {reached found : Found}
    (settled : settle path reached = .ok found) : reached = found := by
  cases reached with
  | file place content =>
    by_cases plain : meansFolder path = true
    · simp [settle, plain] at settled
    · simpa [settle, plain] using settled
  | folder place => simpa [settle] using settled
  | free place => simpa [settle] using settled

theorem lookUp_eq (t : FileTree) (path : String) :
    t.lookUp path =
      if path.toList.contains '\x00' = true then .error .nullByte
      else if path.isEmpty = true then .error .notFound
      else if maxPath < path.utf8ByteSize then .error .nameTooLong
      else (t.walk (t.base path) (names path)).bind (settle path) := by
  unfold lookUp
  by_cases null : path.toList.contains '\x00' = true
  · simp only [if_pos null]
    rfl
  · by_cases empty : path.isEmpty = true
    · simp only [if_neg null, if_pos empty]
      rfl
    · by_cases long : maxPath < path.utf8ByteSize
      · simp only [if_neg null, if_neg empty, if_pos long]
        rfl
      · simp only [if_neg null, if_neg empty, if_neg long]
        cases t.walk (t.base path) (names path) with
        | error e => rfl
        | ok found => cases found <;> rfl

theorem lookUp_ok_iff {t : FileTree} {path : String} {found : Found} :
    t.lookUp path = .ok found ↔ Sayable path ∧
      t.walk (t.base path) (names path) = .ok found ∧ settle path found = .ok found := by
  rw [lookUp_eq]
  constructor
  · intro looked
    split at looked
    · cases looked
    · rename_i noNull
      split at looked
      · cases looked
      · rename_i filled
        split at looked
        · cases looked
        · rename_i short
          refine ⟨⟨by simpa using noNull, filled, by omega⟩, ?_⟩
          cases walked : t.walk (t.base path) (names path) with
          | error e => rw [walked] at looked; cases looked
          | ok reached =>
            rw [walked] at looked
            change settle path reached = .ok found at looked
            have same := settle_ok looked
            subst same
            exact ⟨rfl, looked⟩
  · rintro ⟨sayable, walked, settled⟩
    have short : ¬ maxPath < path.utf8ByteSize := Nat.not_lt.mpr sayable.short
    rw [sayable.noNull, if_neg Bool.false_ne_true, if_neg sayable.filled, if_neg short, walked]
    exact settled

theorem lookUp_place {t : FileTree} {path : String} {found : Found}
    (looked : t.lookUp path = .ok found) : found.place = t.placeOf path :=
  walk_place (lookUp_ok_iff.mp looked).2.1

theorem lookUp_file {t : FileTree} {path : String} {place : Location} {content : Content}
    (looked : t.lookUp path = .ok (.file place content)) :
    place = t.placeOf path ∧ t.content? place = some content ∧ t.isFolder place = false :=
  ⟨lookUp_place looked, walk_file (lookUp_ok_iff.mp looked).2.1⟩

theorem isFile_iff {t : FileTree} {path : String} :
    t.isFile path = true ↔ ∃ place content, t.lookUp path = .ok (.file place content) := by
  unfold isFile
  constructor
  · intro there
    split at there
    · exact ⟨_, _, ‹_›⟩
    · cases there
  · rintro ⟨place, content, looked⟩
    rw [looked]

theorem isFile_of_readText {t : FileTree} {path text : String}
    (content : t.readText path = .ok text) : t.isFile path = true := by
  unfold readText read at content
  unfold isFile
  cases looked : t.lookUp path with
  | error e =>
    rw [looked] at content
    cases content
  | ok found =>
    rw [looked] at content
    cases found with
    | file place content => rfl
    | folder place => cases content
    | free place => cases content

theorem lookUp_free {t : FileTree} {path : String} {place : Location}
    (looked : t.lookUp path = .ok (.free place)) :
    place = t.placeOf path ∧ t.content? place = none ∧ t.Fits place := by
  obtain ⟨_, walked, _⟩ := lookUp_ok_iff.mp looked
  exact ⟨lookUp_place looked, (walk_free walked).1, walk_free_fits (isFolder_base t path) walked⟩

section Putting

variable {t : FileTree} {place other : Location} {content : Content}

theorem put_eq (fits : t.Fits place) (content : Content) :
    (t.put place content).files = (t.files.filter fun f => f.1 != place) ++ [(place, content)] := by
  rw [put, dif_pos fits]

theorem put_unfit (unfit : ¬ t.Fits place) (content : Content) : t.put place content = t := by
  rw [put, dif_neg unfit]

theorem content?_put (fits : t.Fits place) (content : Content) (other : Location) :
    (t.put place content).content? other =
      if other = place then some content else t.content? other := by
  rw [content?, put_eq fits, List.find?_append, List.find?_filter, content?]
  by_cases same : other = place
  · subst same
    have missing : t.files.find? (fun f => (f.1 != other) = true ∧ (f.1 == other) = true) = none :=
      List.find?_eq_none.mpr fun f _ both => by simp at both
    rw [missing, if_pos rfl]
    simp
  · have kept : (fun f : Location × Content =>
        decide ((f.1 != place) = true ∧ (f.1 == other) = true)) = (·.1 == other) := by
      funext f
      by_cases at' : f.1 = other <;> simp [at', same]
    have apart : (place == other) = false := beq_false_of_ne fun equal => same equal.symm
    rw [kept, if_neg same]
    simp [apart]

@[simp] theorem folders_put (t : FileTree) (place : Location) (content : Content) :
    (t.put place content).folders = t.folders := by
  unfold put
  split <;> rfl

@[simp] theorem workdir_put (t : FileTree) (place : Location) (content : Content) :
    (t.put place content).workdir = t.workdir := by
  unfold put
  split <;> rfl

@[simp] theorem limits_put (t : FileTree) (place : Location) (content : Content) :
    (t.put place content).limits = t.limits := by
  unfold put
  split <;> rfl

@[simp] theorem isFolder_put (t : FileTree) (place other : Location) (content : Content) :
    (t.put place content).isFolder other = t.isFolder other := by
  rw [isFolder, folders_put, isFolder]

end Putting

-- Folders stay folders and files stay files; what a file holds may change. Paths begin where they
-- began, and the system gives up where it did.
structure Grows (t t' : FileTree) : Prop where
  folder : ∀ place, t.isFolder place = true → t'.isFolder place = true
  file : ∀ place, (t.content? place).isSome = true → (t'.content? place).isSome = true
  workdir : t'.workdir = t.workdir
  limits : t'.limits = t.limits

theorem Grows.refl (t : FileTree) : t.Grows t := ⟨fun _ h => h, fun _ h => h, rfl, rfl⟩

theorem Grows.trans {t t' t'' : FileTree} (one : t.Grows t') (two : t'.Grows t'') : t.Grows t'' :=
  ⟨fun place h => two.folder place (one.folder place h),
    fun place h => two.file place (one.file place h), two.workdir.trans one.workdir,
    two.limits.trans one.limits⟩

theorem base_eq {t t' : FileTree} (same : t'.workdir = t.workdir) (path : String) :
    t'.base path = t.base path := by rw [base, base, same]

theorem placeOf_eq {t t' : FileTree} (same : t'.workdir = t.workdir) (path : String) :
    t'.placeOf path = t.placeOf path := by rw [placeOf, placeOf, base_eq same]

theorem put_grows (t : FileTree) (place : Location) (content : Content) :
    t.Grows (t.put place content) := by
  by_cases fits : t.Fits place
  · refine ⟨?_, ?_, workdir_put _ _ _, limits_put _ _ _⟩
    · intro other folder
      rwa [isFolder_put]
    · intro other held
      rw [content?_put fits]
      split
      · rfl
      · exact held
  · rw [put_unfit fits]
    exact .refl t

-- What a path leads to stays there, but for the content of a file.
theorem walk_file_grows {t t' : FileTree} (grows : t.Grows t') {place inner : Location}
    {ns : List String} {content content' : Content}
    (walked : t.walk place ns = .ok (.file inner content))
    (holds : t'.content? inner = some content') :
    t'.walk place ns = .ok (.file inner content') := by
  have apart := (fits_of_content? (t := t') (by rw [holds]; rfl)).2.2
  rw [walk_follows grows.folder walked, Found.within, occupant_file_iff.mpr ⟨rfl, holds, apart⟩]

-- What is put at a place that was free is found there.
theorem walk_free_put {t : FileTree} {place inner : Location} {ns : List String}
    (walked : t.walk place ns = .ok (.free inner)) (fits : t.Fits inner) (content : Content) :
    (t.put inner content).walk place ns = .ok (.file inner content) := by
  have there : (t.put inner content).content? inner = some content := by
    rw [content?_put fits, if_pos rfl]
  have apart : (t.put inner content).isFolder inner = false := by
    rw [isFolder_put]
    exact fits.2.2
  rw [walk_follows (put_grows t inner content).folder walked, Found.within,
    occupant_file_iff.mpr ⟨rfl, there, apart⟩]

theorem lookUp_file_grows {t t' : FileTree} (grows : t.Grows t') {path : String}
    {place : Location} {content content' : Content}
    (looked : t.lookUp path = .ok (.file place content))
    (holds : t'.content? place = some content') : t'.lookUp path = .ok (.file place content') := by
  obtain ⟨sayable, walked, settled⟩ := lookUp_ok_iff.mp looked
  have walked' := walk_file_grows grows walked holds
  rw [← base_eq grows.workdir] at walked'
  refine lookUp_ok_iff.mpr ⟨sayable, walked', ?_⟩
  have plain : ¬ meansFolder path = true := by
    intro plain
    simp [settle, plain] at settled
  simp [settle, plain]

theorem lookUp_folder_grows {t t' : FileTree} (grows : t.Grows t') {path : String}
    {place : Location} (looked : t.lookUp path = .ok (.folder place)) :
    t'.lookUp path = .ok (.folder place) := by
  obtain ⟨sayable, walked, settled⟩ := lookUp_ok_iff.mp looked
  have walked' := walk_follows grows.folder walked
  rw [← base_eq grows.workdir] at walked'
  exact lookUp_ok_iff.mpr ⟨sayable, walked', settled⟩

section Writing

variable {t t' : FileTree} {place : Location} {path : String} {content : Content} {cause : OsError}

-- The content can be written there to its end.
def Takes (t : FileTree) (place : Location) (content : Content) : Prop :=
  ∀ limit, t.limit? place = some limit → content.toBytes.length ≤ limit.bytes

-- The first part of a content, which is left where the system gives up before the rest is written.
def Keeps (t : FileTree) (place : Location) (content : Content) (cause : OsError)
    (front : Content) : Prop :=
  ∃ limit, t.limit? place = some limit ∧ limit.cause = cause ∧
    limit.bytes < content.toBytes.length ∧ front = .ofBytes (content.toBytes.take limit.bytes)

theorem takes_eq (same : t'.limits = t.limits) (place : Location) (content : Content) :
    t'.Takes place content = t.Takes place content := by rw [Takes, Takes, limit?, limit?, same]

theorem keeps_eq (same : t'.limits = t.limits) (place : Location) (content : Content)
    (cause : OsError) (front : Content) :
    t'.Keeps place content cause front = t.Keeps place content cause front := by
  rw [Keeps, Keeps, limit?, limit?, same]

theorem fill_cases (t : FileTree) (place : Location) (content : Content) :
    (t.Takes place content ∧ t.fill place content = (t.put place content, none)) ∨
      ∃ cause front, t.Keeps place content cause front ∧
        t.fill place content = (t.put place front, some cause) := by
  unfold fill
  cases found : t.limit? place with
  | none => exact .inl ⟨fun limit some => absurd (found.symm.trans some) (by simp), rfl⟩
  | some limit =>
    by_cases short : limit.bytes < content.toBytes.length
    · refine .inr ⟨limit.cause, _, ⟨limit, found, rfl, short, rfl⟩, ?_⟩
      simp only [if_pos short]
    · refine .inl ⟨fun limit' found' => ?_, ?_⟩
      · cases found.symm.trans found'
        exact Nat.not_lt.mp short
      · simp only [if_neg short]

theorem fill_takes (takes : t.Takes place content) :
    t.fill place content = (t.put place content, none) := by
  rcases fill_cases t place content with ⟨_, filled⟩ | ⟨_, _, ⟨limit, found, _, short, _⟩, _⟩
  · exact filled
  · exact absurd (takes limit found) (Nat.not_le.mpr short)

-- The path leads to a file that is there or can be made, so that the system opens it for writing.
structure Opens (t : FileTree) (path : String) : Prop where
  fits : t.Fits (t.placeOf path)
  leads : ∀ content, (t.put (t.placeOf path) content).lookUp path =
    .ok (.file (t.placeOf path) content)

-- A write is refused, or the file is opened and filled.
theorem write_cases (t : FileTree) (path : String) (content : Content) :
    (∃ cause, t.write path content = (t, some cause)) ∨
      t.Opens path ∧ t.write path content = t.fill (t.placeOf path) content := by
  unfold write
  cases looked : t.lookUp path with
  | error e => exact .inl ⟨e, rfl⟩
  | ok found =>
    obtain ⟨sayable, walked, settled⟩ := lookUp_ok_iff.mp looked
    cases found with
    | file place held =>
      obtain ⟨rfl, before, _⟩ := lookUp_file looked
      have fits : t.Fits (t.placeOf path) := fits_of_content? (by rw [before]; rfl)
      refine .inr ⟨⟨fits, fun content => ?_⟩, rfl⟩
      exact lookUp_file_grows (put_grows _ _ _) looked (by simp [content?_put fits])
    | folder place => exact .inl ⟨_, rfl⟩
    | free place =>
      obtain ⟨rfl, _, fits⟩ := lookUp_free looked
      by_cases plain : meansFolder path = true
      · simp only [if_pos plain]
        exact .inl ⟨_, rfl⟩
      · refine .inr ⟨⟨fits, fun content => lookUp_ok_iff.mpr ⟨sayable, ?_, ?_⟩⟩, if_neg plain⟩
        · rw [base_eq (workdir_put _ _ _)]
          exact walk_free_put walked fits content
        · simp [settle, plain]

-- A write that succeeds changes the one file that the path leads to.
theorem write_ok (wrote : t.write path content = (t', none)) :
    t.Opens path ∧ t.Takes (t.placeOf path) content ∧ t' = t.put (t.placeOf path) content := by
  rcases write_cases t path content with ⟨_, refused⟩ | ⟨opens, filled⟩
  · cases refused.symm.trans wrote
  · rw [filled] at wrote
    rcases fill_cases t (t.placeOf path) content with ⟨takes, ends⟩ | ⟨_, _, _, ends⟩
    · exact ⟨opens, takes, (congrArg Prod.fst (ends.symm.trans wrote)).symm⟩
    · cases ends.symm.trans wrote

-- One that fails changes nothing, or has opened the file and leaves a first part of the content.
theorem write_failed (failed : t.write path content = (t', some cause)) :
    t' = t ∨ t.Opens path ∧ ∃ front, t.Keeps (t.placeOf path) content cause front ∧
      t' = t.put (t.placeOf path) front := by
  rcases write_cases t path content with ⟨_, refused⟩ | ⟨opens, filled⟩
  · exact .inl (congrArg Prod.fst (refused.symm.trans failed)).symm
  · rw [filled] at failed
    rcases fill_cases t (t.placeOf path) content with ⟨_, ends⟩ | ⟨_, front, keeps, ends⟩
    · cases ends.symm.trans failed
    · cases ends.symm.trans failed
      exact .inr ⟨opens, front, keeps, rfl⟩

end Writing

section Folders

variable {t t' t'' : FileTree} {place other : Location} {path parent : String}

theorem addFolder_eq (fits : t.Fits place) (none : t.content? place = none) :
    (t.addFolder place).folders = t.folders ++ [place] := by
  rw [addFolder, dif_pos ⟨fits, none⟩]

@[simp] theorem files_addFolder (t : FileTree) (place : Location) :
    (t.addFolder place).files = t.files := by
  unfold addFolder
  split <;> rfl

@[simp] theorem workdir_addFolder (t : FileTree) (place : Location) :
    (t.addFolder place).workdir = t.workdir := by
  unfold addFolder
  split <;> rfl

@[simp] theorem limits_addFolder (t : FileTree) (place : Location) :
    (t.addFolder place).limits = t.limits := by
  unfold addFolder
  split <;> rfl

-- The folder is new, and nothing was at its place.
theorem makeFolder_ok (made : t.makeFolder path = .ok t') :
    t' = t.addFolder (t.placeOf path) ∧ t.lookUp path = .ok (.free (t.placeOf path)) := by
  unfold makeFolder at made
  cases looked : t.lookUp path with
  | error e => rw [looked] at made; cases made
  | ok found =>
    rw [looked] at made
    cases found with
    | file place held => cases made
    | folder place => cases made
    | free place =>
      obtain ⟨rfl, _, _⟩ := lookUp_free looked
      cases made
      exact ⟨rfl, rfl⟩

-- The tree with some folders made at the path or above it, where no files were.
structure Furnished (t : FileTree) (path : String) (t' : FileTree) : Prop where
  files : t'.files = t.files
  workdir : t'.workdir = t.workdir
  limits : t'.limits = t.limits
  folders : ∃ made, t'.folders = t.folders ++ made ∧
    ∀ place ∈ made, ∃ far, Path.AtOrAbove far path ∧ place = t.placeOf far

theorem Furnished.refl (t : FileTree) (path : String) : t.Furnished path t :=
  ⟨rfl, rfl, rfl, [], by simp, by simp⟩

theorem Furnished.content? (furnished : t.Furnished path t') (place : Location) :
    t'.content? place = t.content? place := by
  unfold FileTree.content?
  rw [furnished.files]

theorem Furnished.trans (one : t.Furnished path t') (two : t'.Furnished path t'') :
    t.Furnished path t'' := by
  obtain ⟨made, folders, new⟩ := one.folders
  obtain ⟨made', folders', new'⟩ := two.folders
  refine ⟨two.files.trans one.files, two.workdir.trans one.workdir, two.limits.trans one.limits,
    made ++ made', ?_, ?_⟩
  · rw [folders', folders, List.append_assoc]
  · intro place member
    rcases List.mem_append.mp member with early | late
    · exact new place early
    · obtain ⟨far, leads, at'⟩ := new' place late
      exact ⟨far, leads, at'.trans (placeOf_eq one.workdir far)⟩

theorem Furnished.up (furnished : t.Furnished parent t')
    (above : Path.parent? path = some parent) : t.Furnished path t' := by
  obtain ⟨made, folders, new⟩ := furnished.folders
  refine ⟨furnished.files, furnished.workdir, furnished.limits, made, folders, ?_⟩
  intro place member
  obtain ⟨far, leads, at'⟩ := new place member
  exact ⟨far, .up above leads, at'⟩

theorem Furnished.isFolder (furnished : t.Furnished path t') (folder : t'.isFolder place = true) :
    t.isFolder place = true ∨ ∃ far, Path.AtOrAbove far path ∧ place = t.placeOf far := by
  obtain ⟨made, folders, new⟩ := furnished.folders
  rw [isFolder_iff, folders, List.mem_append] at folder
  rcases folder with root | early | late
  · exact .inl (isFolder_iff.mpr (.inl root))
  · exact .inl (isFolder_iff.mpr (.inr early))
  · exact .inr (new place late)

theorem Furnished.grows (furnished : t.Furnished path t') : t.Grows t' := by
  obtain ⟨made, folders, _⟩ := furnished.folders
  refine ⟨?_, ?_, furnished.workdir, furnished.limits⟩
  · intro place folder
    rw [isFolder_iff, folders, List.mem_append]
    exact (isFolder_iff.mp folder).imp_right .inl
  · intro place held
    rwa [furnished.content?]

theorem makeFolder_furnished (made : t.makeFolder path = .ok t') : t.Furnished path t' := by
  obtain ⟨rfl, looked⟩ := makeFolder_ok made
  obtain ⟨_, none, fits⟩ := lookUp_free looked
  refine ⟨files_addFolder _ _, workdir_addFolder _ _, limits_addFolder _ _, [t.placeOf path],
    addFolder_eq fits none, ?_⟩
  intro place member
  exact ⟨path, .self path, List.mem_singleton.mp member⟩

-- Also when it fails: what was made stays made.
theorem makeFoldersFrom_furnished (fuel : Nat) (t : FileTree) (path : String) :
    t.Furnished path (makeFoldersFrom fuel t path).1 := by
  induction fuel generalizing t path with
  | zero => exact .refl t path
  | succ fuel ih =>
    unfold makeFoldersFrom
    split
    · exact .refl t path
    · split
      · exact makeFolder_furnished ‹_›
      · split
        · exact .refl t path
        · rename_i parent above
          have upper := (ih t parent).up above
          split
          · rename_i ran
            rw [ran] at upper
            exact upper
          · rename_i ran
            rw [ran] at upper
            split
            · exact upper.trans (makeFolder_furnished ‹_›)
            · exact upper
      · exact .refl t path

theorem makeFolders_furnished (t : FileTree) (path : String) :
    t.Furnished path (t.makeFolders path).1 := makeFoldersFrom_furnished _ t path

end Folders

theorem foldl_follow {ns : List String} (down : ".." ∉ ns) (place : Location) :
    ns.foldl follow place = place ++ ns := by
  induction ns generalizing place with
  | nil => simp
  | cons name rest ih =>
    have first : name ≠ ".." := fun up => down (up ▸ List.mem_cons_self)
    have next : follow place name = place ++ [name] := if_neg first
    rw [List.foldl_cons, next, ih fun later => down (List.mem_cons_of_mem _ later),
      List.append_assoc, List.singleton_append]

-- A file that a path leads to later, and that was there before, was reached before as well. A path
-- with `..` in it may have to go through a folder that is only made later.
theorem walk_file_before {t t' : FileTree} (grows : t.Grows t')
    {place inner : Location} {ns : List String} {content content' : Content}
    (down : ".." ∉ ns) (walked : t'.walk place ns = .ok (.file inner content'))
    (held : t.content? inner = some content) : t.walk place ns = .ok (.file inner content) := by
  induction ns generalizing place with
  | nil => rw [walk] at walked; cases walked
  | cons name rest ih =>
    have first : name ≠ ".." := fun up => down (up ▸ List.mem_cons_self)
    have later : ".." ∉ rest := fun member => down (List.mem_cons_of_mem _ member)
    obtain ⟨short, ⟨_, walked⟩ | ⟨folder, rfl, ⟨_, _, same⟩ | ⟨_, same⟩⟩⟩ := walk_cases first walked
    · have at' := walk_place walked
      rw [foldl_follow later] at at'
      have below : rest ≠ [] := by
        rintro rfl
        rw [walk] at walked
        cases walked
      have inside : t.isFolder (place ++ [name]) = true :=
        isFolder_above below (by rw [← at']; exact held ▸ rfl)
      rw [walk_name first, if_neg (Nat.not_lt.mpr short), if_pos inside]
      exact ih later walked
    · cases same
      have apart : ¬ t.isFolder (place ++ [name]) = true := fun early => by
        have still := grows.folder _ early
        rw [folder] at still
        cases still
      rw [walk_name first, if_neg (Nat.not_lt.mpr short), if_neg apart, held]
    · cases same

-- For a path without `..` that leads to a file in the end, to be there is to be a file at its
-- place.
theorem holds_iff {t t' : FileTree} (grows : t.Grows t') {path : String}
    {place : Location} {content : Content} (down : ".." ∉ names path)
    (looked : t'.lookUp path = .ok (.file place content)) :
    t.holds path = true ↔ (t.content? place).isSome = true := by
  constructor
  · intro holds
    cases before : t.lookUp path with
    | error e => simp [FileTree.holds, isFile, isDirectory, before] at holds
    | ok found =>
      cases found with
      | file place' content' =>
        obtain ⟨at', held, _⟩ := lookUp_file before
        rw [(lookUp_file looked).1, placeOf_eq grows.workdir, ← at', held]
        rfl
      | folder place' =>
        rw [lookUp_folder_grows grows before] at looked
        cases looked
      | free place' => simp [FileTree.holds, isFile, isDirectory, before] at holds
  · intro held
    obtain ⟨content', held⟩ := Option.isSome_iff_exists.mp held
    obtain ⟨sayable, walked, settled⟩ := lookUp_ok_iff.mp looked
    have plain : ¬ meansFolder path = true := by
      intro plain
      simp [settle, plain] at settled
    rw [base_eq grows.workdir] at walked
    have before : t.lookUp path = .ok (.file place content') :=
      lookUp_ok_iff.mpr ⟨sayable, walk_file_before grows down walked held,
        by simp [settle, plain]⟩
    simp [FileTree.holds, isFile, before]

end FileTree

end RowPress
