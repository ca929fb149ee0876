import Mathlib
import RowPress.Proofs.FileTree
/-!
Texts saved one after the other. The last text that is saved at a place stays there, files at other
places are not touched, and each save either replaces a file or makes a new one.
-/
namespace RowPress

-- A text, the path it is saved under, and the part of that path that names the folder.
structure Sheet where
  target : String
  part : String
  text : String
deriving DecidableEq

def Sheet.place (s : Sheet) (t : FileTree) : Location := t.placeOf s.target

-- The places of the folders on the way to the target.
def Sheet.Needs (s : Sheet) (t : FileTree) (place : Location) : Prop :=
  ∃ parent far, Path.parent? s.target = some parent ∧ Path.AtOrAbove far parent ∧
    place = t.placeOf far

-- Both hang on nothing of the tree but its working directory.
theorem Sheet.place_eq {t t' : FileTree} (same : t'.workdir = t.workdir) (s : Sheet) :
    s.place t' = s.place t := FileTree.placeOf_eq same s.target

theorem Sheet.needs_eq {t t' : FileTree} (same : t'.workdir = t.workdir) (s : Sheet)
    (place : Location) : s.Needs t' place = s.Needs t place := by
  simp only [Sheet.Needs, FileTree.placeOf_eq same]

namespace FileTree

-- The folders that a file needs.
def furnish (t : FileTree) (target : String) : FileTree × Option OsError :=
  match Path.parent? target with
  | some parent => t.makeFolders parent
  | none => (t, none)

theorem furnish_furnished (t : FileTree) (target : String) :
    (t.furnish target).1 = t ∨ ∃ parent, Path.parent? target = some parent ∧
      t.Furnished parent (t.furnish target).1 := by
  unfold furnish
  cases above : Path.parent? target with
  | none => exact .inl rfl
  | some parent => exact .inr ⟨parent, rfl, makeFolders_furnished t parent⟩

theorem furnish_grows (t : FileTree) (target : String) : t.Grows (t.furnish target).1 := by
  rcases furnish_furnished t target with same | ⟨parent, _, furnished⟩
  · rw [same]
    exact .refl t
  · exact furnished.grows

theorem content?_furnish (t : FileTree) (target : String) (place : Location) :
    (t.furnish target).1.content? place = t.content? place := by
  rcases furnish_furnished t target with same | ⟨parent, _, furnished⟩
  · rw [same]
  · exact furnished.content? place

theorem workdir_furnish (t : FileTree) (target : String) :
    (t.furnish target).1.workdir = t.workdir := (furnish_grows t target).workdir

theorem placeOf_furnish (t : FileTree) (s : Sheet) :
    (t.furnish s.target).1.placeOf s.target = s.place t :=
  placeOf_eq (workdir_furnish t s.target) s.target

theorem isFolder_furnish {t : FileTree} {s : Sheet} {place : Location}
    (folder : (t.furnish s.target).1.isFolder place = true) :
    t.isFolder place = true ∨ s.Needs t place := by
  rcases furnish_furnished t s.target with same | ⟨parent, above, furnished⟩
  · rw [same] at folder
    exact .inl folder
  · rcases furnished.isFolder folder with early | ⟨far, leads, at'⟩
    · exact .inl early
    · exact .inr ⟨parent, far, above, leads, at'⟩

def Saved (t : FileTree) (s : Sheet) (t' : FileTree) : Prop :=
  (t.furnish s.target).1.write s.target (.text s.text) = (t', none)

-- Sheets saved in order, and those of them that were saved over something.
inductive SavedAll : FileTree → List Sheet → List Sheet → FileTree → Prop where
  | nil (t : FileTree) : SavedAll t [] [] t
  | cons {t t' t'' : FileTree} {s : Sheet} {rest replaced : List Sheet} :
      Saved t s t' → SavedAll t' rest replaced t'' →
      SavedAll t (s :: rest) (if t.holds s.target then s :: replaced else replaced) t''

theorem SavedAll.append {t t' t'' : FileTree} {sheets sheets' replaced replaced' : List Sheet}
    (one : SavedAll t sheets replaced t') (two : SavedAll t' sheets' replaced' t'') :
    SavedAll t (sheets ++ sheets') (replaced ++ replaced') t'' := by
  induction one with
  | nil => exact two
  | @cons t _ _ s _ _ saved _ ih =>
    have whole := SavedAll.cons saved (ih two)
    by_cases held : t.holds s.target = true
    · simpa [held] using whole
    · simpa [held] using whole

section Saves

variable {t t' : FileTree} {s : Sheet} {sheets replaced : List Sheet}

-- The folders are made, and then the text is put in a file at the target.
theorem Saved.put (saved : t.Saved s t') :
    (t.furnish s.target).1.Fits (s.place t) ∧ t.Takes (s.place t) (.text s.text) ∧
      t' = (t.furnish s.target).1.put (s.place t) (.text s.text) := by
  obtain ⟨⟨fits, _⟩, takes, put⟩ := write_ok saved
  rw [placeOf_furnish] at fits takes put
  rw [takes_eq (furnish_grows t s.target).limits] at takes
  exact ⟨fits, takes, put⟩

theorem Saved.content? (saved : t.Saved s t') (place : Location) :
    t'.content? place = if place = s.place t then some (.text s.text) else t.content? place := by
  obtain ⟨fits, _, rfl⟩ := saved.put
  rw [content?_put fits, content?_furnish]

theorem Saved.grows (saved : t.Saved s t') : t.Grows t' := by
  obtain ⟨_, _, rfl⟩ := saved.put
  exact (furnish_grows t s.target).trans (put_grows _ _ _)

theorem Saved.lookUp (saved : t.Saved s t') :
    t'.lookUp s.target = .ok (.file (s.place t) (.text s.text)) := by
  obtain ⟨opens, _, rfl⟩ := write_ok saved
  have leads := opens.leads (.text s.text)
  rwa [placeOf_furnish] at leads ⊢

theorem SavedAll.grows (saved : SavedAll t sheets replaced t') : t.Grows t' := by
  induction saved with
  | nil => exact .refl _
  | cons one _ ih => exact one.grows.trans ih

-- Files at other places are left alone.
theorem SavedAll.content?_apart (saved : SavedAll t sheets replaced t') {place : Location}
    (apart : ∀ s ∈ sheets, s.place t ≠ place) : t'.content? place = t.content? place := by
  induction saved with
  | nil => rfl
  | @cons _ _ _ s _ _ one _ ih =>
    have other : ¬ place = s.place _ := fun same => apart s List.mem_cons_self same.symm
    have later := ih fun s' member => by
      rw [s'.place_eq one.grows.workdir]
      exact apart s' (List.mem_cons_of_mem _ member)
    rw [later, one.content?, if_neg other]

-- The last text saved at a place is what its path reads in the end.
theorem SavedAll.lookUp_last {before after : List Sheet}
    (saved : SavedAll t (before ++ s :: after) replaced t')
    (last : ∀ s' ∈ after, s'.place t ≠ s.place t) :
    t'.lookUp s.target = .ok (.file (s.place t) (.text s.text)) := by
  induction before generalizing t replaced with
  | nil =>
    cases saved with
    | cons one rest =>
      have stays : t'.content? (s.place t) = _ := rest.content?_apart fun s' member => by
        rw [s'.place_eq one.grows.workdir]
        exact last s' member
      rw [one.content?, if_pos rfl] at stays
      exact lookUp_file_grows rest.grows one.lookUp stays
  | cons first before ih =>
    cases saved with
    | cons one rest =>
      rw [← s.place_eq one.grows.workdir]
      refine ih rest fun s' member => ?_
      rw [s.place_eq one.grows.workdir, s'.place_eq one.grows.workdir]
      exact last s' member

-- Every saved path leads to a file in the end, whichever text is there.
theorem SavedAll.lookUp_member (saved : SavedAll t sheets replaced t') (member : s ∈ sheets) :
    ∃ content, t'.lookUp s.target = .ok (.file (s.place t) content) := by
  induction saved with
  | nil => cases member
  | @cons t _ _ _ _ _ one rest ih =>
    rcases List.mem_cons.mp member with rfl | later
    · have kept := rest.grows.file (s.place t) (by rw [one.content?, if_pos rfl]; rfl)
      obtain ⟨content, held⟩ := Option.isSome_iff_exists.mp kept
      exact ⟨content, lookUp_file_grows rest.grows one.lookUp held⟩
    · rw [← s.place_eq one.grows.workdir]
      exact ih later

-- Folders are only made on the way to targets.
theorem SavedAll.isFolder (saved : SavedAll t sheets replaced t') {place : Location}
    (folder : t'.isFolder place = true) :
    t.isFolder place = true ∨ ∃ s ∈ sheets, s.Needs t place := by
  induction saved with
  | nil => exact .inl folder
  | cons one _ ih =>
    rcases ih folder with early | ⟨s, member, needs⟩
    · obtain ⟨_, _, rfl⟩ := one.put
      rw [isFolder_put] at early
      rcases isFolder_furnish early with before | needs
      · exact .inl before
      · exact .inr ⟨_, List.mem_cons_self, needs⟩
    · rw [s.needs_eq one.grows.workdir] at needs
      exact .inr ⟨s, List.mem_cons_of_mem _ member, needs⟩

theorem read_ok_iff {path : String} {content : Content} :
    t.read path = .ok content ↔ t.lookUp path = .ok (.file (t.placeOf path) content) := by
  unfold read
  cases looked : t.lookUp path with
  | error e => simp [bind, Except.bind]
  | ok found =>
    have at' := lookUp_place looked
    cases found with
    | file place held =>
      have same : place = t.placeOf path := at'
      simp [bind, Except.bind, pure, Except.pure, same]
    | folder place => simp [bind, Except.bind, throw, throwThe, MonadExceptOf.throw]
    | free place => simp [bind, Except.bind, throw, throwThe, MonadExceptOf.throw]

theorem Grows.read {path : String} {content : Content} (grows : t.Grows t')
    (had : t.read path = .ok content)
    (same : t'.content? (t.placeOf path) = t.content? (t.placeOf path)) :
    t'.read path = .ok content := by
  have looked := read_ok_iff.mp had
  have held := (lookUp_file looked).2.1
  rw [read_ok_iff, placeOf_eq grows.workdir]
  exact lookUp_file_grows grows looked (by rw [same, held])

-- What saving sheets leaves: each target reads the last text for its place, all other places hold
-- what they held, and what could be read at them still can. At the place where a write has broken
-- off it says nothing.
structure Laid (t : FileTree) (sheets : List Sheet) (torn : Option Location) (t' : FileTree) :
    Prop where
  last : ∀ before s after, sheets = before ++ s :: after →
    (∀ later ∈ after, later.place t ≠ s.place t) → torn ≠ some (s.place t) →
    t'.read s.target = .ok (.text s.text)
  apart : ∀ place, (∀ s ∈ sheets, s.place t ≠ place) → torn ≠ some place →
    t'.content? place = t.content? place
  kept : ∀ path content, (∀ s ∈ sheets, s.place t ≠ t.placeOf path) →
    torn ≠ some (t.placeOf path) → t.read path = .ok content → t'.read path = .ok content

theorem SavedAll.laid (saved : SavedAll t sheets replaced t') : t.Laid sheets none t' := by
  refine ⟨?_, ?_, ?_⟩
  · rintro before s after rfl last _
    rw [read_ok_iff, placeOf_eq saved.grows.workdir]
    exact saved.lookUp_last last
  · intro place apart _
    exact saved.content?_apart apart
  · intro path content apart _ had
    exact saved.grows.read had (saved.content?_apart apart)

-- What comes after them leaves it so, but for the place that it changes.
theorem SavedAll.laid_grows {t'' : FileTree} {torn : Option Location}
    (saved : SavedAll t sheets replaced t') (grows : t'.Grows t'')
    (same : ∀ place, torn ≠ some place → t''.content? place = t'.content? place) :
    t.Laid sheets torn t'' := by
  have laid := saved.laid
  have here := fun path => placeOf_eq saved.grows.workdir path
  refine ⟨?_, ?_, ?_⟩
  · intro before s after whole last whole'
    exact grows.read (laid.last before s after whole last nofun) (same _ (here s.target ▸ whole'))
  · intro place apart whole
    rw [same place whole, laid.apart place apart nofun]
  · intro path content apart whole had
    exact grows.read (laid.kept path content apart nofun had) (same _ (here path ▸ whole))

end Saves

section Failing

variable {t t' : FileTree} {s : Sheet} {cause : OsError} {torn : Option Location}

-- Why a sheet is not saved, and what is left of it.
inductive Unsaved (t : FileTree) (s : Sheet) (cause : OsError) :
    Option Location → FileTree → Prop where
  -- A folder for it cannot be made. Those above it may have been.
  | folders : (t.furnish s.target).2 = some cause → Unsaved t s cause none (t.furnish s.target).1
  -- The file cannot be opened.
  | refused : (t.furnish s.target).2 = none →
      (t.furnish s.target).1.write s.target (.text s.text) =
        ((t.furnish s.target).1, some cause) →
      Unsaved t s cause none (t.furnish s.target).1
  -- The file is opened, and the system gives up before all of the text is in it.
  | torn {front : Content} : (t.furnish s.target).2 = none →
      (t.furnish s.target).1.Opens s.target → t.Keeps (s.place t) (.text s.text) cause front →
      Unsaved t s cause (some (s.place t)) ((t.furnish s.target).1.put (s.place t) front)

theorem unsaved_write (fine : (t.furnish s.target).2 = none)
    (failed : (t.furnish s.target).1.write s.target (.text s.text) = (t', some cause)) :
    ∃ torn, t.Unsaved s cause torn t' := by
  rcases write_failed failed with rfl | ⟨opens, front, keeps, rfl⟩
  · exact ⟨none, .refused fine failed⟩
  · rw [placeOf_furnish] at keeps ⊢
    rw [keeps_eq (furnish_grows t s.target).limits] at keeps
    exact ⟨some (s.place t), .torn fine opens keeps⟩

theorem Unsaved.grows (unsaved : t.Unsaved s cause torn t') : t.Grows t' := by
  cases unsaved with
  | folders _ => exact furnish_grows t s.target
  | refused _ _ => exact furnish_grows t s.target
  | torn _ _ _ => exact (furnish_grows t s.target).trans (put_grows _ _ _)

-- No other file is touched.
theorem Unsaved.content? (unsaved : t.Unsaved s cause torn t') {place : Location}
    (whole : torn ≠ some place) : t'.content? place = t.content? place := by
  cases unsaved with
  | folders _ => exact content?_furnish t s.target place
  | refused _ _ => exact content?_furnish t s.target place
  | torn _ opens _ =>
    have fits := opens.fits
    rw [placeOf_furnish] at fits
    have other : ¬ place = s.place t := fun same => whole (congrArg some same.symm)
    rw [content?_put fits, if_neg other, content?_furnish]

theorem Unsaved.isFolder (unsaved : t.Unsaved s cause torn t') {place : Location}
    (folder : t'.isFolder place = true) : t.isFolder place = true ∨ s.Needs t place := by
  cases unsaved with
  | folders _ => exact isFolder_furnish folder
  | refused _ _ => exact isFolder_furnish folder
  | torn _ _ _ =>
    rw [isFolder_put] at folder
    exact isFolder_furnish folder

-- What a broken-off write leaves is the front part that the system has taken.
theorem Unsaved.front (unsaved : t.Unsaved s cause torn t') {place : Location}
    (broken : torn = some place) : place = s.place t ∧ ∃ front,
      t.Keeps place (.text s.text) cause front ∧ t'.lookUp s.target = .ok (.file place front) := by
  cases unsaved with
  | folders _ => cases broken
  | refused _ _ => cases broken
  | @torn front _ opens keeps =>
    cases broken
    have leads := opens.leads front
    rw [placeOf_furnish] at leads
    exact ⟨rfl, front, keeps, leads⟩

-- The same, as it is seen from the tree before the sheets that have been saved.
theorem SavedAll.unsaved_front {start : FileTree} {sheets replaced : List Sheet}
    (saved : start.SavedAll sheets replaced t) (unsaved : t.Unsaved s cause torn t')
    {place : Location} (broken : torn = some place) : place = s.place start ∧ ∃ front,
      start.Keeps place (.text s.text) cause front ∧ t'.content? place = some front := by
  obtain ⟨here, front, keeps, looked⟩ := unsaved.front broken
  rw [s.place_eq saved.grows.workdir] at here
  rw [keeps_eq saved.grows.limits] at keeps
  exact ⟨here, front, keeps, (lookUp_file looked).2.1⟩

theorem SavedAll.unsaved_isFolder {start : FileTree} {sheets replaced : List Sheet}
    (saved : start.SavedAll sheets replaced t) (unsaved : t.Unsaved s cause torn t')
    {place : Location} (folder : t'.isFolder place = true) :
    start.isFolder place = true ∨ (∃ s' ∈ sheets, s'.Needs start place) ∨
      s.Needs start place := by
  rcases unsaved.isFolder folder with early | needs
  · exact (saved.isFolder early).imp_right .inl
  · rw [s.needs_eq saved.grows.workdir] at needs
    exact .inr (.inr needs)

end Failing

section Counting

variable {t t' : FileTree} {s : Sheet} {sheets replaced : List Sheet}

-- The places where the sheets make files that were not there.
def fresh (t : FileTree) (sheets : List Sheet) : Finset Location :=
  (sheets.map (·.place t)).toFinset.filter fun place => (t.content? place).isSome = false

theorem fresh_saved (saved : t.Saved s t') (rest : List Sheet) :
    fresh t' rest = (fresh t rest).erase (s.place t) := by
  ext place
  simp only [fresh, Finset.mem_filter, Finset.mem_erase, saved.content?,
    Sheet.place_eq saved.grows.workdir]
  by_cases same : place = s.place t
  · simp [same]
  · simp [same]

-- Each save either replaces a file or makes one of those that were not there.
theorem SavedAll.count_fresh (down : ∀ s ∈ sheets, ".." ∉ names s.target)
    (saved : SavedAll t sheets replaced t') :
    replaced.length + (fresh t sheets).card = sheets.length := by
  induction saved with
  | nil => rfl
  | @cons t middle t' s rest replaced one later ih =>
    have counted := ih fun s' member => down s' (List.mem_cons_of_mem _ member)
    rw [fresh_saved one] at counted
    have whole := SavedAll.cons one later
    obtain ⟨content, looked⟩ := whole.lookUp_member List.mem_cons_self
    have held := holds_iff whole.grows (down s List.mem_cons_self) looked
    cases there : (t.content? (s.place t)).isSome with
    | true =>
      have seen : t.holds s.target = true := held.mpr there
      have present : ¬ (t.content? (s.place t)).isSome = false := by rw [there]; decide
      have missing : s.place t ∉ fresh t rest := fun member =>
        present (Finset.mem_filter.mp member).2
      have same : fresh t (s :: rest) = fresh t rest := by
        unfold fresh
        rw [List.map_cons, List.toFinset_cons, Finset.filter_insert, if_neg present]
      rw [Finset.erase_eq_of_notMem missing] at counted
      rw [if_pos seen, same, List.length_cons, List.length_cons]
      omega
    | false =>
      have made : ¬ t.holds s.target = true := fun seen => by
        rw [held.mp seen] at there
        cases there
      have same : fresh t (s :: rest) = insert (s.place t) ((fresh t rest).erase (s.place t)) := by
        unfold fresh
        rw [List.map_cons, List.toFinset_cons, Finset.filter_insert, if_pos there]
        ext place
        rw [Finset.mem_insert, Finset.mem_insert, Finset.mem_erase]
        tauto
      rw [if_neg made, same, Finset.card_insert_of_notMem (Finset.notMem_erase _ _),
        List.length_cons]
      omega

-- The places of the targets that are not there.
def newPlaces (t : FileTree) (sheets : List Sheet) : Finset Location :=
  ((sheets.filter fun s => !t.holds s.target).map (·.place t)).toFinset

theorem SavedAll.count (down : ∀ s ∈ sheets, ".." ∉ names s.target)
    (saved : SavedAll t sheets replaced t') :
    replaced.length + (newPlaces t sheets).card = sheets.length := by
  have same : newPlaces t sheets = fresh t sheets := by
    ext place
    simp only [newPlaces, fresh, List.mem_toFinset, List.mem_map, List.mem_filter,
      Finset.mem_filter]
    constructor
    · rintro ⟨s, ⟨member, unheld⟩, rfl⟩
      obtain ⟨content, looked⟩ := saved.lookUp_member member
      have held := holds_iff saved.grows (down s member) looked
      refine ⟨⟨s, member, rfl⟩, ?_⟩
      cases there : (t.content? (s.place t)).isSome with
      | true => simp [held.mpr there] at unheld
      | false => rfl
    · rintro ⟨⟨s, member, rfl⟩, missing⟩
      obtain ⟨content, looked⟩ := saved.lookUp_member member
      have held := holds_iff saved.grows (down s member) looked
      refine ⟨s, ⟨member, ?_⟩, rfl⟩
      cases there : t.holds s.target with
      | true => simp [held.mp there] at missing
      | false => rfl
  rw [same]
  exact saved.count_fresh down

end Counting

end FileTree

end RowPress
