import RowPress.Text.Utf8
import RowPress.Path
/-!
A tree of files and folders from the root of the file system down, with the folder at which relative
paths begin. Paths are looked up in it name by name, and every way in which the system refuses one
has its cause. A tree is built so that all in it lies in a folder, and one thing at a place.
-/
namespace RowPress

-- Content that is no text is kept as bytes.
inductive Content where
  | text (s : String)
  | bytes (b : List UInt8)
deriving DecidableEq

def Content.ofBytes (b : List UInt8) : Content :=
  match Text.decode? b with
  | some s => .text s
  | none => .bytes b

def Content.toBytes : Content → List UInt8
  | .text s => s.toList.flatMap String.utf8EncodeChar
  | .bytes b => b

inductive OsError where
  | notFound | occupied | notDirectory | isDirectory | noSpace | nameTooLong | nullByte | notUtf8
  | stated (text : String)

def OsError.message : OsError → String
  | .notFound => "No such file or directory (os error 2)"
  | .occupied => "File exists (os error 17)"
  | .notDirectory => "Not a directory (os error 20)"
  | .isDirectory => "Is a directory (os error 21)"
  | .noSpace => "No space left on device (os error 28)"
  | .nameTooLong => "File name too long (os error 36)"
  | .nullByte => "file name contained an unexpected NUL byte"
  | .notUtf8 => "stream did not contain valid UTF-8"
  | .stated text => text

-- The names that lead from the root of the file system to a place.
abbrev Location := List String

namespace FileTree

-- The root lies in no folder and is always there, so that it is not among the folders.
def Housed (folders : List Location) (place : Location) : Prop :=
  place ≠ [] ∧ (place.dropLast = [] ∨ place.dropLast ∈ folders)

-- All lies in a folder, and one thing at a place.
structure Sound (files : List (Location × Content)) (folders : List Location)
    (workdir : Location) : Prop where
  filesOnce : (files.map (·.1)).Nodup
  foldersOnce : folders.Nodup
  apart : ∀ f ∈ files, f.1 ∉ folders
  housed : ∀ place ∈ files.map (·.1) ++ folders, Housed folders place
  working : workdir = [] ∨ workdir ∈ folders

-- How many bytes can be written at a place before the system gives up, and why it does.
structure Limit where
  place : Location
  bytes : Nat
  cause : OsError

end FileTree

structure FileTree where
  files : List (Location × Content)
  folders : List Location
  workdir : Location
  limits : List FileTree.Limit
  sound : FileTree.Sound files folders workdir

namespace FileTree

-- The folders on the way to a place, and the place itself.
def way (place : Location) : List Location :=
  (List.range place.length).map fun n => place.take (n + 1)

theorem sound_way (workdir : Location) : Sound [] (way workdir) workdir := by
  refine ⟨List.nodup_nil, ?_, fun f member => absurd member List.not_mem_nil, ?_, ?_⟩
  · refine List.pairwise_map.mpr (List.nodup_range.imp_of_mem ?_)
    intro n m below below' apart same
    have size := congrArg List.length same
    rw [List.mem_range] at below below'
    rw [List.length_take, List.length_take] at size
    omega
  · intro place member
    rw [List.map_nil, List.nil_append] at member
    obtain ⟨n, below, rfl⟩ := List.mem_map.mp member
    rw [List.mem_range] at below
    refine ⟨List.ne_nil_of_length_pos (by rw [List.length_take]; omega), ?_⟩
    cases n with
    | zero =>
      refine .inl (List.eq_nil_of_length_eq_zero ?_)
      rw [List.length_dropLast, List.length_take]
      omega
    | succ n =>
      refine .inr (List.mem_map.mpr ⟨n, List.mem_range.mpr (by omega), ?_⟩)
      rw [List.dropLast_eq_take, List.length_take, List.take_take]
      congr 1
      omega
  · rcases Nat.eq_zero_or_pos workdir.length with none | some
    · exact .inl (List.eq_nil_of_length_eq_zero none)
    · refine .inr (List.mem_map.mpr ⟨workdir.length - 1, List.mem_range.mpr (by omega), ?_⟩)
      exact List.take_of_length_le (by omega)

-- Nothing but a working directory.
def bare (workdir : Location) : FileTree := ⟨[], way workdir, workdir, [], sound_way workdir⟩

def empty : FileTree := bare ["work"]

-- The folder above the root is the root.
def outer (place : Location) : Location := place.dropLast

def content? (t : FileTree) (place : Location) : Option Content :=
  (t.files.find? (·.1 == place)).map (·.2)

def isFolder (t : FileTree) (place : Location) : Bool :=
  place.isEmpty || t.folders.contains place

def limit? (t : FileTree) (place : Location) : Option Limit :=
  t.limits.find? (·.place == place)

-- A file can be put there.
def Fits (t : FileTree) (place : Location) : Prop :=
  place ≠ [] ∧ t.isFolder place.dropLast = true ∧ t.isFolder place = false

instance (t : FileTree) (place : Location) : Decidable (t.Fits place) :=
  inferInstanceAs (Decidable (place ≠ [] ∧ _ ∧ _))

inductive Found where
  | file (place : Location) (content : Content)
  | folder (place : Location)
  -- Nothing is there, but the folder that would hold it exists.
  | free (place : Location)

-- Whether a path can only mean a folder.
def meansFolder (path : String) : Bool :=
  match (Path.pieces path.toList).getLast? with
  | some [] | some ['.'] => true
  | _ => false

def names (path : String) : List String :=
  ((Path.pieces path.toList).filter fun p => p ≠ [] ∧ p ≠ ['.']).map String.ofList

-- The path that leads to a place from the root.
def absolute (place : Location) : String := "/" ++ "/".intercalate place

-- Where a path begins: at the root if it is absolute, else in the working directory.
def base (t : FileTree) (path : String) : Location :=
  if Path.isAbsolute path.toList then [] else t.workdir

def maxName : Nat := 255

def maxPath : Nat := 4095

-- Follows names from a folder.
def walk (t : FileTree) (place : Location) : List String → Except OsError Found
  | [] => .ok (.folder place)
  | ".." :: rest => walk t (outer place) rest
  | name :: rest =>
    let inner := place ++ [name]
    if maxName < name.utf8ByteSize then .error .nameTooLong
    else if t.isFolder inner then walk t inner rest
    else match t.content? inner, rest with
      | some content, [] => .ok (.file inner content)
      | some _, _ :: _ => .error .notDirectory
      | none, [] => .ok (.free inner)
      | none, _ :: _ => .error .notFound

def lookUp (t : FileTree) (path : String) : Except OsError Found := do
  if path.toList.contains '\x00' then throw .nullByte
  if path.isEmpty then throw .notFound
  if maxPath < path.utf8ByteSize then throw .nameTooLong
  match ← t.walk (t.base path) (names path) with
  | .file place content =>
    if meansFolder path then throw .notDirectory else return .file place content
  | found => return found

def isFile (t : FileTree) (path : String) : Bool :=
  match t.lookUp path with
  | .ok (.file _ _) => true
  | _ => false

def isDirectory (t : FileTree) (path : String) : Bool :=
  match t.lookUp path with
  | .ok (.folder _) => true
  | _ => false

def holds (t : FileTree) (path : String) : Bool := t.isFile path || t.isDirectory path

def read (t : FileTree) (path : String) : Except OsError Content := do
  match ← t.lookUp path with
  | .file _ content => return content
  | .folder _ => throw .isDirectory
  | .free _ => throw .notFound

def readText (t : FileTree) (path : String) : Except OsError String := do
  match ← t.read path with
  | .text s => return s
  | .bytes _ => throw .notUtf8

section Changes

variable {files : List (Location × Content)} {folders : List Location} {workdir place : Location}

theorem mem_folders {t : FileTree} (folder : t.isFolder place = true) :
    place = [] ∨ place ∈ t.folders := by
  simpa [isFolder] using folder

theorem mem_filter_keys (test : Location → Bool)
    (member : place ∈ (files.filter fun f => test f.1).map (·.1)) :
    place ∈ files.map (·.1) ∧ test place = true := by
  obtain ⟨f, kept, rfl⟩ := List.mem_map.mp member
  obtain ⟨listed, passed⟩ := List.mem_filter.mp kept
  exact ⟨List.mem_map.mpr ⟨f, listed, rfl⟩, passed⟩

-- Some of the files.
theorem Sound.filtered (sound : Sound files folders workdir) (test : Location → Bool) :
    Sound (files.filter fun f => test f.1) folders workdir := by
  refine ⟨sound.filesOnce.sublist (List.filter_sublist.map _), sound.foldersOnce,
    fun f member => sound.apart f (List.mem_filter.mp member).1, ?_, sound.working⟩
  intro place member
  refine sound.housed place (List.mem_append.mpr ?_)
  exact (List.mem_append.mp member).imp_left fun early => (mem_filter_keys test early).1

theorem Sound.withFile (sound : Sound files folders workdir)
    (new : place ∉ files.map (·.1)) (apart : place ∉ folders) (housed : Housed folders place)
    (content : Content) : Sound (files ++ [(place, content)]) folders workdir := by
  refine ⟨?_, sound.foldersOnce, ?_, ?_, sound.working⟩
  · rw [List.map_append, List.nodup_append]
    refine ⟨sound.filesOnce, by simp, ?_⟩
    intro other early other' late same
    have at' : other' = place := by simpa using late
    exact new (by rwa [same, at'] at early)
  · intro f member
    rcases List.mem_append.mp member with early | late
    · exact sound.apart f early
    · rwa [List.mem_singleton.mp late]
  · intro other member
    rw [List.map_append, List.append_assoc, List.mem_append] at member
    rcases member with early | late
    · exact sound.housed other (List.mem_append_left _ early)
    · rcases List.mem_append.mp late with here | late
      · rwa [List.mem_singleton.mp here]
      · exact sound.housed other (List.mem_append_right _ late)

theorem Sound.withFolder (sound : Sound files folders workdir)
    (new : place ∉ folders) (apart : place ∉ files.map (·.1)) (housed : Housed folders place) :
    Sound files (folders ++ [place]) workdir := by
  have kept : ∀ other, Housed folders other → Housed (folders ++ [place]) other :=
    fun other inside => ⟨inside.1, inside.2.imp_right (List.mem_append_left _)⟩
  refine ⟨sound.filesOnce, ?_, ?_, ?_, sound.working.imp_right (List.mem_append_left _)⟩
  · rw [List.nodup_append]
    refine ⟨sound.foldersOnce, by simp, ?_⟩
    intro other early other' late same
    have at' : other' = place := List.mem_singleton.mp late
    exact new (by rwa [same, at'] at early)
  · intro f member folder
    rcases List.mem_append.mp folder with early | late
    · exact sound.apart f member early
    · exact apart (List.mem_map.mpr ⟨f, member, List.mem_singleton.mp late⟩)
  · intro other member
    rw [← List.append_assoc, List.mem_append] at member
    rcases member with early | late
    · exact kept other (sound.housed other early)
    · exact kept other (List.mem_singleton.mp late ▸ housed)

-- A folder goes with all that is in it.
theorem Sound.without (sound : Sound files folders workdir)
    (outside : ¬ place.isPrefixOf workdir = true) :
    Sound (files.filter fun f => !place.isPrefixOf f.1) (folders.filter (!place.isPrefixOf ·))
      workdir := by
  have fewer := sound.filtered (!place.isPrefixOf ·)
  refine ⟨fewer.filesOnce, sound.foldersOnce.sublist List.filter_sublist, ?_, ?_, ?_⟩
  · exact fun f member folder => fewer.apart f member (List.mem_filter.mp folder).1
  · intro other member
    have kept : other ∈ files.map (·.1) ++ folders ∧ (!place.isPrefixOf other) = true := by
      rcases List.mem_append.mp member with early | late
      · obtain ⟨listed, kept⟩ := mem_filter_keys (!place.isPrefixOf ·) early
        exact ⟨List.mem_append_left _ listed, kept⟩
      · exact ⟨List.mem_append_right _ (List.mem_filter.mp late).1, (List.mem_filter.mp late).2⟩
    obtain ⟨filled, inside⟩ := sound.housed other kept.1
    refine ⟨filled, inside.imp_right fun folder => List.mem_filter.mpr ⟨folder, ?_⟩⟩
    have apart : ¬ place <+: other := by simpa [← List.isPrefixOf_iff_prefix] using kept.2
    have above : ¬ place <+: other.dropLast := fun within =>
      apart (within.trans (List.dropLast_prefix other))
    simpa [← List.isPrefixOf_iff_prefix] using above
  · refine sound.working.imp_right fun folder => List.mem_filter.mpr ⟨folder, ?_⟩
    simpa [← List.isPrefixOf_iff_prefix] using outside

end Changes

-- A file, in place of the one that is there, if it can be put there at all.
def put (t : FileTree) (place : Location) (content : Content) : FileTree :=
  if fits : t.Fits place then
    { t with
      files := (t.files.filter fun f => f.1 != place) ++ [(place, content)]
      sound := by
        obtain ⟨filled, inside, apart⟩ := fits
        refine (t.sound.filtered (· != place)).withFile ?_ ?_
          ⟨filled, mem_folders inside⟩ content
        · intro there
          simpa using (mem_filter_keys (· != place) there).2
        · intro folder
          simp [isFolder, folder] at apart }
  else t

def addFolder (t : FileTree) (place : Location) : FileTree :=
  if free : t.Fits place ∧ t.content? place = none then
    { t with
      folders := t.folders ++ [place]
      sound := by
        obtain ⟨⟨filled, inside, apart⟩, none⟩ := free
        refine t.sound.withFolder ?_ ?_ ⟨filled, mem_folders inside⟩
        · intro folder
          simp [isFolder, folder] at apart
        · intro there
          obtain ⟨f, listed, same⟩ := List.mem_map.mp there
          have missing := List.find?_eq_none.mp (Option.map_eq_none_iff.mp none) f listed
          simp [same] at missing }
  else t

-- The file is made or emptied before its content is written, and keeps what has been written when
-- the system gives up.
def fill (t : FileTree) (place : Location) (content : Content) : FileTree × Option OsError :=
  match t.limit? place with
  | some limit =>
    if limit.bytes < content.toBytes.length then
      (t.put place (.ofBytes (content.toBytes.take limit.bytes)), some limit.cause)
    else (t.put place content, none)
  | none => (t.put place content, none)

def write (t : FileTree) (path : String) (content : Content) : FileTree × Option OsError :=
  match t.lookUp path with
  | .error e => (t, some e)
  | .ok (.folder _) => (t, some .isDirectory)
  | .ok (.file place _) => t.fill place content
  | .ok (.free place) =>
    if meansFolder path then (t, some .isDirectory) else t.fill place content

def makeFolder (t : FileTree) (path : String) : Except OsError FileTree := do
  match ← t.lookUp path with
  | .free place => return t.addFolder place
  | _ => throw .occupied

-- Makes a folder and the folders above it that are missing. What was made stays made if a later
-- one cannot be. The fuel is the length of the path.
def makeFoldersFrom : Nat → FileTree → String → FileTree × Option OsError
  | 0, t, _ => (t, some .notFound)
  | fuel + 1, t, path =>
    if path.isEmpty then (t, none)
    else match t.makeFolder path with
      | .ok t => (t, none)
      | .error .notFound =>
        match Path.parent? path with
        | none => (t, some .notFound)
        | some parent =>
          match makeFoldersFrom fuel t parent with
          | (t, some e) => (t, some e)
          | (t, none) =>
            match t.makeFolder path with
            | .ok t => (t, none)
            | .error e => (t, if t.isDirectory path then none else some e)
      | .error e => (t, if t.isDirectory path then none else some e)

def makeFolders (t : FileTree) (path : String) : FileTree × Option OsError :=
  makeFoldersFrom (path.length + 1) t path

-- Takes a file, or a folder with all that is in it, out of the tree. The working directory stays.
def remove (t : FileTree) (path : String) : FileTree :=
  match t.lookUp path with
  | .ok (.file place _) =>
    { t with
      files := t.files.filter fun f => f.1 != place
      sound := t.sound.filtered (· != place) }
  | .ok (.folder place) =>
    if outside : ¬ place.isPrefixOf t.workdir = true then
      { t with
        files := t.files.filter fun f => !place.isPrefixOf f.1
        folders := t.folders.filter (!place.isPrefixOf ·)
        sound := t.sound.without outside }
    else t
  | _ => t

-- A file with the folders it needs; a path that ends in a slash makes a folder.
def install (t : FileTree) (path : String) (content : Content) : Except OsError FileTree :=
  if meansFolder path then .ok (t.makeFolders path).1
  else
    let t := match Path.parent? path with
      | some parent => (t.makeFolders parent).1
      | none => t
    match t.write path content with
    | (t, none) => .ok t
    | (_, some e) => .error e

def isInside (t : FileTree) (place : Location) : Bool :=
  t.workdir.isPrefixOf place && place != t.workdir

-- Every file below the working directory, and every folder with nothing in it, in the order of
-- their paths from there.
def listing (t : FileTree) : List (String × Content) :=
  let isBare (folder : Location) : Bool :=
    !t.files.any (fun f => folder.isPrefixOf f.1)
      && !t.folders.any fun g => folder.isPrefixOf g && folder != g
  let shown (place : Location) : String := "/".intercalate (place.drop t.workdir.length)
  let files := (t.files.filter fun f => t.isInside f.1).map fun f => (shown f.1, f.2)
  let bare := (t.folders.filter fun g => t.isInside g && isBare g).map fun g =>
    (shown g ++ "/", Content.text "")
  (files ++ bare).mergeSort fun a b => !(b.1 < a.1)

end FileTree

end RowPress
