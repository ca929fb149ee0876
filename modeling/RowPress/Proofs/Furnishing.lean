import Mathlib
import RowPress.Proofs.Path
import RowPress.Proofs.Saving
/-!
When saving must succeed. Where nothing is in the way, the folders for a file can be made, and
sheets whose targets are files in some later tree can be saved in any order.
-/
namespace RowPress

namespace FileTree

-- A path that only goes down, and that no system refuses as such.
structure Downward (path : String) : Prop where
  noNull : path.toList.contains '\x00' = false
  short : path.utf8ByteSize ≤ maxPath
  down : ".." ∉ names path
  sized : ∀ name ∈ names path, name.utf8ByteSize ≤ maxName

-- Nothing keeps the path from being a folder: all on the way to it are folders, or nothing yet.
structure Clear (t : FileTree) (path : String) : Prop extends Downward path where
  unoccupied : ∀ front, front <+: names path →
    t.isFolder (t.base path ++ front) = true ∨ t.content? (t.base path ++ front) = none

section Making

variable {t t' final : FileTree} {path parent : String} {place near inner : Location}
  {ns : List String} {content : Content}

theorem base_parent (above : Path.parent? path = some parent) : t.base parent = t.base path := by
  rw [base, base, Path.isAbsolute_parent above]

theorem names_parent_front (above : Path.parent? path = some parent) :
    names parent <+: names path := by
  rw [Path.names_parent above]
  exact List.dropLast_prefix _

theorem Downward.up (downward : Downward path) (above : Path.parent? path = some parent) :
    Downward parent := by
  have front := names_parent_front above
  obtain ⟨rest, _, split⟩ := Path.parent_front above
  refine ⟨?_, ?_, ?_, ?_⟩
  · have noNull := downward.noNull
    rw [split, List.contains_append, Bool.or_eq_false_iff] at noNull
    exact noNull.1
  · have size : path = parent ++ String.ofList rest := by
      rw [← String.toList_inj, String.toList_append, String.toList_ofList, split]
    have short := downward.short
    rw [size, String.utf8ByteSize_append] at short
    omega
  · exact fun member => downward.down (front.subset member)
  · exact fun name member => downward.sized name (front.subset member)

theorem Clear.up (clear : t.Clear path) (above : Path.parent? path = some parent) :
    t.Clear parent := by
  refine ⟨clear.toDownward.up above, fun front before => ?_⟩
  rw [base_parent above]
  exact clear.unoccupied front (before.trans (names_parent_front above))

theorem Clear.grows (clear : t.Clear path) (grows : t.Grows t')
    (same : ∀ place, t'.content? place = t.content? place) : t'.Clear path := by
  refine ⟨clear.toDownward, fun front before => ?_⟩
  rw [base_eq grows.workdir]
  exact (clear.unoccupied front before).imp (grows.folder _) fun none => same _ ▸ none

-- What names lead to where only folders are on the way.
theorem walk_clear (folder : t.isFolder place = true) (down : ".." ∉ ns)
    (sized : ∀ name ∈ ns, name.utf8ByteSize ≤ maxName)
    (unoccupied : ∀ front, front <+: ns →
      t.isFolder (place ++ front) = true ∨ t.content? (place ++ front) = none) :
    t.walk place ns =
      if t.isFolder (place ++ ns) = true then .ok (.folder (place ++ ns))
      else if t.isFolder (place ++ ns).dropLast = true then .ok (.free (place ++ ns))
      else .error .notFound := by
  induction ns generalizing place with
  | nil => simp [walk, folder]
  | cons name rest ih =>
    have first : name ≠ ".." := fun up => down (up ▸ List.mem_cons_self)
    have short := sized name List.mem_cons_self
    have onward : place ++ name :: rest = place ++ [name] ++ rest := by simp
    rw [walk_name first, if_neg (Nat.not_lt.mpr short)]
    by_cases inside : t.isFolder (place ++ [name]) = true
    · rw [if_pos inside, onward]
      refine ih inside (fun later => down (List.mem_cons_of_mem _ later))
        (fun later member => sized later (List.mem_cons_of_mem _ member)) ?_
      intro front before
      have further := unoccupied (name :: front) (List.prefix_cons_inj name |>.mpr before)
      rwa [List.append_assoc, List.singleton_append]
    · have empty : t.content? (place ++ [name]) = none :=
        (unoccupied [name] (List.prefix_append [name] rest)).resolve_left inside
      rw [if_neg inside, empty]
      cases rest with
      | nil => rw [if_neg inside, List.dropLast_concat, if_pos folder]
      | cons next rest =>
        have beyond : ¬ t.isFolder (place ++ name :: next :: rest) = true := fun far => by
          rw [onward] at far
          exact inside (isFolder_front far)
        have beyond' : ¬ t.isFolder (place ++ name :: next :: rest).dropLast = true := fun far => by
          rw [List.dropLast_append_of_ne_nil (by simp), List.dropLast_cons_of_ne_nil (by simp),
            ← List.singleton_append, ← List.append_assoc] at far
          exact inside (isFolder_front far)
        rw [if_neg beyond, if_neg beyond']

theorem placeOf_down (down : ".." ∉ names path) : t.placeOf path = t.base path ++ names path :=
  foldl_follow down _

theorem Clear.walk (clear : t.Clear path) :
    t.walk (t.base path) (names path) =
      if t.isFolder (t.placeOf path) = true then .ok (.folder (t.placeOf path))
      else if t.isFolder (t.placeOf path).dropLast = true then .ok (.free (t.placeOf path))
      else .error .notFound := by
  rw [placeOf_down clear.down]
  exact walk_clear (isFolder_base t path) clear.down clear.sized clear.unoccupied

theorem lookUp_clear (clear : t.Clear path) (filled : ¬ path.isEmpty = true) :
    t.lookUp path =
      if t.isFolder (t.placeOf path) = true then .ok (.folder (t.placeOf path))
      else if t.isFolder (t.placeOf path).dropLast = true then .ok (.free (t.placeOf path))
      else .error .notFound := by
  rw [lookUp_eq, clear.noNull, if_neg Bool.false_ne_true, if_neg filled,
    if_neg (Nat.not_lt.mpr clear.short), clear.walk]
  split
  · rfl
  · split <;> rfl

-- A folder above which there is one already, or that is there itself.
theorem makeFolder_clear (clear : t.Clear path) (filled : ¬ path.isEmpty = true) :
    (t.isFolder (t.placeOf path) = true ∧ t.makeFolder path = .error .occupied ∧
        t.isDirectory path = true) ∨
      (∃ t', t.makeFolder path = .ok t' ∧ t'.isFolder (t.placeOf path) = true) ∨
      (¬ t.isFolder (t.placeOf path).dropLast = true ∧ t.makeFolder path = .error .notFound) := by
  have looked := lookUp_clear clear filled
  by_cases folder : t.isFolder (t.placeOf path) = true
  · rw [if_pos folder] at looked
    refine .inl ⟨folder, ?_, ?_⟩
    · unfold makeFolder
      rw [looked]
      rfl
    · unfold isDirectory
      rw [looked]
  · rw [if_neg folder] at looked
    by_cases above : t.isFolder (t.placeOf path).dropLast = true
    · rw [if_pos above] at looked
      obtain ⟨_, none, fits⟩ := lookUp_free looked
      refine .inr (.inl ⟨t.addFolder (t.placeOf path), ?_, ?_⟩)
      · unfold makeFolder
        rw [looked]
        rfl
      · rw [isFolder_iff, addFolder_eq fits none]
        exact .inr (List.mem_append_right _ (List.mem_singleton.mpr rfl))
    · rw [if_neg above] at looked
      refine .inr (.inr ⟨above, ?_⟩)
      unfold makeFolder
      rw [looked]
      rfl

theorem parent?_of_names (some : names path ≠ []) : ∃ parent, Path.parent? path = .some parent := by
  unfold Path.parent?
  dsimp only
  by_cases none : Path.dropTail path.toList.reverse = []
  · have counts := Path.steps_dropTail path.toList.reverse
    rw [none, List.reverse_reverse] at counts
    exact absurd (by rw [Path.names_eq, ← counts]; rfl) some
  · rw [if_neg none]
    exact ⟨_, rfl⟩

theorem parent_shorter (above : Path.parent? path = some parent) : parent.length < path.length := by
  obtain ⟨rest, more, split⟩ := Path.parent_front above
  have size := congrArg List.length split
  have positive := List.length_pos_of_ne_nil more
  rw [List.length_append, String.length_toList, String.length_toList] at size
  omega

-- Where the parent of a path that goes down lies.
theorem placeOf_parent (above : Path.parent? path = some parent) (down : ".." ∉ names path)
    (filled : names path ≠ []) :
    t.placeOf parent = (t.placeOf path).dropLast := by
  have below : ".." ∉ names parent := fun member => down ((names_parent_front above).subset member)
  rw [placeOf_down below, placeOf_down down, base_parent above, Path.names_parent above,
    List.dropLast_append_of_ne_nil filled]

theorem makeFoldersFrom_clear {fuel : Nat} (clear : t.Clear path) (enough : path.length < fuel) :
    (makeFoldersFrom fuel t path).2 = none ∧
      (makeFoldersFrom fuel t path).1.isFolder (t.placeOf path) = true := by
  induction fuel generalizing t path with
  | zero => omega
  | succ fuel ih =>
    unfold makeFoldersFrom
    by_cases empty : path.isEmpty = true
    · rw [if_pos empty]
      obtain rfl : path = "" := by simpa using empty
      exact ⟨rfl, isFolder_base t ""⟩
    · rw [if_neg empty]
      rcases makeFolder_clear clear empty with
        ⟨folder, made, there⟩ | ⟨t', made, folder⟩ | ⟨missing, made⟩
      · rw [made]
        exact ⟨by simp [there], folder⟩
      · rw [made]
        exact ⟨rfl, folder⟩
      · rw [made]
        have some : names path ≠ [] := by
          intro none
          rw [placeOf, none, List.foldl_nil] at missing
          exact missing (isFolder_outer (isFolder_base t path))
        obtain ⟨parent, above⟩ := parent?_of_names some
        have shorter := parent_shorter above
        obtain ⟨fine, folder⟩ := ih (clear.up above) (by omega)
        have furnished := makeFoldersFrom_furnished fuel t parent
        rw [placeOf_parent above clear.down some] at folder
        simp only [above]
        cases ran : makeFoldersFrom fuel t parent with
        | mk middle fault =>
          rw [ran] at fine folder furnished
          obtain rfl : fault = none := fine
          have clear' := clear.grows furnished.grows furnished.content?
          have here : middle.placeOf path = t.placeOf path := placeOf_eq furnished.workdir path
          rcases makeFolder_clear clear' empty with
            ⟨folder, made, there⟩ | ⟨t', made, folder⟩ | ⟨missing, _⟩
          · simp only [made]
            exact ⟨by simp [there], here ▸ folder⟩
          · simp only [made]
            exact ⟨trivial, here ▸ folder⟩
          · rw [here] at missing
            exact absurd folder missing

end Making

section Saving

variable {t t' final : FileTree} {s : Sheet} {place inner : Location} {ns : List String}
  {content : Content} {sheets replaced replaced' : List Sheet}

-- What has to be there for a path without `..` to lead to a file.
theorem walk_file_way (folder : t.isFolder place = true) (down : ".." ∉ ns)
    (walked : t.walk place ns = .ok (.file inner content)) :
    ns ≠ [] ∧ (∀ name ∈ ns, name.utf8ByteSize ≤ maxName) ∧
      ∀ front, front <+: ns.dropLast → t.isFolder (place ++ front) = true := by
  induction ns generalizing place with
  | nil => rw [walk] at walked; cases walked
  | cons name rest ih =>
    have first : name ≠ ".." := fun up => down (up ▸ List.mem_cons_self)
    refine ⟨List.cons_ne_nil _ _, ?_⟩
    obtain ⟨short, ⟨inside, walked⟩ | ⟨_, rfl, _⟩⟩ := walk_cases first walked
    · obtain ⟨more, sized, folders⟩ := ih inside (fun later => down (List.mem_cons_of_mem _ later))
        walked
      refine ⟨List.forall_mem_cons.mpr ⟨short, sized⟩, ?_⟩
      intro front before
      rw [List.dropLast_cons_of_ne_nil more] at before
      cases front with
      | nil => rwa [List.append_nil]
      | cons name' front =>
        obtain ⟨same, further⟩ := List.cons_prefix_cons.mp before
        rw [same, ← List.singleton_append, ← List.append_assoc]
        exact folders front further
    · refine ⟨by simpa using short, ?_⟩
      intro front before
      rw [List.prefix_nil.mp before, List.append_nil]
      exact folder

theorem names_above {far path : String} (leads : Path.AtOrAbove far path) :
    names far <+: names path ∧ ∀ t : FileTree, t.base far = t.base path := by
  induction leads with
  | self path => exact ⟨List.prefix_rfl, fun t => rfl⟩
  | up above _ ih => exact ⟨ih.1.trans (names_parent_front above),
      fun t => (ih.2 t).trans (base_parent above)⟩

-- A tree that has all the folders that are made is still a later one.
theorem Furnished.early {path : String} (furnished : t.Furnished path t') (grows : t.Grows final)
    (downward : Downward path)
    (folders : ∀ front, front <+: names path → final.isFolder (t.base path ++ front) = true) :
    t'.Grows final := by
  refine ⟨?_, ?_, grows.workdir.trans furnished.workdir.symm,
    grows.limits.trans furnished.limits.symm⟩
  · intro place folder
    rcases furnished.isFolder folder with early | ⟨far, leads, rfl⟩
    · exact grows.folder place early
    · obtain ⟨front, same⟩ := names_above leads
      rw [placeOf_down fun up => downward.down (front.subset up), same]
      exact folders _ front
  · intro place held
    rw [furnished.content?] at held
    exact grows.file place held

-- Where the folder for it is, a file can be written, unless a folder is in its place.
theorem write_below {path last : String} {near : Location} {ns : List String}
    (sayable : Sayable path) (plain : ¬ meansFolder path = true) (down : last ≠ "..")
    (short : last.utf8ByteSize ≤ maxName) (split : names path = ns ++ [last])
    (reached : t.walk (t.base path) ns = .ok (.folder near))
    (apart : ¬ t.isFolder (near ++ [last]) = true) (content : Content) :
    t.write path content = t.fill (near ++ [last]) content := by
  have walked : t.walk (t.base path) (names path) = t.walk near [last] := by
    rw [split, walk_append reached]
  rw [walk_name down, if_neg (Nat.not_lt.mpr short), if_neg apart] at walked
  unfold write
  cases there : t.content? (near ++ [last]) with
  | some held =>
    rw [there] at walked
    rw [lookUp_ok_iff.mpr ⟨sayable, walked, by simp [settle, plain]⟩]
  | none =>
    rw [there] at walked
    rw [lookUp_ok_iff.mpr ⟨sayable, walked, rfl⟩]
    exact if_neg plain

theorem put_early (grows : t.Grows final) (held : (final.content? place).isSome = true)
    (content : Content) : (t.put place content).Grows final := by
  by_cases fits : t.Fits place
  · refine ⟨?_, ?_, by rw [workdir_put, grows.workdir], by rw [limits_put, grows.limits]⟩
    · intro other inside
      rw [isFolder_put] at inside
      exact grows.folder other inside
    · intro other there
      rw [content?_put fits] at there
      split at there
      · rename_i same
        rwa [same]
      · exact grows.file other there
  · rwa [put_unfit fits]

-- The folders that a file of a later tree lies in can be made in an earlier one.
theorem furnish_early {target : String} (grows : t.Grows final)
    (downward : Downward target) (named : names target ≠ [])
    (folders : ∀ front, front <+: (names target).dropLast →
      final.isFolder (t.base target ++ front) = true) :
    (t.furnish target).2 = none ∧ (t.furnish target).1.Grows final ∧
      (t.furnish target).1.walk (t.base target) (names target).dropLast =
        .ok (.folder (t.base target ++ (names target).dropLast)) := by
  obtain ⟨parent, above⟩ := parent?_of_names named
  have made : t.furnish target = t.makeFolders parent := by
    unfold furnish
    rw [above]
  rw [← Path.names_parent above, ← base_parent above] at folders ⊢
  have below : ".." ∉ names parent := (downward.up above).down
  -- Nothing is in the way of the folders, for the later tree has them.
  have clear : t.Clear parent := by
    refine ⟨downward.up above, ?_⟩
    intro front before
    cases there : t.content? (t.base parent ++ front) with
    | none => exact .inr rfl
    | some content =>
      have late := fits_of_content? (grows.file _ (by rw [there]; rfl))
      exact absurd (folders front before) (by simp [late.2.2])
  have furnished := makeFolders_furnished t parent
  obtain ⟨fine, folder⟩ := makeFoldersFrom_clear clear (Nat.lt_succ_self _)
  have folder : (t.makeFolders parent).1.isFolder (t.placeOf parent) = true := folder
  have reached := (clear.grows furnished.grows furnished.content?).walk
  rw [placeOf_eq furnished.workdir, base_eq furnished.workdir, if_pos folder,
    placeOf_down below] at reached
  rw [made]
  exact ⟨fine, furnished.early grows (downward.up above) folders, reached⟩

-- A file of a later tree can be saved in an earlier one, which then is an earlier one still, if the
-- system takes all of it.
theorem save_early (grows : t.Grows final) (down : ".." ∉ names s.target)
    (takes : t.Takes (s.place t) (.text s.text))
    (looked : final.lookUp s.target = .ok (.file (s.place t) content)) :
    (t.furnish s.target).2 = none ∧ ∃ t', t.Saved s t' ∧ t'.Grows final := by
  obtain ⟨sayable, walked, settled⟩ := lookUp_ok_iff.mp looked
  have plain : ¬ meansFolder s.target = true := by
    intro plain
    simp [settle, plain] at settled
  obtain ⟨_, held, apart⟩ := lookUp_file looked
  rw [base_eq grows.workdir] at walked
  have base : final.isFolder (t.base s.target) = true := grows.folder _ (isFolder_base t s.target)
  obtain ⟨named, sized, folders⟩ := walk_file_way base down walked
  have downward : Downward s.target := ⟨sayable.noNull, sayable.short, down, sized⟩
  obtain ⟨fine, early, reached⟩ := furnish_early grows downward named folders
  have whole := List.dropLast_append_getLast named
  have at' : s.place t = t.base s.target ++ (names s.target).dropLast ++
      [(names s.target).getLast named] := by
    rw [List.append_assoc, whole]
    exact placeOf_down down
  have last := List.getLast_mem named
  refine ⟨fine, (t.furnish s.target).1.put (s.place t) (.text s.text), ?_,
    put_early early (by rw [held]; rfl) _⟩
  have apart' : ¬ (t.furnish s.target).1.isFolder (s.place t) = true := fun inside => by
    rw [early.folder _ inside] at apart
    cases apart
  have takes' : (t.furnish s.target).1.Takes (s.place t) (.text s.text) := by
    rwa [takes_eq (furnish_grows t s.target).limits]
  rw [at'] at apart' takes' ⊢
  rw [Saved, write_below sayable plain (fun up => down (up ▸ last)) (sized _ last) whole.symm
    (by rwa [base_eq (workdir_furnish t s.target)]) apart', fill_takes takes']

-- The folders for a sheet that is saved are all made.
theorem Saved.furnished (saved : t.Saved s t') (down : ".." ∉ names s.target) :
    (t.furnish s.target).2 = none :=
  (save_early saved.grows down saved.put.2.1 saved.lookUp).1

theorem SavedAll.takes (saved : t.SavedAll sheets replaced t') (member : s ∈ sheets) :
    t.Takes (s.place t) (.text s.text) := by
  induction saved with
  | nil => cases member
  | cons one _ ih =>
    rcases List.mem_cons.mp member with rfl | later
    · exact one.put.2.1
    · rw [← takes_eq one.grows.limits, ← s.place_eq one.grows.workdir]
      exact ih later

-- Sheets whose targets are files of a later tree can be saved in any order.
theorem saveAll_early (grows : t.Grows final) (down : ∀ s ∈ sheets, ".." ∉ names s.target)
    (takes : ∀ s ∈ sheets, t.Takes (s.place t) (.text s.text))
    (looked : ∀ s ∈ sheets, ∃ content, final.lookUp s.target = .ok (.file (s.place t) content)) :
    ∃ replaced t', t.SavedAll sheets replaced t' ∧ t'.Grows final := by
  induction sheets generalizing t with
  | nil => exact ⟨[], t, .nil t, grows⟩
  | cons s rest ih =>
    obtain ⟨down, downs⟩ := List.forall_mem_cons.mp down
    obtain ⟨taken, takes⟩ := List.forall_mem_cons.mp takes
    obtain ⟨⟨content, looked⟩, lookeds⟩ := List.forall_mem_cons.mp looked
    obtain ⟨_, middle, saved, grows⟩ := save_early grows down taken looked
    have here := fun s' : Sheet => s'.place_eq saved.grows.workdir
    obtain ⟨replaced, t', later, grows⟩ := ih grows downs
      (fun s' member => by
        rw [takes_eq saved.grows.limits, here]
        exact takes s' member)
      fun s' member => by
        rw [here]
        exact lookeds s' member
    exact ⟨_, t', .cons saved later, grows⟩

theorem SavedAll.unique {t'' : FileTree} (one : t.SavedAll sheets replaced t')
    (two : t.SavedAll sheets replaced' t'') : replaced' = replaced ∧ t'' = t' := by
  induction one generalizing replaced' t'' with
  | nil =>
    cases two
    exact ⟨rfl, rfl⟩
  | cons saved _ ih =>
    cases two with
    | cons saved' later =>
      obtain rfl := congrArg Prod.fst (saved.symm.trans saved')
      obtain ⟨rfl, rfl⟩ := ih later
      exact ⟨rfl, rfl⟩

-- The text that is saved last at a place.
def lastText (t : FileTree) (sheets : List Sheet) (place : Location) : Option Content :=
  (sheets.reverse.find? fun s => s.place t == place).map fun s => .text s.text

theorem SavedAll.content? (saved : t.SavedAll sheets replaced t') (place : Location) :
    t'.content? place = (t.lastText sheets place).or (t.content? place) := by
  induction saved with
  | nil => rfl
  | @cons t _ _ s rest _ one _ ih =>
    have here := fun s' : Sheet => s'.place_eq one.grows.workdir
    rw [ih, one.content?, lastText, lastText, List.reverse_cons, List.find?_append]
    simp only [here]
    cases rest.reverse.find? fun s' => s'.place t == place with
    | some s' => rfl
    | none =>
      by_cases same : place = s.place t
      · subst same
        simp
      · have apart : (s.place t == place) = false := beq_false_of_ne fun equal => same equal.symm
        simp [same, apart]

-- Where all targets are files already, everything is saved over something.
theorem SavedAll.replaced_all (down : ∀ s ∈ sheets, ".." ∉ names s.target)
    (saved : t.SavedAll sheets replaced t')
    (there : ∀ s ∈ sheets, (t.content? (s.place t)).isSome = true) : replaced = sheets := by
  induction saved with
  | nil => rfl
  | @cons t _ _ s rest _ one later ih =>
    have whole := SavedAll.cons one later
    obtain ⟨down', downs⟩ := List.forall_mem_cons.mp down
    obtain ⟨there', theres⟩ := List.forall_mem_cons.mp there
    obtain ⟨content, looked⟩ := whole.lookUp_member List.mem_cons_self
    have after := ih downs fun s' member => by
      rw [s'.place_eq one.grows.workdir]
      exact one.grows.file _ (theres s' member)
    rw [if_pos ((holds_iff whole.grows down' looked).mpr there'), after]

-- Trees with the same files and folders, in which paths lead to the same places.
structure Same (t t' : FileTree) : Prop where
  content : ∀ place, t.content? place = t'.content? place
  folder : ∀ place, t.isFolder place = t'.isFolder place
  workdir : t.workdir = t'.workdir
  limits : t.limits = t'.limits

theorem Same.ofGrows (content : ∀ place, t.content? place = t'.content? place)
    (grows : t.Grows t') (grows' : t'.Grows t) : t.Same t' :=
  ⟨content, fun place => Bool.eq_iff_iff.mpr ⟨grows.folder place, grows'.folder place⟩,
    grows'.workdir, grows'.limits⟩

-- Saving the same sheets once more changes nothing, and replaces every file.
theorem SavedAll.again (down : ∀ s ∈ sheets, ".." ∉ names s.target)
    (saved : t.SavedAll sheets replaced t') :
    ∃ t'', t'.SavedAll sheets sheets t'' ∧ t''.Same t' := by
  have here := fun s : Sheet => s.place_eq saved.grows.workdir
  obtain ⟨replaced', t'', saved', grows⟩ := saveAll_early (.refl t') down
    (fun s member => by
      rw [takes_eq saved.grows.limits, here]
      exact saved.takes member)
    fun s member => by
      rw [here]
      exact saved.lookUp_member member
  have all := saved'.replaced_all down fun s member => by
    obtain ⟨content, looked⟩ := saved.lookUp_member member
    rw [here, (lookUp_file looked).2.1]
    rfl
  subst all
  refine ⟨t'', saved', .ofGrows ?_ grows saved'.grows⟩
  intro place
  have last : t'.lastText replaced' place = t.lastText replaced' place := by
    simp only [lastText, here]
  rw [saved'.content? place, saved.content? place, last]
  cases t.lastText replaced' place <;> rfl

end Saving

end FileTree

end RowPress
