import RowPress.Proofs.Recompiling
/-!
The documents beside templates. The document of a template stands in the folder of the template,
under its name with the extension of the configuration. Nothing keeps such a file from being a
template itself, but only a template that has this extension can be one.
-/
namespace RowPress

namespace Path

variable {front front' name name' stem : List Char} {template extension : String}

theorem Named.down_text {path : List Char} (named : Named path front name) :
    String.ofList name ≠ ".." := fun same =>
  named.down (by simpa using congrArg String.toList same)

theorem Named.sidecarPath_eq (named : Named template.toList front name) (stemmed : Stem name stem)
    (extension : String) :
    (sidecarPath template extension).toList =
      front ++ if stem = ['.'] then ['.', '.'] else stem ++ withDot extension.toList :=
  named.withExtension_eq stemmed

-- What the document beside a file is called, if it can be a file.
theorem Named.sidecar (named : Named template.toList front name) (stemmed : Stem name stem)
    (proper : '/' ∉ extension.toList)
    (found : Named (sidecarPath template extension).toList front' name') :
    front' = front ∧ stem ≠ ['.'] ∧ name' = stem ++ withDot extension.toList := by
  have made := named.sidecarPath_eq stemmed extension
  by_cases dot : stem = ['.']
  · rw [if_pos dot] at made
    have last := last_unique found.ahead found.plain named.ahead (by decide)
      (found.split.symm.trans made)
    exact absurd last.2 found.down
  · rw [if_neg dot] at made
    have plain : '/' ∉ stem ++ withDot extension.toList := fun member =>
      (List.mem_append.mp member).elim (fun early => named.plain (stemmed.subset early))
        (withDot_plain proper)
    have last := last_unique found.ahead found.plain named.ahead plain
      (found.split.symm.trans made)
    exact ⟨last.1, dot, last.2⟩

end Path

namespace FileTree

open RowPress.Path

-- The place in the same folder that has the extension instead of the one the name has, if what is
-- left of the name without it is more than a dot.
inductive Beside (extension : List Char) : Location → Location → Prop where
  | named {folder : Location} {name stem : List Char} : Stem name stem → stem ≠ ['.'] →
      Beside extension (folder ++ [String.ofList name])
        (folder ++ [String.ofList (stem ++ withDot extension)])

-- The two paths lead to one file.
def SameFile (t : FileTree) (path other : String) : Prop :=
  ∃ place content, t.lookUp path = .ok (.file place content) ∧
    t.lookUp other = .ok (.file place content)

section Beside

variable {t : FileTree} {path other template extension : String} {front name stem : List Char}
  {near place place' : Location} {content content' : Content}

theorem beside_iff {extension : List Char} (stemmed : Stem name stem) :
    Beside extension (near ++ [String.ofList name]) place' ↔
      stem ≠ ['.'] ∧ place' = near ++ [String.ofList (stem ++ withDot extension)] := by
  constructor
  · intro beside
    generalize same : near ++ [String.ofList name] = place at beside
    obtain ⟨stemmed', apart⟩ := beside
    obtain ⟨rfl, last⟩ := List.append_inj' same rfl
    obtain rfl := String.ofList_injective (List.singleton_inj.mp last)
    obtain rfl := stemmed.unique stemmed'
    exact ⟨apart, rfl⟩
  · rintro ⟨apart, rfl⟩
    exact .named stemmed apart

theorem sameFile_iff (there : t.lookUp other = .ok (.file place' content')) :
    t.SameFile path other ↔ t.lookUp path = .ok (.file place' content') := by
  constructor
  · rintro ⟨_, _, found, itself⟩
    rwa [there.symm.trans itself]
  · exact fun found => ⟨place', content', found, there⟩

-- Whatever the tree is, the place of a file ends in the name that its path ends in.
theorem file_last (named : Named path.toList front name)
    (looked : t.lookUp path = .ok (.file place content)) :
    place.getLast? = some (String.ofList name) := by
  have at' : place = t.placeOf path := lookUp_place looked
  rw [at', placeOf, named.names_eq, List.foldl_append, List.foldl_cons, List.foldl_nil, follow,
    if_neg named.down_text, List.getLast?_concat]

-- A file is reached through its folder.
theorem file_reached (looked : t.lookUp path = .ok (.file place content)) :
    ∃ front name near, Named path.toList front name ∧
      t.walk (t.base path) ((steps front).map String.ofList) = .ok (.folder near) := by
  obtain ⟨front, name, named⟩ := file_named looked
  obtain ⟨before, last, near, found, _, reached⟩ :=
    walk_file_last (lookUp_ok_iff.mp looked).2.1
  rw [named.names_eq] at found
  obtain ⟨rfl, _⟩ := List.append_inj' found rfl
  exact ⟨front, name, near, named, reached⟩

theorem lookUp_named (named : Named path.toList front name)
    (reached : t.walk (t.base path) ((steps front).map String.ofList) = .ok (.folder near)) :
    t.lookUp path = .ok (.file place content) ↔
      Sayable path ∧ (String.ofList name).utf8ByteSize ≤ maxName ∧
        place = near ++ [String.ofList name] ∧ t.content? place = some content ∧
          t.isFolder place = false := by
  have down := named.down_text
  have plain : meansFolder path = false := by
    have ends := pieces_getLast named.ahead named.plain
    rw [← named.split] at ends
    simp [meansFolder, ends, named.filled, named.noDot]
  rw [lookUp_ok_iff, named.names_eq, walk_append reached]
  constructor
  · rintro ⟨sayable, walked, _⟩
    obtain ⟨short, ⟨_, inside⟩ | ⟨folder, _, ⟨held, there, found⟩ | ⟨_, found⟩⟩⟩ :=
      walk_cases down walked
    · rw [walk] at inside
      cases inside
    · cases found
      exact ⟨sayable, short, rfl, there, folder⟩
    · cases found
  · rintro ⟨sayable, short, rfl, there, folder⟩
    refine ⟨sayable, ?_, by simp [settle, plain]⟩
    rw [walk_name down, if_neg (Nat.not_lt.mpr short), folder, there]
    rfl

-- What the system asks of a path it asks of no other name in the same folder, but for its length.
theorem Sayable.renamed {name' : List Char} (sayable : Sayable path)
    (named : Named path.toList front name) (named' : Named other.toList front name')
    (noNull : '\x00' ∉ name') (short : other.utf8ByteSize ≤ maxPath) : Sayable other := by
  refine ⟨?_, fun empty => ?_, short⟩
  · have clear := sayable.noNull
    rw [named.split] at clear
    rw [named'.split]
    simp only [List.contains_eq_mem, List.mem_append, decide_eq_false_iff_not, not_or] at clear ⊢
    exact ⟨clear.1, noNull⟩
  · have none := named'.split
    rw [String.isEmpty_iff.mp empty] at none
    exact named'.filled (List.append_eq_nil_iff.mp none.symm).2

-- Whether the document beside one file is another.
theorem sameFile_sidecar_iff (looked : t.lookUp template = .ok (.file place content))
    (there : t.lookUp other = .ok (.file place' content')) (proper : '/' ∉ extension.toList) :
    t.SameFile (sidecarPath template extension) other ↔
      Beside extension.toList place place' ∧
        (sidecarPath template extension).utf8ByteSize ≤ maxPath := by
  obtain ⟨front, name, near, named, reached⟩ := file_reached looked
  obtain ⟨stem, stemmed⟩ := exists_stem name
  obtain ⟨sayable, _, rfl, _⟩ := (lookUp_named named reached).mp looked
  rw [← base_sidecar looked proper] at reached
  rw [sameFile_iff there, beside_iff stemmed]
  constructor
  · intro found
    obtain ⟨front', name', named'⟩ := file_named found
    obtain ⟨rfl, apart, rfl⟩ := named.sidecar stemmed proper named'
    obtain ⟨sayable', _, at', _⟩ := (lookUp_named named' reached).mp found
    exact ⟨⟨apart, at'⟩, sayable'.short⟩
  · rintro ⟨⟨apart, at'⟩, short⟩
    obtain ⟨front', name', near', named', reached'⟩ := file_reached there
    obtain ⟨sayable', size, _, held, folder⟩ := (lookUp_named named' reached').mp there
    have last := file_last named' there
    rw [at', List.getLast?_concat] at last
    obtain rfl := String.ofList_injective (Option.some.inj last)
    have made := named.sidecarPath_eq stemmed extension
    rw [if_neg apart] at made
    have renamed : Named (sidecarPath template extension).toList front
        (stem ++ withDot extension.toList) :=
      ⟨made, named.ahead, named'.plain, named'.filled, named'.noDot, named'.down⟩
    have noNull : '\x00' ∉ stem ++ withDot extension.toList := by
      have clear := sayable'.noNull
      rw [named'.split] at clear
      simp only [List.contains_eq_mem, List.mem_append, decide_eq_false_iff_not, not_or] at clear ⊢
      exact clear.2
    exact (lookUp_named renamed reached).mpr
      ⟨sayable.renamed named renamed noNull short, size, at', held, folder⟩

-- Only a file that has the extension can be the document beside another, whatever the tree is.
theorem extension_sidecar (named : Named template.toList front name)
    (proper : '/' ∉ extension.toList ∧ '.' ∉ extension.toList)
    (same : t.SameFile (sidecarPath template extension) other) :
    extension = "" ∨ extension? other = some extension := by
  obtain ⟨place, content, found, looked⟩ := same
  obtain ⟨stem, stemmed⟩ := exists_stem name
  obtain ⟨front', name', named'⟩ := file_named found
  obtain ⟨-, -, rfl⟩ := named.sidecar stemmed proper.1 named'
  obtain ⟨front'', name'', named''⟩ := file_named looked
  have last := (file_last named'' looked).symm.trans (file_last named' found)
  obtain rfl := String.ofList_injective (Option.some.inj last)
  by_cases none : extension = ""
  · exact .inl none
  · right
    have some : extension.toList ≠ [] := by simpa using none
    rw [named''.extension?_eq, withDot, if_neg some,
      splitDot_dotted (stemmed.filled named.filled) proper.2]
    simp

end Beside

end FileTree

namespace Press

open FileTree

variable {p : Press} {d d' : Desk} {units : List RenderUnit}

theorem compile_ok (compiled : p.compile.outcome d = (.ok units, d')) :
    units = p.config.templates.map p.unit ∧ d'.tree = d.tree ∧
      ∀ name ∈ p.config.templates, ∃ place content,
        d.tree.lookUp name = .ok (.file place content) := by
  obtain ⟨done, journal, ended, made⟩ := p.compile_ends d
  rw [compiled] at ended made
  have found : p.missing d.tree = [] := by
    by_contra some
    obtain ⟨_, failed⟩ := outcome_compile_notFound p some
    rw [compiled] at failed
    cases failed
  rw [missing, List.filter_eq_nil_iff] at found
  have tree : d'.tree = d.tree := (congrArg Desk.tree ended :)
  refine ⟨?_, tree, ?_⟩
  · rcases made with ⟨_, ended⟩ | ⟨_, _, ended⟩
    · exact Except.ok.inj ended
    · cases ended
  · intro name listed
    exact isFile_iff.mp (by simpa using found name listed)

-- The document beside a template is a configured template exactly if that one stands in the same
-- folder under the same name, but with the extension of the configuration. So no template is read
-- as a document, now or in any later tree, unless it has this extension.
theorem compile_sidecars {path : String} {c : Config}
    (compiled : (CommandLine.pressFor path c).compile.outcome d = (.ok units, d')) :
    (∀ u ∈ units, ∀ other ∈ c.templates, ∃ place place' content content',
      d.tree.lookUp u.name = .ok (.file place content) ∧
      d.tree.lookUp other = .ok (.file place' content') ∧
      (d.tree.SameFile u.sidecar other ↔
        Beside (Config.sidecarExtension path).toList place place' ∧
          u.sidecar.utf8ByteSize ≤ maxPath)) ∧
    ∀ u ∈ units, ∀ other ∈ c.templates, ∀ t : FileTree,
      u.sidecar = other ∨ t.SameFile u.sidecar other →
        Config.sidecarExtension path = "" ∨
          Path.extension? other = some (Config.sidecarExtension path) := by
  have proper : '/' ∉ (Config.sidecarExtension path).toList ∧
      '.' ∉ (Config.sidecarExtension path).toList := extension_pressFor path c
  obtain ⟨rfl, _, there⟩ := compile_ok compiled
  constructor
  · intro u listed other listed'
    obtain ⟨name, named, rfl⟩ := List.mem_map.mp listed
    obtain ⟨place, content, looked⟩ := there name named
    obtain ⟨place', content', looked'⟩ := there other listed'
    exact ⟨place, place', content, content', looked, looked',
      sameFile_sidecar_iff looked looked' proper.1⟩
  · intro u listed other listed' t meets
    obtain ⟨name, named, rfl⟩ := List.mem_map.mp listed
    obtain ⟨place, content, looked⟩ := there name named
    obtain ⟨place', content', looked'⟩ := there other listed'
    obtain ⟨front, last, parts⟩ := file_named looked
    rcases meets with same | same
    · exact extension_sidecar parts proper
        ⟨place', content', (congrArg d.tree.lookUp same).trans looked', looked'⟩
    · exact extension_sidecar parts proper same

-- One template is the document of the other, and of itself.
theorem compile_sidecars_shared :
    let c : Config := ⟨"t", ["a.txt", "a.yaml"], "", "o", "k", .empty⟩
    let d : Desk := ⟨(FileTree.empty.put ["work", "a.txt"] (.text "1")).put ["work", "a.yaml"]
      (.text "k: v"), .empty, []⟩
    ∃ units d', (CommandLine.pressFor "c.yaml" c).compile.outcome d = (.ok units, d') ∧
      ⟨"a.txt", "a.yaml"⟩ ∈ units ∧ d.tree.SameFile "a.yaml" "a.yaml" ∧
      ∀ t : FileTree, ¬ t.SameFile "a.yaml" "a.txt" := by
  intro c d
  have called : sidecarPath "a.txt" (Config.sidecarExtension "c.yaml") = "a.yaml" := by
    decide +kernel
  have listed : (⟨"a.txt", "a.yaml"⟩ : RenderUnit) ∈
      c.templates.map (CommandLine.pressFor "c.yaml" c).unit :=
    List.mem_map.mpr ⟨"a.txt", List.mem_cons_self, congrArg (RenderUnit.mk "a.txt") called⟩
  obtain ⟨d', ran⟩ : ∃ d', (CommandLine.pressFor "c.yaml" c).compile.outcome d =
      (.ok (c.templates.map (CommandLine.pressFor "c.yaml" c).unit), d') := ⟨_, rfl⟩
  obtain ⟨meets, only⟩ := compile_sidecars ran
  refine ⟨_, d', ran, listed, ?_, ?_⟩
  · obtain ⟨place, place', _, _, looked, looked', same⟩ :=
      meets _ listed "a.yaml" (List.mem_cons_of_mem _ List.mem_cons_self)
    obtain rfl : place = ["work", "a.txt"] := lookUp_place looked
    obtain rfl : place' = ["work", "a.yaml"] := lookUp_place looked'
    have stemmed : Path.Stem ['a', '.', 't', 'x', 't'] ['a'] :=
      .dotted (List.cons_ne_nil 'a' []) (by decide)
    have beside : Beside ['y', 'a', 'm', 'l']
        (["work"] ++ [String.ofList ['a', '.', 't', 'x', 't']]) ["work", "a.yaml"] :=
      (beside_iff stemmed).mpr ⟨by decide, by decide⟩
    have extension : (Config.sidecarExtension "c.yaml").toList = ['y', 'a', 'm', 'l'] := by
      decide +kernel
    rw [same, extension]
    exact ⟨beside, by decide +kernel⟩
  · intro t same
    rcases only _ listed "a.txt" List.mem_cons_self t (.inr same) with none | found
    · exact absurd none (by decide)
    · exact absurd found (by decide)

-- The source of this template is read as the document beside it.
theorem template_beside_itself :
    let c : Config := ⟨"t", ["a.yaml"], "", "o", "k", .empty⟩
    let d : Desk := ⟨FileTree.empty.put ["work", "a.yaml"] (.text "k: v"), .empty, []⟩
    ∃ units d', (CommandLine.pressFor "c.yaml" c).compile.outcome d = (.ok units, d') ∧
      ∃ u ∈ units, u.sidecar ∈ c.templates ∧
        ((loadSidecar u.sidecar).outcome d').1.toOption.map Entries.keys = some ["k"] := by
  intro c d
  let p := CommandLine.pressFor "c.yaml" c
  have own : (p.unit "a.yaml").sidecar ∈ c.templates := by decide +kernel
  have decoded : ((loadSidecar (p.unit "a.yaml").sidecar).outcome
      (p.compile.outcome d).2).1.toOption.map Entries.keys = some ["k"] := by decide +kernel
  exact ⟨[p.unit "a.yaml"], (p.compile.outcome d).2, rfl, _, List.mem_cons_self, own, decoded⟩

end Press

end RowPress
