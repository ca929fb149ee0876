import RowPress.Proofs.Document
/-!
A reference means a copy. If every reference of a document is replaced by the events of the node it
stands for, less their anchors, the document has the same value.
-/
namespace RowPress

namespace Yaml

namespace Event

-- The anchor that an event puts on its node; zero is none.
def anchor : Event → Nat
  | .scalar _ _ anchor _ => anchor
  | .sequenceStart anchor _ => anchor
  | .mappingStart anchor _ => anchor
  | _ => 0

def bare : Event → Event
  | .scalar text style _ tag => .scalar text style 0 tag
  | .sequenceStart _ tag => .sequenceStart 0 tag
  | .mappingStart _ tag => .mappingStart 0 tag
  | e => e

end Event

-- The events at the front, up to the end of the node they begin, inside of some open collections.
def leading : Nat → List Event → List Event
  | _, [] => []
  | opened, .sequenceStart anchor tag :: rest =>
    .sequenceStart anchor tag :: leading (opened + 1) rest
  | opened, .mappingStart anchor tag :: rest =>
    .mappingStart anchor tag :: leading (opened + 1) rest
  | opened, .sequenceEnd :: rest =>
    .sequenceEnd :: if opened ≤ 1 then [] else leading (opened - 1) rest
  | opened, .mappingEnd :: rest =>
    .mappingEnd :: if opened ≤ 1 then [] else leading (opened - 1) rest
  | opened, e :: rest => e :: if opened = 0 then [] else leading opened rest

-- The events of the node that has the anchor.
def nodeNamed (anchor : Nat) (events : List Event) : List Event :=
  leading 0 (events.dropWhile (·.anchor != anchor))

-- A reference becomes a copy of its node, which is expanded already; other events are kept.
def expandNext (done : List Event) : Event → List Event
  | .reference anchor => done ++ (nodeNamed anchor done).map Event.bare
  | e => done ++ [e]

def expand (events : List Event) : List Event := events.foldl expandNext []

def Unused (anchor : Nat) (opened complete : List Nat) : Prop :=
  0 < anchor → anchor ∉ opened ∧ anchor ∉ complete

-- No anchor is used twice, and what a reference stands for is complete before it. The lists hold
-- the anchors of the collections that are open and those of the nodes that are complete.
def Anchored (opened complete : List Nat) : List Event → Prop
  | [] => True
  | .reference anchor :: rest =>
    0 < anchor ∧ anchor ∈ complete ∧ Anchored opened complete rest
  | .scalar _ _ anchor _ :: rest =>
    Unused anchor opened complete ∧ Anchored opened (anchor :: complete) rest
  | .sequenceStart anchor _ :: rest =>
    Unused anchor opened complete ∧ Anchored (anchor :: opened) complete rest
  | .mappingStart anchor _ :: rest =>
    Unused anchor opened complete ∧ Anchored (anchor :: opened) complete rest
  | .sequenceEnd :: rest =>
    Anchored opened.tail (opened.head?.toList ++ complete) rest
  | .mappingEnd :: rest =>
    Anchored opened.tail (opened.head?.toList ++ complete) rest
  | _ :: rest => Anchored opened complete rest

-- The events of a document are well nested if they are those of a node.
def WellNested (events : List Event) : Prop := ∃ n : Node, events = n.document

def Closed (events : List Event) : Prop := ∀ anchor, Event.reference anchor ∉ events

def Node.anchor : Node → Nat
  | .scalar _ _ anchor _ => anchor
  | .sequence anchor _ _ => anchor
  | .mapping anchor _ _ => anchor
  | .reference _ => 0

mutual

def Node.bare : Node → Node
  | .scalar text style _ tag => .scalar text style 0 tag
  | .sequence _ tag items => .sequence 0 tag (bareItems items)
  | .mapping _ tag entries => .mapping 0 tag (bareEntries entries)
  | .reference anchor => .reference anchor

def bareItems : List Node → List Node
  | [] => []
  | item :: rest => item.bare :: bareItems rest

def bareEntries : List (Node × Node) → List (Node × Node)
  | [] => []
  | (key, value) :: rest => (key.bare, value.bare) :: bareEntries rest

end

mutual

theorem events_bare (n : Node) : n.bare.events = n.events.map Event.bare := by
  cases n with
  | scalar text style anchor tag => rfl
  | sequence anchor tag items =>
    simp [Node.bare, Node.events, Event.bare, itemEvents_bare items]
  | mapping anchor tag entries =>
    simp [Node.bare, Node.events, Event.bare, entryEvents_bare entries]
  | reference anchor => rfl

theorem itemEvents_bare (items : List Node) :
    itemEvents (bareItems items) = (itemEvents items).map Event.bare := by
  cases items with
  | nil => rfl
  | cons item rest =>
    rw [bareItems, itemEvents, itemEvents, List.map_append, events_bare item, itemEvents_bare rest]

theorem entryEvents_bare (entries : List (Node × Node)) :
    entryEvents (bareEntries entries) = (entryEvents entries).map Event.bare := by
  cases entries with
  | nil => rfl
  | cons entry rest =>
    obtain ⟨key, value⟩ := entry
    rw [bareEntries, entryEvents, entryEvents, List.map_append, List.map_append, events_bare key,
      events_bare value, entryEvents_bare rest]

end

mutual

-- Inside of a collection, the events of a node are passed over.
theorem leading_inside (n : Node) (opened : Nat) (rest : List Event) :
    leading (opened + 1) (n.events ++ rest) = n.events ++ leading (opened + 1) rest := by
  cases n with
  | scalar text style anchor tag => simp [Node.events, leading]
  | sequence anchor tag items =>
    simp [Node.events, leading, leading_items items]
  | mapping anchor tag entries =>
    simp [Node.events, leading, leading_entries entries]
  | reference anchor => simp [Node.events, leading]

theorem leading_items (items : List Node) (opened : Nat) (rest : List Event) :
    leading (opened + 1) (itemEvents items ++ rest) =
      itemEvents items ++ leading (opened + 1) rest := by
  cases items with
  | nil => rfl
  | cons item items =>
    rw [itemEvents, List.append_assoc, leading_inside item, leading_items items, List.append_assoc]

theorem leading_entries (entries : List (Node × Node)) (opened : Nat) (rest : List Event) :
    leading (opened + 1) (entryEvents entries ++ rest) =
      entryEvents entries ++ leading (opened + 1) rest := by
  cases entries with
  | nil => rfl
  | cons entry entries =>
    obtain ⟨key, value⟩ := entry
    simp only [entryEvents, List.append_assoc]
    rw [leading_inside key, leading_inside value, leading_entries entries]

end

theorem leading_node (n : Node) (rest : List Event) : leading 0 (n.events ++ rest) = n.events := by
  cases n with
  | scalar text style anchor tag => simp [Node.events, leading]
  | sequence anchor tag items => simp [Node.events, leading, leading_items items]
  | mapping anchor tag entries => simp [Node.events, leading, leading_entries entries]
  | reference anchor => simp [Node.events, leading]

-- An anchored node is found by its anchor.
theorem nodeNamed_eq {anchor : Nat} {before : List Event} {n : Node} (after : List Event)
    (positive : 0 < anchor) (named : n.anchor = anchor) (other : ∀ e ∈ before, e.anchor ≠ anchor) :
    nodeNamed anchor (before ++ (n.events ++ after)) = n.events := by
  have passed : before.dropWhile (·.anchor != anchor) = [] := by
    rw [List.dropWhile_eq_nil_iff]
    intro e member
    simpa using other e member
  have stops : (n.events ++ after).dropWhile (·.anchor != anchor) = n.events ++ after := by
    cases n with
    | reference a =>
      simp only [Node.anchor] at named
      omega
    | _ => simp [Node.events, Event.anchor, ← named, Node.anchor]
  rw [nodeNamed, List.dropWhile_append, passed]
  simp only [List.isEmpty_nil, if_true, stops]
  exact leading_node n after

mutual

-- A node without references has the same value wherever it stands, with its anchors or without.
theorem read_bare (n : Node) (closed : Closed n.events) (s s' : Reading) :
    (n.bare.read s).1 = (n.read s').1 ∧ (n.bare.read s).2.finished = s.finished := by
  cases n with
  | scalar text style anchor tag => exact ⟨rfl, rfl⟩
  | sequence anchor tag items =>
    have inner : Closed (itemEvents items) := fun a member =>
      closed a (by simp [Node.events, member])
    obtain ⟨values, finished⟩ := readItems_bare items inner s s'
    simp [Node.bare, Node.read, Reading.finish, values, finished]
  | mapping anchor tag entries =>
    have inner : Closed (entryEvents entries) := fun a member =>
      closed a (by simp [Node.events, member])
    obtain ⟨kept, finished⟩ := readEntries_bare entries inner s s' []
    simp [Node.bare, Node.read, Reading.finish, kept, finished]
  | reference anchor => exact absurd (List.mem_singleton.mpr rfl) (closed anchor)

theorem readItems_bare (items : List Node) (closed : Closed (itemEvents items)) (s s' : Reading) :
    (readItems s (bareItems items)).1 = (readItems s' items).1 ∧
      (readItems s (bareItems items)).2.finished = s.finished := by
  cases items with
  | nil => exact ⟨rfl, rfl⟩
  | cons item rest =>
    have first : Closed item.events := fun a member => closed a (by simp [itemEvents, member])
    have later : Closed (itemEvents rest) := fun a member => closed a (by simp [itemEvents, member])
    obtain ⟨value, finished⟩ := read_bare item first s s'
    obtain ⟨values, finished'⟩ := readItems_bare rest later (item.bare.read s).2 (item.read s').2
    exact ⟨by simp [bareItems, readItems, value, values], by
      simp [bareItems, readItems, finished, finished']⟩

theorem readEntries_bare (entries : List (Node × Node)) (closed : Closed (entryEvents entries))
    (s s' : Reading) (seen : List String) :
    (readEntries s seen (bareEntries entries)).1 = (readEntries s' seen entries).1 ∧
      (readEntries s seen (bareEntries entries)).2.finished = s.finished := by
  cases entries with
  | nil => exact ⟨rfl, rfl⟩
  | cons entry rest =>
    obtain ⟨key, value⟩ := entry
    have first : Closed key.events := fun a member => closed a (by simp [entryEvents, member])
    have second : Closed value.events := fun a member => closed a (by simp [entryEvents, member])
    have later : Closed (entryEvents rest) := fun a member =>
      closed a (by simp [entryEvents, member])
    obtain ⟨key', finished⟩ := read_bare key first s s'
    obtain ⟨value', finished'⟩ := read_bare value second (key.bare.read s).2 (key.read s').2
    simp only [bareEntries, readEntries, key', value']
    split
    · obtain ⟨kept, finished''⟩ := readEntries_bare rest later
        ((value.bare.read (key.bare.read s).2).2.remark .keySkipped)
        ((value.read (key.read s').2).2.remark .keySkipped) seen
      exact ⟨kept, by rw [finished'', Reading.remark, finished', finished]⟩
    · rename_i name spelled
      split
      · obtain ⟨kept, finished''⟩ := readEntries_bare rest later
          ((value.bare.read (key.bare.read s).2).2.remark (.keyTwice name))
          ((value.read (key.read s').2).2.remark (.keyTwice name)) seen
        exact ⟨kept, by rw [finished'', Reading.remark, finished', finished]⟩
      · obtain ⟨kept, finished''⟩ := readEntries_bare rest later
          (value.bare.read (key.bare.read s).2).2 (value.read (key.read s').2).2 (name :: seen)
        exact ⟨by simp only [kept], by simp only [finished'', finished', finished]⟩

end

-- What is known halfway: the events so far with copies in the place of references, and the reading
-- of both documents. The copy of a complete node reads as the node was read.
structure Copied (opened complete : List Nat) (done : List Event) (s s' : Reading) : Prop where
  finished : s'.finished = s.finished
  used : ∀ e ∈ done, 0 < e.anchor → e.anchor ∈ opened ∨ e.anchor ∈ complete
  closed : Closed done
  copy : ∀ anchor ∈ complete, 0 < anchor → ∃ (node : Finished) (n : Node) (before after : _),
    s.finished anchor = some node ∧ done = before ++ (n.events ++ after) ∧ n.anchor = anchor ∧
    (∀ e ∈ before, e.anchor ≠ anchor) ∧ ∀ start, (n.bare.read start).1 = node

section Copying

variable {opened complete : List Nat} {done after : List Event} {s s' : Reading}

theorem Copied.unused (copied : Copied opened complete done s s') {anchor : Nat}
    (positive : 0 < anchor) (unused : Unused anchor opened complete) :
    ∀ e ∈ done, e.anchor ≠ anchor := by
  intro e member same
  obtain ⟨shut, missing⟩ := unused positive
  rcases copied.used e member (by omega) with inside | before
  · exact shut (same ▸ inside)
  · exact missing (same ▸ before)

theorem Copied.remark (copied : Copied opened complete done s s') (r r' : Remark) :
    Copied opened complete done (s.remark r) (s'.remark r') :=
  ⟨copied.finished, copied.used, copied.closed, copied.copy⟩

-- An event that begins a node, which is open for now.
theorem Copied.begin (copied : Copied opened complete done s s') {e : Event} {anchor : Nat}
    (named : e.anchor = anchor) (node : ∀ a, e ≠ .reference a) :
    Copied (anchor :: opened) complete (done ++ [e]) s s' := by
  refine ⟨copied.finished, ?_, ?_, ?_⟩
  · intro e' member positive
    rcases List.mem_append.mp member with old | new
    · exact (copied.used e' old positive).imp_left (List.mem_cons_of_mem _)
    · rw [List.mem_singleton.mp new, named]
      exact .inl List.mem_cons_self
  · intro a member
    rcases List.mem_append.mp member with old | new
    · exact copied.closed a old
    · exact node a (List.mem_singleton.mp new).symm
  · intro a member positive
    obtain ⟨node, n, before, after, held, split, rest⟩ := copied.copy a member positive
    exact ⟨node, n, before, after ++ [e], held, by rw [split]; simp, rest⟩

-- Events without anchors that are no references.
theorem Copied.append (copied : Copied opened complete done s s') {more : List Event}
    {s'' : Reading} (finished : s''.finished = s'.finished)
    (plain : ∀ e ∈ more, e.anchor = 0 ∧ ∀ a, e ≠ .reference a) :
    Copied opened complete (done ++ more) s s'' := by
  refine ⟨finished.trans copied.finished, ?_, ?_, ?_⟩
  · intro e member positive
    rcases List.mem_append.mp member with old | new
    · exact copied.used e old positive
    · have none := (plain e new).1
      omega
  · intro a member
    rcases List.mem_append.mp member with old | new
    · exact copied.closed a old
    · exact (plain _ new).2 a rfl
  · intro a member positive
    obtain ⟨node, n, before, after, held, split, rest⟩ := copied.copy a member positive
    exact ⟨node, n, before, after ++ more, held, by rw [split]; simp, rest⟩

-- The end of a node: its events are the last ones, and from now on its anchor stands for it.
theorem Copied.finish {anchor : Nat} {front : List Event} {n : Node} {node : Finished}
    (copied : Copied (anchor :: opened) complete (front ++ n.events) s s')
    (named : n.anchor = anchor) (other : 0 < anchor → ∀ e ∈ front, e.anchor ≠ anchor)
    (reads : ∀ start, (n.bare.read start).1 = node) :
    Copied opened (anchor :: complete) (front ++ n.events) (s.finish anchor node).2
      (s'.finish anchor node).2 := by
  refine ⟨?_, ?_, copied.closed, ?_⟩
  · unfold Reading.finish
    by_cases positive : 0 < anchor
    · simp only [if_pos positive, copied.finished]
    · simp only [if_neg positive, copied.finished]
  · intro e member positive
    rcases copied.used e member positive with inside | before
    · rcases List.mem_cons.mp inside with same | outer
      · exact .inr (same ▸ List.mem_cons_self)
      · exact .inl outer
    · exact .inr (List.mem_cons_of_mem _ before)
  · intro a member positive
    by_cases same : a = anchor
    · subst same
      refine ⟨node, n, front, [], ?_, by rw [List.append_nil], named, other positive, reads⟩
      simp [Reading.finish, positive]
    · have old : a ∈ complete := (List.mem_cons.mp member).resolve_left same
      obtain ⟨node', n', before, after, held, rest⟩ := copied.copy a old positive
      refine ⟨node', n', before, after, ?_, rest⟩
      unfold Reading.finish
      by_cases anchored : 0 < anchor
      · simp only [if_pos anchored, if_neg same, held]
      · simp only [if_neg anchored, held]

-- The same for a collection, whose last event has no anchor.
theorem Copied.close {anchor : Nat} {start stop : Event} {inner : List Event} {n : Node}
    {t : Reading} {node : Finished}
    (inside : Copied (anchor :: opened) complete (done ++ [start] ++ inner) s s')
    (whole : n.events = start :: (inner ++ [stop]))
    (plain : stop.anchor = 0 ∧ ∀ a, stop ≠ .reference a) (named : n.anchor = anchor)
    (other : 0 < anchor → ∀ e ∈ done, e.anchor ≠ anchor) (read : (n.read t).1 = node) :
    Copied opened (anchor :: complete) (done ++ n.events) (s.finish anchor node).2
      (s'.finish anchor node).2 := by
  have ended : Copied (anchor :: opened) complete (done ++ n.events) s s' := by
    have appended := inside.append rfl (List.forall_mem_singleton.mpr plain)
    rw [whole]
    simpa using appended
  have closed : Closed n.events := fun a member => ended.closed a (List.mem_append_right _ member)
  exact ended.finish named other fun start => (read_bare n closed start t).1.trans read

theorem bare_plain {e : Event} (node : ∀ a, e ≠ .reference a) :
    e.bare.anchor = 0 ∧ ∀ a, e.bare ≠ .reference a := by
  cases e with
  | reference a => exact absurd rfl (node a)
  | _ => exact ⟨rfl, fun a same => by cases same⟩

end Copying

mutual

-- By recursion over the node, after any events and within any open collections.
theorem expand_node (n : Node) {opened complete : List Nat} {done after : List Event}
    {s s' : Reading} (anchored : Anchored opened complete (n.events ++ after))
    (copied : Copied opened complete done s s') :
    ∃ (m : Node) (complete' : List Nat), n.events.foldl expandNext done = done ++ m.events ∧
      Anchored opened complete' after ∧ (m.read s').1 = (n.read s).1 ∧
      Copied opened complete' (done ++ m.events) (n.read s).2 (m.read s').2 := by
  cases n with
  | scalar text style anchor tag =>
    obtain ⟨unused, anchored⟩ := anchored
    refine ⟨.scalar text style anchor tag, anchor :: complete, rfl, anchored, rfl, ?_⟩
    have begun := copied.begin (e := .scalar text style anchor tag) rfl (by simp)
    exact begun.finish rfl (fun positive => copied.unused positive unused) fun _ => rfl
  | sequence anchor tag items =>
    simp only [Node.events, List.cons_append, List.append_assoc, Anchored] at anchored
    obtain ⟨unused, anchored⟩ := anchored
    have begun := copied.begin (e := .sequenceStart anchor tag) rfl (by simp)
    obtain ⟨items', complete', ran, anchored, values, inside⟩ := expand_items items anchored begun
    refine ⟨.sequence anchor tag items', anchor :: complete', ?_, anchored, ?_, ?_⟩
    · simp [Node.events, expandNext, ran]
    · simp only [Node.read, Reading.finish, values]
    · have ended := inside.close (n := .sequence anchor tag items') (t := s') rfl ⟨rfl, by simp⟩ rfl
        (fun positive => copied.unused positive unused) rfl
      simpa only [Node.read, Reading.finish, values] using ended
  | mapping anchor tag entries =>
    simp only [Node.events, List.cons_append, List.append_assoc, Anchored] at anchored
    obtain ⟨unused, anchored⟩ := anchored
    have begun := copied.begin (e := .mappingStart anchor tag) rfl (by simp)
    obtain ⟨entries', complete', ran, anchored, kept, inside⟩ :=
      expand_entries entries [] anchored begun
    refine ⟨.mapping anchor tag entries', anchor :: complete', ?_, anchored, ?_, ?_⟩
    · simp [Node.events, expandNext, ran]
    · simp only [Node.read, Reading.finish, kept]
    · have ended := inside.close (n := .mapping anchor tag entries') (t := s') rfl ⟨rfl, by simp⟩
        rfl (fun positive => copied.unused positive unused) rfl
      simpa only [Node.read, Reading.finish, kept] using ended
  | reference anchor =>
    obtain ⟨positive, member, anchored⟩ := anchored
    obtain ⟨node, n, before, after, held, rfl, named, other, reads⟩ :=
      copied.copy anchor member positive
    have closed : Closed n.events := fun a member => copied.closed a (by simp [member])
    have copy := nodeNamed_eq after positive named other
    refine ⟨n.bare, complete, ?_, anchored, ?_, ?_⟩
    · simp only [Node.events, List.foldl_cons, List.foldl_nil, expandNext, copy, events_bare]
    · simp [Node.read, Reading.standsFor, held, reads]
    · refine copied.append (read_bare n closed s' s').2 ?_
      intro e member
      rw [events_bare] at member
      obtain ⟨e', original, rfl⟩ := List.mem_map.mp member
      exact bare_plain fun a same => closed a (same ▸ original)

theorem expand_items (items : List Node) {opened complete : List Nat} {done after : List Event}
    {s s' : Reading} (anchored : Anchored opened complete (itemEvents items ++ after))
    (copied : Copied opened complete done s s') :
    ∃ (items' : List Node) (complete' : List Nat),
      (itemEvents items).foldl expandNext done = done ++ itemEvents items' ∧
      Anchored opened complete' after ∧ (readItems s' items').1 = (readItems s items).1 ∧
      Copied opened complete' (done ++ itemEvents items') (readItems s items).2
        (readItems s' items').2 := by
  cases items with
  | nil =>
    refine ⟨[], complete, ?_, anchored, rfl, ?_⟩
    · simp [itemEvents]
    · simpa [itemEvents, readItems] using copied
  | cons item rest =>
    rw [itemEvents, List.append_assoc] at anchored
    obtain ⟨item', complete', ran, anchored, value, copied⟩ := expand_node item anchored copied
    obtain ⟨rest', complete'', ran', anchored, values, copied⟩ := expand_items rest anchored copied
    refine ⟨item' :: rest', complete'', ?_, anchored, ?_, ?_⟩
    · rw [itemEvents, itemEvents, List.foldl_append, ran, ran', List.append_assoc]
    · simp only [readItems, value, values]
    · simpa only [readItems, itemEvents, List.append_assoc] using copied

theorem expand_entries (entries : List (Node × Node)) (seen : List String)
    {opened complete : List Nat} {done after : List Event} {s s' : Reading}
    (anchored : Anchored opened complete (entryEvents entries ++ after))
    (copied : Copied opened complete done s s') :
    ∃ (entries' : List (Node × Node)) (complete' : List Nat),
      (entryEvents entries).foldl expandNext done = done ++ entryEvents entries' ∧
      Anchored opened complete' after ∧
      (readEntries s' seen entries').1 = (readEntries s seen entries).1 ∧
      Copied opened complete' (done ++ entryEvents entries') (readEntries s seen entries).2
        (readEntries s' seen entries').2 := by
  cases entries with
  | nil =>
    refine ⟨[], complete, ?_, anchored, rfl, ?_⟩
    · simp [entryEvents]
    · simpa [entryEvents, readEntries] using copied
  | cons entry rest =>
    obtain ⟨key, value⟩ := entry
    simp only [entryEvents, List.append_assoc] at anchored
    obtain ⟨key', _, ran, anchored, spelled, copied⟩ := expand_node key anchored copied
    obtain ⟨value', _, ran', anchored, valued, copied⟩ := expand_node value anchored copied
    have whole : ∀ rest',
        (entryEvents rest).foldl expandNext (done ++ key'.events ++ value'.events) =
        done ++ key'.events ++ value'.events ++ entryEvents rest' →
        (entryEvents ((key, value) :: rest)).foldl expandNext done =
          done ++ entryEvents ((key', value') :: rest') := by
      intro rest' ran''
      rw [entryEvents, entryEvents, List.foldl_append, List.foldl_append, ran, ran', ran'']
      simp only [List.append_assoc]
    -- Both readings meet the same key, so that they keep or drop the same entries.
    cases raw : (key.read s).1.raw.map keyOf with
    | none =>
      obtain ⟨rest', complete', ran'', anchored, kept, copied⟩ :=
        expand_entries rest seen anchored (copied.remark .keySkipped .keySkipped)
      refine ⟨(key', value') :: rest', complete', ?_, anchored, ?_, ?_⟩
      · exact whole rest' ran''
      · simp only [readEntries, spelled, raw, kept]
      · simpa only [readEntries, spelled, valued, raw, entryEvents, List.append_assoc] using copied
    | some name =>
      by_cases twice : name ∈ seen
      · obtain ⟨rest', complete', ran'', anchored, kept, copied⟩ :=
          expand_entries rest seen anchored (copied.remark (.keyTwice name) (.keyTwice name))
        refine ⟨(key', value') :: rest', complete', ?_, anchored, ?_, ?_⟩
        · exact whole rest' ran''
        · simp only [readEntries, spelled, valued, raw, if_pos twice, kept]
        · simpa only [readEntries, spelled, valued, raw, if_pos twice, entryEvents,
            List.append_assoc] using copied
      · obtain ⟨rest', complete', ran'', anchored, kept, copied⟩ :=
          expand_entries rest (name :: seen) anchored copied
        refine ⟨(key', value') :: rest', complete', ?_, anchored, ?_, ?_⟩
        · exact whole rest' ran''
        · simp only [readEntries, spelled, valued, raw, if_neg twice, kept]
        · simpa only [readEntries, spelled, valued, raw, if_neg twice, entryEvents,
            List.append_assoc] using copied

end

theorem copied_start : Copied [] [] [.streamStart, .documentStart] .start .start := by
  refine ⟨rfl, ?_, ?_, ?_⟩
  · intro e member positive
    rcases List.mem_pair.mp member with rfl | rfl <;> cases positive
  · intro a member
    rcases List.mem_pair.mp member with same | same <;> cases same
  · intro a member
    cases member

-- A document whose references are replaced is a document with the same value, and holds no
-- references any more.
theorem expand_transparent {events : List Event} (nested : WellNested events)
    (anchored : Anchored [] [] events) :
    WellNested (expand events) ∧ Closed (expand events) ∧
      (Builder.ofEvents (expand events)).result = (Builder.ofEvents events).result := by
  obtain ⟨n, rfl⟩ := nested
  have inner : Anchored [] [] (n.events ++ [.documentEnd]) := anchored
  obtain ⟨m, _, ran, _, value, copied⟩ := expand_node n inner copied_start
  have whole : expand n.document = m.document := by
    rw [expand, Node.document, List.foldl_append, List.foldl_append]
    change List.foldl expandNext
      (List.foldl expandNext [.streamStart, .documentStart] n.events) _ = _
    rw [ran]
    rfl
  rw [whole]
  refine ⟨⟨m, rfl⟩, ?_, ?_⟩
  · intro a member
    rcases List.mem_append.mp member with node | last
    · exact copied.closed a node
    · cases List.mem_singleton.mp last
  · obtain ⟨b, after, built⟩ := Builder.ofEvents_document n
    obtain ⟨b', after', built'⟩ := Builder.ofEvents_document m
    rw [Builder.push_root after.stack after.root] at built
    rw [Builder.push_root after'.stack after'.root, value] at built'
    simp only [built, built', Builder.result]

-- A reference as an item, as a key and as a value, and one in a node that is itself referred to.
theorem expand_transparent_chained :
    let events := Node.document (.sequence 0 none
      [.scalar "k" .plain 1 none,
        .mapping 2 none [(.reference 1, .sequence 3 none [.reference 1])],
        .reference 2, .mapping 0 none [(.reference 1, .reference 2), (.reference 3, .reference 2)]])
    WellNested events ∧ Anchored [] [] events ∧ ¬ Closed events ∧
      Closed (expand events) ∧
      (Builder.ofEvents (expand events)).result = (Builder.ofEvents events).result := by
  intro events
  have nested : WellNested events := ⟨_, rfl⟩
  have anchored : Anchored [] [] events := by
    simp [events, Node.document, Node.events, itemEvents, entryEvents, Anchored, Unused]
  have refers : ¬ Closed events := fun closed => closed 2 (by
    simp [events, Node.document, Node.events, itemEvents])
  obtain ⟨_, closed, same⟩ := expand_transparent nested anchored
  exact ⟨nested, anchored, refers, closed, same⟩

end Yaml

end RowPress
