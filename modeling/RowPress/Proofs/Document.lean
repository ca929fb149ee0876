import RowPress.Proofs.Outcome
/-!
Documents as trees of nodes, and their values by recursion over the tree. The builder, which sees
one event after the other, ends with the same value and the same remarks.
-/
namespace RowPress

namespace Yaml

-- A node as it is written. Keys are nodes, and a reference may name an anchor that no finished node
-- has.
inductive Node where
  | scalar (text : String) (style : Style) (anchor : Nat) (tag : Option Tag)
  | sequence (anchor : Nat) (tag : Option Tag) (items : List Node)
  | mapping (anchor : Nat) (tag : Option Tag) (entries : List (Node × Node))
  | reference (anchor : Nat)

mutual

def Node.events : Node → List Event
  | .scalar text style anchor tag => [.scalar text style anchor tag]
  | .sequence anchor tag items => .sequenceStart anchor tag :: (itemEvents items ++ [.sequenceEnd])
  | .mapping anchor tag entries =>
    .mappingStart anchor tag :: (entryEvents entries ++ [.mappingEnd])
  | .reference anchor => [.reference anchor]

def itemEvents : List Node → List Event
  | [] => []
  | item :: rest => item.events ++ itemEvents rest

def entryEvents : List (Node × Node) → List Event
  | [] => []
  | (key, value) :: rest => key.events ++ value.events ++ entryEvents rest

end

def Node.document (n : Node) : List Event :=
  [.streamStart, .documentStart] ++ n.events ++ [.documentEnd]

end Yaml

-- What is known at a point of a document: the last finished node of each anchor, and the remarks
-- made so far.
structure Reading where
  finished : Nat → Option Finished
  remarks : List Remark

namespace Reading

def start : Reading := ⟨fun _ => none, []⟩

def remark (s : Reading) (r : Remark) : Reading := { s with remarks := s.remarks ++ [r] }

-- Anchors are counted from one; none is zero.
def finish (s : Reading) (anchor : Nat) (node : Finished) : Finished × Reading :=
  (node, if 0 < anchor then
      { s with finished := fun a => if a = anchor then some node else s.finished a }
    else s)

def standsFor (s : Reading) (anchor : Nat) : Finished :=
  (s.finished anchor).getD ⟨.text "", none⟩

end Reading

namespace Yaml

-- What a plain scalar is written as when it stands for nothing.
def nullForms : List String := ["", "~", "null", "Null", "NULL"]

mutual

def Node.read (s : Reading) : Node → Finished × Reading
  | .scalar text style anchor _ =>
    let text := if style = .plain ∧ text ∈ nullForms then "" else text
    s.finish anchor ⟨.scalar (coerce text), some text⟩
  | .sequence anchor _ items =>
    let (values, s) := readItems s items
    s.finish anchor ⟨.sequence values, none⟩
  | .mapping anchor _ entries =>
    let (kept, s) := readEntries s [] entries
    s.finish anchor ⟨.map kept, none⟩
  | .reference anchor => (s.standsFor anchor, s)

def readItems (s : Reading) : List Node → List Value × Reading
  | [] => ([], s)
  | item :: rest =>
    let (node, s) := item.read s
    let (values, s) := readItems s rest
    (node.value :: values, s)

-- The entries whose key is text and was not seen before. The value of an entry that is dropped is
-- read all the same: anchors in it count, and so do its remarks.
def readEntries (s : Reading) (seen : List String) : List (Node × Node) → Entries × Reading
  | [] => ([], s)
  | (key, value) :: rest =>
    let (key, s) := key.read s
    let (value, s) := value.read s
    match key.raw.map keyOf with
    | none => readEntries (s.remark .keySkipped) seen rest
    | some name =>
      if name ∈ seen then readEntries (s.remark (.keyTwice name)) seen rest
      else
        let (kept, s) := readEntries s (name :: seen) rest
        ((name, value.value) :: kept, s)

end

-- A document that is only an empty text holds no entries.
def Node.decoded (n : Node) : Value :=
  match (n.read .start).1.value with
  | .scalar (.text s) => if s.isEmpty then .empty else .text s
  | v => v

def Node.remarks (n : Node) : List Remark := (n.read .start).2.remarks

end Yaml

theorem Entries.has_append (m : Entries) (key other : String) (value : Value) :
    Entries.has (m ++ [(key, value)]) other = (m.has other || key == other) := by
  simp [Entries.has]

namespace Builder

-- The builder knows what has been read, whatever collections are still open in it.
structure Agrees (b : Builder) (s : Reading) : Prop where
  anchored : ∀ anchor, b.anchored? anchor = s.finished anchor
  remarks : b.remarks = s.remarks

theorem Agrees.stack {b : Builder} {s : Reading} (agrees : b.Agrees s) (stack : List Frame) :
    { b with stack }.Agrees s := ⟨agrees.anchored, agrees.remarks⟩

theorem Agrees.remark {b : Builder} {s : Reading} (agrees : b.Agrees s) (r : Remark) :
    (b.remark r).Agrees (s.remark r) := by
  refine ⟨agrees.anchored, ?_⟩
  simp [Builder.remark, Reading.remark, agrees.remarks]

-- What has become of a builder after some events: its open collections, and what it knows.
structure Continues (b : Builder) (stack : List Frame) (s : Reading) (b' : Builder) : Prop where
  stack : b'.stack = stack
  root : b'.root = b.root
  agrees : b'.Agrees s

theorem Continues.trans {b b' b'' : Builder} {stack stack' : List Frame} {s s' : Reading}
    (one : b.Continues stack s b') (two : b'.Continues stack' s' b'') :
    b.Continues stack' s' b'' := ⟨two.stack, two.root.trans one.root, two.agrees⟩

theorem Continues.inside {b b' : Builder} {stack : List Frame} {s : Reading}
    (one : b.Continues stack s b') (stack' : List Frame) :
    b.Continues stack' s { b' with stack := stack' } := ⟨rfl, one.root, one.agrees.stack stack'⟩

theorem Continues.remark {b b' : Builder} {stack : List Frame} {s : Reading}
    (one : b.Continues stack s b') (r : Remark) :
    b.Continues stack (s.remark r) (b'.remark r) := ⟨one.stack, one.root, one.agrees.remark r⟩

-- Opening a collection touches nothing else.
theorem Continues.opened {b b' : Builder} {stack stack' : List Frame} {s : Reading}
    (one : { b with stack }.Continues stack' s b') : b.Continues stack' s b' :=
  ⟨one.stack, one.root, one.agrees⟩

theorem push_item {b : Builder} {anchor : Nat} {items : List Value} {rest : List Frame}
    (inside : b.stack = .sequence anchor items :: rest) (node : Finished) :
    b.push node = { b with stack := .sequence anchor (items ++ [node.value]) :: rest } := by
  simp [push, inside]

-- The first half of an entry, as it waits for the second.
def waiting (key : Finished) : PendingKey :=
  match key.raw with
  | some raw => .text raw
  | none => .notText

theorem push_key {b : Builder} {anchor : Nat} {entries : Entries} {rest : List Frame}
    (inside : b.stack = .mapping anchor entries none :: rest) (key : Finished) :
    b.push key = { b with stack := .mapping anchor entries (some (waiting key)) :: rest } := by
  cases spelled : key.raw <;> simp [push, inside, waiting, spelled]

theorem push_value {b : Builder} {anchor : Nat} {entries : Entries} {rest : List Frame}
    {key : Finished} (inside : b.stack = .mapping anchor entries (some (waiting key)) :: rest)
    (value : Finished) :
    b.push value = match key.raw.map keyOf with
      | none => { b with stack := .mapping anchor entries none :: rest }.remark .keySkipped
      | some name =>
        if entries.has name then
          { b with stack := .mapping anchor entries none :: rest }.remark (.keyTwice name)
        else
          { b with stack := .mapping anchor (entries ++ [(name, value.value)]) none :: rest } := by
  cases spelled : key.raw <;> simp [push, inside, waiting, spelled]

-- A node that ends is remembered under its anchor before it is handed on.
theorem complete_continues {b : Builder} {s : Reading} (agrees : b.Agrees s) (anchor : Nat)
    (node : Finished) :
    ∃ b', b.Continues b.stack (s.finish anchor node).2 b' ∧
      b.complete anchor node = b'.push node := by
  by_cases anchored : 0 < anchor
  · refine ⟨{ b with anchors := (anchor, node) :: b.anchors }, ⟨rfl, rfl, ?_, ?_⟩, ?_⟩
    · intro a
      by_cases same : a = anchor
      · subst same
        simp [anchored?, Reading.finish, anchored]
      · have other : (anchor == a) = false := by simpa using fun equal => same equal.symm
        have before := agrees.anchored a
        simp only [anchored?] at before
        simp [anchored?, Reading.finish, anchored, other, same, before]
    · simp [Reading.finish, anchored, agrees.remarks]
    · simp [complete, anchored]
  · refine ⟨b, ⟨rfl, rfl, ?_⟩, ?_⟩
    · simpa [Reading.finish, anchored] using agrees
    · simp [complete, anchored]

-- The builder looks for one form of nothing after the other.
theorem scalarText_eq (text : String) (style : Yaml.Style) : scalarText text style =
    if style = .plain ∧ text ∈ Yaml.nullForms then "" else text := by
  simp [scalarText, isNull, Yaml.nullForms, or_assoc]

open Yaml in
mutual

-- By recursion over the node, under any stack of open collections.
theorem take_node (n : Node) {b : Builder} {s : Reading} (agrees : b.Agrees s) :
    ∃ b', b.Continues b.stack (n.read s).2 b' ∧ n.events.foldl take b = b'.push (n.read s).1 := by
  cases n with
  | scalar text style anchor tag =>
    simp only [Node.events, Node.read, List.foldl_cons, List.foldl_nil, take, scalarText_eq]
    exact complete_continues agrees anchor _
  | sequence anchor tag items =>
    obtain ⟨filled, after, ran⟩ :=
      take_items items (agrees.stack (.sequence anchor [] :: b.stack)) rfl
    obtain ⟨b', closed, ends⟩ := complete_continues (after.agrees.stack b.stack) anchor
      ⟨.sequence (readItems s items).1, none⟩
    refine ⟨b', (after.inside b.stack).opened.trans closed, ?_⟩
    simp only [Node.events, List.foldl_cons, List.foldl_append, List.foldl_nil]
    rw [take, ran, take, after.stack]
    exact ends
  | mapping anchor tag entries =>
    obtain ⟨filled, after, ran⟩ :=
      take_entries entries [] (agrees.stack (.mapping anchor [] none :: b.stack)) rfl
        (by simp [Entries.has])
    obtain ⟨b', closed, ends⟩ := complete_continues (after.agrees.stack b.stack) anchor
      ⟨.map (readEntries s [] entries).1, none⟩
    refine ⟨b', (after.inside b.stack).opened.trans closed, ?_⟩
    simp only [Node.events, List.foldl_cons, List.foldl_append, List.foldl_nil]
    rw [take, ran, take, after.stack]
    exact ends
  | reference anchor =>
    refine ⟨b, ⟨rfl, rfl, agrees⟩, ?_⟩
    simp [Node.events, Node.read, take, Reading.standsFor, agrees.anchored]

theorem take_items (items : List Node) {b : Builder} {s : Reading} (agrees : b.Agrees s)
    {anchor : Nat} {before : List Value} {rest : List Frame}
    (inside : b.stack = .sequence anchor before :: rest) :
    ∃ b', b.Continues (.sequence anchor (before ++ (readItems s items).1) :: rest)
        (readItems s items).2 b' ∧ (itemEvents items).foldl take b = b' := by
  cases items with
  | nil => exact ⟨b, ⟨by simpa [readItems] using inside, rfl, agrees⟩, rfl⟩
  | cons item items =>
    obtain ⟨b', one, ran⟩ := take_node item agrees
    rw [push_item (one.stack.trans inside)] at ran
    have one := one.inside (.sequence anchor (before ++ [(item.read s).1.value]) :: rest)
    obtain ⟨b'', two, ran'⟩ := take_items items one.agrees one.stack
    refine ⟨b'', ?_, ?_⟩
    · simpa [readItems] using one.trans two
    · rw [itemEvents, List.foldl_append, ran, ran']

theorem take_entries (entries : List (Node × Node)) {b : Builder} {s : Reading}
    (seen : List String) (agrees : b.Agrees s) {anchor : Nat} {before : Entries}
    {rest : List Frame} (inside : b.stack = .mapping anchor before none :: rest)
    (taken : ∀ name, before.has name = true ↔ name ∈ seen) :
    ∃ b', b.Continues (.mapping anchor (before ++ (readEntries s seen entries).1) none :: rest)
        (readEntries s seen entries).2 b' ∧ (entryEvents entries).foldl take b = b' := by
  cases entries with
  | nil => exact ⟨b, ⟨by simpa [readEntries] using inside, rfl, agrees⟩, rfl⟩
  | cons entry entries =>
    obtain ⟨key, value⟩ := entry
    obtain ⟨atKey, one, ran⟩ := take_node key agrees
    rw [push_key (one.stack.trans inside)] at ran
    have one := one.inside (.mapping anchor before (some (waiting (key.read s).1)) :: rest)
    obtain ⟨atValue, two, ran'⟩ := take_node value one.agrees
    rw [push_value (two.stack.trans one.stack)] at ran'
    have two := one.trans (two.inside (.mapping anchor before none :: rest))
    simp only [entryEvents, readEntries, List.foldl_append, ran, ran']
    cases spelled : (key.read s).1.raw.map keyOf with
    | none =>
      have skipped := two.remark .keySkipped
      obtain ⟨b', three, ran''⟩ := take_entries entries seen skipped.agrees skipped.stack taken
      exact ⟨b', skipped.trans three, ran''⟩
    | some name =>
      by_cases twice : name ∈ seen
      · have dropped := two.remark (.keyTwice name)
        obtain ⟨b', three, ran''⟩ := take_entries entries seen dropped.agrees dropped.stack taken
        simp only [(taken name).mpr twice, if_pos twice, if_true]
        exact ⟨b', dropped.trans three, ran''⟩
      · have fresh : ¬ before.has name = true := fun found => twice ((taken name).mp found)
        have kept := two.inside
          (.mapping anchor (before ++ [(name, (value.read (key.read s).2).1.value)]) none :: rest)
        have taken' : ∀ other, Entries.has (before ++ [(name, (value.read (key.read s).2).1.value)])
            other = true ↔ other ∈ name :: seen := by
          intro other
          rw [Entries.has_append, Bool.or_eq_true, taken, beq_iff_eq, List.mem_cons, or_comm,
            eq_comm]
        obtain ⟨b', three, ran''⟩ :=
          take_entries entries (name :: seen) kept.agrees kept.stack taken'
        simp only [if_neg fresh, if_neg twice]
        refine ⟨b', ?_, ran''⟩
        simpa using kept.trans three

end

theorem ofEvents_document (n : Yaml.Node) :
    ∃ b, empty.Continues [] (n.read .start).2 b ∧
      ofEvents n.document = b.push (n.read .start).1 := by
  obtain ⟨b, after, ran⟩ := take_node n (b := empty) (s := .start) ⟨fun _ => rfl, rfl⟩
  refine ⟨b, after, ?_⟩
  simp only [ofEvents, Yaml.Node.document, List.foldl_append, List.foldl_cons, List.foldl_nil]
  exact ran

theorem push_root {b : Builder} (outside : b.stack = []) (first : b.root = none)
    (node : Finished) : b.push node = { b with root := some node.value } := by
  simp [push, outside, first]

end Builder

theorem outcome_decode (source text : String) :
    (decode source text).outcome =
      (match (Yaml.events text).fault with
        | some fault => .error (.yaml fault)
        | none => .ok (Builder.ofEvents (Yaml.events text).found).result,
      .decoding source ::
        (Builder.ofEvents (Yaml.events text).found).remarks.map (Remark.note source)) := by
  rw [Step.outcome_eq, decode, Step.onto_bind, Step.onto_note]
  simp only [Step.onto_bind, Step.onto_forIn_note, List.nil_append]
  cases (Yaml.events text).fault <;> rfl

-- Whatever node a document holds, the builder ends outside of all collections, with the value and
-- the remarks of the recursion; and so does decoding a text with these events.
theorem builder_refines_reading (n : Yaml.Node) :
    (Builder.ofEvents n.document).stack = [] ∧
    (Builder.ofEvents n.document).result = n.decoded ∧
    (Builder.ofEvents n.document).remarks = n.remarks ∧
    ∀ source text, Yaml.events text = ⟨n.document, none⟩ →
      (decode source text).outcome =
        (.ok n.decoded, .decoding source :: n.remarks.map (Remark.note source)) := by
  obtain ⟨b, after, built⟩ := Builder.ofEvents_document n
  rw [Builder.push_root after.stack after.root] at built
  have result : (Builder.ofEvents n.document).result = n.decoded := by
    rw [built, Builder.result, Yaml.Node.decoded]
    cases (n.read .start).1.value with
    | scalar s => cases s <;> rfl
    | sequence items => rfl
    | map entries => rfl
  have remarks : (Builder.ofEvents n.document).remarks = n.remarks := by
    rw [built]
    exact after.agrees.remarks
  refine ⟨by rw [built]; exact after.stack, result, remarks, ?_⟩
  intro source text events
  rw [outcome_decode, events]
  simp only [result, remarks]

set_option maxRecDepth 10000 in
-- A reference to the mapping it stands in, a key that comes again, and a tilde that stands for
-- nothing, which it does not between quotes.
theorem decode_knotted :
    ∃ n : Yaml.Node,
      Yaml.events "&r\n*r : u\nk-: &x t\nk: *x\nn: ~\nq: '~'" = ⟨n.document, none⟩ ∧
      (decode "d" "&r\n*r : u\nk-: &x t\nk: *x\nn: ~\nq: '~'").outcome =
        (.ok (.map [("k", .text "t"), ("n", .text ""), ("q", .text "~")]),
          [.decoding "d", .keySkipped "d", .diagnostic (.duplicateKey "file 'd'" "k")]) := by
  let n : Yaml.Node := .mapping 1 none
    [(.reference 1, .scalar "u" .plain 0 none),
      (.scalar "k-" .plain 0 none, .scalar "t" .plain 2 none),
      (.scalar "k" .plain 0 none, .reference 2),
      (.scalar "n" .plain 0 none, .scalar "~" .plain 0 none),
      (.scalar "q" .plain 0 none, .scalar "~" .singleQuoted 0 none)]
  have events : Yaml.events "&r\n*r : u\nk-: &x t\nk: *x\nn: ~\nq: '~'" = ⟨n.document, none⟩ := by
    cbv
  refine ⟨n, events, ?_⟩
  rw [(builder_refines_reading n).2.2.2 "d" _ events]
  cbv

end RowPress
