import RowPress.Step
import RowPress.Value.Coerce
import RowPress.Value.Key
import RowPress.Yaml.Event
/-!
Values out of documents. The value is built from the events of the document with a stack of open
collections; of the values given to one key the first is kept.
-/
namespace RowPress

-- The key of an entry that waits for its value.
inductive PendingKey where
  | text (raw : String)
  | notText

-- A collection that is still open.
inductive Frame where
  | sequence (anchor : Nat) (items : List Value)
  | mapping (anchor : Nat) (entries : Entries) (pending : Option PendingKey)

-- A finished node: its value, and its text if it is a scalar.
structure Finished where
  value : Value
  raw : Option String

-- What the builder has to tell about a document.
inductive Remark where
  | keyTwice (key : String)
  | keySkipped

structure Builder where
  stack : List Frame
  anchors : List (Nat × Finished)
  root : Option Value
  remarks : List Remark

namespace Builder

def empty : Builder := ⟨[], [], none, []⟩

def remark (b : Builder) (r : Remark) : Builder := { b with remarks := b.remarks ++ [r] }

def anchored? (b : Builder) (anchor : Nat) : Option Finished :=
  (b.anchors.find? (·.1 == anchor)).map (·.2)

-- Hands a node to the innermost open collection, or makes it the root.
def push (b : Builder) (node : Finished) : Builder :=
  match b.stack with
  | [] => { b with root := b.root.or (some node.value) }
  | .sequence anchor items :: rest =>
    { b with stack := .sequence anchor (items ++ [node.value]) :: rest }
  | .mapping anchor entries none :: rest =>
    let key := match node.raw with
      | some raw => .text raw
      | none => .notText
    { b with stack := .mapping anchor entries (some key) :: rest }
  | .mapping anchor entries (some .notText) :: rest =>
    { b with stack := .mapping anchor entries none :: rest }.remark .keySkipped
  | .mapping anchor entries (some (.text raw)) :: rest =>
    let key := keyOf raw
    if entries.has key then
      { b with stack := .mapping anchor entries none :: rest }.remark (.keyTwice key)
    else { b with stack := .mapping anchor (entries ++ [(key, node.value)]) none :: rest }

def complete (b : Builder) (anchor : Nat) (node : Finished) : Builder :=
  let b := if 0 < anchor then { b with anchors := (anchor, node) :: b.anchors } else b
  b.push node

-- Plain scalars that stand for nothing.
def isNull (text : String) : Bool :=
  text == "" || text == "~" || text == "null" || text == "Null" || text == "NULL"

def scalarText (text : String) (style : Yaml.Style) : String :=
  if style = .plain ∧ isNull text then "" else text

def take (b : Builder) : Yaml.Event → Builder
  | .scalar text style anchor _ =>
    let text := scalarText text style
    b.complete anchor ⟨.scalar (coerce text), some text⟩
  | .sequenceStart anchor _ => { b with stack := .sequence anchor [] :: b.stack }
  | .sequenceEnd =>
    match b.stack with
    | .sequence anchor items :: rest =>
      { b with stack := rest }.complete anchor ⟨.sequence items, none⟩
    | _ => { b with stack := b.stack.drop 1 }
  | .mappingStart anchor _ => { b with stack := .mapping anchor [] none :: b.stack }
  | .mappingEnd =>
    match b.stack with
    | .mapping anchor entries _ :: rest =>
      { b with stack := rest }.complete anchor ⟨.map entries, none⟩
    | _ => { b with stack := b.stack.drop 1 }
  | .reference anchor => b.push ((b.anchored? anchor).getD ⟨.text "", none⟩)
  | _ => b

def ofEvents (events : List Yaml.Event) : Builder := events.foldl take empty

-- A document without content, or with an empty text, is an empty map.
def result (b : Builder) : Value :=
  match b.root with
  | none => .empty
  | some (.scalar (.text s)) => if s.isEmpty then .empty else .text s
  | some v => v

end Builder

def Remark.note (source : String) : Remark → Note
  | .keyTwice key => .diagnostic (.duplicateKey s!"file '{source}'" key)
  | .keySkipped => .keySkipped source

-- The value of a document, whose name is used in notes.
def decode (source text : String) : Step Value := do
  Step.note (.decoding source)
  let events := Yaml.events text
  let builder := Builder.ofEvents events.found
  for r in builder.remarks do Step.note (r.note source)
  match events.fault with
  | some fault => Step.fail (.yaml fault)
  | none => return builder.result

-- A value as data of the type that is asked for, by way of the JSON data that it stands for.
def recast (fit : Json → Json.Fitting α) (v : Value) : Step α :=
  match fit v.toJson with
  | .ok a => return a
  | .error m => Step.fail (.decode m)

end RowPress
