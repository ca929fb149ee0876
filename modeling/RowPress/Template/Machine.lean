import RowPress.Template.Closure
import RowPress.Template.Test
/-!
What changes while a template is rendered: the text so far, the variables in scope, and the things
that values only name by a number.
-/
namespace RowPress.Template

-- A template that can be rendered. The length of its source bounds how deep its tree can be.
structure Compiled where
  name : String
  size : Nat
  nodes : List Node

-- The templates that a rendering can come to: each by its name, how many they are, and the length
-- of the longest source.
structure Library where
  get? : String → Option Compiled
  count : Nat
  largest : Nat

def Library.ofList (templates : List Compiled) : Library where
  get? name := templates.find? (·.name == name)
  count := templates.length
  largest := templates.foldl (fun size t => max size t.size) 0

structure LoopState where
  items : Array Datum
  sized : Bool
  index : Nat
  depth : Nat
  -- What the loop was last asked to compare.
  compared : Option (List Datum)
  recursive : Bool
  target : Target
  body : List Node

structure RoutineState where
  routine : Routine Node
  template : String
  closure : Option Nat
  readsCaller : Bool

abbrev Variables := List (String × Datum)

def Variables.get? (vs : Variables) (name : String) : Option Datum :=
  (vs.find? (·.1 == name)).map (·.2)

def Variables.put (vs : Variables) (name : String) (d : Datum) : Variables :=
  (name, d) :: vs.filter (·.1 != name)

structure Frame where
  locals : Variables
  loop : Option Nat
  -- Values kept for the routines that are defined in this frame.
  closure : Option Nat

def Frame.empty : Frame := ⟨[], none, none⟩

-- What lies under the frames: the model of a row, or what a routine remembers.
inductive Base where
  | model (given : Variables)
  | closure (id : Option Nat)

-- The bodies of a block from the most special one on, and which of them is in use.
structure BlockStack where
  bodies : List (String × List Node)
  level : Nat

-- A parent takes over when its child ends. Till then the child's text is dropped.
structure Parent where
  template : Compiled
  wasDropping : Bool

structure Machine where
  library : Library
  output : String
  dropping : Bool
  base : Base
  frames : List Frame
  outerDepth : Nat
  escape : Escape
  template : String
  parent : Option Parent
  inherited : List String
  blocks : List (String × BlockStack)
  block : Option String
  loops : Array LoopState
  stores : Array Variables
  closures : Array Variables
  routines : Array RoutineState

abbrev Rendering := StateT Machine Outcome

inductive Flow where
  | on | leave | next
deriving DecidableEq

def maxDepth : Nat := 500

namespace Machine

def start (library : Library) (template : Compiled) (model : Variables) : Machine where
  library := library
  output := ""
  dropping := false
  base := .model model
  frames := [.empty]
  outerDepth := 0
  escape := .off
  template := template.name
  parent := none
  inherited := []
  blocks := []
  block := none
  loops := #[]
  stores := #[]
  closures := #[]
  routines := #[]

def depth (m : Machine) : Nat := m.outerDepth + m.frames.length

def builtin? (name : String) : Option Datum :=
  match name with
  | "range" => some (.builtin .range)
  | "dict" => some (.builtin .dict)
  | "namespace" => some (.builtin .store)
  | "debug" => some (.builtin .debug)
  | _ => none

def closureOf (m : Machine) (id : Option Nat) : Variables :=
  (id.bind (m.closures[·]?)).getD []

def frameLookUp (name : String) : List Frame → Option Datum
  | [] => none
  | frame :: rest =>
    match frame.locals.get? name, frame.loop with
    | some d, _ => some d
    | none, some id => if name == "loop" then some (.loop id) else frameLookUp name rest
    | none, none => frameLookUp name rest

def baseLookUp (m : Machine) (name : String) : Option Datum :=
  match m.base with
  | .model given => given.get? name
  | .closure id => (m.closureOf id).get? name

-- The innermost value of a name; the functions that everyone can call come last.
def lookUp? (m : Machine) (name : String) : Option Datum :=
  ((frameLookUp name m.frames).or (m.baseLookUp name)).or (builtin? name)

-- Every variable that has a value, each with the innermost one.
def visible (m : Machine) : Variables :=
  let outermost := match m.base with
    | .model given => given
    | .closure id => m.closureOf id
  (m.frames.flatMap (·.locals) ++ outermost).foldr (fun (name, d) vs => vs.put name d) []

def compiled? (m : Machine) (name : String) : Option Compiled := m.library.get? name

def currentLoop? (m : Machine) : Option LoopState :=
  (m.frames.findSome? (·.loop)).bind (m.loops[·]?)

-- A value with what it names put in its place, as far as it can be displayed or gone through.
def settle (m : Machine) : Nat → Datum → Datum
  | 0, d => d
  | fuel + 1, d =>
    match d with
    | .store id => .ofNamed (((m.stores[id]?).getD []).map fun (k, v) => (k, m.settle fuel v))
    | .loop id =>
      match m.loops[id]? with
      | some l => .shown s!"<loop {l.index}/{l.items.size}>"
      | none => d
    | .list items => .list (items.map (m.settle fuel))
    | .stream items sized => .stream (items.map (m.settle fuel)) sized
    | .group items => .group (items.map (m.settle fuel))
    | .map entries => .map (entries.map fun (k, v) => (k, m.settle fuel v))
    | d => d

-- How deep a value is looked into for others that it names.
def settleDepth : Nat := 64

def settled (m : Machine) (d : Datum) : Datum :=
  if m.stores.isEmpty then
    match d with
    | .loop _ => m.settle 1 d
    | d => d
  else m.settle settleDepth d

end Machine

namespace Rendering

def ofOutcome (x : Outcome α) : Rendering α := StateT.lift x

-- A fault that has no place yet happened on this line of the current template.
def located (line : Nat) (x : Rendering α) : Rendering α := fun m =>
  match x m with
  | .ok r => .ok r
  | .error f => .error (f.within m.template line)

def fail (f : Fault) : Rendering α := ofOutcome (.error f)

def emit (s : String) : Rendering Unit :=
  modify fun m => if m.dropping then m else { m with output := m.output ++ s }

-- Runs with the text going elsewhere.
def captured (x : Rendering α) : Rendering (α × String) := do
  let m ← get
  let (output, dropping) := (m.output, m.dropping)
  set { m with output := "", dropping := false }
  let a ← x
  let text := (← get).output
  modify fun m => { m with output, dropping }
  return (a, text)

def dropped (x : Rendering α) : Rendering α := do
  let before := (← get).dropping
  modify fun m => { m with dropping := true }
  let a ← x
  modify fun m => { m with dropping := before }
  return a

-- Captured text counts as escaped where output is escaped.
def capturedDatum (text : String) : Rendering Datum := return .text text ((← get).escape != .off)

def checkDepth : Rendering Unit := do
  if maxDepth < (← get).depth then fail (.of .badOperation "recursion limit exceeded")
  else return ()

def inFrame (frame : Frame) (x : Rendering α) : Rendering α := do
  checkDepth
  modify fun m => { m with frames := frame :: m.frames }
  let a ← x
  modify fun m => { m with frames := m.frames.drop 1 }
  return a

def modifyFrame (f : Frame → Frame) : Rendering Unit :=
  modify fun m => { m with frames := match m.frames with
    | frame :: rest => f frame :: rest
    | [] => [f .empty] }

-- Stores a variable in the innermost frame, and where its routines remember it.
def store (name : String) (d : Datum) : Rendering Unit := do
  modifyFrame fun frame => { frame with locals := frame.locals.put name d }
  modify fun m =>
    match (m.frames.head?).bind (·.closure) with
    | some id => { m with closures := m.closures.modify id (·.put name d) }
    | none => m

-- The store of remembered values of the innermost frame, made where there is none yet.
def frameClosure : Rendering Nat := do
  let m ← get
  match (m.frames.head?).bind (·.closure) with
  | some id => return id
  | none =>
    let id := m.closures.size
    modify fun m => { m with closures := m.closures.push [] }
    modifyFrame fun frame => { frame with closure := some id }
    return id

-- Remembers the present value of a name, unless one is remembered.
def enclose (name : String) : Rendering Unit := do
  let id ← frameClosure
  modify fun m =>
    let present := (m.lookUp? name).getD .undefined
    if ((m.closureOf (some id)).get? name).isSome then m
    else { m with closures := m.closures.modify id (·.put name present) }

def defineRoutine (r : Routine Node) : Rendering Datum := do
  let names := r.freeNames
  (names.filter (· != "caller")).forM enclose
  let m ← get
  let id := m.routines.size
  let state : RoutineState :=
    ⟨r, m.template, (m.frames.head?).bind (·.closure), names.contains "caller"⟩
  modify fun m => { m with routines := m.routines.push state }
  return .routine id r.name

end Rendering

end RowPress.Template
