import RowPress.Template.Function
/-!
The value of an expression, one level deep: what is inside is evaluated by an engine that is given.
-/
namespace RowPress.Template

-- What evaluates expressions and renders nodes further inside.
structure Engine where
  eval : Expr → Rendering Datum
  exec : List Node → Rendering Flow

open Rendering

namespace Literal

def datum : Literal → Datum
  | .none => .nothing
  | .bool b => .bool b
  | .integer n => .integer n
  | .decimal x => .decimal x
  | .text s => .ofText s

end Literal

def settled (d : Datum) : Rendering Datum := return (← get).settled d

-- What a loop tells about itself.
def LoopState.attribute? (l : LoopState) (name : String) : Option Datum :=
  let size := l.items.size
  let whenSized (n : Nat) : Datum := if l.sized then .integer n else .undefined
  match name with
  | "index0" => some (.integer l.index)
  | "index" => some (.integer (l.index + 1 : Nat))
  | "length" => some (whenSized size)
  | "revindex" => some (whenSized (size - l.index))
  | "revindex0" => some (whenSized (size - l.index - 1))
  | "first" => some (.bool (l.index == 0))
  | "last" => some (.bool (size ≤ l.index + 1))
  | "depth" => some (.integer (l.depth + 1 : Nat))
  | "depth0" => some (.integer l.depth)
  | "previtem" => some (if l.index = 0 then .undefined else (l.items[l.index - 1]?).getD .undefined)
  | "nextitem" => some ((l.items[l.index + 1]?).getD .undefined)
  | _ => none

def RoutineState.attribute? (r : RoutineState) (name : String) : Option Datum :=
  match name with
  | "name" => some (.ofText r.routine.name)
  | "arguments" => some (.list (r.routine.parameters.map fun p => .ofText p.name))
  | "caller" => some (.bool r.readsCaller)
  | _ => none

def Machine.attribute? (m : Machine) (d : Datum) (name : String) : Option Datum :=
  match d with
  | .loop id => (m.loops[id]?).bind (·.attribute? name)
  | .store id => (m.stores[id]?).bind (·.get? name)
  | .routine id _ => (m.routines[id]?).bind (·.attribute? name)
  | d => d.attribute? name

def Machine.item? (m : Machine) (d key : Datum) : Option Datum :=
  match d, key with
  | .loop _, .text name _ | .store _, .text name _ | .routine _ _, .text name _ =>
    m.attribute? d name
  | d, key => d.item? key

-- What is looked up in an undefined value is a fault, what is missing elsewhere is undefined.
def found (d : Datum) (result : Option Datum) : Rendering Datum :=
  match result with
  | some value => return value
  | none => if d.isUndefined then fail (.bare .undefinedValue) else return .undefined

def putNamed (named : List (String × Datum)) (name : String) (d : Datum) : List (String × Datum) :=
  named.filter (·.1 != name) ++ [(name, d)]

def positionalArgument (engine : Engine) : Argument → Rendering (List Datum)
  | .positional e => return [← engine.eval e]
  | .spread e => do ofOutcome (elements (← settled (← engine.eval e)))
  | _ => return []

def namedArgument (engine : Engine) (named : List (String × Datum)) :
    Argument → Rendering (List (String × Datum))
  | .named name e => return putNamed named name (← engine.eval e)
  | .spreadNamed e => do
    match ← settled (← engine.eval e) with
    | .map entries => return entries.foldl (fun named (k, v) => putNamed named k.display v) named
    | d =>
      fail (.of .badOperation
        s!"attempted to apply keyword arguments from non map (got {d.kind.name})")
  | _ => return named

-- Positional arguments are evaluated before named ones.
def given (engine : Engine) (arguments : List Argument) : Rendering Given := do
  let positional ← arguments.mapM (positionalArgument engine)
  let named ← arguments.foldlM (namedArgument engine) []
  return ⟨positional.flatten, if arguments.any (·.isNamed) then some named else none⟩

def Given.settled (g : Given) : Rendering Given := do
  let m ← get
  return ⟨g.positional.map m.settled,
    g.named.map fun named => named.map fun (k, v) => (k, m.settled v)⟩

def Given.after (g : Given) (d : Datum) : Given := { g with positional := d :: g.positional }

-- The value of each parameter, which is undefined if no argument is given for it.
def bindArguments (r : RoutineState) (g : Given) : Outcome Variables := do
  let named := g.named.getD []
  let names := r.routine.parameters.map (·.name)
  if names.length < g.positional.length then .error (.bare .tooManyArguments)
  let bound ← names.zipIdx.mapM fun (name, i) =>
    match g.positional[i]?, named.find? (·.1 == name) with
    | some _, some _ => .error (.of .tooManyArguments s!"duplicate argument `{name}`")
    | some d, none => .ok (name, d)
    | none, some (_, d) => .ok (name, d)
    | none, none => .ok (name, Datum.undefined)
  match named.find? fun (name, _) =>
      !names.contains name && !(r.readsCaller && name == "caller") with
  | some (name, _) => .error (.of .tooManyArguments s!"unknown keyword argument `{name}`")
  | none =>
    if r.readsCaller then
      return bound ++ [("caller", ((named.find? (·.1 == "caller")).map (·.2)).getD .undefined)]
    else return bound

-- The last parameter is bound first. Where it is undefined its default is computed.
def bindParameters (engine : Engine) (bound : Variables) : List Parameter → Rendering Unit
  | [] => return ()
  | p :: rest => do
    let d := (bound.get? p.name).getD .undefined
    let value ← match d, p.byDefault with
      | .undefined, some e => engine.eval e
      | d, _ => pure d
    store p.name value
    bindParameters engine bound rest

-- A routine runs with nothing of the caller's context but what its call costs in depth.
def callRoutine (engine : Engine) (r : RoutineState) (g : Given) : Rendering Datum := do
  let bound ← (bindArguments r g : Outcome Variables)
  let before ← get
  set { before with
    base := .closure r.closure
    frames := [{ Frame.empty with locals := bound.filter (·.1 == "caller") }]
    outerDepth := before.depth + 4
    template := r.template
    parent := none
    inherited := []
    blocks := []
    block := none }
  checkDepth
  let (_, text) ← captured do
    bindParameters engine bound r.routine.parameters.reverse
    engine.exec r.routine.body
  modify fun m => { m with
    base := before.base
    frames := before.frames
    outerDepth := before.outerDepth
    template := before.template
    parent := before.parent
    inherited := before.inherited
    blocks := before.blocks
    block := before.block }
  capturedDatum text

def isObject : Datum → Bool
  | .list _ | .stream _ _ | .map _ | .group _ | .store _ | .shown _ => true
  | _ => false

def callDatum (engine : Engine) (d : Datum) (g : Given) : Rendering Datum := do
  match d with
  | .builtin f => f.call (← g.settled)
  | .routine id _ =>
    match (← get).routines[id]? with
    | some r => callRoutine engine r g
    | none => return .undefined
  | .loop _ =>
    fail (.of .unknownFunction "loop cannot be called if reassigned to different variable")
  | d =>
    if isObject d then fail (.of .badOperation "object is not callable")
    else fail (.of .badOperation s!"value of type {d.kind.name} is not callable")

-- Whether the values differ from those of the last time.
def loopChanged (id : Nat) (l : LoopState) (values : List Datum) : Rendering Datum := do
  let same := match l.compared with
    | some before => equalItems before values
    | none => false
  modify fun m => { m with
    loops := m.loops.modify id fun l => { l with compared := some values } }
  return .bool !same

def loopMethod (id : Nat) (name : String) (g : Given) : Rendering Datum := do
  match (← get).loops[id]? with
  | none => return .undefined
  | some l =>
    match name with
    | "changed" => loopChanged id l g.flat
    | "cycle" => return (g.flat[l.index % g.flat.length]?).getD .undefined
    | name => fail (.of .unknownMethod s!"loop object has no method named {name}")

def callMethod (engine : Engine) (d : Datum) (name : String) (g : Given) : Rendering Datum := do
  match d with
  | .loop id => loopMethod id name g
  | d =>
    match (← get).attribute? d name with
    | some callee => callDatum engine callee g
    | none => fail (.of .unknownMethod s!"{d.kind.name} has no method named {name}")

-- Runs the nodes of a block in a frame of their own.
def runBlock (engine : Engine) (stack : BlockStack) : Rendering Unit := do
  match stack.bodies[stack.level]? with
  | none => return ()
  | some (template, body) =>
    let before ← get
    modify fun m => { m with template, parent := none }
    discard <| inFrame .empty (engine.exec body)
    modify fun m => { m with template := before.template, parent := before.parent }

def putBlock (name : String) (stack : BlockStack) : Rendering Unit :=
  modify fun m => { m with
    blocks := m.blocks.map fun (n, s) => if n == name then (n, stack) else (n, s) }

def blockOf? (m : Machine) (name : String) : Option BlockStack :=
  (m.blocks.find? (·.1 == name)).map (·.2)

-- A child's blocks are not rendered where they stand, but where the parent has them.
def callBlock (engine : Engine) (name : String) : Rendering Unit := do
  let m ← get
  if m.parent.isSome || m.dropping then return ()
  match blockOf? m name with
  | none => fail (.of .unknownBlock s!"block '{name}' not found")
  | some stack =>
    modify fun m => { m with block := some name }
    runBlock engine stack
    modify fun now => { now with block := m.block }

-- The next more general body of the current block.
def callSuper (engine : Engine) : Rendering Datum := do
  let m ← get
  match m.block.bind fun name => (blockOf? m name).map (name, ·) with
  | none => fail (.of .badOperation "cannot super outside of block")
  | some (name, stack) =>
    if stack.bodies.length ≤ stack.level + 1 then
      fail (.of .badOperation "no parent block exists")
    let outer : Rendering Unit := fun m =>
      match (runBlock engine { stack with level := stack.level + 1 }) m with
      | .ok r => .ok r
      | .error _ => .error (.of .evalBlock "error in super block")
    putBlock name { stack with level := stack.level + 1 }
    let (_, text) ← captured outer
    putBlock name stack
    capturedDatum text

def assignAttribute (engine : Engine) (subject : Expr) (name : String) (d : Datum) :
    Rendering Unit := do
  match ← engine.eval subject with
  | .store id => modify fun m => { m with stores := m.stores.modify id (·.put name d) }
  | other =>
    located subject.lastLine
      (fail (.of .badOperation s!"can only assign to namespaces, not {other.kind.name}"))

-- As many items as there are targets to take them.
def unpacked (count : Nat) (d : Datum) : Rendering (List Datum) := do
  let row ← settled d
  match row.items?, row with
  | some items, _ => checked items
  | none, .map entries => checked (entries.map (·.1))
  | none, _ => fail (.of .cannotUnpack "value is not iterable")
where
  checked (items : List Datum) : Rendering (List Datum) :=
    if count = items.length then return items
    else fail (.of .cannotUnpack
      s!"sequence of wrong length (expected {count}, got {items.length})")

mutual

-- Assigns to a name, an attribute of a store, or to each of several targets.
def assignTo (engine : Engine) : Target → Datum → Rendering Unit
  | .name name, d => store name d
  | .attribute subject name, d => assignAttribute engine subject name d
  | .several targets line, d => do
    assignAll engine targets (← located line (unpacked targets.length d))

def assignAll (engine : Engine) : List Target → List Datum → Rendering Unit
  | t :: targets, d :: items => do
    assignTo engine t d
    assignAll engine targets items
  | _, _ => return ()

end

-- Runs the body once for each item, in a frame that all of them share.
def runItems (engine : Engine) (id : Nat) (target : Target) (body : List Node) :
    Nat → List Datum → Rendering Unit
  | _, [] => return ()
  | index, item :: rest => do
    modify fun m => { m with loops := m.loops.modify id fun l => { l with index } }
    assignTo engine target item
    match ← engine.exec body with
    | .leave => return ()
    | .on | .next => runItems engine id target body (index + 1) rest

def runLoop (engine : Engine) (target : Target) (body : List Node) (recursive : Bool)
    (items : List Datum) (sized : Bool) : Rendering Unit := do
  let m ← get
  let depth := match m.currentLoop? with
    | some l => if l.recursive then l.depth + 1 else 0
    | none => 0
  let id := m.loops.size
  let state : LoopState := ⟨items.toArray, sized, 0, depth, none, recursive, target, body⟩
  modify fun m => { m with loops := m.loops.push state }
  inFrame ⟨[], some id, none⟩ (runItems engine id target body 0 items)

-- Runs the innermost loop again with other items.
def recurse (engine : Engine) (d : Datum) : Rendering Datum := do
  match (← get).currentLoop? with
  | none => fail (.of .badOperation "cannot recurse outside of loop")
  | some l =>
    if l.recursive then
      let d ← settled d
      let items ← (elements d : Outcome (List Datum))
      let (_, text) ← captured (runLoop engine l.target l.body true items (d.isSized || d.isAbsent))
      capturedDatum text
    else fail (.of .badOperation "cannot recurse outside of recursive loop")

def callName (engine : Engine) (name : String) (g : Given) : Rendering Datum := do
  if name == "super" then
    if g.flat.isEmpty then callSuper engine
    else fail (.of .badOperation "super() takes no arguments")
  else if name == "loop" then
    match g.flat with
    | [d] => recurse engine d
    | _ => fail (.of .badOperation "loop() takes one argument")
  else
    match (← get).lookUp? name with
    | some d => callDatum engine d g
    | none => fail (.of .unknownFunction s!"{name} is unknown")

-- The arguments of a call, and a body handed over as one more of them.
def givenWith (engine : Engine) (arguments : List Argument) (body : Option (Routine Node)) :
    Rendering Given := do
  let g ← given engine arguments
  match body with
  | some r => return { g with named := some (putNamed (g.named.getD []) "caller" (← defineRoutine r)) }
  | none => return g

def callExpr (engine : Engine) (callee : Expr) (arguments : List Argument)
    (body : Option (Routine Node)) : Rendering Datum := do
  let line := (Expr.call callee arguments).lastLine
  match callee with
  | .name name _ =>
    let g ← givenWith engine arguments body
    located line (callName engine name g)
  | .attribute (.name "self" _) name =>
    let (_, text) ← captured (located line (callBlock engine name))
    capturedDatum text
  | .attribute subject name =>
    let d ← engine.eval subject
    let g ← givenWith engine arguments body
    located line (callMethod engine d name g)
  | callee =>
    let d ← engine.eval callee
    let g ← givenWith engine arguments body
    located line (callDatum engine d g)

def applyTo (engine : Engine) (line : Nat) (d : Datum) (name : String)
    (arguments : List Argument) : Rendering Datum := do
  let g ← (← given engine arguments).after d |>.settled
  let m ← get
  located line (ofOutcome (applyFilter m.escape name g))

def evalOption (engine : Engine) (byDefault : Datum) : Option Expr → Rendering Datum
  | none => return byDefault
  | some e => engine.eval e

-- A negated number is a number of its own.
def negate (e : Expr) (d : Datum) : Rendering Datum := do
  located e.lastLine (ofOutcome d.negative)

def evalStep (engine : Engine) (e : Expr) : Rendering Datum := do
  match e with
  | .literal value _ => return value.datum
  | .name name _ => return ((← get).lookUp? name).getD .undefined
  | .binary op left right =>
    let a ← settled (← engine.eval left)
    let b ← settled (← engine.eval right)
    located e.lastLine (ofOutcome (op.apply a b))
  | .both left right =>
    let a ← engine.eval left
    if (← settled a).isTrue then engine.eval right else return a
  | .either left right =>
    let a ← engine.eval left
    if (← settled a).isTrue then return a else engine.eval right
  | .opposite e => return .bool !(← settled (← engine.eval e)).isTrue
  | .negative e => negate e (← engine.eval e)
  | .choice test chosen otherwise =>
    if (← settled (← engine.eval test)).isTrue then engine.eval chosen
    else evalOption engine .undefined otherwise
  | .attribute subject name =>
    let d ← engine.eval subject
    located e.lastLine (found d ((← get).attribute? d name))
  | .item subject index =>
    let d ← engine.eval subject
    let key ← engine.eval index
    located e.lastLine (found d ((← get).item? d key))
  | .slice subject start stop step =>
    let d ← settled (← engine.eval subject)
    let a ← evalOption engine (.integer 0) start
    let b ← evalOption engine .nothing stop
    let c ← evalOption engine (.integer 1) step
    let a := if start.isNone then Datum.nothing else a
    located e.lastLine (ofOutcome (slice d a b c))
  | .filter subject name arguments _ =>
    let d ← evalOption engine .undefined subject
    applyTo engine e.lastLine d name arguments
  | .test subject name arguments =>
    let d ← engine.eval subject
    let g ← (← given engine arguments).after d |>.settled
    return .bool (← located e.lastLine (ofOutcome (performTest name g)))
  | .call callee arguments => callExpr engine callee arguments none
  | .list items _ => return .list (← items.mapM engine.eval)
  | .map entries _ =>
    let entries ← entries.mapM fun (key, value) => do
      return (← engine.eval key, ← engine.eval value)
    return .ofEntries entries

end RowPress.Template
