import RowPress.Template.Evaluation
/-!
Rendering the nodes of a template, one level deep, and the engine that ties all levels together.
-/
namespace RowPress.Template

open Rendering

-- The filters of a chain that has no subject of its own, applied to a value.
def applyChain (engine : Engine) (subject : Datum) : Expr → Rendering Datum
  | .filter (some inner) name arguments line => do
    let d ← applyChain engine subject inner
    applyTo engine (Expr.filter (some inner) name arguments line).lastLine d name arguments
  | .filter none name arguments line =>
    applyTo engine (Expr.filter none name arguments line).lastLine subject name arguments
  | e => engine.eval e

def emitDatum (line : Nat) (d : Datum) : Rendering Unit := do
  let d ← settled d
  let m ← get
  emit (← located line (ofOutcome (m.escape.write d)))

-- The items for which a condition holds, each tried in one frame for all.
def filteredItems (engine : Engine) (target : Target) (condition : Expr) (items : List Datum) :
    Rendering (List Datum) :=
  inFrame .empty <| items.filterM fun item => do
    assignTo engine target item
    return (← settled (← engine.eval condition)).isTrue

def execLoop (engine : Engine) (target : Target) (source : Expr) (condition : Option Expr)
    (recursive : Bool) (body otherwise : List Node) : Rendering Flow := do
  let d ← settled (← engine.eval source)
  let all ← located source.lastLine (ofOutcome (elements d))
  let items ← match condition with
    | some e => filteredItems engine target e all
    | none => pure all
  let sized := condition.isSome || d.isSized || d.isAbsent
  located source.lastLine (runLoop engine target body recursive items sized)
  if items.isEmpty then engine.exec otherwise else return .on

def execBindings (engine : Engine) : List (Target × Expr) → Rendering Unit
  | [] => return ()
  | (target, e) :: rest => do
    assignTo engine target (← engine.eval e)
    execBindings engine rest

-- What a tag says about escaping: a name of a mode, or a truth value.
def escapeOf (d : Datum) : Outcome Escape :=
  match d with
  | .text "html" _ => .ok .html
  | .text "json" _ => .ok .json
  | .text "none" _ => .ok .off
  | .text _ _ => invalid "invalid value to autoescape tag"
  | d => .ok (if d.equals (.bool true) then .html else .off)

def withEscape (mode : Escape) (x : Rendering α) : Rendering α := do
  let before := (← get).escape
  modify fun m => { m with escape := mode }
  let a ← x
  modify fun m => { m with escape := before }
  return a

mutual

-- The blocks of a template, those inside other blocks too.
def blocksOf : Node → List (String × List Node)
  | .block name body _ => blocksOfAll body ++ [(name, body)]
  | .loop _ _ _ _ body otherwise => blocksOfAll body ++ blocksOfAll otherwise
  | .branch _ body otherwise => blocksOfAll body ++ blocksOfAll otherwise
  | .scope _ body => blocksOfAll body
  | .capture _ _ body => blocksOfAll body
  | .escaping _ body => blocksOfAll body
  | .filtered _ body => blocksOfAll body
  | _ => []

def blocksOfAll : List Node → List (String × List Node)
  | [] => []
  | node :: rest => blocksOf node ++ blocksOfAll rest

end

-- A template's blocks come after those that are there under the same name.
def addBlocks (template : Compiled) (blocks : List (String × BlockStack)) :
    List (String × BlockStack) :=
  (blocksOfAll template.nodes).foldl (fun blocks (name, body) =>
    if blocks.any (·.1 == name) then
      blocks.map fun (n, s) =>
        if n == name then (n, { s with bodies := s.bodies ++ [(template.name, body)] }) else (n, s)
    else blocks ++ [(name, ⟨[(template.name, body)], 0⟩)]) blocks

def templateName (d : Datum) : Outcome String :=
  match d with
  | .text s _ => .ok s
  | _ => invalid "template name was not a string"

def execInheriting (d : Datum) : Rendering Unit := do
  let m ← get
  if m.parent.isSome then
    fail (.of .badOperation "tried to extend a second time in a template")
  let name ← (templateName d : Outcome String)
  if m.inherited.contains name then
    fail (.of .badOperation
      s!"cycle in template inheritance. {Text.quoted name} was referenced more than once")
  match m.compiled? name with
  | none =>
    fail (.of .templateNotFound s!"template {Text.quoted name} does not exist")
  | some template =>
    set { m with
      parent := some ⟨template, m.dropping⟩
      dropping := true
      inherited := name :: m.inherited
      blocks := addBlocks template m.blocks }

-- Renders nodes to their end, then what they inherit from. No template is inherited twice, so the
-- number of templates bounds the rounds.
def execInherited (engine : Engine) : Nat → List Node → Rendering Unit
  | 0, _ => return ()
  | rounds + 1, nodes => do
    discard (engine.exec nodes)
    match (← get).parent with
    | none => return ()
    | some parent =>
      modify fun m => { m with
        parent := none
        dropping := parent.wasDropping
        template := parent.template.name }
      execInherited engine rounds parent.template.nodes

def execTemplate (engine : Engine) (template : Compiled) : Rendering Unit := do
  let rounds := (← get).library.count + 1
  modify fun m => { m with
    template := template.name
    parent := none
    inherited := [template.name]
    blocks := addBlocks template [] }
  execInherited engine rounds template.nodes

-- Another template in the place of a tag. It sees all variables, and those it sets stay set.
def execIncluded (engine : Engine) (template : Compiled) : Rendering Unit := fun m =>
  let run : Rendering Unit := do
    modifyFrame fun frame => { frame with closure := none }
    modify fun now => { now with outerDepth := now.outerDepth + 10, escape := .off }
    checkDepth
    execTemplate engine template
  match run m with
  | .error _ => .error (.of .badInclude s!"error in {Text.quoted template.name}")
  | .ok ((), now) =>
    let frames := match now.frames, m.frames with
      | frame :: rest, before :: _ => { frame with closure := before.closure } :: rest
      | frames, _ => frames
    .ok ((), { now with
      frames
      outerDepth := m.outerDepth
      escape := m.escape
      template := m.template
      parent := m.parent
      inherited := m.inherited
      blocks := m.blocks
      block := m.block })

-- The first of the named templates that there is, and the names that were tried before it.
def firstCompiled (m : Machine) : List Datum → List Datum → Outcome (Option Compiled × List Datum)
  | tried, [] => .ok (none, tried.reverse)
  | tried, d :: rest => do
    let name ← templateName d
    match m.compiled? name with
    | some template => return (some template, tried.reverse)
    | none => firstCompiled m (d :: tried) rest

def execInclusion (engine : Engine) (d : Datum) (isOptional : Bool) : Rendering Unit := do
  let d ← settled d
  let m ← get
  let choices := d.items?.getD [d]
  match ← (firstCompiled m [] choices : Outcome (Option Compiled × List Datum)) with
  | (some template, _) => execIncluded engine template
  | (none, tried) =>
    if isOptional || tried.isEmpty then return ()
    match tried with
    | [one] =>
      fail (.of .templateNotFound s!"tried to include non-existing template {one.nested}")
    | tried =>
      let names := (Datum.list tried).display
      fail (.of .templateNotFound
        s!"tried to include one of multiple templates, none of which existed {names}")

-- Renders a template for its variables only; what it writes is dropped.
def inLibrary (engine : Engine) (template : Expr) (line : Nat) (x : Rendering α) : Rendering α :=
  dropped <| inFrame .empty do
    let d ← engine.eval template
    located line (execInclusion engine d false)
    x

def frameVariables : Rendering Variables :=
  return (((← get).frames.head?).map (·.locals)).getD []

def execNode (engine : Engine) (node : Node) : Rendering Flow := do
  match node with
  | .data text => emit text; return .on
  | .output e line =>
    let d ← engine.eval e
    emitDatum (max line e.lastLine) d
    return .on
  | .loop target source condition recursive body otherwise =>
    execLoop engine target source condition recursive body otherwise
  | .branch test body otherwise =>
    if (← settled (← engine.eval test)).isTrue then engine.exec body else engine.exec otherwise
  | .scope bindings body =>
    inFrame .empty do
      execBindings engine bindings
      engine.exec body
  | .assign target value =>
    assignTo engine target (← engine.eval value)
    return .on
  | .capture target filter body =>
    let (flow, text) ← captured (engine.exec body)
    let d ← capturedDatum text
    let d ← match filter with
      | some e => applyChain engine d e
      | none => pure d
    assignTo engine target d
    return flow
  | .escaping mode body =>
    let d ← settled (← engine.eval mode)
    let mode' ← located mode.lastLine (ofOutcome (escapeOf d))
    withEscape mode' (engine.exec body)
  | .filtered filter body =>
    let (flow, text) ← captured (engine.exec body)
    let d ← applyChain engine (← capturedDatum text) filter
    emitDatum filter.lastLine d
    return flow
  | .block name _ line =>
    located line (callBlock engine name)
    return .on
  | .inheriting template line =>
    let d ← engine.eval template
    located line (execInheriting d)
    return .on
  | .inclusion template isOptional line =>
    let d ← engine.eval template
    located line (execInclusion engine d isOptional)
    return .on
  | .library template target line =>
    let contents ← inLibrary engine template line frameVariables
    assignTo engine target (.ofNamed contents)
    return .on
  | .libraryNames template names line =>
    let values ← inLibrary engine template line do
      let m ← get
      return names.map fun (name, own) => (own, (m.lookUp? name).getD .undefined)
    values.forM fun (own, d) => store own d
    return .on
  | .routine r =>
    store r.name (← defineRoutine r)
    return .on
  | .callWith callee arguments body =>
    let d ← callExpr engine callee arguments (some body)
    emitDatum (Expr.call callee arguments).lastLine d
    return .on
  | .perform call =>
    discard (engine.eval call)
    return .on
  | .leave => return .leave
  | .next => return .next

-- The nodes one after the other, up to one that leaves the surrounding loop or goes on with it.
def execStep (engine : Engine) : List Node → Rendering Flow
  | [] => return .on
  | node :: rest => do
    match ← execNode engine node with
    | .on => execStep engine rest
    | flow => return flow

-- Evaluates and renders down to the given number of levels.
def engine : Nat → Engine
  | 0 =>
    ⟨fun _ => fail (.of .badOperation "recursion limit exceeded"),
      fun _ => fail (.of .badOperation "recursion limit exceeded")⟩
  | levels + 1 =>
    ⟨fun e m => evalStep (engine levels) e m, fun nodes m => execStep (engine levels) nodes m⟩

-- No tree is deeper than its source is long, and every way back to the top of one counts as a
-- level of depth, of which there are only so many.
def levelsFor (library : Library) : Nat := (maxDepth + 2) * (library.largest + 2)

def renderTemplate (library : Library) (template : Compiled) (model : Variables) :
    Outcome String := do
  let ((), m) ← (execTemplate (engine (levelsFor library)) template).run
    (.start library template model)
  return m.output

end RowPress.Template
