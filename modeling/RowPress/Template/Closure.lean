import RowPress.Template.Tree
/-!
The names that a routine takes from its surroundings: those it reads before it has assigned them,
in the order of its text. A routine remembers their values from where it is defined.
-/
namespace RowPress.Template

structure Tracker where
  -- Assigned names, innermost scope first.
  scopes : List (List String)
  found : List String

abbrev Tracking := StateM Tracker

def track (name : String) : Tracking Unit :=
  modify fun t =>
    if t.scopes.any (·.contains name) || t.found.contains name then t
    else { t with found := name :: t.found }

def markAssigned (name : String) : Tracking Unit :=
  modify fun t => { t with scopes := match t.scopes with
    | scope :: rest => (name :: scope) :: rest
    | [] => [[name]] }

def openScope : Tracking Unit := modify fun t => { t with scopes := [] :: t.scopes }

def closeScope : Tracking Unit := modify fun t => { t with scopes := t.scopes.drop 1 }

mutual

def Expr.walk : Expr → Tracking Unit
  | .literal _ _ => return ()
  | .name name _ => track name
  | .binary _ a b => do a.walk; b.walk
  | .both a b => do a.walk; b.walk
  | .either a b => do a.walk; b.walk
  | .opposite e => e.walk
  | .negative e => e.walk
  | .choice test chosen otherwise => do test.walk; chosen.walk; walkOption otherwise
  | .attribute subject _ => subject.walk
  | .item subject index => do subject.walk; index.walk
  | .slice subject start stop step => do
    subject.walk; walkOption start; walkOption stop; walkOption step
  | .filter subject _ arguments _ => do walkOption subject; walkArguments arguments
  | .test subject _ arguments => do subject.walk; walkArguments arguments
  | .call callee arguments => do callee.walk; walkArguments arguments
  | .list items _ => walkExprs items
  | .map entries _ => walkEntries entries

def walkOption : Option Expr → Tracking Unit
  | none => return ()
  | some e => e.walk

def Argument.walk : Argument → Tracking Unit
  | .positional e => e.walk
  | .spread e => e.walk
  | .named _ e => e.walk
  | .spreadNamed e => e.walk

def walkArguments : List Argument → Tracking Unit
  | [] => return ()
  | argument :: rest => do argument.walk; walkArguments rest

def walkExprs : List Expr → Tracking Unit
  | [] => return ()
  | e :: rest => do e.walk; walkExprs rest

def walkEntries : List (Expr × Expr) → Tracking Unit
  | [] => return ()
  | (key, value) :: rest => do key.walk; value.walk; walkEntries rest

end

mutual

def Target.walk : Target → Tracking Unit
  | .name name => markAssigned name
  | .attribute subject _ => subject.walk
  | .several targets _ => walkTargets targets

def walkTargets : List Target → Tracking Unit
  | [] => return ()
  | t :: rest => do t.walk; walkTargets rest

end

def walkBindings : List (Target × Expr) → Tracking Unit
  | [] => return ()
  | (t, e) :: rest => do t.walk; e.walk; walkBindings rest

def walkParameters (parameters : List Parameter) : Tracking Unit := do
  for p in parameters do markAssigned p.name
  for p in parameters do walkOption p.byDefault

mutual

def Node.walk : Node → Tracking Unit
  | .data _ | .leave | .next => return ()
  | .output e _ => e.walk
  | .loop target source filter _ body otherwise => do
    openScope
    markAssigned "loop"
    source.walk
    target.walk
    walkOption filter
    walkNodes body
    closeScope
    openScope
    walkNodes otherwise
    closeScope
  | .branch test body otherwise => do
    test.walk
    openScope
    walkNodes body
    closeScope
    openScope
    walkNodes otherwise
    closeScope
  | .scope bindings body => do
    openScope
    walkBindings bindings
    walkNodes body
    closeScope
  | .assign target value => do target.walk; value.walk
  | .capture target filter body => do
    target.walk
    openScope
    walkNodes body
    closeScope
    walkOption filter
  | .escaping mode body => do
    openScope
    mode.walk
    walkNodes body
    closeScope
  | .filtered filter body => do
    openScope
    walkNodes body
    closeScope
    filter.walk
  | .block _ body _ => do
    openScope
    markAssigned "super"
    walkNodes body
    closeScope
  | .inheriting template _ => template.walk
  | .inclusion template _ _ => template.walk
  | .library template target _ => do template.walk; target.walk
  | .libraryNames template names _ => do
    template.walk
    for (_, own) in names do markAssigned own
  | .routine ⟨name, parameters, body⟩ => do
    markAssigned name
    markAssigned "caller"
    walkParameters parameters
    walkNodes body
  | .callWith callee arguments ⟨_, parameters, body⟩ => do
    callee.walk
    walkArguments arguments
    markAssigned "caller"
    walkParameters parameters
    walkNodes body
  | .perform call => call.walk

def walkNodes : List Node → Tracking Unit
  | [] => return ()
  | node :: rest => do node.walk; walkNodes rest

end

-- The names, among which is `caller` if the routine reads it.
def Routine.freeNames (r : Routine Node) : List String :=
  let walk : Tracking Unit := do
    walkParameters r.parameters
    walkNodes r.body
  (walk.run ⟨[[]], []⟩).2.found.reverse

end RowPress.Template
