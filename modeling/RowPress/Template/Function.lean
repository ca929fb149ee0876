import RowPress.Template.Machine
/-! The functions that every template can call. -/
namespace RowPress.Template

open Taking

namespace Function

def maxRange : Nat := 100000

-- How many steps lead from one number up or down to another, without reaching it.
def stepCount (start stop step : Int) : Nat :=
  if 0 < step then ((stop - start + step - 1) / step).toNat
  else ((start - stop - step - 1) / -step).toNat

def range : Taking Datum := do
  let a ← (long (← datum) : Outcome Int)
  let b ← optional long
  let step := (← optional long).getD 1
  let (start, stop) := match b with
    | some b => (a, b)
    | none => (0, a)
  if step = 0 then refuse (.of .badOperation "cannot create range with step of 0")
  let count := stepCount start stop step
  if maxRange < count then refuse (.of .badOperation "range has too many elements")
  return .stream ((List.range count).map fun (i : Nat) => .integer (start + (i : Int) * step)) true

def dict : Taking Datum := do
  let given ← optionalDatum
  let entries ← match given with
    | none | some .undefined => pure []
    | some (.map entries) => pure entries
    | some _ => refuse (.bare .badOperation)
  let named := (← get).named.map fun (k, v) => (Datum.ofText k, v)
  return .ofEntries (entries ++ named)

-- The first values of a store: a map, or named arguments.
def storeEntries (g : Given) : Outcome Variables :=
  match g.flat with
  | [] => .ok []
  | [.undefined] | [.nothing] => .ok []
  | [.map entries] => .ok (entries.foldl (fun vs (k, v) => match k with
    | .text name _ => vs.put name v
    | _ => vs) [])
  | [d] => invalid s!"expected object or keyword arguments, got {d.kind.name}"
  | _ => .error (.bare .tooManyArguments)

def store (g : Given) : Rendering Datum := do
  let entries ← (storeEntries g : Outcome Variables)
  let id := (← get).stores.size
  modify fun m => { m with stores := m.stores.push entries }
  return .store id

-- Values over several lines, and without any the variables that can be seen. What the engine says
-- of itself besides these is not known here.
def debug (g : Given) : Rendering Datum := do
  match g.flat with
  | [] =>
    let m ← get
    return .ofText ((Datum.ofNamed m.visible).pretty 0)
  | [d] => return .ofText (d.pretty 0)
  | ds => return .ofText (prettyList 0 ds)

end Function

def Builtin.call (f : Builtin) (g : Given) : Rendering Datum :=
  match f with
  | .range => Rendering.ofOutcome (Function.range.run g)
  | .dict => Rendering.ofOutcome (Function.dict.runNamed g)
  | .store => Function.store g
  | .debug => Function.debug g

end RowPress.Template
