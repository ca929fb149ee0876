import RowPress.Template.Given
import RowPress.Text.Case
/-! Filters on sequences, streams and maps. -/
namespace RowPress.Template.Filter

open Taking

def lift (x : Outcome α) : Taking α := StateT.lift x

def length : Taking Datum := do
  let d ← datum
  match d.length? with
  | some n => return .integer n
  | none =>
    refuse (.of .badOperation s!"cannot calculate length of value of type {d.kind.name}")

-- Texts are sorted without regard to the case of ASCII letters, unless it is asked for.
def compareFor (sensitive : Bool) (a b : Datum) : Ordering :=
  match sensitive, a, b with
  | false, .text s _, .text t _ =>
    compare (String.ofList (s.toList.map Text.asciiLower))
      (String.ofList (t.toList.map Text.asciiLower))
  | _, a, b => a.compare b

-- Items that compare equal keep their order.
def sortBy (order : α → α → Ordering) (items : List α) : List α :=
  items.mergeSort fun a b => order a b != .gt

def pairOf (key value : Datum) : Datum := .list [key, value]

def entriesOf (d : Datum) : Taking (List (Datum × Datum)) :=
  match d with
  | .map entries => return entries
  | _ => refuse (.of .badOperation "cannot convert value into pair list")

def sortsByValue (by' : Option String) : Taking Bool :=
  match by' with
  | none | some "key" => return false
  | some "value" => return true
  | some other => refuse (.of .badOperation s!"invalid value '{other}' for 'by' parameter")

def dictsort : Taking Datum := do
  let entries ← entriesOf (← datum)
  let byValue ← sortsByValue (← named "by" exactText)
  let sensitive := (← named "case_sensitive" flag).getD false
  let reversed := (← named "reverse" flag).getD false
  onlyNamed ["by", "case_sensitive", "reverse"]
  let part (entry : Datum × Datum) : Datum := if byValue then entry.2 else entry.1
  let sorted := sortBy (fun a b => compareFor sensitive (part a) (part b)) entries
  return .list ((if reversed then sorted.reverse else sorted).map fun (k, v) => pairOf k v)

def items : Taking Datum := do
  return .stream ((← entriesOf (← datum)).map fun (k, v) => pairOf k v) true

def reverse : Taking Datum := do
  match ← datum with
  | .undefined => return .undefined
  | .nothing => return .nothing
  | .text s _ => return .ofText (String.ofList s.toList.reverse)
  | .map entries => return .stream (entries.map (·.1)).reverse true
  | d =>
    match d.items? with
    | some items => return .stream items.reverse true
    | none => refuse (.of .badOperation s!"cannot reverse values of type {d.kind.name}")

def byDefault : Taking Datum := do
  let d ← datum
  let other ← optional any
  let lax := (← optional flag).getD false
  return if d.isUndefined || (lax && !d.isTrue) then other.getD (.ofText "") else d

def attr : Taking Datum := do
  let d ← datum
  let key ← datum
  lift (lookUp d (d.item? key))

def first : Taking Datum := do
  match ← datum with
  | .text s _ => return (Datum.characters s).head?.getD .undefined
  | .map entries => return ((entries.head?).map (·.1)).getD .undefined
  | d =>
    match d.items? with
    | some items => return items.head?.getD .undefined
    | none => refuse (.of .badOperation "cannot get first item from value")

def last : Taking Datum := do
  match ← datum with
  | .text s _ => return (Datum.characters s).getLast?.getD .undefined
  | d =>
    match d.items? with
    | some items => return items.getLast?.getD .undefined
    | none => refuse (.of .badOperation "cannot get last item from value")

def listMessage : String := "cannot convert value to list"

-- Of several least values the first one.
def min : Taking Datum := do
  let items ← lift (elementsOr (← datum) listMessage)
  return (items.foldl (fun least d => match least with
    | none => some d
    | some m => if d.compare m == .lt then some d else some m) none).getD .undefined

-- Of several greatest values the last one.
def max : Taking Datum := do
  let items ← lift (elementsOr (← datum) listMessage)
  return (items.foldl (fun greatest d => match greatest with
    | none => some d
    | some m => if d.compare m == .lt then some m else some d) none).getD .undefined

-- Values are compared by one attribute after the other.
def compareBy (sensitive : Bool) (paths : List String) (a b : Datum) : Ordering :=
  match paths with
  | [] => .eq
  | dotted :: rest =>
    (match path a dotted, path b dotted with
      | .ok x, .ok y => compareFor sensitive x y
      | _, _ => .eq).then (compareBy sensitive rest a b)

def sort : Taking Datum := do
  let items ← lift (elementsOr (← datum) listMessage)
  let sensitive := (← named "case_sensitive" flag).getD false
  let wanted ← named "attribute" exactText
  let reversed := (← named "reverse" flag).getD false
  onlyNamed ["case_sensitive", "attribute", "reverse"]
  let sorted := match wanted with
    | some dotted => sortBy (compareBy sensitive (dotted.splitOn ",")) items
    | none => sortBy (compareFor sensitive) items
  return .list (if reversed then sorted.reverse else sorted)

def list : Taking Datum := return .list (← lift (elementsOr (← datum) listMessage))

def inBatches (count : Nat) (fill : Option Datum) : Nat → List Datum → List Datum
  | 0, _ => []
  | _, [] => []
  | fuel + 1, items =>
    let part := items.take count
    let missing := count - part.length
    .list (part ++ (fill.map (List.replicate missing)).getD [])
      :: inBatches count fill fuel (items.drop count)

def countOf (d : Datum) : Taking Nat := do
  let count ← lift (size d)
  if count = 0 then refuse (.of .badOperation "count cannot be 0") else return count

def batch : Taking Datum := do
  let d ← datum
  let count ← countOf (← datum)
  let fill ← optional any
  let items ← lift (elements d)
  return .list (inBatches count fill items.length items)

-- The first slices take what is left over of an even division; the others are filled up.
def inSlices (fill : Option Datum) (each : Nat) (extra : Nat) : Nat → List Datum → List Datum
  | 0, _ => []
  | more + 1, items =>
    let taken := if 0 < extra then each + 1 else each
    let part := items.take taken
    let filler := if extra = 0 then fill.toList else []
    .list (part ++ filler) :: inSlices fill each (extra - 1) more (items.drop taken)

def slices : Taking Datum := do
  let d ← datum
  let count ← countOf (← datum)
  let fill ← optional any
  let items ← lift (elements d)
  return .list (inSlices fill (items.length / count) (items.length % count) count items)

-- Undefined values count nothing.
def addNumber (total d : Datum) : Outcome Datum :=
  if d.isUndefined then .ok total
  else if d.kind = .number then total.add d
  else invalid s!"can only sum numbers, got {d.kind.name}"

def sum : Taking Datum := do
  let items ← lift (elements (← datum))
  lift (items.foldlM addNumber (.integer 0))

-- Runs of neighbours that have the same value at a path.
def runs (sensitive : Bool) : List (Datum × Datum) → List (Datum × List Datum)
  | [] => []
  | (key, item) :: rest =>
    match runs sensitive rest with
    | (next, items) :: more =>
      if compareFor sensitive key next == .eq then (next, item :: items) :: more
      else (key, [item]) :: (next, items) :: more
    | [] => [(key, [item])]

def groupby : Taking Datum := do
  let d ← datum
  let positional ← optional exactText
  let other := (← named "default" any).getD .undefined
  let sensitive := (← named "case_sensitive" flag).getD false
  let wanted ← match positional with
    | some dotted => pure dotted
    | none =>
      match ← namedDatum "attribute" with
      | some given => lift (exactText given)
      | none => refuse (.of .missingArgument "missing keyword argument 'attribute'")
  let keyed := (← lift (elements d)).map fun item => (pathOr item wanted other, item)
  onlyNamed ("default" :: "case_sensitive" :: if positional.isNone then ["attribute"] else [])
  let sorted := sortBy (fun a b => compareFor sensitive a.1 b.1) keyed
  return .list ((runs sensitive sorted).map fun (key, items) =>
    .group [key, .stream items true])

def withoutRepeats (seen : List Datum) : List (Datum × Datum) → List Datum
  | [] => []
  | (key, item) :: rest =>
    if seen.any (·.compare key == .eq) then withoutRepeats seen rest
    else item :: withoutRepeats (key :: seen) rest

def unique : Taking Datum := do
  let d ← datum
  let wanted ← named "attribute" exactText
  let sensitive := (← named "case_sensitive" flag).getD false
  onlyNamed ["attribute", "case_sensitive"]
  let key (item : Datum) : Datum :=
    let value := match wanted with
      | some dotted => pathOr item dotted .undefined
      | none => item
    match sensitive, value with
    | false, .text s _ => .ofText (Text.lower s)
    | _, value => value
  return .list (withoutRepeats [] ((← lift (elements d)).map fun item => (key item, item)))

-- Maps are merged, where a later one wins; anything else is gone through one after the other.
def chain : Taking Datum := do
  let parts ← all
  let maps := parts.filterMap fun d => match d with
    | .map entries => some entries
    | _ => none
  if maps.length = parts.length then return .ofEntries maps.flatten
  let rows ← lift (parts.mapM elements)
  if parts.all (·.kind = .sequence) then return .list rows.flatten
  else return .stream rows.flatten (parts.all (·.isSized))

-- Tuples of the items that stand at the same place, as long as every row has one.
def zipRows : Nat → List (List Datum) → List Datum
  | 0, _ => []
  | fuel + 1, rows =>
    match rows.mapM fun row => row.head? with
    | some heads => .list heads :: zipRows fuel (rows.map fun row => row.drop 1)
    | none => []

def zip : Taking Datum := do
  let rows ← lift ((← all).mapM elements)
  return .stream (zipRows ((rows.head?.getD []).length) rows) true

end RowPress.Template.Filter
