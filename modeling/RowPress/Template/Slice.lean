import RowPress.Template.Arithmetic
/-!
Slices: the items from a start up to a stop, in steps. Negative positions count from the end, and
with a negative step the items come backwards.
-/
namespace RowPress.Template

def mismatch (d : Datum) (target : String) : Outcome α :=
  invalid s!"cannot convert {d.kind.name} to {target}"

-- A number within the bounds of a machine type.
def integerWithin (low high : Int) (target : String) (d : Datum) : Outcome Int :=
  match toInteger? d with
  | some n => if low ≤ n && n ≤ high then .ok n else mismatch d target
  | none => mismatch d target

-- A signed number of so many bits, with one bit for the sign.
def signedOf (bits : Nat) (target : String) : Datum → Outcome Int :=
  integerWithin (-(Decimal.twoTo (bits - 1))) (Decimal.twoTo (bits - 1) - 1) target

def position (d : Datum) : Outcome (Option Int) :=
  if d.isNothing then .ok none else some <$> signedOf 64 "i64" d

-- A position moved into a range, after a negative one is counted from the end.
def clamped (size low high : Int) (n : Int) : Int :=
  max low (min high (if n < 0 then n + size else n))

-- Every `step`-th item, the first one included. The fuel bounds the number of items.
def everyNth (step : Nat) : Nat → List α → List α
  | 0, _ => []
  | _, [] => []
  | fuel + 1, item :: rest => item :: everyNth step fuel (rest.drop (step - 1))

def sliceItems (items : List α) (start stop : Option Int) (step : Int) : List α :=
  let size : Int := items.length
  if 0 < step then
    let first := ((start.map (clamped size 0 size)).getD 0).toNat
    let last := ((stop.map (clamped size 0 size)).getD size).toNat
    everyNth step.toNat items.length ((items.take last).drop first)
  else
    let first := (start.map (clamped size (-1) (size - 1))).getD (size - 1)
    let last := (stop.map (clamped size (-1) (size - 1))).getD (-1)
    everyNth (-step).toNat items.length ((items.take (first + 1).toNat).drop (last + 1).toNat).reverse

def slice (d start stop step : Datum) : Outcome Datum := do
  let first ← position start
  let last ← position stop
  let by' ← position step
  let stride := by'.getD 1
  if stride = 0 then invalid "cannot slice by step size of 0"
  match d with
  | .text s _ => return .ofText (String.ofList (sliceItems s.toList first last stride))
  | .undefined | .nothing => return .list []
  | d =>
    match d.items? with
    | some items => return .stream (sliceItems items first last stride) true
    | none => invalid s!"value of type {d.kind.name} cannot be sliced"

end RowPress.Template
