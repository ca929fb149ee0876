import RowPress.Decimal.Nearest
import RowPress.Template.Datum
/-!
Comparing values. The order is total: values of different kinds stand in the order of their kinds,
and doubles in the order of their bits. Equality is looser, as it lets truth values be numbers.
-/
namespace RowPress.Template

def minInt128 : Int := -(Decimal.twoTo 127)

def maxInt128 : Int := Decimal.twoTo 127 - 1

def fitsInt128 (n : Int) : Bool := minInt128 ≤ n && n ≤ maxInt128

def nearestDouble (n : Int) : Float := Decimal.nearest (n < 0) n.natAbs 1

-- The integer that a double is exactly, if it is one.
def wholeOf? (x : Float) : Option Int :=
  match Decimal.kind x with
  | .finite parts =>
    let magnitude? : Option Nat :=
      if 0 ≤ parts.power then some (parts.significand * Decimal.twoTo parts.power.toNat)
      else
        let unit := Decimal.twoTo (-parts.power).toNat
        if parts.significand % unit = 0 then some (parts.significand / unit) else none
    magnitude?.map fun m => if parts.negative then -(m : Int) else m
  | _ => none

-- Two values on common ground: as integers, or as doubles if one of them is a double.
inductive Common where
  | integers (a b : Int)
  | decimals (a b : Float)

-- Without `lossy` an integer becomes a double only if that is exact.
def toDouble? (lossy : Bool) : Datum → Option Float
  | .bool b => some (if b then 1.0 else 0.0)
  | .integer n =>
    let x := nearestDouble n
    if lossy || wholeOf? x == some n then some x else none
  | .decimal x => some x
  | _ => none

-- A double counts as an integer if it has no fraction and fits 64 bits.
def toInteger? : Datum → Option Int
  | .bool b => some (if b then 1 else 0)
  | .integer n => if fitsInt128 n then some n else none
  | .decimal x => (wholeOf? x).filter fun n => -(Decimal.twoTo 63) ≤ n && n < Decimal.twoTo 63
  | _ => none

def common? (lossy : Bool) (a b : Datum) : Option Common :=
  match a, b with
  | .decimal x, b => (toDouble? lossy b).map (.decimals x ·)
  | a, .decimal y => (toDouble? lossy a).map (.decimals · y)
  | a, b => do return .integers (← toInteger? a) (← toInteger? b)

-- Negative zero comes before zero, and what is no number stands at the ends.
def totalKey (x : Float) : Int :=
  let bits := x.toBits.toNat
  if Decimal.twoTo 63 ≤ bits then Decimal.twoTo 63 - 1 - (bits : Int) else bits

def compareNumbers (a b : Datum) : Ordering :=
  match common? false a b with
  | some (.integers m n) => compare m n
  | some (.decimals x y) => compare (totalKey x) (totalKey y)
  | none =>
    compare (totalKey ((toDouble? true a).getD 0.0)) (totalKey ((toDouble? true b).getD 0.0))

mutual

def Datum.compare : Datum → Datum → Ordering
  | .text s _, .text t _ => Ord.compare s t
  | .list xs, .list ys => compareItems xs ys
  | .list xs, .group ys => compareItems xs ys
  | .group xs, .list ys => compareItems xs ys
  | .group xs, .group ys => compareItems xs ys
  | .stream xs _, .stream ys _ => compareItems xs ys
  | .map xs, .map ys => compareEntries xs ys
  | .shown s, .shown t => Ord.compare s t
  | a, b =>
    if a.kind.rank = b.kind.rank then
      match a.kind with
      | .bool | .number => compareNumbers a b
      | _ => .eq
    else Ord.compare a.kind.rank b.kind.rank

def compareItems : List Datum → List Datum → Ordering
  | [], [] => .eq
  | [], _ :: _ => .lt
  | _ :: _, [] => .gt
  | x :: xs, y :: ys => (x.compare y).then (compareItems xs ys)

def compareEntries : List (Datum × Datum) → List (Datum × Datum) → Ordering
  | [], [] => .eq
  | [], _ :: _ => .lt
  | _ :: _, [] => .gt
  | (k, v) :: xs, (l, w) :: ys => ((k.compare l).then (v.compare w)).then (compareEntries xs ys)

end

mutual

def Datum.equals : Datum → Datum → Bool
  | .undefined, .undefined => true
  | .nothing, .nothing => true
  | .text s _, .text t _ => s == t
  | .list xs, .list ys => equalItems xs ys
  | .list xs, .group ys => equalItems xs ys
  | .list xs, .stream ys _ => equalItems xs ys
  | .group xs, .list ys => equalItems xs ys
  | .group xs, .group ys => equalItems xs ys
  | .group xs, .stream ys _ => equalItems xs ys
  | .stream xs _, .list ys => equalItems xs ys
  | .stream xs _, .group ys => equalItems xs ys
  | .stream xs _, .stream ys _ => equalItems xs ys
  | .map xs, .map ys => equalEntries xs ys
  | .loop m, .loop n => m == n
  | .store m, .store n => m == n
  | .routine m _, .routine n _ => m == n
  | .builtin f, .builtin g => f == g
  | .shown s, .shown t => s == t
  | a, b =>
    match common? false a b with
    | some (.integers m n) => m == n
    | some (.decimals x y) => x == y
    | none => false

def equalItems : List Datum → List Datum → Bool
  | [], [] => true
  | x :: xs, y :: ys => x.equals y && equalItems xs ys
  | _, _ => false

def equalEntries : List (Datum × Datum) → List (Datum × Datum) → Bool
  | [], [] => true
  | (k, v) :: xs, (l, w) :: ys => k.compare l == .eq && v.equals w && equalEntries xs ys
  | _, _ => false

end

-- Puts an entry where its key belongs; a key that is there takes the new value.
def putEntry (key value : Datum) : List (Datum × Datum) → List (Datum × Datum)
  | [] => [(key, value)]
  | (k, v) :: rest =>
    match key.compare k with
    | .lt => (key, value) :: (k, v) :: rest
    | .eq => (k, value) :: rest
    | .gt => (k, v) :: putEntry key value rest

def entryOf? (key : Datum) (entries : List (Datum × Datum)) : Option Datum :=
  (entries.find? fun (k, _) => k.compare key == .eq).map (·.2)

namespace Datum

def ofEntries (entries : List (Datum × Datum)) : Datum :=
  .map (entries.foldl (fun m (k, v) => putEntry k v m) [])

def ofNamed (entries : List (String × Datum)) : Datum :=
  ofEntries (entries.map fun (k, v) => (.ofText k, v))

end Datum

def datumOfScalar : Scalar → Datum
  | .bool b => .bool b
  | .integer n => .integer n.toInt
  | .decimal x => .decimal x
  | .text s => .ofText s

mutual

def datumOfValue : Value → Datum
  | .scalar s => datumOfScalar s
  | .sequence items => .list (dataOfItems items)
  | .map entries => .ofEntries (dataOfEntries entries)

def dataOfItems : List Value → List Datum
  | [] => []
  | item :: rest => datumOfValue item :: dataOfItems rest

def dataOfEntries : List (String × Value) → List (Datum × Datum)
  | [] => []
  | (key, value) :: rest => (.ofText key, datumOfValue value) :: dataOfEntries rest

end

-- The index that a number names in a row of the given length; a negative one counts from the end.
def indexIn? (length : Option Nat) (key : Datum) : Option Nat :=
  match toInteger? key with
  | some n =>
    if 0 ≤ n then some n.toNat
    else length.bind fun size => if n.natAbs ≤ size then some (size - n.natAbs) else none
  | none => none

namespace Datum

def attribute? (d : Datum) (name : String) : Option Datum :=
  match d with
  | .map entries => entryOf? (.ofText name) entries
  | .group parts =>
    if name == "grouper" then parts[0]? else if name == "list" then parts[1]? else none
  | _ => none

def item? (d key : Datum) : Option Datum :=
  match d with
  | .map entries => entryOf? key entries
  | .list items => (indexIn? (some items.length) key).bind (items[·]?)
  | .stream items sized =>
    (indexIn? (if sized then some items.length else none) key).bind (items[·]?)
  | .group parts =>
    match key with
    | .text name _ => d.attribute? name
    | key => (indexIn? (some 2) key).bind (parts[·]?)
  | .text s _ => (indexIn? (some s.length) key).bind fun i => (characters s)[i]?
  | _ => none

end Datum

end RowPress.Template
