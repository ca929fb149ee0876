import RowPress.Value.Basic
/-!
The values that a template computes with. Maps keep their entries in the order of their keys. What
changes while a template is rendered (loops, stores and routines) is known by a number.
-/
namespace RowPress.Template

-- The functions that every template can call.
inductive Builtin where
  | range | dict | store | debug
deriving DecidableEq

inductive Datum where
  | undefined
  | nothing
  | bool (b : Bool)
  | integer (n : Int)
  | decimal (x : Float)
  -- A safe text is never escaped again.
  | text (s : String) (safe : Bool)
  | list (items : List Datum)
  -- What can be gone through but is no list. Its length may be unknown.
  | stream (items : List Datum) (sized : Bool)
  | map (entries : List (Datum × Datum))
  -- What items have in common, and a stream of them.
  | group (parts : List Datum)
  | loop (id : Nat)
  | store (id : Nat)
  | routine (id : Nat) (name : String)
  | builtin (f : Builtin)
  -- An object of which only its display is known.
  | shown (text : String)

instance : Inhabited Datum := ⟨.undefined⟩

-- Kinds in the order in which values of different kinds are sorted.
inductive Kind where
  | undefined | none | bool | number | text | sequence | map | stream | object
deriving DecidableEq

def Kind.name : Kind → String
  | .undefined => "undefined"
  | .none => "none"
  | .bool => "bool"
  | .number => "number"
  | .text => "string"
  | .sequence => "sequence"
  | .map => "map"
  | .stream => "iterator"
  | .object => "plain object"

def Kind.rank : Kind → Nat
  | .undefined => 0
  | .none => 1
  | .bool => 2
  | .number => 3
  | .text => 4
  | .sequence => 5
  | .map => 6
  | .stream => 7
  | .object => 8

namespace Datum

def ofText (s : String) : Datum := .text s false

def kind : Datum → Kind
  | .undefined => .undefined
  | .nothing => .none
  | .bool _ => .bool
  | .integer _ | .decimal _ => .number
  | .text _ _ => .text
  | .list _ | .group _ => .sequence
  | .stream _ _ => .stream
  | .map _ | .loop _ | .store _ => .map
  | .routine _ _ | .builtin _ | .shown _ => .object

def isUndefined : Datum → Bool
  | .undefined => true
  | _ => false

def isNothing : Datum → Bool
  | .nothing => true
  | _ => false

def isAbsent (d : Datum) : Bool := d.isUndefined || d.isNothing

-- The items of what is a sequence or a stream.
def items? : Datum → Option (List Datum)
  | .list items | .stream items _ | .group items => some items
  | _ => none

def characters (s : String) : List Datum := s.toList.map fun c => .ofText (String.singleton c)

-- What a loop over the value goes through. Nothing is there to go through in an absent value.
def elements? : Datum → Option (List Datum)
  | .undefined | .nothing => some []
  | .text s _ => some (characters s)
  | .map entries => some (entries.map (·.1))
  | d => d.items?

def isTrue : Datum → Bool
  | .undefined | .nothing => false
  | .bool b => b
  | .integer n => n != 0
  | .decimal x => x != 0.0
  | .text s _ => !s.isEmpty
  | .list items | .stream items true => !items.isEmpty
  | .map entries => !entries.isEmpty
  | _ => true

def length? : Datum → Option Nat
  | .text s _ => some s.length
  | .list items | .group items | .stream items true => some items.length
  | .map entries => some entries.length
  | _ => none

end Datum

end RowPress.Template
