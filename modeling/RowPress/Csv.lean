/-!
Records of comma-separated fields. A field between double quotes may hold commas, line breaks and
doubled quotes; a line ends at a carriage return, a line feed or both, and empty lines hold no
record. The reader works on characters and on bytes alike.
-/
namespace RowPress.Csv

inductive Symbol where
  | comma | quote | carriageReturn | lineFeed | other
deriving DecidableEq

def symbolOfPoint (n : Nat) : Symbol :=
  if n = 0x2C then .comma
  else if n = 0x22 then .quote
  else if n = 0x0D then .carriageReturn
  else if n = 0x0A then .lineFeed
  else .other

def symbolOfChar (c : Char) : Symbol := symbolOfPoint c.toNat

def symbolOfByte (b : UInt8) : Symbol := symbolOfPoint b.toNat

-- A record with the number of symbols before it and the line it starts on.
structure Record (α : Type) where
  fields : List (List α)
  start : Nat
  line : Nat

inductive Mode where
  | betweenRecords | afterCarriageReturn | fieldStart | bare | quoted | afterQuote
deriving DecidableEq

-- Fields and records are gathered backwards.
structure Reader (α : Type) where
  mode : Mode
  field : List α
  fields : List (List α)
  offset : Nat
  line : Nat
  start : Nat
  startLine : Nat
  records : List (Record α)

namespace Reader

def initial (skipped : Nat) : Reader α := ⟨.betweenRecords, [], [], skipped, 1, 0, 1, []⟩

def take (r : Reader α) (mode : Mode) (a : α) : Reader α := { r with mode, field := a :: r.field }

def endField (r : Reader α) : Reader α :=
  { r with mode := .fieldStart, field := [], fields := r.field.reverse :: r.fields }

def endRecord (r : Reader α) (mode : Mode) : Reader α :=
  let fields := (r.field.reverse :: r.fields).reverse
  { r with
    mode, field := [], fields := [], start := r.offset, startLine := r.line
    records := ⟨fields, r.start, r.startLine⟩ :: r.records }

-- A symbol outside of quotes. A quote opens a field only at its beginning.
def bareStep (r : Reader α) (opens : Bool) (a : α) : Symbol → Reader α
  | .comma => r.endField
  | .carriageReturn => r.endRecord .afterCarriageReturn
  | .lineFeed => r.endRecord .betweenRecords
  | .quote => if opens then { r with mode := .quoted } else r.take .bare a
  | .other => r.take .bare a

def startStep (r : Reader α) (a : α) : Symbol → Reader α
  | .carriageReturn | .lineFeed => { r with mode := .betweenRecords }
  | symbol => r.bareStep true a symbol

-- After a quote inside quotes, a second one stands for itself and anything else ends the quotes.
def step (symbolOf : α → Symbol) (r : Reader α) (a : α) : Reader α :=
  let symbol := symbolOf a
  let r := { r with
    offset := r.offset + 1, line := if symbol = Symbol.lineFeed then r.line + 1 else r.line }
  match r.mode with
  | .betweenRecords | .afterCarriageReturn => r.startStep a symbol
  | .fieldStart => r.bareStep true a symbol
  | .bare => r.bareStep false a symbol
  | .quoted => if symbol = Symbol.quote then { r with mode := .afterQuote } else r.take .quoted a
  | .afterQuote => if symbol = Symbol.quote then r.take .quoted a else r.bareStep false a symbol

-- The end of the text ends a record that has begun.
def finish (r : Reader α) : List (Record α) :=
  match r.mode with
  | .betweenRecords | .afterCarriageReturn => r.records.reverse
  | _ => (r.endRecord .betweenRecords).records.reverse

end Reader

-- The records of a text of which some symbols were skipped before.
def records (symbolOf : α → Symbol) (skipped : Nat) (text : List α) : List (Record α) :=
  (text.foldl (Reader.step symbolOf) (.initial skipped)).finish

end RowPress.Csv
