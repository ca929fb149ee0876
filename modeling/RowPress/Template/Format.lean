import RowPress.Decimal.Fixed
import RowPress.Template.Given
/-!
Filling the placeholders of a format. A placeholder is a percent sign, flags, a width, a precision
and a letter that says how its argument is written.
-/
namespace RowPress.Template

structure Placeholder where
  key : Option String
  flags : List Char
  width : Option Nat
  precision : Option Nat
  letter : Char

-- What stands before a number: its sign, or what a flag puts in the place of a plus sign.
def signText (flags : List Char) (negative : Bool) : List Char :=
  if negative then ['-']
  else if flags.contains '+' then ['+']
  else if flags.contains ' ' then [' ']
  else []

def padded (p : Placeholder) (sign body : List Char) (numeric : Bool) : List Char :=
  let missing := p.width.getD 0 - (sign.length + body.length)
  if p.flags.contains '-' then sign ++ body ++ List.replicate missing ' '
  else if numeric && p.flags.contains '0' then sign ++ Decimal.zeros missing ++ body
  else List.replicate missing ' ' ++ sign ++ body

def wholeNumber (d : Datum) : Outcome Int :=
  match d with
  | .decimal x =>
    match wholeOf? (truncated x) with
    | some n => .ok n
    | none => mismatch d "integer"
  | d =>
    match toInteger? d with
    | some n => .ok n
    | none => mismatch d "integer"

def formatWhole (p : Placeholder) (base : Nat) (mark : List Char) (d : Datum) :
    Outcome (List Char) := do
  let n ← wholeNumber d
  let digits := Decimal.padZeros (p.precision.getD 0) (Nat.toDigits base n.natAbs)
  let mark := if p.flags.contains '#' then mark else []
  return padded p (signText p.flags (n < 0) ++ mark) digits true

def formatDecimal (p : Placeholder) (d : Datum) (write : Decimal.Parts → Nat → List Char) :
    Outcome (List Char) :=
  match toDouble? true d with
  | none => mismatch d "float"
  | some x =>
    match Decimal.kind x with
    | .finite parts =>
      .ok (padded p (signText p.flags parts.negative) (write parts (p.precision.getD 6)) true)
    | .infinite negative => .ok (padded p (signText p.flags negative) "inf".toList false)
    | .notANumber => .ok (padded p [] "nan".toList false)

def upperLetters (cs : List Char) : List Char := cs.map Text.asciiUpper

def cutTo (precision : Option Nat) (cs : List Char) : List Char :=
  match precision with
  | some n => cs.take n
  | none => cs

def Placeholder.write (p : Placeholder) (d : Datum) : Outcome (List Char) :=
  match p.letter with
  | 's' => .ok (padded p [] (cutTo p.precision d.display.toList) false)
  | 'r' | 'a' => .ok (padded p [] (cutTo p.precision d.nested.toList) false)
  | 'd' | 'i' | 'u' => formatWhole p 10 [] d
  | 'x' => formatWhole p 16 "0x".toList d
  | 'X' => upperLetters <$> formatWhole p 16 "0X".toList d
  | 'o' => formatWhole p 8 "0o".toList d
  | 'f' | 'F' => formatDecimal p d Decimal.fixed
  | 'e' => formatDecimal p d Decimal.scientific
  | 'E' => upperLetters <$> formatDecimal p d Decimal.scientific
  | 'g' => formatDecimal p d Decimal.general
  | 'G' => upperLetters <$> formatDecimal p d Decimal.general
  | 'c' =>
    match d with
    | .text s _ => .ok (padded p [] s.toList false)
    | d => do
      let n ← wholeNumber d
      return padded p [] [Char.ofNat n.toNat] false
  | c => invalid s!"unsupported format character '{c}'"

-- What is still to be used of the arguments.
structure Supply where
  rest : List Datum
  named : List (Datum × Datum)

abbrev Filling := StateT Supply Outcome

def Filling.next : Filling Datum := do
  match (← get).rest with
  | d :: rest =>
    modify fun s => { s with rest }
    return d
  | [] => throw (.of .badOperation "not enough arguments for format string")

-- A number, or a star that takes it from the arguments.
def Filling.number (cs : List Char) : Filling (Option Nat × List Char) := do
  match cs with
  | '*' :: rest => return (some (← Taking.size (← Filling.next)), rest)
  | cs =>
    let digits := cs.takeWhile Text.isAsciiDigit
    return (Text.numberIn? 10 digits, cs.dropWhile Text.isAsciiDigit)

def isFlag (c : Char) : Bool := ['-', '+', ' ', '#', '0'].contains c

def Filling.placeholder (cs : List Char) : Filling (Placeholder × List Char) := do
  let (key, cs) := match cs with
    | '(' :: rest =>
      (some (String.ofList (rest.takeWhile (· != ')'))), (rest.dropWhile (· != ')')).drop 1)
    | cs => (none, cs)
  let flags := cs.takeWhile isFlag
  let (width, cs) ← Filling.number (cs.dropWhile isFlag)
  let (precision, cs) ← match cs with
    | '.' :: rest => do
      let (digits, rest) ← Filling.number rest
      pure (some (digits.getD 0), rest)
    | cs => pure (none, cs)
  match cs.dropWhile fun c => ['h', 'l', 'L'].contains c with
  | letter :: rest => return (⟨key, flags, width, precision, letter⟩, rest)
  | [] => throw (.of .badOperation "incomplete format")

def Filling.value (p : Placeholder) : Filling Datum := do
  match p.key with
  | none => Filling.next
  | some name => return (entryOf? (.ofText name) (← get).named).getD .undefined

-- The text of a format, each round taking at least one character of it.
def Filling.fill (written : List Char) : Nat → List Char → Filling (List Char)
  | 0, _ => return written.reverse
  | _, [] => return written.reverse
  | fuel + 1, '%' :: cs => do
    let (p, rest) ← Filling.placeholder cs
    if p.letter == '%' then Filling.fill ('%' :: written) fuel rest
    else
      let text ← p.write (← Filling.value p)
      Filling.fill (text.reverse ++ written) fuel rest
  | fuel + 1, c :: rest => Filling.fill (c :: written) fuel rest

-- Named placeholders take their values from a map given as the only argument, or from named ones.
def formatText (format : String) (g : Given) : Outcome Datum := do
  let entries := match g.positional with
    | [.map entries] => entries
    | _ => []
  let named := (g.named.getD []).foldl (fun m (k, v) => putEntry (.ofText k) v m) entries
  let cs := format.toList
  let (text, left) ← (Filling.fill [] (cs.length + 1) cs).run ⟨g.positional, named⟩
  if left.rest.isEmpty || !named.isEmpty then return .ofText (String.ofList text)
  else invalid "not all arguments converted during string formatting"

def formatFilter (g : Given) : Outcome Datum :=
  match g.positional with
  | [] => .error (.bare .missingArgument)
  | format :: rest => formatText format.display { g with positional := rest }

end RowPress.Template
