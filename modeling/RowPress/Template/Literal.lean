import RowPress.Decimal.Read
import RowPress.Template.Token
/-!
Names, numbers and quoted texts inside the delimiters. Each reader takes what belongs to its
literal from the front of the characters and leaves the rest.
-/
namespace RowPress.Template

-- Only ASCII letters, digits and underscores, and no digit in front.
def isNameStart (c : Char) : Bool := c == '_' || Text.isAsciiLetter c

def isNameChar (c : Char) : Bool := isNameStart c || Text.isAsciiDigit c

-- The part of a number that is being read.
inductive Stage where
  | radix (base : Nat) | whole | fraction | exponent | exponentDigits
deriving DecidableEq

def Stage.after (stage : Stage) (c : Char) : Option Stage :=
  if c == '_' then some stage
  else match stage with
    | .radix base =>
      if Text.isAsciiDigit c || (base == 16 && (Text.hexValue? c).isSome) then some stage
      else none
    | .whole =>
      if Text.isAsciiDigit c then some .whole
      else if c == '.' then some .fraction
      else if c == 'e' || c == 'E' then some .exponent
      else none
    | .fraction =>
      if Text.isAsciiDigit c then some .fraction
      else if c == 'e' || c == 'E' then some .exponent
      else none
    | .exponent =>
      if Text.isAsciiDigit c || c == '+' || c == '-' then some .exponentDigits else none
    | .exponentDigits => if Text.isAsciiDigit c then some .exponentDigits else none

-- The characters of a number, last one first, with the stage it ends in.
def takeNumber (stage : Stage) (taken : List Char) : List Char → Stage × List Char × List Char
  | [] => (stage, taken, [])
  | c :: rest =>
    match stage.after c with
    | some next => takeNumber next (c :: taken) rest
    | none => (stage, taken, c :: rest)

def maxLiteral : Nat := Decimal.twoTo 128 - 1

def numberToken (stage : Stage) (digits : List Char) : Except String Token :=
  let whole (base : Nat) : Except String Token :=
    match Text.numberIn? base digits with
    | some n => if n ≤ maxLiteral then .ok (.integer n) else .error "invalid integer (too large)"
    | none => .error "invalid integer (too large)"
  match stage with
  | .radix base => whole base
  | .whole => whole 10
  | _ =>
    match Decimal.read? digits with
    | some x => .ok (.decimal x)
    | none => .error "invalid float"

-- Underscores may stand between digits, but not at the end.
def readNumber (cs : List Char) : Except String (Token × List Char) :=
  let base := match cs with
    | '0' :: c :: _ =>
      if c == 'b' || c == 'B' then 2
      else if c == 'o' || c == 'O' then 8
      else if c == 'x' || c == 'X' then 16
      else 10
    | _ => 10
  let (stage, taken, rest) :=
    if base == 10 then takeNumber .whole [] cs else takeNumber (.radix base) [] (cs.drop 2)
  if taken.head? == some '_' then .error "'_' may not occur at end of number"
  else do
    let token ← numberToken stage (taken.reverse.filter (· != '_'))
    return (token, rest)

-- The raw characters up to the closing quote, last one first.
def takeQuoted (quote : Char) (taken : List Char) : List Char → Option (List Char × List Char)
  | [] => none
  | ['\\'] => none
  | '\\' :: c :: rest => takeQuoted quote (c :: '\\' :: taken) rest
  | c :: rest => if c == quote then some (taken, rest) else takeQuoted quote (c :: taken) rest

def isSurrogate (n : Nat) : Bool := 0xD800 ≤ n && n ≤ 0xDFFF

-- The character of two halves, the higher one first.
def joinSurrogates (high low : Nat) : Option Char :=
  if 0xD800 ≤ high && high < 0xDC00 && 0xDC00 ≤ low && low ≤ 0xDFFF then
    some (Char.ofNat (0x10000 + (high - 0xD800) * 0x400 + (low - 0xDC00)))
  else none

def simpleEscape? (c : Char) : Option Char :=
  if c == '"' || c == '\\' || c == '/' || c == '\'' then some c
  else if c == 'b' then some '\x08'
  else if c == 'f' then some '\x0c'
  else if c == 'n' then some '\n'
  else if c == 'r' then some '\r'
  else if c == 't' then some '\t'
  else none

-- The code that four hexadecimal digits name.
def fourDigits? (a b c d : Char) : Option Nat := Text.numberIn? 16 [a, b, c, d]

-- Resolves escapes. `half` is the first half of a character that is not complete yet. What is no
-- escape keeps its backslash.
def unescape (half : Option Nat) : List Char → Option (List Char)
  | [] => if half.isNone then some [] else none
  | '\\' :: 'u' :: a :: b :: c :: d :: rest =>
    match fourDigits? a b c d, half with
    | some code, none =>
      if isSurrogate code then unescape (some code) rest
      else (unescape none rest).map (Char.ofNat code :: ·)
    | some code, some high =>
      match joinSurrogates high code with
      | some joined => (unescape none rest).map (joined :: ·)
      | none => none
    | none, _ => none
  | '\\' :: c :: rest =>
    if half.isSome || c == 'u' then none
    else match simpleEscape? c with
      | some meant => (unescape none rest).map (meant :: ·)
      | none => (unescape none rest).map fun tail => '\\' :: c :: tail
  | c :: rest => if half.isSome then none else (unescape none rest).map (c :: ·)

-- A text in quotes: its meaning, its characters as they stand, and what follows. The characters
-- start after the opening quote.
def readQuoted (quote : Char) (cs : List Char) : Except Fault (String × List Char × List Char) :=
  match takeQuoted quote [] cs with
  | none => .error (.of .badForm "unexpected end of string")
  | some (taken, rest) =>
    match unescape none taken.reverse with
    | some meant => .ok (String.ofList meant, taken, rest)
    | none => .error (.bare .badEscape)

end RowPress.Template
