import RowPress.Json.Basic
/-!
Reading JSON text. The first fault ends the reading; it is reported by line and column, where the
column counts bytes.
-/
namespace RowPress.Json

inductive Cause where
  | endInList | endInObject | endInText | endInValue
  | colonExpected | commaOrListEnd | commaOrObjectEnd | wordExpected | valueExpected
  | badEscape | badNumber | numberTooLarge | controlCharacter | keyNotText
  | loneSurrogate | trailingComma | trailingCharacters | halfSurrogatePair | tooDeep

def Cause.message : Cause → String
  | .endInList => "EOF while parsing a list"
  | .endInObject => "EOF while parsing an object"
  | .endInText => "EOF while parsing a string"
  | .endInValue => "EOF while parsing a value"
  | .colonExpected => "expected `:`"
  | .commaOrListEnd => "expected `,` or `]`"
  | .commaOrObjectEnd => "expected `,` or `\x7d`"
  | .wordExpected => "expected ident"
  | .valueExpected => "expected value"
  | .badEscape => "invalid escape"
  | .badNumber => "invalid number"
  | .numberTooLarge => "number out of range"
  | .controlCharacter => "control character (\\u0000-\\u001F) found while parsing a string"
  | .keyNotText => "key must be a string"
  | .loneSurrogate => "lone leading surrogate in hex escape"
  | .trailingComma => "trailing comma"
  | .trailingCharacters => "trailing characters"
  | .halfSurrogatePair => "unexpected end of hex escape"
  | .tooDeep => "recursion limit exceeded"

-- A fault lies where so many bytes of the text are still unread.
structure Fault where
  cause : Cause
  left : Nat

def byteCount (cs : List Char) : Nat := cs.foldl (fun n c => n + c.utf8Size) 0

-- A fault before the rest of the text.
def here (cause : Cause) (rest : List Char) : Except Fault α := .error ⟨cause, byteCount rest⟩

-- A fault behind the next byte, or at the end of the text.
def ahead (cause : Cause) (rest : List Char) : Except Fault α :=
  .error ⟨cause, byteCount rest - 1⟩

def isSpace (c : Char) : Bool := c == ' ' || c == '\n' || c == '\t' || c == '\r'

def skip (cs : List Char) : List Char := cs.dropWhile isSpace

-- The letters of a word after its first.
def readWord (value : Json) : List Char → List Char → Except Fault (Json × List Char)
  | [], cs => .ok (value, cs)
  | _ :: _, [] => here .endInValue []
  | expected :: more, c :: rest =>
    if c = expected then readWord value more rest else ahead .wordExpected (c :: rest)

-- Four hexadecimal digits. Four bytes count as read even if they are no digits.
def readUnit (cs : List Char) : Except Fault (Nat × List Char) :=
  let fault : Except Fault (Nat × List Char) :=
    if byteCount cs < 4 then here .endInText [] else .error ⟨.badEscape, byteCount cs - 4⟩
  match cs with
  | a :: b :: c :: d :: rest =>
    match Text.hexValue? a, Text.hexValue? b, Text.hexValue? c, Text.hexValue? d with
    | some a, some b, some c, some d => .ok (((a * 16 + b) * 16 + c) * 16 + d, rest)
    | _, _, _, _ => fault
  | _ => fault

-- A lone code unit, or two that form a surrogate pair.
def readUnicode (cs : List Char) : Except Fault (Char × List Char) := do
  let (unit, rest) ← readUnit cs
  if 0xDC00 ≤ unit ∧ unit ≤ 0xDFFF then here .loneSurrogate rest
  else if unit < 0xD800 ∨ 0xDBFF < unit then .ok (Char.ofNat unit, rest)
  else match rest with
    | '\\' :: 'u' :: rest =>
      let (second, rest) ← readUnit rest
      if second < 0xDC00 ∨ 0xDFFF < second then here .loneSurrogate rest
      else .ok (Char.ofNat ((unit - 0xD800) * 0x400 + (second - 0xDC00) + 0x10000), rest)
    | ['\\'] => here .endInText []
    | '\\' :: c :: rest => ahead .halfSurrogatePair (c :: rest)
    | [] => here .endInText []
    | c :: rest => ahead .halfSurrogatePair (c :: rest)

def readEscape : List Char → Except Fault (Char × List Char)
  | [] => here .endInText []
  | '"' :: rest => .ok ('"', rest)
  | '\\' :: rest => .ok ('\\', rest)
  | '/' :: rest => .ok ('/', rest)
  | 'b' :: rest => .ok ('\x08', rest)
  | 'f' :: rest => .ok ('\x0c', rest)
  | 'n' :: rest => .ok ('\n', rest)
  | 'r' :: rest => .ok ('\r', rest)
  | 't' :: rest => .ok ('\t', rest)
  | 'u' :: rest => readUnicode rest
  | c :: rest => ahead .badEscape (c :: rest)

-- A text after its opening quote. The fuel is the length of what is left.
def readText : Nat → List Char → Except Fault (List Char × List Char)
  | 0, cs => here .endInText cs
  | _, [] => here .endInText []
  | fuel + 1, c :: rest =>
    if c = '"' then .ok ([], rest)
    else if c = '\\' then do
      let (escaped, rest) ← readEscape rest
      let (more, rest) ← readText fuel rest
      return (escaped :: more, rest)
    else if c.toNat < 0x20 then here .controlCharacter rest
    else do
      let (more, rest) ← readText fuel rest
      return (c :: more, rest)

def readString (cs : List Char) : Except Fault (String × List Char) := do
  let (chars, rest) ← readText (cs.length + 1) cs
  return (String.ofList chars, rest)

def maxUnsigned : Nat := Decimal.twoTo 64 - 1

def isDigit (c : Char) : Bool := Text.isAsciiDigit c

-- Digits as long as the number stays within 64 bits: the value, how many digits were taken, and
-- the rest.
def takeDigits (value taken : Nat) : List Char → Nat × Nat × List Char
  | [] => (value, taken, [])
  | c :: rest =>
    if isDigit c ∧ value * 10 + (c.toNat - 48) ≤ maxUnsigned then
      takeDigits (value * 10 + (c.toNat - 48)) (taken + 1) rest
    else (value, taken, c :: rest)

-- Powers of ten up to the largest double. The quotient or product of two doubles is what a number
-- with a point or an exponent reads as; it may differ from the nearest double in the last bit.
def powerOfTen (n : Nat) : Float := Decimal.nearest false (Decimal.tenTo n) 1

-- Steps of 308 powers at most; a zero, or a quotient that has become zero, ends them.
def divideByTens (x : Float) (power : Nat) : Nat → Float
  | 0 => x
  | fuel + 1 =>
    if power ≤ 308 then x / powerOfTen power
    else if x == 0.0 then x
    else divideByTens (x / powerOfTen 308) (power - 308) fuel

def floatOfParts (positive : Bool) (significand : Nat) (power : Int) (rest : List Char) :
    Except Fault (Json × List Char) :=
  let signed (x : Float) : Except Fault (Json × List Char) := .ok (.decimal (if positive then x else -x), rest)
  let x := Decimal.nearest false significand 1
  if power < 0 then signed (divideByTens x (-power).toNat 5)
  else if power ≤ 308 then
    let y := x * powerOfTen power.toNat
    if y.isInf then here .numberTooLarge rest else signed y
  else if significand = 0 then signed x
  else here .numberTooLarge rest

def maxExponent : Nat := Decimal.twoTo 31 - 1

-- Exponent digits as long as they fit 31 bits.
def takeExponent (value : Nat) : List Char → Nat × List Char
  | [] => (value, [])
  | c :: rest =>
    if isDigit c ∧ value * 10 + (c.toNat - 48) ≤ maxExponent then
      takeExponent (value * 10 + (c.toNat - 48)) rest
    else (value, c :: rest)

-- An exponent after its letter. One that is too large even to be held makes the number zero or
-- too large; the digit at which that shows is read first.
def readExponent (positive : Bool) (significand : Nat) (power : Int) (cs : List Char) :
    Except Fault (Json × List Char) :=
  let (up, cs) := match cs with
    | '+' :: rest => (true, rest)
    | '-' :: rest => (false, rest)
    | _ => (true, cs)
  match cs with
  | [] => here .endInValue []
  | c :: rest =>
    if isDigit c then
      let (exponent, rest) := takeExponent (c.toNat - 48) rest
      match rest with
      | d :: after =>
        if isDigit d then
          if significand ≠ 0 ∧ up then here .numberTooLarge after
          else .ok (.decimal (if positive then 0.0 else -0.0), after.dropWhile isDigit)
        else floatOfParts positive significand (if up then power + exponent else power - exponent) rest
      | [] => floatOfParts positive significand (if up then power + exponent else power - exponent) []
    else ahead .badNumber (c :: rest)

-- Digits after the point. Those beyond 64 bits are read and ignored.
def readFraction (positive : Bool) (significand : Nat) (power : Int) (cs : List Char) :
    Except Fault (Json × List Char) :=
  let (significand, taken, rest) := takeDigits significand 0 cs
  let power := power - taken
  if taken = 0 ∧ ¬ (rest.head?.any isDigit) then
    match rest with
    | [] => ahead .endInValue []
    | _ => ahead .badNumber rest
  else
    match rest.dropWhile isDigit with
    | 'e' :: rest => readExponent positive significand power rest
    | 'E' :: rest => readExponent positive significand power rest
    | rest => floatOfParts positive significand power rest

-- What follows the digits of the whole part.
def readNumberEnd (positive : Bool) (significand : Nat) : List Char → Except Fault (Json × List Char)
  | '.' :: rest => readFraction positive significand 0 rest
  | 'e' :: rest => readExponent positive significand 0 rest
  | 'E' :: rest => readExponent positive significand 0 rest
  | rest =>
    if positive then .ok (.integer significand, rest)
    else if significand = 0 ∨ Decimal.twoTo 63 < significand then
      .ok (.decimal (Decimal.nearest true significand 1), rest)
    else .ok (.integer (-significand), rest)

-- A whole part with more digits than 64 bits hold; each digit left out counts as a power of ten.
def readLongNumber (positive : Bool) (significand : Nat) (cs : List Char) : Except Fault (Json × List Char) :=
  let power := (cs.takeWhile isDigit).length
  match cs.dropWhile isDigit with
  | '.' :: rest => readFraction positive significand power rest
  | 'e' :: rest => readExponent positive significand power rest
  | 'E' :: rest => readExponent positive significand power rest
  | rest => floatOfParts positive significand power rest

-- A number after its sign. A zero may not be followed by another digit.
def readNumber (positive : Bool) : List Char → Except Fault (Json × List Char)
  | [] => here .endInValue []
  | c :: rest =>
    if c = '0' then
      if rest.head?.any isDigit then ahead .badNumber rest else readNumberEnd positive 0 rest
    else if isDigit c then
      let (significand, _, rest) := takeDigits (c.toNat - 48) 0 rest
      if rest.head?.any isDigit then readLongNumber positive significand rest
      else readNumberEnd positive significand rest
    else ahead .badNumber (c :: rest)

-- The items of a list after its opening bracket, read with the reader for one level deeper.
def readItems (readOne : List Char → Except Fault (Json × List Char)) (first : Bool) :
    Nat → List Char → Except Fault (List Json × List Char)
  | 0, cs => here .endInList cs
  | fuel + 1, cs => do
    let item (cs : List Char) : Except Fault (List Json × List Char) := do
      let (value, rest) ← readOne cs
      let (more, rest) ← readItems readOne false fuel rest
      return (value :: more, rest)
    match skip cs with
    | [] => ahead .endInList []
    | ']' :: rest => .ok ([], rest)
    | c :: rest =>
      if first then item (c :: rest)
      else if c = ',' then
        match skip rest with
        | [] => ahead .endInValue []
        | ']' :: rest => ahead .trailingComma (']' :: rest)
        | rest => item rest
      else ahead .commaOrListEnd (c :: rest)

-- The fields of an object after its opening brace.
def readFields (readOne : List Char → Except Fault (Json × List Char)) (first : Bool) :
    Nat → List Char → Except Fault (List (String × Json) × List Char)
  | 0, cs => here .endInObject cs
  | fuel + 1, cs => do
    -- A field after the opening quote of its key.
    let field (cs : List Char) : Except Fault (List (String × Json) × List Char) := do
      let (key, rest) ← readString cs
      match skip rest with
      | [] => ahead .endInObject []
      | ':' :: rest =>
        let (value, rest) ← readOne rest
        let (more, rest) ← readFields readOne false fuel rest
        return ((key, value) :: more, rest)
      | rest => ahead .colonExpected rest
    match skip cs with
    | [] => ahead .endInObject []
    | '\x7d' :: rest => .ok ([], rest)
    | c :: rest =>
      if first then
        if c = '"' then field rest else ahead .keyNotText (c :: rest)
      else if c = ',' then
        match skip rest with
        | [] => ahead .endInValue []
        | '"' :: rest => field rest
        | '\x7d' :: rest => ahead .trailingComma ('\x7d' :: rest)
        | rest => ahead .keyNotText rest
      else ahead .commaOrObjectEnd (c :: rest)

-- Collections nest at most as deep as the first argument says.
def readValue : Nat → List Char → Except Fault (Json × List Char)
  | depth, cs =>
    match skip cs with
    | [] => ahead .endInValue []
    | c :: rest =>
      if c = 'n' then readWord .null ['u', 'l', 'l'] rest
      else if c = 't' then readWord (.bool true) ['r', 'u', 'e'] rest
      else if c = 'f' then readWord (.bool false) ['a', 'l', 's', 'e'] rest
      else if c = '-' then readNumber false rest
      else if isDigit c then readNumber true (c :: rest)
      else if c = '"' then do
        let (s, rest) ← readString rest
        return (.text s, rest)
      else if c = '[' then
        match depth with
        | 0 => ahead .tooDeep (c :: rest)
        | depth + 1 => do
          let (items, rest) ← readItems (readValue depth) true (rest.length + 1) rest
          return (.array items, rest)
      else if c = '\x7b' then
        match depth with
        | 0 => ahead .tooDeep (c :: rest)
        | depth + 1 => do
          let (fields, rest) ← readFields (readValue depth) true (rest.length + 1) rest
          return (.object fields, rest)
      else ahead .valueExpected (c :: rest)

def maxDepth : Nat := 127

-- Line and column of a byte offset: lines count from one, columns are the bytes since the last
-- line break.
def place (text : List Char) (offset : Nat) : Nat × Nat :=
  go text offset 1 0
where
  go : List Char → Nat → Nat → Nat → Nat × Nat
    | [], left, line, column => (line, column + left)
    | c :: rest, left, line, column =>
      if left < c.utf8Size then (line, column + left)
      else if c = '\n' then go rest (left - 1) (line + 1) 0
      else go rest (left - c.utf8Size) line (column + c.utf8Size)

def Fault.message (text : String) (f : Fault) : String :=
  let (line, column) := place text.toList (text.utf8ByteSize - f.left)
  s!"{f.cause.message} at line {line} column {column}"

-- Only blanks may follow the value.
def expectEnd (cs : List Char) : Except Fault Unit :=
  match skip cs with
  | [] => .ok ()
  | rest => ahead .trailingCharacters rest

end RowPress.Json
