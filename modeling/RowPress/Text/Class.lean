import RowPress.Text.Alphabetic
import RowPress.Text.Numeric
/-!
Character classes of the Unicode standard: letters, numbers, and blanks, with the trimming that
goes by them.
-/
namespace RowPress.Text

def isAsciiDigit (c : Char) : Bool := '0' ≤ c && c ≤ '9'

def isAsciiLetter (c : Char) : Bool := ('a' ≤ c && c ≤ 'z') || ('A' ≤ c && c ≤ 'Z')

def isAlphabetic (c : Char) : Bool :=
  if c.toNat < 0x80 then isAsciiLetter c else alphabetic.covers c.toNat

-- Digits of every script count, and so do letter-like numbers and fractions.
def isNumeric (c : Char) : Bool :=
  if c.toNat < 0x80 then isAsciiDigit c else numeric.covers c.toNat

def isAlphanumeric (c : Char) : Bool := isAlphabetic c || isNumeric c

-- The Unicode property White_Space.
def blanks : Ranges := [(0x9, 0xd), (0x20, 0x20), (0x85, 0x85), (0xa0, 0xa0), (0x1680, 0x1680),
  (0x2000, 0x200a), (0x2028, 0x2029), (0x202f, 0x202f), (0x205f, 0x205f), (0x3000, 0x3000)]

def isBlank (c : Char) : Bool := blanks.covers c.toNat

-- Drops what satisfies the test from the end.
def dropEndWhile (test : Char → Bool) (cs : List Char) : List Char :=
  (cs.reverse.dropWhile test).reverse

def trimWhile (test : Char → Bool) (cs : List Char) : List Char :=
  dropEndWhile test (cs.dropWhile test)

def trim (s : String) : String := String.ofList (trimWhile isBlank s.toList)

def isAsciiUpper (c : Char) : Bool := 'A' ≤ c && c ≤ 'Z'

def asciiLower (c : Char) : Char :=
  if isAsciiUpper c then Char.ofNat (c.toNat + 32) else c

def asciiUpper (c : Char) : Char :=
  if 'a' ≤ c && c ≤ 'z' then Char.ofNat (c.toNat - 32) else c

-- Everything printable in ASCII that is no letter, digit or blank.
def isAsciiPunctuation (c : Char) : Bool :=
  '!' ≤ c && c ≤ '~' && !isAsciiLetter c && !isAsciiDigit c

end RowPress.Text
