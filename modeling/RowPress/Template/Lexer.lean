import RowPress.Template.Literal
/-!
Cutting a template into tokens. Text up to an opening delimiter is one token; between delimiters
blanks separate tokens. A minus sign inside a delimiter takes the blanks on its side away.
-/
namespace RowPress.Template

-- What to do with the blanks on one side of a delimiter.
inductive Blanks where
  | kept | removed
deriving DecidableEq

-- Takes the sign off that follows an opening delimiter.
def takeSign : List Char → Blanks × List Char
  | '-' :: rest => (.removed, rest)
  | '+' :: rest => (.kept, rest)
  | cs => (.kept, cs)

inductive Opening where
  | output | tag | comment
deriving DecidableEq

-- The text before the first opening delimiter, last character first, and what follows that.
def findOpening (before : List Char) : List Char → Option (List Char × Opening × List Char)
  | '\x7b' :: '\x7b' :: rest => some (before, .output, rest)
  | '\x7b' :: '%' :: rest => some (before, .tag, rest)
  | '\x7b' :: '#' :: rest => some (before, .comment, rest)
  | c :: rest => findOpening (c :: before) rest
  | [] => none

-- The text before two given characters, last one first, and what follows them.
def findPair (first second : Char) (before : List Char) : List Char → Option (List Char × List Char)
  | a :: b :: rest =>
    if a == first && b == second then some (before, rest)
    else findPair first second (a :: before) (b :: rest)
  | _ => none

-- The blanks that ASCII has.
def isGap (c : Char) : Bool :=
  c == ' ' || c == '\t' || c == '\n' || c == '\r' || c == '\x0c'

def dropWord (word cs : List Char) : Option (List Char) :=
  if word.isPrefixOf cs then some (cs.drop word.length) else none

-- A tag that holds one word only: the gaps around its word, how it treats the blanks behind it, and
-- what follows it.
structure LoneTag where
  gaps : List Char
  blanks : Blanks
  rest : List Char

-- The characters start after the opening delimiter.
def takeTag (word : String) (cs : List Char) : Option LoneTag := do
  let inside := (takeSign cs).2
  let after ← dropWord word.toList (inside.dropWhile isGap)
  let (blanks, closing) := takeSign (after.dropWhile isGap)
  let rest ← dropWord ['%', '\x7d'] closing
  return ⟨inside.takeWhile isGap ++ after.takeWhile isGap, blanks, rest⟩

-- The end of a raw section: the text before it, last character first, how the blanks there are
-- treated, and its tag.
structure RawEnd where
  before : List Char
  blanks : Blanks
  tag : LoneTag

def findRawEnd (before : List Char) : List Char → Option RawEnd
  | [] => none
  | '\x7b' :: '%' :: rest =>
    match takeTag "endraw" rest with
    | some tag => some ⟨before, (takeSign rest).1, tag⟩
    | none => findRawEnd ('%' :: '\x7b' :: before) rest
  | c :: rest => findRawEnd (c :: before) rest

def newLines (cs : List Char) : Nat := cs.count '\n'

-- Where a reading stands: in the text of the template or behind an opening delimiter.
structure Lexer where
  rest : List Char
  line : Nat
  region : Option Opening
  -- Blanks that come next are dropped.
  trim : Bool
  -- Brackets that are open. A closing delimiter counts only outside all of them.
  depth : Int

namespace Lexer

def start (source : List Char) : Lexer := ⟨source, 1, none, false, 0⟩

-- Goes on behind some characters, of which those that may be line ends are given.
def pass (l : Lexer) (taken rest : List Char) : Lexer :=
  { l with rest, line := l.line + newLines taken }

def passWhile (l : Lexer) (test : Char → Bool) : Lexer :=
  l.pass (l.rest.takeWhile test) (l.rest.dropWhile test)

def trouble (l : Lexer) (f : Fault) : List Lexeme × Option Lexer :=
  ([⟨.trouble f, l.line⟩], none)

def malformed (l : Lexer) (detail : String) : List Lexeme × Option Lexer :=
  l.trouble (.of .badForm detail)

def dataLexeme (text : List Char) (line : Nat) : List Lexeme :=
  if text.isEmpty then [] else [⟨.data (String.ofList text), line⟩]

-- A comment leaves nothing behind. Its last character may be a sign.
def comment (l : Lexer) : List Lexeme × Option Lexer :=
  match findPair '#' '\x7d' [] (takeSign l.rest).2 with
  | none => l.malformed "unexpected end of comment"
  | some (body, rest) => ([], some { l.pass body rest with trim := body.head? == some '-' })

-- A raw section is text as it stands. `blanks` tells of those at its start.
def raw (l : Lexer) (blanks : Blanks) : List Lexeme × Option Lexer :=
  match findRawEnd [] l.rest with
  | none => l.malformed "unexpected end of raw block"
  | some found =>
    let text := (if found.blanks = .removed then found.before.dropWhile Text.isBlank
      else found.before).reverse
    let text := if blanks = .removed then text.dropWhile Text.isBlank else text
    ([⟨.data (String.ofList text), l.line⟩],
      some { l.pass (found.before ++ found.tag.gaps) found.tag.rest with
        trim := found.tag.blanks = .removed })

-- What an opening delimiter leads to; the lexer stands right after it.
def enter (l : Lexer) (line : Nat) : Opening → List Lexeme × Option Lexer
  | .comment => l.comment
  | .output =>
    ([⟨.outputStart, line⟩], some { l with rest := (takeSign l.rest).2, region := some .output })
  | .tag =>
    match takeTag "raw" l.rest with
    | some tag => (l.pass tag.gaps tag.rest).raw tag.blanks
    | none => ([⟨.tagStart, line⟩], some { l with rest := (takeSign l.rest).2, region := some .tag })

def text (l : Lexer) : List Lexeme × Option Lexer :=
  let l := if l.trim then { l.passWhile Text.isBlank with trim := false } else l
  match findOpening [] l.rest with
  | none => (dataLexeme l.rest l.line, none)
  | some (before, opening, rest) =>
    let kept := if (takeSign rest).1 = .removed then before.dropWhile Text.isBlank else before
    let after := l.pass before rest
    let (lexemes, next) := after.enter after.line opening
    (dataLexeme kept.reverse l.line ++ lexemes, next)

-- Whether the closing delimiter of a region comes next: its token, whether it takes blanks away,
-- and what follows.
def closing? (region : Opening) (cs : List Char) : Option (Token × Blanks × List Char) :=
  let (blanks, rest) := takeSign cs
  match region, rest with
  | .tag, '%' :: '\x7d' :: rest => some (.tagEnd, blanks, rest)
  | .output, '\x7d' :: '\x7d' :: rest => some (.outputEnd, blanks, rest)
  | _, _ => none

def doubleSymbol? (a b : Char) : Option Symbol :=
  if a == '/' && b == '/' then some .floorDivide
  else if a == '*' && b == '*' then some .power
  else if a == '=' && b == '=' then some .equal
  else if a == '!' && b == '=' then some .unequal
  else if a == '>' && b == '=' then some .greaterEqual
  else if a == '<' && b == '=' then some .lessEqual
  else none

def singleSymbol? (c : Char) : Option Symbol :=
  match c with
  | '+' => some .plus
  | '-' => some .minus
  | '*' => some .times
  | '/' => some .divide
  | '%' => some .remainder
  | '!' => some .bang
  | '.' => some .dot
  | ',' => some .comma
  | ':' => some .colon
  | '~' => some .tilde
  | '=' => some .assign
  | '|' => some .pipe
  | '>' => some .greater
  | '<' => some .less
  | '(' => some .parenOpen
  | ')' => some .parenClose
  | '[' => some .bracketOpen
  | ']' => some .bracketClose
  | '\x7b' => some .braceOpen
  | '\x7d' => some .braceClose
  | _ => none

def depthChange : Symbol → Int
  | .parenOpen | .bracketOpen | .braceOpen => 1
  | .parenClose | .bracketClose | .braceClose => -1
  | _ => 0

-- A symbol of two characters goes before one of a single character.
def symbol? : List Char → Option (Symbol × List Char)
  | a :: b :: rest =>
    match doubleSymbol? a b with
    | some s => some (s, rest)
    | none => (singleSymbol? a).map (·, b :: rest)
  | [a] => (singleSymbol? a).map (·, [])
  | [] => none

-- The token at the front of the characters; these do not begin with a blank.
def token (l : Lexer) (c : Char) : List Lexeme × Option Lexer :=
  let yields (token : Token) (rest : List Char) : List Lexeme × Option Lexer :=
    ([⟨token, l.line⟩], some { l with rest })
  if c == '"' || c == '\'' then
    match readQuoted c (l.rest.drop 1) with
    | .ok (s, taken, rest) => ([⟨.text s, l.line⟩], some (l.pass taken rest))
    | .error f => l.trouble f
  else if Text.isAsciiDigit c then
    match readNumber l.rest with
    | .ok (number, rest) => yields number rest
    | .error detail => l.malformed detail
  else if isNameStart c then
    yields (.name (String.ofList (l.rest.takeWhile isNameChar))) (l.rest.dropWhile isNameChar)
  else match symbol? l.rest with
    | some (s, rest) =>
      ([⟨.symbol s, l.line⟩], some { l with rest, depth := l.depth + depthChange s })
    | none => l.malformed "unexpected character"

def inside (l : Lexer) (region : Opening) : List Lexeme × Option Lexer :=
  let l := l.passWhile isGap
  match (if l.depth = 0 then closing? region l.rest else none), l.rest with
  | some (token, blanks, rest), _ =>
    ([⟨token, l.line⟩], some { l with rest, region := none, trim := blanks = .removed })
  | none, c :: _ => l.token c
  | none, [] => ([], none)

def step (l : Lexer) : List Lexeme × Option Lexer :=
  match l.region with
  | none => l.text
  | some region => l.inside region

-- All lexemes from here on, after those already gathered, which stand last one first. Each step
-- takes at least one character off the source, so its length is fuel enough.
def run (gathered : List Lexeme) : Nat → Lexer → List Lexeme
  | 0, _ => gathered.reverse
  | fuel + 1, l =>
    match l.step with
    | (lexemes, some next) => run (lexemes.reverse ++ gathered) fuel next
    | (lexemes, none) => (lexemes.reverse ++ gathered).reverse

end Lexer

def lexemes (source : String) : List Lexeme :=
  Lexer.run [] (source.toList.length + 1) (.start source.toList)

end RowPress.Template
