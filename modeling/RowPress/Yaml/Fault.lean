/-! Places in a document, and everything that can be wrong with its YAML. -/
namespace RowPress.Yaml

-- Characters before the place, its line counted from one, and characters before it on that line.
structure Mark where
  index : Nat
  line : Nat
  column : Nat
deriving DecidableEq

inductive Cause where
  -- Tokens
  | tooDeep | strayCharacter (c : Char) | contentAfterEnd | badIndentation | tabIndentation
  | commentNotSeparated | valueNotSeparated | dashNotSeparated | keyNotSeparated | tabAfterKey
  | keyWithoutColon | keyExpected | colonMisplaced | valueNotAllowed | keyNotAllowed
  | entryNotAllowed | dashInFlow | anchorIndentation | noToken
  -- Directives, tags and anchors
  | directiveName | directiveNameEnd | directiveEnd | versionPoint | versionTooLong | versionNumber
  | tagMark | tagHandleEnd | tagPrefix | tagPrefixEnd | verbatimTagEnd | tagEscape | tagLeadingByte
  | tagTrailingByte | tagCharacter | tagUri | tagEnd | anchorName
  -- Scalars
  | zeroIndent | blockHeader | blockTab | blockIndent
  | quotedMarker | quotedEnd | quotedIndent | quotedTab | quotedTrailer
  | escapeUnknown | escapeDigits | escapeCharacter
  | plainInFlow | plainDash | plainTab
  -- Structure
  | documentStart | versionTwice | endBeforeDirective | anchorUnknown | handleUnknown
  | nodeContent | blockMapping | blockSequence | flowMapping | flowSequence

def Cause.message : Cause → String
  | .tooDeep => "recursion limit exceeded"
  | .strayCharacter c => s!"unexpected character: `{c}'"
  | .contentAfterEnd => "invalid content after document end marker"
  | .badIndentation => "invalid indentation"
  | .tabIndentation => "tabs disallowed within this context (block indentation)"
  | .commentNotSeparated => "comments must be separated from other tokens by whitespace"
  | .valueNotSeparated => "':' must be followed by a valid YAML whitespace"
  | .dashNotSeparated => "'-' must be followed by a valid YAML whitespace"
  | .keyNotSeparated => "expected whitespace"
  | .tabAfterKey => "tabs disallowed in this context"
  | .keyWithoutColon => "simple key expect ':'"
  | .keyExpected => "simple key expected"
  | .colonMisplaced => "illegal placement of ':' indicator"
  | .valueNotAllowed => "mapping values are not allowed in this context"
  | .keyNotAllowed => "mapping keys are not allowed in this context"
  | .entryNotAllowed => "block sequence entries are not allowed in this context"
  | .dashInFlow => "\"-\" is only valid inside a block"
  | .anchorIndentation => "invalid indentation for anchor"
  | .noToken => "did not find expected next token"
  | .directiveName => "while scanning a directive, could not find expected directive name"
  | .directiveNameEnd => "while scanning a directive, found unexpected non-alphabetical character"
  | .directiveEnd => "while scanning a directive, did not find expected comment or line break"
  | .versionPoint =>
    "while scanning a YAML directive, did not find expected digit or '.' character"
  | .versionTooLong => "while scanning a YAML directive, found extremely long version number"
  | .versionNumber => "while scanning a YAML directive, did not find expected version number"
  | .tagMark => "while scanning a tag, did not find expected '!'"
  | .tagHandleEnd => "while parsing a tag directive, did not find expected '!'"
  | .tagPrefix => "invalid global tag character"
  | .tagPrefixEnd => "while scanning TAG, did not find expected whitespace or line break"
  | .verbatimTagEnd => "while scanning a verbatim tag, did not find the expected '>'"
  | .tagEscape => "while parsing a tag, found an invalid escape sequence"
  | .tagLeadingByte => "while parsing a tag, found an incorrect leading UTF-8 byte"
  | .tagTrailingByte => "while parsing a tag, found an incorrect trailing UTF-8 byte"
  | .tagCharacter => "while parsing a tag, found an invalid UTF-8 codepoint"
  | .tagUri => "while parsing a tag, did not find expected tag URI"
  | .tagEnd => "while scanning a tag, did not find expected whitespace or line break"
  | .anchorName =>
    "while scanning an anchor or alias, did not find expected alphabetic or numeric character"
  | .zeroIndent => "while scanning a block scalar, found an indentation indicator equal to 0"
  | .blockHeader => "while scanning a block scalar, did not find expected comment or line break"
  | .blockTab => "a block scalar content cannot start with a tab"
  | .blockIndent => "wrongly indented line in block scalar"
  | .quotedMarker => "while scanning a quoted scalar, found unexpected document indicator"
  | .quotedEnd => "while scanning a quoted scalar, found unexpected end of stream"
  | .quotedIndent => "invalid indentation in quoted scalar"
  | .quotedTab => "tab cannot be used as indentation"
  | .quotedTrailer => "invalid trailing content after double-quoted scalar"
  | .escapeUnknown => "while parsing a quoted scalar, found unknown escape character"
  | .escapeDigits => "while parsing a quoted scalar, did not find expected hexadecimal number"
  | .escapeCharacter =>
    "while parsing a quoted scalar, found invalid Unicode character escape code"
  | .plainInFlow => "invalid indentation in flow construct"
  | .plainDash => "plain scalar cannot start with '-' followed by ,[]\x7b\x7d"
  | .plainTab => "while scanning a plain scalar, found a tab"
  | .documentStart => "did not find expected <document start>"
  | .versionTwice => "duplicate version directive"
  | .endBeforeDirective => "missing explicit document end marker before directive"
  | .anchorUnknown => "while parsing node, found unknown anchor"
  | .handleUnknown => "the handle wasn't declared"
  | .nodeContent => "while parsing a node, did not find expected node content"
  | .blockMapping => "while parsing a block mapping, did not find expected key"
  | .blockSequence =>
    "while parsing a block collection, did not find expected '-' indicator"
  | .flowMapping => "while parsing a flow mapping, did not find expected ',' or '\x7d'"
  | .flowSequence => "while parsing a flow sequence, expected ',' or ']'"

structure Fault where
  cause : Cause
  mark : Mark

-- The column is shown counted from one.
def Fault.message (f : Fault) : String :=
  s!"{f.cause.message} at byte {f.mark.index} line {f.mark.line} column {f.mark.column + 1}"

end RowPress.Yaml
