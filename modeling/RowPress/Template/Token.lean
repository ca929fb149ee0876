import RowPress.Template.Fault
/-! The tokens of a template: its own text, and what stands between the delimiters. -/
namespace RowPress.Template

inductive Symbol where
  | plus | minus | times | divide | floorDivide | power | remainder
  | bang | dot | comma | colon | tilde | assign | pipe
  | equal | unequal | greater | greaterEqual | less | lessEqual
  | bracketOpen | bracketClose | parenOpen | parenClose | braceOpen | braceClose
deriving DecidableEq

inductive Token where
  | data (text : String)
  | outputStart | outputEnd | tagStart | tagEnd
  | name (s : String)
  | text (s : String)
  | integer (n : Nat)
  | decimal (x : Float)
  | symbol (s : Symbol)
  -- Where no token can be read, the reason why is the last one.
  | trouble (f : Fault)

structure Lexeme where
  token : Token
  line : Nat

def Symbol.text : Symbol → String
  | .plus => "+" | .minus => "-" | .times => "*" | .divide => "/" | .floorDivide => "//"
  | .power => "**" | .remainder => "%" | .bang => "!" | .dot => "." | .comma => ","
  | .colon => ":" | .tilde => "~" | .assign => "=" | .pipe => "|"
  | .equal => "==" | .unequal => "!=" | .greater => ">" | .greaterEqual => ">="
  | .less => "<" | .lessEqual => "<="
  | .bracketOpen => "[" | .bracketClose => "]" | .parenOpen => "(" | .parenClose => ")"
  | .braceOpen => "\x7b" | .braceClose => "\x7d"

-- How a message calls a token.
def Token.describe : Token → String
  | .data _ => "template-data"
  | .outputStart => "start of variable block"
  | .outputEnd => "end of variable block"
  | .tagStart => "start of block"
  | .tagEnd => "end of block"
  | .name _ => "identifier"
  | .text _ => "string"
  | .integer _ => "integer"
  | .decimal _ => "float"
  | .symbol s => "`" ++ s.text ++ "`"
  | .trouble _ => "character"

def Token.isName (name : String) : Token → Bool
  | .name s => s == name
  | _ => false

def Token.isSymbol (symbol : Symbol) : Token → Bool
  | .symbol s => s == symbol
  | _ => false

def Token.isTagEnd : Token → Bool
  | .tagEnd => true
  | _ => false

end RowPress.Template
