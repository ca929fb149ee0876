import RowPress.Template.Json
/-! How values are written where output is escaped. A safe text is written as it stands. -/
namespace RowPress.Template

inductive Escape where
  | off | html | json
deriving DecidableEq

def htmlChar (c : Char) : List Char :=
  match c with
  | '<' => "&lt;".toList
  | '>' => "&gt;".toList
  | '&' => "&amp;".toList
  | '"' => "&quot;".toList
  | '\'' => "&#x27;".toList
  | '/' => "&#x2f;".toList
  | c => [c]

def htmlText (s : String) : String := String.ofList (s.toList.flatMap htmlChar)

def Escape.write (mode : Escape) (d : Datum) : Outcome String :=
  match mode, d with
  | _, .text s true => .ok s
  | .off, d => .ok d.display
  | .html, d => .ok (htmlText d.display)
  | .json, d =>
    match Json.ofDatum d with
    | some j => .ok j.compact
    | none => .error (.of .badSerialization "unable to format to JSON")

end RowPress.Template
