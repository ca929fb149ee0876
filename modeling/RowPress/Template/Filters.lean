import RowPress.Template.Filter.Number
import RowPress.Template.Filter.Row
import RowPress.Template.Filter.Text
/-!
The filters by name, apart from those that apply other filters and tests to the items of a row.
-/
namespace RowPress.Template

-- What a filter computes from its subject, which is its first argument, and the others.
abbrev Applied := Given → Outcome Datum

def plainFilter? (mode : Escape) (name : String) : Option Applied :=
  let taking (x : Taking Datum) : Option Applied := some x.run
  let named (x : Taking Datum) : Option Applied := some x.runNamed
  match name with
  | "safe" => taking Filter.safe
  | "escape" | "e" => taking (Filter.escape mode)
  | "lower" => taking Filter.lower
  | "upper" => taking Filter.upper
  | "title" => taking Filter.title
  | "capitalize" => taking Filter.capitalize
  | "replace" => taking Filter.replace
  | "length" | "count" => taking Filter.length
  | "dictsort" => named Filter.dictsort
  | "items" => taking Filter.items
  | "reverse" => taking Filter.reverse
  | "trim" => taking Filter.trim
  | "join" => taking Filter.join
  | "split" => taking Filter.split
  | "lines" => taking Filter.lines
  | "default" | "d" => taking Filter.byDefault
  | "round" => taking Filter.round
  | "abs" => taking Filter.abs
  | "int" => taking Filter.int
  | "float" => taking Filter.float
  | "attr" => taking Filter.attr
  | "first" => taking Filter.first
  | "last" => taking Filter.last
  | "min" => taking Filter.min
  | "max" => taking Filter.max
  | "sort" => named Filter.sort
  | "list" => taking Filter.list
  | "string" => taking Filter.string
  | "bool" => taking Filter.bool
  | "batch" => taking Filter.batch
  | "slice" => taking Filter.slices
  | "sum" => taking Filter.sum
  | "indent" => taking Filter.indent
  | "groupby" => named Filter.groupby
  | "unique" => named Filter.unique
  | "chain" => taking Filter.chain
  | "zip" => taking Filter.zip
  | "pprint" => taking Filter.pretty
  | "format" => some formatFilter
  | "tojson" => named jsonFilter
  | "urlencode" => taking Filter.urlencode
  | _ => none

def rowFilters : List String := ["select", "reject", "selectattr", "rejectattr", "map"]

def isFilter (name : String) : Bool := rowFilters.contains name || (plainFilter? .off name).isSome

end RowPress.Template
