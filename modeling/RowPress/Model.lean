import RowPress.Step
import RowPress.Value.Basic
/-!
The model that a template sees: named layers of entries laid over each other. The first layer to
give a key a value decides.
-/
namespace RowPress

structure Layer where
  source : String
  entries : List (String × Value)

namespace Layer

def ofEntries (source : String) (m : Entries) : Layer := ⟨source, m⟩

-- Cells are texts, whatever they look like. Columns without a cell, and cells without a column,
-- give no entry.
def ofRow (source : String) (headers row : List String) : Layer :=
  ⟨source, headers.zipWith (fun header cell => (header, Value.text cell)) row⟩

end Layer

-- Adds the entries of one source; a key that is taken is reported and passed over.
def mergeEntries (source : String) : List (String × Value) → Entries → Step Entries
  | [], model => return model
  | (key, value) :: rest, model => do
    if model.has key then
      Step.report (.duplicateKey source key)
      mergeEntries source rest model
    else mergeEntries source rest (model ++ [(key, value)])

def mergeLayers : List Layer → Entries → Step Entries
  | [], model => return model
  | layer :: rest, model => do mergeLayers rest (← mergeEntries layer.source layer.entries model)

def merge (layers : List Layer) : Step Entries := mergeLayers layers []

-- The document beside the template goes before the data of the configuration, and that before the
-- row of the table.
def buildModel (source : String) (sidecar global : Entries) (headers row : List String) :
    Step Entries :=
  merge [.ofEntries s!"file '{source}'" sidecar, .ofEntries "global data" global,
    .ofRow "csv row" headers row]

end RowPress
