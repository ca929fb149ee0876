import RowPress.Error
import RowPress.Journal
/-!
Steps of a run: each has a result or an error, and in both cases the notes that were made on the
way.
-/
namespace RowPress

abbrev Step := ExceptT Error (StateM Journal)

namespace Step

def note (n : Note) : Step Unit := modifyGet fun j => ((), j ++ [n])

def report (d : Diagnostic) : Step Unit := note (.diagnostic d)

def fail (e : Error) : Step α := throw e

-- The result, and the notes.
def outcome (s : Step α) : Except Error α × Journal := s.run.run []

end Step

end RowPress
