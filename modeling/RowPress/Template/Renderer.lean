import RowPress.Error
import RowPress.Template.Execution
import RowPress.Template.Lexer
import RowPress.Template.Statement
/-!
The compiled templates by name. Compiling under a name that is taken replaces what was there, once
the new source is known to be well formed.
-/
namespace RowPress

namespace Template

def compile (name source : String) : Outcome Compiled := do
  return ⟨name, source.length, ← parse name (lexemes source)⟩

end Template

structure Renderer where
  templates : List Template.Compiled

namespace Renderer

def empty : Renderer := ⟨[]⟩

def get? (r : Renderer) (name : String) : Option Template.Compiled :=
  r.templates.find? (·.name == name)

def put (r : Renderer) (template : Template.Compiled) : Renderer :=
  ⟨template :: r.templates.filter (·.name != template.name)⟩

def compile (r : Renderer) (name source : String) : Except Error Renderer :=
  match Template.compile name source with
  | .ok template => .ok (r.put template)
  | .error f => .error (.templateCompile name f)

-- The row only says in a message which one could not be rendered.
def render (r : Renderer) (name : String) (row : Nat) (model : Entries) : Except Error String :=
  match r.get? name with
  | none =>
    let f : Template.Fault :=
      .of .templateNotFound s!"template {Text.quoted name} does not exist"
    .error (.render name row f)
  | some template =>
    let given := model.map fun (key, value) => (key, Template.datumOfValue value)
    match Template.renderTemplate (.ofList r.templates) template given with
    | .ok text => .ok text
    | .error f => .error (.render name row f)

end Renderer

end RowPress
