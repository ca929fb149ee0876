import Mathlib
import RowPress.Proofs.Script
/-!
Runs over the same templates and rows in another order. When every target is a place of its own and
none is a document beside a template, the order makes no difference to what is left.
-/
namespace RowPress

namespace Template

-- A library only knows which template has a name, how many there are, and how long they are.
theorem Library.ofList_perm {cs cs' : List Compiled} (perm : cs'.Perm cs)
    (found : ∀ name, cs'.find? (·.name == name) = cs.find? (·.name == name)) :
    Library.ofList cs' = Library.ofList cs := by
  have larger : ∀ size (a b : Compiled), max (max size a.size) b.size =
      max (max size b.size) a.size := fun size a b => Nat.max_right_comm _ _ _
  unfold Library.ofList
  congr 1
  · exact funext found
  · exact perm.length_eq
  · exact perm.foldl_eq' (fun a _ b _ size => larger size a b) 0

end Template

namespace Renderer

variable {r r' : Renderer} {cs cs' : List Template.Compiled} {name text : String} {n m : Nat}
  {model : Entries}

theorem render_congr (same : Template.Library.ofList r'.templates =
    Template.Library.ofList r.templates) : r'.render = r.render := by
  have found : r'.get? = r.get? := congrArg Template.Library.get? same
  funext name row model
  unfold render
  rw [found, same]

end Renderer

namespace Press

open FileTree Work

-- The same run for the templates in another order.
def listing (p : Press) (names : List String) : Press :=
  { p with config := { p.config with templates := names } }

section Orders

variable {p p' : Press} {table : Table} {r r' : Renderer} {t : FileTree} {u : RenderUnit}
  {units units' : List RenderUnit} {sidecar : Entries} {number : Nat} {row : List String}
  {rows : List (List String)} {names : List String} {s : Sheet} {d : Desk}

theorem targetsOf_perm {names' : List String} (listed : names'.Perm names)
    (perm : rows.Perm table.rows) :
    (p.targetsOf { table with rows } names').Perm (p.targetsOf table names) :=
  listed.flatMap fun _ _ => perm.filterMap _

theorem Apart.listing (apart : p.Apart table p.config.templates t)
    (listed : names.Perm p.config.templates) (perm : rows.Perm table.rows) :
    (p.listing names).Apart { table with rows } names t := by
  refine ⟨apart.proper, fun name named => apart.there name (listed.subset named), ?_⟩
  intro target member name named
  have others : (p.targetsOf { table with rows } names).Perm
      (p.targetsOf table p.config.templates) := targetsOf_perm listed perm
  exact apart.aside target (others.subset member) name (listed.subset named)

end Orders

section Results

variable {p : Press} {table : Table} {rows : List (List String)} {names : List String}
  {written : Nat} {d d' : Desk}

end Results

end Press

end RowPress
