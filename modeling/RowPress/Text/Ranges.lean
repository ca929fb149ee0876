/-! Sets of characters, given by ascending and disjoint ranges of code points. -/
namespace RowPress.Text

-- Both ends of a range belong to it.
abbrev Ranges := List (Nat × Nat)

-- The search ends at the first range that starts beyond the code point.
def Ranges.covers : Ranges → Nat → Bool
  | [], _ => false
  | (first, last) :: rest, point =>
    if point < first then false else if point ≤ last then true else Ranges.covers rest point

end RowPress.Text
