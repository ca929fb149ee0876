/-!
How similar two words are: characters count as shared if they stand not too far apart, and shared
characters in a different order count half.
-/
namespace RowPress.Similarity

-- Marks the first unmarked place within reach that holds the character. Places are counted from
-- the given number.
def claim (a : Char) (low high : Nat) : Nat → List (Char × Bool) → Option (List (Char × Bool))
  | _, [] => none
  | j, (b, taken) :: rest =>
    if low ≤ j ∧ j < high ∧ a = b ∧ !taken then some ((b, true) :: rest)
    else (claim a low high (j + 1) rest).map ((b, taken) :: ·)

-- The characters of the first word that found a partner, and the second word with its marks.
def share (reach : Nat) : Nat → List Char → List (Char × Bool) → List Char × List (Char × Bool)
  | _, [], marked => ([], marked)
  | i, a :: rest, marked =>
    match claim a (i - reach) (i + reach + 1) 0 marked with
    | some marked =>
      let (shared, marked) := share reach (i + 1) rest marked
      (a :: shared, marked)
    | none => share reach (i + 1) rest marked

-- A similarity as a quotient; one is the greatest.
structure Score where
  num : Nat
  den : Nat

def score (a b : List Char) : Score :=
  let reach := max a.length b.length / 2 - 1
  let (shared, marked) := share reach 0 a (b.map (·, false))
  let partners := (marked.filter (·.2)).map (·.1)
  let m := shared.length
  let swapped := ((shared.zip partners).filter fun (x, y) => x != y).length / 2
  if m = 0 then ⟨0, 1⟩
  else ⟨m * m * b.length + m * m * a.length + (m - swapped) * a.length * b.length,
    3 * m * a.length * b.length⟩

def Score.exceeds (x y : Score) : Bool := y.num * x.den < x.num * y.den

-- The most similar of some words, if it is similar enough. Of equals the last one is taken.
def closest? (word : String) (threshold : Score) (words : List String) : Option String :=
  words.foldl (fun best candidate =>
    let s := score word.toList candidate.toList
    if !s.exceeds threshold then best
    else match best with
      | some chosen =>
        if (score word.toList (String.toList chosen)).exceeds s then best else some candidate
      | none => some candidate) none

end RowPress.Similarity
