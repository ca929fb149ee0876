import RowPress.Text.Class
/-!
Keys of documents are made usable as variable names in templates: letters and digits are kept,
everything else becomes an underscore, and neither underscores nor digits may lead.
-/
namespace RowPress

def isUnderscore (c : Char) : Bool := c == '_'

def underscored (c : Char) : Char := if Text.isAlphanumeric c then c else '_'

-- One round takes underscores off both ends, then a leading digit, then blanks off both ends.
def keyRound (key : List Char) : List Char :=
  match Text.trimWhile isUnderscore key with
  | first :: rest =>
    Text.trimWhile Text.isBlank (if Text.isNumeric first then rest else first :: rest)
  | [] => []

theorem trimWhile_sublist (test : Char → Bool) (cs : List Char) :
    (Text.trimWhile test cs).Sublist cs := by
  have back : (Text.dropEndWhile test (cs.dropWhile test)).Sublist (cs.dropWhile test) := by
    have dropped := (List.dropWhile_sublist test (l := (cs.dropWhile test).reverse)).reverse
    rwa [List.reverse_reverse] at dropped
  exact back.trans (List.dropWhile_sublist test)

theorem keyRound_sublist (key : List Char) : (keyRound key).Sublist key := by
  have outer := trimWhile_sublist isUnderscore key
  unfold keyRound
  split
  next first rest trimmed =>
    rw [trimmed] at outer
    refine (trimWhile_sublist _ _).trans (List.Sublist.trans ?_ outer)
    split
    · exact List.sublist_cons_self _ _
    · exact List.Sublist.refl _
  next => exact List.nil_sublist _

-- Rounds are repeated until one changes nothing.
def settleKey (key : List Char) : List Char :=
  if keyRound key = key then key else settleKey (keyRound key)
termination_by key.length
decreasing_by
  rename_i changed
  have shorter := keyRound_sublist key
  refine Nat.lt_of_le_of_ne shorter.length_le fun same => changed ?_
  exact shorter.eq_of_length same

def keyOf (raw : String) : String := String.ofList (settleKey (raw.toList.map underscored))

end RowPress
