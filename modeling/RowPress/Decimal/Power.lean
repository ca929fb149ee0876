/-! Powers of two and of ten, the bases in which numbers are stored and written. -/
namespace RowPress.Decimal

def twoTo (n : Nat) : Nat := Nat.pow 2 n

def tenTo (n : Nat) : Nat := Nat.pow 10 n

end RowPress.Decimal
