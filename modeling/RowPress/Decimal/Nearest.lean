import RowPress.Decimal.Power
/-!
Doubles as exact numbers: the double nearest to a quotient of naturals, and the significand and
power of two of a given double. Both work on the bits, in exact arithmetic.
-/
namespace RowPress.Decimal

-- A quotient multiplied by a power of two, again as a quotient.
def scaleByTwo (num den : Nat) (power : Int) : Nat × Nat :=
  if 0 ≤ power then (num * twoTo power.toNat, den) else (num, den * twoTo (-power).toNat)

-- The integer nearest to a quotient; a half goes to the even neighbour.
def roundQuotient (num den : Nat) : Nat :=
  let whole := num / den
  let rest := num % den
  if 2 * rest < den then whole
  else if den < 2 * rest then whole + 1
  else whole + whole % 2

-- The power of two of the last significand bit of the double next to the quotient: 53 bits, and
-- never below the smallest subnormal.
def lastPlace (num den : Nat) : Int :=
  let guess : Int := (num.log2 : Int) - (den.log2 : Int) - 52
  let (n, d) := scaleByTwo num den (-guess)
  max (-1074) (if n / d < twoTo 52 then guess - 1 else guess)

-- Significand and exponent share one scale in the bits of a double, so a significand rounded up
-- to the next power of two needs no case of its own.
def magnitudeBits (num den : Nat) : Nat :=
  if num = 0 then 0
  else
    let place := lastPlace num den
    let (n, d) := scaleByTwo num den (-place)
    min (roundQuotient n d + (place + 1074).toNat * twoTo 52) (2047 * twoTo 52)

-- Ties go to the even significand, and what is too large becomes infinite.
def nearest (negative : Bool) (num den : Nat) : Float :=
  Float.ofBits (UInt64.ofNat ((if negative then twoTo 63 else 0) + magnitudeBits num den))

-- The value of `digits` times a power of ten. Beyond the range of doubles no power is computed.
def ofScientific (negative : Bool) (digits : Nat) (power : Int) : Float :=
  if digits = 0 then nearest negative 0 1
  else
    let size : Int := (Nat.log2 digits : Int) / 3 + 1
    if 330 < power then nearest negative (twoTo 1024) 1
    else if power + size < -340 then nearest negative 0 1
    else if 0 ≤ power then nearest negative (digits * tenTo power.toNat) 1
    else nearest negative digits (tenTo (-power).toNat)

-- A finite double is `significand * 2 ^ power`, up to its sign.
structure Parts where
  negative : Bool
  significand : Nat
  power : Int

inductive Kind where
  | finite (parts : Parts)
  | infinite (negative : Bool)
  | notANumber

def kind (x : Float) : Kind :=
  let bits := x.toBits.toNat
  let negative := twoTo 63 ≤ bits
  let exponent : Nat := bits / twoTo 52 % 2048
  let fraction : Nat := bits % twoTo 52
  if exponent = 2047 then if fraction = 0 then .infinite negative else .notANumber
  else if exponent = 0 then .finite ⟨negative, fraction, -1074⟩
  else .finite ⟨negative, fraction + twoTo 52, (exponent : Int) - 1075⟩

end RowPress.Decimal
