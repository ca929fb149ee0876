/-! Reading bytes as text. -/
namespace RowPress.Text

def isContinuation (b : UInt8) : Bool := 0x80 ≤ b && b < 0xC0

def low (b : UInt8) : Nat := b.toNat % 64

-- The character at the front of some bytes, and how many bytes it takes. Only the shortest form of
-- a character counts, and surrogates are no characters.
def decodeFirst? : List UInt8 → Option (Char × Nat)
  | [] => none
  | a :: rest =>
    if a < 0x80 then some (Char.ofNat a.toNat, 1)
    else if 0xC2 ≤ a ∧ a < 0xE0 then
      match rest with
      | b :: _ =>
        if isContinuation b then some (Char.ofNat ((a.toNat - 0xC0) * 64 + low b), 2) else none
      | [] => none
    else if 0xE0 ≤ a ∧ a < 0xF0 then
      match rest with
      | b :: c :: _ =>
        let code := ((a.toNat - 0xE0) * 64 + low b) * 64 + low c
        if isContinuation b && isContinuation c && 0x800 ≤ code
            && (code < 0xD800 || 0xDFFF < code) then some (Char.ofNat code, 3)
        else none
      | _ => none
    else if 0xF0 ≤ a ∧ a < 0xF5 then
      match rest with
      | b :: c :: d :: _ =>
        let code := (((a.toNat - 0xF0) * 64 + low b) * 64 + low c) * 64 + low d
        if isContinuation b && isContinuation c && isContinuation d && 0x10000 ≤ code
            && code < 0x110000 then some (Char.ofNat code, 4)
        else none
      | _ => none
    else none

-- The characters up to the first byte that belongs to none, and how many bytes they take.
def decodePrefix : Nat → List UInt8 → List Char × Nat
  | 0, _ => ([], 0)
  | fuel + 1, bytes =>
    match decodeFirst? bytes with
    | none => ([], 0)
    | some (c, n) =>
      let (more, taken) := decodePrefix fuel (bytes.drop n)
      (c :: more, taken + n)

def decodeValid (bytes : List UInt8) : List Char × Nat := decodePrefix bytes.length bytes

def decode? (bytes : List UInt8) : Option String :=
  let (cs, taken) := decodeValid bytes
  if taken = bytes.length then some (String.ofList cs) else none

end RowPress.Text
