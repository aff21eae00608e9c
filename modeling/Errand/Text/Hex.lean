import Errand.Text.Form

/-!
Bytes as pairs of hexadecimal digits. `encode` writes small letters, `decode?` reads either case.
-/

set_option autoImplicit false

namespace Errand.Hex

/-- The lower-case digit for a value below sixteen. -/
def digit (n : Nat) : Char := if n < 10 then Char.ofNat (48 + n) else Char.ofNat (87 + n)

def encode (bytes : List UInt8) : List Char :=
  bytes.flatMap fun b ↦ [digit (b.toNat / 16), digit (b.toNat % 16)]

def decode? : List Char → Option (List UInt8)
  | [] => some []
  | [_] => none
  | h :: l :: rest => do
    let high ← Form.hexValue? h
    let low ← Form.hexValue? l
    let more ← decode? rest
    some (UInt8.ofNat (high * 16 + low) :: more)

def text (bytes : List UInt8) : String := String.ofList (encode bytes)

end Errand.Hex
