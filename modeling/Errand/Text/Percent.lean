import Errand.Text.Form

/-!
Percent escapes: a byte that may not stand for itself is a percent sign and two hexadecimal
digits. `encode` escapes all bytes outside ASCII and those in it that a predicate names; `decode`
gives the bytes back.
-/

set_option autoImplicit false

namespace Errand.Percent

/-- The text with every character escaped that is not ASCII or that `mustEscape` names. -/
def encode (mustEscape : Char → Bool) (text : List Char) : List Char :=
  text.flatMap fun c ↦
    if c.toNat < 0x80 && !mustEscape c then [c]
    else (String.utf8EncodeChar c).flatMap Form.escaped

/-- The bytes a text stands for; a percent sign without two digits is itself. -/
def decode : List Char → List UInt8
  | '%' :: h :: l :: rest =>
    match Form.hexValue? h, Form.hexValue? l with
    | some high, some low => UInt8.ofNat (16 * high + low) :: decode rest
    | _, _ => 0x25 :: decode (h :: l :: rest)
  | c :: rest => String.utf8EncodeChar c ++ decode rest
  | [] => []
termination_by text => text.length

end Errand.Percent
