/-!
UTF-8. `scan` reads the first scalar value of a byte list, or the longest beginning of one that
breaks off; `decode?` accepts only whole scalar values and `decodeLossy` puts U+FFFD for every
broken piece. `encode` writes a text back.
-/

set_option autoImplicit false

namespace Errand.Utf8

/-- Whether a byte lies between two bounds. -/
def between (low high b : UInt8) : Bool := low ≤ b && b ≤ high

/-- The six low bits of a continuation byte. -/
def tailBits (b : UInt8) : Nat := b.toNat % 64

/-- How a first byte goes on: the bits it carries, how many bytes follow it, and the bounds of
the second byte. The bounds keep out overlong forms, surrogates and values above U+10FFFF. -/
structure Lead where
  bits : Nat
  following : Nat
  low : UInt8
  high : UInt8

def lead? (b : UInt8) : Option Lead :=
  if b < 0x80 then some ⟨b.toNat, 0, 0x80, 0xBF⟩
  else if between 0xC2 0xDF b then some ⟨b.toNat % 32, 1, 0x80, 0xBF⟩
  else if b = 0xE0 then some ⟨0, 2, 0xA0, 0xBF⟩
  else if b = 0xED then some ⟨13, 2, 0x80, 0x9F⟩
  else if between 0xE1 0xEF b then some ⟨b.toNat % 16, 2, 0x80, 0xBF⟩
  else if b = 0xF0 then some ⟨0, 3, 0x90, 0xBF⟩
  else if between 0xF1 0xF3 b then some ⟨b.toNat % 8, 3, 0x80, 0xBF⟩
  else if b = 0xF4 then some ⟨4, 3, 0x80, 0x8F⟩
  else none

/-- Takes up to `count` continuation bytes into `acc`, the first of them within the bounds given.
The flag tells whether all of them were there. -/
def takeTail (acc : Nat) (low high : UInt8) : Nat → List UInt8 → Bool × Nat × List UInt8
  | 0, rest => (true, acc, rest)
  | _ + 1, [] => (false, acc, [])
  | count + 1, b :: rest =>
    if between low high b then takeTail (acc * 64 + tailBits b) 0x80 0xBF count rest
    else (false, acc, b :: rest)

/-- Reads one scalar value after its first byte; `none` stands for a broken piece. -/
def scan (b : UInt8) (rest : List UInt8) : Option Char × List UInt8 :=
  match lead? b with
  | none => (none, rest)
  | some lead =>
    let (whole, value, left) := takeTail lead.bits lead.low lead.high lead.following rest
    (if whole then some (Char.ofNat value) else none, left)

theorem length_takeTail_le (count : Nat) (acc : Nat) (low high : UInt8) (rest : List UInt8) :
    (takeTail acc low high count rest).2.2.length ≤ rest.length := by
  induction count generalizing acc low high rest with
  | zero => simp [takeTail]
  | succ count ih =>
    cases rest with
    | nil => simp [takeTail]
    | cons b rest =>
      simp only [takeTail]
      split
      · exact Nat.le_trans (ih _ _ _ _) (Nat.le_succ _)
      · exact Nat.le_refl _

theorem length_scan_le (b : UInt8) (rest : List UInt8) :
    (scan b rest).2.length ≤ rest.length := by
  unfold scan
  split
  · exact Nat.le_refl _
  · exact length_takeTail_le _ _ _ _ _

/-- The pieces of a byte list: its scalar values, and `none` for every broken piece. -/
def pieces : List UInt8 → List (Option Char)
  | [] => []
  | b :: rest => (scan b rest).1 :: pieces (scan b rest).2
termination_by bytes => bytes.length
decreasing_by exact Nat.lt_succ_of_le (length_scan_le b rest)

/-- The text, if the bytes are UTF-8 throughout. -/
def decode? (bytes : List UInt8) : Option String :=
  ((pieces bytes).mapM fun piece ↦ piece).map String.ofList

/-- The text, with U+FFFD in place of every broken piece. -/
def decodeLossy (bytes : List UInt8) : String :=
  String.ofList ((pieces bytes).map fun piece ↦ piece.getD '\uFFFD')

def encode (text : String) : List UInt8 := text.toList.flatMap String.utf8EncodeChar

end Errand.Utf8
