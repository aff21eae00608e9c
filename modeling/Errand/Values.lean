import Errand.Json
import Errand.Payload

/-!
The value types at hand: numbers of three widths, texts, bytes, the unit value and documents.
-/

set_option autoImplicit false

namespace Errand

inductive ValueTag where
  | u8
  | u32
  | u64
  | string
  | bytes
  | unit
  | json
  deriving DecidableEq, Repr

/-- The type under a tag. -/
@[reducible] def ValueTag.Carrier : ValueTag → Type
  | u8 => UInt8
  | u32 => UInt32
  | u64 => UInt64
  | string => String
  | bytes => List UInt8
  | unit => Unit
  | json => Json

@[reducible] def values : ValueTypes where
  Tag := ValueTag
  Carrier := ValueTag.Carrier

instance : Carried values UInt8 := ValueTypes.carried (V := values) .u8

instance : Carried values UInt32 := ValueTypes.carried (V := values) .u32

instance : Carried values UInt64 := ValueTypes.carried (V := values) .u64

instance : Carried values String := ValueTypes.carried (V := values) .string

instance : Carried values (List UInt8) := ValueTypes.carried (V := values) .bytes

instance : Carried values Unit := ValueTypes.carried (V := values) .unit

instance : Carried values Json := ValueTypes.carried (V := values) .json

end Errand
