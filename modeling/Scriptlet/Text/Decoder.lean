/-! Decoders of bytes. What is no character gives a fault, and reading may go on behind it. -/
namespace Scriptlet.Text

inductive DecodeFault where
  | malformed
  | truncated
  deriving DecidableEq,Repr

class Decoder where
  /-- The character or fault in front of the bytes, and the bytes behind it. -/
  read : List UInt8 → Option (Except DecodeFault Char × List UInt8)
  shorter : ∀ {bytes item rest}, read bytes = some (item,rest) → rest.length < bytes.length

end Scriptlet.Text
