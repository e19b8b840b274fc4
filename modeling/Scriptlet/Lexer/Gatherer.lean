import Scriptlet.Lexer.Scanner
import Scriptlet.Text.Decoder

/-! A file while it is read. Its text is gathered from the characters that are read. A fault looks
like an end of the characters, but what is asked for next stands behind it. -/
namespace Scriptlet
open Text

structure Gatherer where
  bytes : List UInt8
  text : String
  fault : Option DecodeFault
  position : UInt32

namespace Gatherer

def ofBytes (bytes : List UInt8) : Gatherer := ⟨bytes,"",none,0⟩

variable [Decoder]

def pull (gatherer : Gatherer) : Option (UInt32 × Char) × Gatherer :=
  match Decoder.read gatherer.bytes with
  | none => (none,gatherer)
  | some (.ok c,rest) =>
    (some (gatherer.position,c),
      ⟨rest,gatherer.text.push c,gatherer.fault,gatherer.position + Cursor.room c⟩)
  | some (.error fault,rest) => (none,{gatherer with bytes := rest,fault := some fault})

instance : Characters Gatherer where
  pull := pull
  extent gatherer := gatherer.bytes.length
  spends gatherer := by
    unfold pull
    split
    · exact Nat.le_refl _
    all_goals
      next found =>
      have fewer := Decoder.shorter found
      simp only [Option.toList_some,Option.toList_none,List.length_singleton,List.length_nil]
      omega

end Gatherer
end Scriptlet
