/-! Byte ranges of the source. -/
namespace Scriptlet

/-- From `start` up to, not including, `stop`; both count bytes of the UTF-8 source, modulo
`2 ^ 32`. -/
structure Span where
  start : UInt32
  stop : UInt32
  deriving DecidableEq,Repr,Inhabited

namespace Span

def empty : Span := ⟨0,0⟩

def merge (left right : Span) : Span :=
  ⟨min left.start right.start,max left.stop right.stop⟩

def shift (offset : UInt32) (span : Span) : Span :=
  ⟨span.start + offset,span.stop + offset⟩

def text (span : Span) : String :=
  toString span.start ++ ".." ++ toString span.stop

end Span
end Scriptlet
