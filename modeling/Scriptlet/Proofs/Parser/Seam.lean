import Scriptlet.Proofs.Parser.Completeness
import Scriptlet.Proofs.Tree.Places

/-! Two streams with the same tokens up to a seam, moved or not, and what a parser can tell of
them in front of the seam and at it. -/
namespace Scriptlet

namespace Span

/-- A position moved on, at most to the last one. Unlike a sum, this keeps positions in order. -/
def pushed (offset position : UInt32) : UInt32 :=
  .ofNat (min (position.toNat + offset.toNat) (UInt32.size - 1))

private theorem pushed_toNat (offset position : UInt32) :
    (pushed offset position).toNat = min (position.toNat + offset.toNat) (UInt32.size - 1) :=
  UInt32.toNat_ofNat_of_lt' (Nat.lt_of_le_of_lt (Nat.min_le_right _ _) (by decide))

private theorem pushed_zero (position : UInt32) : pushed 0 position = position := by
  have small : position.toNat < UInt32.size := position.toNat_lt
  rw [← UInt32.toNat_inj,pushed_toNat,UInt32.toNat_zero]
  omega

private theorem pushed_eq {offset position : UInt32}
    (fits : position.toNat + offset.toNat < UInt32.size) :
    pushed offset position = position + offset := by
  rw [← UInt32.toNat_inj,pushed_toNat,UInt32.toNat_add,Nat.mod_eq_of_lt fits]
  omega

def push (offset : UInt32) (span : Span) : Span :=
  ⟨pushed offset span.start,pushed offset span.stop⟩

theorem push_eq_shift {offset limit : UInt32} (fits : limit.toNat + offset.toNat < UInt32.size)
    {span : Span} (start : span.start ≤ limit) (stop : span.stop ≤ limit) :
    span.push offset = span.shift offset := by
  rw [UInt32.le_iff_toNat_le] at start stop
  rw [push,pushed_eq (by omega),pushed_eq (by omega),shift]

theorem push_merge (offset : UInt32) (left right : Span) :
    (left.merge right).push offset = (left.push offset).merge (right.push offset) := by
  simp only [merge,push,mk.injEq,← UInt32.toNat_inj,pushed_toNat,UInt32.toNat_min,UInt32.toNat_max]
  omega

theorem push_zero : push 0 = id := by
  funext span
  rw [push,pushed_zero,pushed_zero,id]

end Span

def Lexeme.push (offset : UInt32) (lexeme : Lexeme) : Lexeme :=
  ⟨lexeme.token,lexeme.span.push offset⟩

theorem Lexeme.push_zero : Lexeme.push 0 = id := by
  funext lexeme
  rw [push,Span.push_zero,id,id]

/-- Two streams that go on differently behind the same tokens: where the first has `stop`, the
second has `fresh`. -/
structure Seam where
  offset : UInt32
  stop : Lexeme
  behind : List Lexeme
  fresh : Lexeme
  beyond : List Lexeme
  ending : Ending

namespace Seam
open Scriptlet.Stream

variable {seam : Seam} {stream other rest : Stream} {free : Prop}

def move (seam : Seam) : Span → Span := Span.push seam.offset

def Joins (seam : Seam) (stream other : Stream) : Prop :=
  stream.Steady ∧ ∃ front, stream.tokens = front ++ seam.stop :: seam.behind ∧
    other = ⟨front.map (Lexeme.push seam.offset) ++ seam.fresh :: seam.beyond,seam.ending⟩

def Same (seam : Seam) : Prop := seam.fresh.token = seam.stop.token

def Open (seam : Seam) : Prop :=
  seam.Same ∨ (seam.fresh.token.grip = 0 ∧ seam.fresh.token ≠ .semicolon)

def Inside (seam : Seam) (stream : Stream) : Prop :=
  seam.behind.length + 1 < stream.tokens.length

def Reaches (seam : Seam) (free : Prop) (stream : Stream) : Prop :=
  seam.Inside stream ∨ (free ∧ stream.tokens.length = seam.behind.length + 1)

theorem Inside.reaches (inside : seam.Inside stream) : seam.Reaches free stream := .inl inside

theorem Inside.back {tokens : List Token} (inside : seam.Inside rest)
    (taken : stream.Takes tokens rest) : seam.Inside stream := by
  obtain ⟨lexemes,_,_,whole,_⟩ := taken
  unfold Inside at *
  rw [whole,List.length_append]
  omega

theorem Reaches.mono {wider : Prop} (reached : seam.Reaches free stream) (weaker : free → wider) :
    seam.Reaches wider stream := reached.imp id fun here => ⟨weaker here.1,here.2⟩

theorem Same.isOpen (same : seam.Same) : seam.Open := .inl same

theorem Reaches.back {tokens : List Token} (reached : seam.Reaches free rest)
    (taken : stream.Takes tokens rest) : seam.Reaches free stream := by
  rcases reached with inside | ⟨allowed,here⟩
  · exact .inl (inside.back taken)
  · obtain ⟨lexemes,_,_,whole,_⟩ := taken
    cases lexemes with
    | nil => exact .inr ⟨allowed,by simp [whole,here]⟩
    | cons first lexemes =>
      left
      simp only [Inside,whole,List.length_append,List.length_cons,here]
      omega

theorem Reaches.inside {token : Token} {tokens : List Token} (reached : seam.Reaches free rest)
    (taken : stream.Takes (token :: tokens) rest) : seam.Inside stream := by
  rcases reached with inside | ⟨_,here⟩
  · exact inside.back taken
  · obtain ⟨lexemes,parts,_,whole,_⟩ := taken
    have counted : lexemes.length = tokens.length + 1 := by simpa using congrArg List.length parts
    unfold Inside
    rw [whole,List.length_append]
    omega

theorem Joins.steady (joined : seam.Joins stream other) : stream.Steady := joined.1

theorem Joins.unique {again : Stream} (joined : seam.Joins stream other)
    (joined' : seam.Joins stream again) : other = again := by
  obtain ⟨_,front,whole,rfl⟩ := joined
  obtain ⟨_,front',whole',rfl⟩ := joined'
  obtain rfl : front = front' := List.append_cancel_right (whole.symm.trans whole')
  rfl

theorem Joins.inside (joined : seam.Joins stream other) (inside : seam.Inside stream) :
    ∃ first front, stream.tokens = first :: front ++ seam.stop :: seam.behind ∧
      other = ⟨first.push seam.offset :: front.map (Lexeme.push seam.offset) ++
        seam.fresh :: seam.beyond,seam.ending⟩ := by
  obtain ⟨_,front,whole,rfl⟩ := joined
  cases front with
  | nil => simp [Inside,whole] at inside
  | cons first front => exact ⟨first,front,whole,rfl⟩

theorem Joins.here (joined : seam.Joins stream other)
    (here : stream.tokens.length = seam.behind.length + 1) :
    stream.current = some seam.stop ∧ other.current = some seam.fresh := by
  obtain ⟨_,front,whole,rfl⟩ := joined
  obtain rfl : front = [] := by
    rw [whole,List.length_append,List.length_cons] at here
    exact List.length_eq_zero_iff.mp (by omega)
  simp [current,whole]

theorem Joins.current (joined : seam.Joins stream other) (inside : seam.Inside stream) :
    ∃ lexeme, stream.current = some lexeme ∧
      other.current = some (lexeme.push seam.offset) := by
  obtain ⟨first,front,whole,rfl⟩ := joined.inside inside
  exact ⟨first,by simp [Stream.current,whole],by simp [Stream.current]⟩

theorem Joins.take {token : Token} {span : Span} (joined : seam.Joins stream other)
    (inside : seam.Inside stream) (found : stream.current = some ⟨token,span⟩)
    (inner : token ≠ .eof) :
    other.current = some ⟨token,seam.move span⟩ ∧ seam.Joins stream.step other.step := by
  have steady := (Takes.one joined.steady found inner).steady
  obtain ⟨first,front,whole,rfl⟩ := joined.inside inside
  obtain rfl : first = ⟨token,span⟩ := by simpa [Stream.current,whole] using found
  refine ⟨by simp [Stream.current,Lexeme.push,move],steady,front,?_,?_⟩
  · cases front <;> simp [Stream.step,whole]
  · cases front <;> simp [Stream.step]

section
variable (joined : seam.Joins stream other)
include joined

/-- In front of the seam, and at it where the same token stands there, the streams look alike. -/
theorem Joins.alike (reached : seam.Reaches seam.Same stream) :
    ∃ lexeme lexeme', stream.current = some lexeme ∧ other.current = some lexeme' ∧
      lexeme'.token = lexeme.token := by
  rcases reached with inside | ⟨same,here⟩
  · obtain ⟨lexeme,found,found'⟩ := joined.current inside
    exact ⟨lexeme,_,found,found',rfl⟩
  · obtain ⟨found,found'⟩ := joined.here here
    exact ⟨_,_,found,found',same⟩

theorem Joins.isAt_eq (reached : seam.Reaches seam.Same stream) (token : Token) :
    other.isAt token = stream.isAt token := by
  obtain ⟨lexeme,lexeme',found,found',same⟩ := joined.alike reached
  rw [isAt_of_current found,isAt_of_current found',same]

theorem Joins.notEof_eq (reached : seam.Reaches seam.Same stream) :
    other.notEof = stream.notEof := by
  obtain ⟨lexeme,lexeme',found,found',same⟩ := joined.alike reached
  rw [notEof_of_current found,notEof_of_current found',same]

theorem Joins.precedence_eq (reached : seam.Reaches seam.Same stream) :
    other.precedence = stream.precedence := by
  obtain ⟨lexeme,lexeme',found,found',same⟩ := joined.alike reached
  rw [precedence_of_current found,precedence_of_current found',same]

/-- At an open seam the streams look alike, or nothing in the second one goes on. -/
theorem Joins.cases (reached : seam.Reaches seam.Open stream) :
    seam.Reaches seam.Same stream ∨ (other.grip = 0 ∧ other.isAt .semicolon = false) := by
  rcases reached with inside | ⟨same | ⟨loose,other⟩,here⟩
  · exact .inl inside.reaches
  · exact .inl (.inr ⟨same,here⟩)
  · obtain ⟨_,found⟩ := joined.here here
    refine .inr ⟨(Parser.grip_of_current found).trans loose,?_⟩
    simp [isAt_of_current found,other]

theorem Joins.isAt_free {token : Token} (reached : seam.Reaches seam.Open stream)
    (missing : stream.isAt token = false) (tight : 0 < token.grip) :
    other.isAt token = false := by
  rcases joined.cases reached with same | ⟨loose,_⟩
  · rw [joined.isAt_eq same,missing]
  · exact Parser.isAt_of_grip_lt (by omega)

theorem Joins.precedence_free {floor : Precedence} (reached : seam.Reaches seam.Open stream)
    (looser : ¬ floor.rank < stream.precedence.rank) :
    ¬ floor.rank < other.precedence.rank := by
  rcases joined.cases reached with same | ⟨loose,_⟩
  · rwa [joined.precedence_eq same]
  · have none : other.precedence.rank ≤ other.grip - 1 := Parser.rank_le_of_grip
    omega

end

end Seam

end Scriptlet
