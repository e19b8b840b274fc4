import Scriptlet.Lexer

/-! Reading tokens with two characters in view. Characters are pulled one by one, each with its
position, and only the next one tells where the current one stops. -/
namespace Scriptlet

/-- Characters that come one by one, each with its position. They may go on after an end. -/
class Characters (ι : Type) where
  pull : ι → Option (UInt32 × Char) × ι
  extent : ι → Nat
  spends : ∀ input, extent (pull input).2 + (pull input).1.toList.length ≤ extent input

instance : Characters (List (UInt32 × Char)) where
  pull
    | [] => (none,[])
    | item :: rest => (some item,rest)
  extent := List.length
  spends
    | [] => Nat.le_refl _
    | _ :: _ => Nat.le_refl _

structure Scanner (ι : Type) where
  current : Option Char
  position : UInt32
  ahead : Option Char
  aheadPosition : UInt32
  input : ι
  deriving DecidableEq,Repr

namespace Scanner

section
variable {ι : Type} [Characters ι]

/-- The character ahead becomes the current one. When no character comes, the width of the one
ahead tells where it stops. -/
def advance (scanner : Scanner ι) : Scanner ι :=
  match Characters.pull scanner.input with
  | (some (position,c),input) =>
    ⟨scanner.ahead,scanner.aheadPosition,some c,position,input⟩
  | (none,input) =>
    let behind := match scanner.ahead with
      | some c => scanner.aheadPosition + Cursor.room c
      | none => scanner.aheadPosition
    ⟨scanner.ahead,scanner.aheadPosition,none,behind,input⟩

def ofInput (input : ι) : Scanner ι := (⟨none,0,none,0,input⟩ : Scanner ι).advance.advance

def left (scanner : Scanner ι) : Nat :=
  scanner.current.toList.length + scanner.ahead.toList.length + Characters.extent scanner.input

theorem left_advance {scanner : Scanner ι} {c : Char} (found : scanner.current = some c) :
    scanner.advance.left < scanner.left := by
  have spent := Characters.spends scanner.input
  unfold advance left
  rw [found]
  split <;> simp_all <;> omega

def takeWhile (keep : Char → Bool) (taken : String) (scanner : Scanner ι) : String × Scanner ι :=
  match _found : scanner.current with
  | none => (taken,scanner)
  | some c =>
    if keep c then scanner.advance.takeWhile keep (taken.push c) else (taken,scanner)
termination_by scanner.left
decreasing_by exact left_advance _found

variable [Alphabet]

def next (scanner : Scanner ι) : Except LexError Lexeme × Scanner ι :=
  let scanner := (scanner.takeWhile Cursor.isBlank "").2
  match scanner.current with
  | none => (.ok ⟨.eof,⟨scanner.position,scanner.position⟩⟩,scanner)
  | some c =>
    let upTo (token : Token) (after : Scanner ι) : Except LexError Lexeme × Scanner ι :=
      (.ok ⟨token,⟨scanner.position,after.position⟩⟩,after)
    match Token.symbol? c with
    | some token => upTo token scanner.advance
    | none =>
      if c.isDigit then
        let (digits,after) := scanner.takeWhile Char.isDigit ""
        upTo (.number digits) after
      else if Alphabet.letter c then
        let (letters,after) := scanner.takeWhile Alphabet.letter ""
        upTo (Cursor.wordToken letters) after
      else (.error ⟨c,⟨scanner.position,scanner.advance.position⟩⟩,scanner.advance)

def items : Nat → Scanner ι → List (Except LexError Lexeme)
  | 0,_ => []
  | count + 1,scanner => scanner.next.1 :: items count scanner.next.2

end

def ofPositioned (chars : List (UInt32 × Char)) : Scanner (List (UInt32 × Char)) := ofInput chars

def ofText (text : String) : Scanner (List (UInt32 × Char)) :=
  ofPositioned (Cursor.ofText text).rest

end Scanner
end Scriptlet
