/-! Patterns: regular expressions over characters, and which of them can be run. Tables of
characters beyond ASCII are not at hand: shorthand classes, letter case and word boundaries
need them unless a pattern is confined to ASCII, and then it must not match single bytes
beyond ASCII. -/
namespace Scriptlet

structure Flags where
  folding : Option Bool
  wide : Option Bool
  spaced : Option Bool
  deriving DecidableEq,Repr

def Flags.unchanged : Flags := ⟨none,none,none⟩

structure Literal where
  char : Char
  isByte : Bool
  deriving DecidableEq,Repr

inductive CharSet where
  | nothing
  | literal (literal : Literal)
  | range (first last : Literal)
  | named (negated : Bool)
  | shorthand (negated : Bool)
  | bracketed (negated : Bool) (members : CharSet)
  | union (members : List CharSet)
  | operation (left right : CharSet)

inductive Pattern where
  | empty
  | flags (flags : Flags)
  | literal (literal : Literal)
  | dot
  | anchor
  | boundary
  | shorthand (negated : Bool)
  | charClass (negated : Bool) (members : CharSet)
  | repetition (inner : Pattern)
  | group (flags : Flags) (inner : Pattern)
  | alternation (branches : List Pattern)
  | concatenation (items : List Pattern)

mutual
def CharSet.depth : CharSet → Nat
  | .bracketed _ members => members.depth + 1
  | .union members => deepestMember members + 1
  | .operation left right => max left.depth right.depth + 1
  | _ => 0
def deepestMember : List CharSet → Nat
  | [] => 0
  | member :: rest => max member.depth (deepestMember rest)
end

mutual
def Pattern.depth : Pattern → Nat
  | .charClass _ members => members.depth + 1
  | .repetition inner => inner.depth + 1
  | .group _ inner => inner.depth + 1
  | .alternation branches => deepestPart branches + 1
  | .concatenation items => deepestPart items + 1
  | _ => 0
def deepestPart : List Pattern → Nat
  | [] => 0
  | part :: rest => max part.depth (deepestPart rest)
end

namespace Pattern

structure Mode where
  folding : Bool
  wide : Bool
  deriving DecidableEq,Repr

def Mode.initial : Mode := ⟨false,true⟩

def Mode.apply (mode : Mode) (flags : Flags) : Mode :=
  ⟨flags.folding.getD mode.folding,flags.wide.getD mode.wide⟩

/-- Both cases of a character are known for ASCII only, and a byte beyond it is no
character. -/
def Mode.admitsLiteral (mode : Mode) (literal : Literal) : Bool :=
  if mode.wide then !mode.folding else !(literal.isByte && 0x80 ≤ literal.char.toNat)

def Mode.admitsMember (mode : Mode) (literal : Literal) : Bool :=
  if mode.wide then !mode.folding else literal.char.toNat < 0x80

def Mode.admitsNegation (mode : Mode) (negated : Bool) : Bool := mode.wide || !negated

def Mode.admitsShorthand (mode : Mode) (negated : Bool) : Bool := !mode.wide && !negated

mutual
def Mode.admitsSet (mode : Mode) : CharSet → Bool
  | .nothing => true
  | .literal content => mode.admitsMember content
  | .range first last => mode.admitsMember first && mode.admitsMember last
  | .named negated => if mode.wide then !mode.folding else !negated
  | .shorthand negated => mode.admitsShorthand negated
  | .bracketed negated members => mode.admitsNegation negated && mode.admitsSet members
  | .union members => mode.admitsMembers members
  | .operation left right => mode.admitsSet left && mode.admitsSet right
def Mode.admitsMembers (mode : Mode) : List CharSet → Bool
  | [] => true
  | member :: rest => mode.admitsSet member && mode.admitsMembers rest
end

/-- What is known of a pattern that can be run up to a place: the settings there, and whether
a word boundary beyond ASCII has come up. -/
structure Survey where
  mode : Mode
  wideBoundary : Bool
  deriving DecidableEq,Repr

def Survey.check (survey : Survey) (condition : Bool) : Option Survey :=
  if condition then some survey else none

mutual
def survey (before : Survey) : Pattern → Option Survey
  | .empty => some before
  | .flags changes => some {before with mode := before.mode.apply changes}
  | .literal content => before.check (before.mode.admitsLiteral content)
  | .dot => before.check before.mode.wide
  | .anchor => some before
  | .boundary => some {before with wideBoundary := before.wideBoundary || before.mode.wide}
  | .shorthand negated => before.check (before.mode.admitsShorthand negated)
  | .charClass negated members =>
    before.check (before.mode.admitsNegation negated && before.mode.admitsSet members)
  | .repetition inner => survey before inner
  | .group changes inner =>
    match survey {before with mode := before.mode.apply changes} inner with
    | some after => some {after with mode := before.mode}
    | none => none
  | .alternation branches => surveyParts before branches
  | .concatenation items => surveyParts before items
def surveyParts (before : Survey) : List Pattern → Option Survey
  | [] => some before
  | part :: rest =>
    match survey before part with
    | some after => surveyParts after rest
    | none => none
end

def nestingLimit : Nat := 250

end Pattern

inductive PatternFault where
  | unusable
  | wideBoundary
  deriving DecidableEq,Repr

def PatternFault.message : PatternFault → String
  | unusable => "error building NFA"
  | wideBoundary => "unsupported regex feature for DFAs: cannot build DFAs for regexes with "
      ++ "Unicode word boundaries; switch to ASCII word boundaries, or heuristically enable "
      ++ "Unicode word boundaries or use a different regex engine"

/-- A word boundary beyond ASCII is the last thing that is found wrong. -/
def Pattern.fault? (pattern : Pattern) : Option PatternFault :=
  if nestingLimit < pattern.depth then some .unusable
  else
    match survey ⟨Mode.initial,false⟩ pattern with
    | none => some .unusable
    | some after => if after.wideBoundary then some .wideBoundary else none

end Scriptlet
