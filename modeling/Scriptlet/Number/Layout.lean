import Scriptlet.Number.Shortest

/-! The text of a number: the shortest digits that read back, set out by a layout. -/
namespace Scriptlet.Number

/-- Which powers of ten of the leading digit are written without an exponent, and
what follows a whole number. -/
structure Layout where
  positional : Int → Bool
  wholeEnding : String

def plain : Layout := ⟨fun _ => true,""⟩

def precise : Layout := ⟨fun power => -4 ≤ power && power < 16,".0"⟩

def zeros (count : Nat) : List Char := List.replicate count '0'

def Layout.decimal (layout : Layout) (value : Decimal) : String :=
  let digits := value.digits
  let power := value.point - 1
  if layout.positional power then
    if value.point ≤ 0 then "0." ++ String.ofList (zeros (-value.point).toNat ++ digits)
    else
      let whole := value.point.toNat
      if digits.length ≤ whole then
        String.ofList (digits ++ zeros (whole - digits.length)) ++ layout.wholeEnding
      else String.ofList (digits.take whole) ++ "." ++ String.ofList (digits.drop whole)
  else
    let fraction := if digits.length ≤ 1 then "" else "." ++ String.ofList (digits.drop 1)
    String.ofList (digits.take 1) ++ fraction ++ "e" ++ toString power

def Layout.text (layout : Layout) (x : Float) : String :=
  let signed (negative : Bool) (text : String) := if negative then "-" ++ text else text
  match Datum.ofFloat x with
  | .nan => "NaN"
  | .infinite negative => signed negative "inf"
  | .finite negative 0 => signed negative ("0" ++ layout.wholeEnding)
  | .finite negative steps => signed negative (layout.decimal (shortest steps))

end Scriptlet.Number
