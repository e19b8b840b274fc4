import Scriptlet.Number.Datum

/-! The remainder of a division that is cut towards zero. It is exact and takes the sign
of the dividend. -/
namespace Scriptlet.Number

def remainder (left right : Float) : Float :=
  match Datum.ofFloat left,Datum.ofFloat right with
  | .finite negative dividend,.finite _ divisor =>
    if divisor = 0 then Datum.nan.toFloat
    else (Datum.finite negative (dividend % divisor)).toFloat
  | .finite _ _,.infinite _ => left
  | _,_ => Datum.nan.toFloat

end Scriptlet.Number
