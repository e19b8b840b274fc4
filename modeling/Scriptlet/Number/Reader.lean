import Scriptlet.Number.Shortest

/-! Reading a number: an optional sign, then a decimal with an optional point and
exponent, or a name of infinity or of not-a-number in any case. -/
namespace Scriptlet.Number

def digitsValue (digits : List Char) : Nat :=
  digits.foldl (fun value digit => 10 * value + (digit.toNat - '0'.toNat)) 0

def exponent? : List Char → Option Int
  | [] => some 0
  | mark :: rest =>
    if mark != 'e' && mark != 'E' then none
    else
      let (negative,digits) := match rest with
        | '-' :: digits => (true,digits)
        | '+' :: digits => (false,digits)
        | digits => (false,digits)
      if digits.isEmpty || !digits.all Char.isDigit then none
      else some (if negative then -(digitsValue digits : Int) else digitsValue digits)

/-- Magnitudes far outside the range of numbers are settled by their power of ten. -/
def scaled (negative : Bool) (significand : Nat) (exponent : Int) : Float :=
  let power := (digitCount significand : Int) + exponent
  if significand = 0 then (Datum.finite negative 0).toFloat
  else if 400 < power then (Datum.infinite negative).toFloat
  else if power < -400 then (Datum.finite negative 0).toFloat
  else nearest negative (significand * tenTo exponent.toNat) (tenTo (-exponent).toNat)

def decimal? (negative : Bool) (chars : List Char) : Option Float :=
  let whole := chars.takeWhile Char.isDigit
  let rest := chars.dropWhile Char.isDigit
  let (fraction,rest) := match rest with
    | '.' :: rest => (rest.takeWhile Char.isDigit,rest.dropWhile Char.isDigit)
    | rest => ([],rest)
  if whole.isEmpty && fraction.isEmpty then none
  else (exponent? rest).map fun exponent =>
    scaled negative (digitsValue (whole ++ fraction)) (exponent - fraction.length)

def unsigned? (negative : Bool) (chars : List Char) : Option Float :=
  let name := chars.map Char.toLower
  if name = ['i','n','f'] || name = ['i','n','f','i','n','i','t','y'] then
    some (Datum.infinite negative).toFloat
  else if name = ['n','a','n'] then some Datum.nan.toFloat
  else decimal? negative chars

def read? (text : String) : Option Float :=
  match text.toList with
  | '-' :: chars => unsigned? true chars
  | '+' :: chars => unsigned? false chars
  | chars => unsigned? false chars

end Scriptlet.Number
