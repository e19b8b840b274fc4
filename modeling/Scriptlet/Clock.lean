/-! Moments as text. -/
namespace Scriptlet.Clock

/-- Year, month and day of a count of days since the first of January 1970, by eras of
400 years that start in March. -/
def civil (days : Nat) : Nat × Nat × Nat :=
  let shifted := days + 719468
  let era := shifted / 146097
  let day := shifted % 146097
  let year := (day - day / 1460 + day / 36524 - day / 146096) / 365
  let yearDay := day - (365 * year + year / 4 - year / 100)
  let fromMarch := (5 * yearDay + 2) / 153
  let month := if fromMarch < 10 then fromMarch + 3 else fromMarch - 9
  (400 * era + year + (if month ≤ 2 then 1 else 0),month,yearDay - (153 * fromMarch + 2) / 5 + 1)

def digits (width value : Nat) : String :=
  let text := toString value
  String.ofList (List.replicate (width - text.length) '0') ++ text

def stamp (micros : Nat) : String :=
  let seconds := micros / 1000000
  let (year,month,day) := civil (seconds / 86400)
  digits 4 year ++ "-" ++ digits 2 month ++ "-" ++ digits 2 day ++ "T"
    ++ digits 2 (seconds / 3600 % 24) ++ ":" ++ digits 2 (seconds / 60 % 60) ++ ":"
    ++ digits 2 (seconds % 60) ++ "." ++ digits 6 (micros % 1000000) ++ "Z"

def seconds (millis : Nat) : String :=
  let hundredths := (millis + 5) / 10
  toString (hundredths / 100) ++ "." ++ digits 2 (hundredths % 100) ++ "s"

end Scriptlet.Clock
