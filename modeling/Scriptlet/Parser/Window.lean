import Scriptlet.Lexer.Scanner
import Scriptlet.Parser.Feed

/-! Two tokens in view of a source. Items are pulled from the source one at a time, until it ends
or gives a fault; the fault is kept and nothing more is pulled. -/
namespace Scriptlet

/-- Tokens and faults that come one by one. A source may go on after an end or a fault. -/
class Source (σ : Type) where
  pull : σ → Option (Except LexError Lexeme) × σ
  extent : σ → Nat

instance : Source (List (Except LexError Lexeme)) where
  pull
    | [] => (none,[])
    | item :: rest => (some item,rest)
  extent := List.length

instance {ι : Type} [Characters ι] [Alphabet] : Source (Scanner ι) where
  pull scanner := (some scanner.next.1,scanner.next.2)
  extent := Scanner.left

structure Window (σ : Type) where
  current : Option Lexeme
  next : Option Lexeme
  faults : List LexError
  source : σ
  exhausted : Bool

namespace Window
variable {σ : Type} [Source σ]

def pull (window : Window σ) : Option Lexeme × Window σ :=
  if window.exhausted then (none,window)
  else
    match Source.pull window.source with
    | (some (.ok lexeme),source) => (some lexeme,{window with source := source})
    | (some (.error error),source) =>
      (none,{window with faults := window.faults ++ [error],source := source,exhausted := true})
    | (none,source) => (none,{window with source := source,exhausted := true})

def step (window : Window σ) : Window σ :=
  let (lexeme,window) := window.pull
  {window with current := window.next,next := lexeme}

def ofSource (source : σ) : Window σ := (⟨none,none,[],source,false⟩ : Window σ).step.step

instance : Feed (Window σ) where
  current := current
  step := step
  fault window := window.faults.head?
  bound window := 8 * (Source.extent window.source + 4)

end Window
end Scriptlet
