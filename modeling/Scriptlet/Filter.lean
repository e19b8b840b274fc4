import Scriptlet.Filter.Directive

/-! Which events a log shows. A filter is a list of directives; the one that says most about
an event decides. -/
namespace Scriptlet

structure Filter where
  directives : List Directive
  deriving DecidableEq,Repr

namespace Filter

def only (level : Level) : Filter := ⟨[{Directive.everything with rank := level.rank}]⟩

/-- Of two directives with one target and field the later one counts. -/
def directive? (filter : Filter) (event : Event) : Option Directive :=
  filter.directives.foldl (fun best directive =>
    if directive.concerns event then
      match best with
      | none => some directive
      | some chosen => if chosen.yieldsTo directive then some directive else best
    else best) none

def shows (filter : Filter) (event : Event) : Bool :=
  match filter.directive? event with
  | some directive => event.level.rank ≤ directive.rank
  | none => false

def ofText (text : String) : Filter × List (String × DirectiveFault) :=
  let parts := (text.splitOn ",").filter (!·.isEmpty)
  let directives := parts.filterMap fun part => (Directive.read part).toOption
  let ignored := parts.filterMap fun part =>
    match Directive.read part with
    | .ok _ => none
    | .error fault => some (part,fault)
  (if directives.isEmpty then only .error else ⟨directives⟩,ignored)

end Filter
end Scriptlet
