import Scriptlet.Parser.Window

/-! What a window shows of its source. A window with some tokens of the source behind it is the
window that would be opened there: its two tokens are the next two, it knows a fault that is one of
the next two items, and nothing was pulled behind that fault or behind the end. -/
namespace Scriptlet

namespace Source
variable {σ : Type} [Source σ] {source : σ} {index count : Nat} {lexeme : Lexeme}
  {fault : Option LexError}

def behind (source : σ) : Nat → σ
  | 0 => source
  | count + 1 => (pull (behind source count)).2

def item? (source : σ) (index : Nat) : Option (Except LexError Lexeme) :=
  (pull (behind source index)).1

/-- The first items are tokens. -/
def Clear (source : σ) (count : Nat) : Prop :=
  ∀ index < count, ∃ lexeme, item? source index = some (.ok lexeme)

/-- A token that comes before the first fault and before the end. -/
def Gives (source : σ) (index : Nat) (lexeme : Lexeme) : Prop :=
  Clear source index ∧ item? source index = some (.ok lexeme)

/-- So many tokens come before the first fault, or before the end if there is no fault. -/
def Stops (source : σ) (count : Nat) (fault : Option LexError) : Prop :=
  Clear source count ∧ item? source count = fault.map .error

theorem pull_cases (source : σ) :
    (∃ lexeme rest, pull source = (some (.ok lexeme),rest)) ∨
      ∃ (fault : Option LexError) (rest : σ), pull source = (fault.map .error,rest) := by
  obtain ⟨item,rest⟩ := pull source
  rcases item with _ | error | lexeme
  · exact .inr ⟨none,rest,rfl⟩
  · exact .inr ⟨some error,rest,rfl⟩
  · exact .inl ⟨lexeme,rest,rfl⟩

private theorem pull_behind (source : σ) (count : Nat) :
    pull (behind source count) = (item? source count,behind source (count + 1)) := rfl

theorem Gives.pull (given : Gives source index lexeme) :
    pull (behind source index) = (some (.ok lexeme),behind source (index + 1)) := by
  rw [pull_behind,given.2]

theorem Stops.pull (stops : Stops source count fault) :
    pull (behind source count) = (fault.map .error,behind source (count + 1)) := by
  rw [pull_behind,stops.2]

private theorem clear_zero (source : σ) : Clear source 0 := by
  intro index below
  omega

theorem Gives.clear (given : Gives source index lexeme) : Clear source (index + 1) := by
  intro earlier below
  rcases Nat.lt_succ_iff_lt_or_eq.mp below with before | rfl
  · exact given.1 earlier before
  · exact ⟨lexeme,given.2⟩

private theorem gives_or_stops (clear : Clear source count) :
    (∃ lexeme, Gives source count lexeme) ∨ ∃ fault, Stops source count fault := by
  rcases pull_cases (behind source count) with ⟨lexeme,_,found⟩ | ⟨fault,_,found⟩
  · exact .inl ⟨lexeme,clear,congrArg Prod.fst found⟩
  · exact .inr ⟨fault,clear,congrArg Prod.fst found⟩

private theorem Gives.iff {other : Lexeme} (given : Gives source index lexeme) :
    some lexeme = some other ↔ Gives source index other := by
  constructor
  · rintro ⟨⟩
    exact given
  · intro again
    have same := given.2.symm.trans again.2
    simpa using same

private theorem Stops.not_token (stops : Stops source count fault) :
    item? source count ≠ some (.ok lexeme) := by
  rw [stops.2]
  cases fault <;> simp

private theorem Stops.le_of_clear (stops : Stops source count fault) (clear : Clear source index) :
    index ≤ count := by
  apply Nat.le_of_not_lt
  intro beyond
  obtain ⟨lexeme,found⟩ := clear count beyond
  exact stops.not_token found

private theorem Stops.lt_of_gives (stops : Stops source count fault)
    (given : Gives source index lexeme) :
    index < count := stops.le_of_clear given.clear

private theorem Stops.iff (stops : Stops source count fault) (later : count ≤ index) :
    none = some lexeme ↔ Gives source index lexeme := by
  constructor
  · nofun
  · intro given
    have before := stops.lt_of_gives given
    omega

theorem Stops.unique {count' : Nat} {fault' : Option LexError} (stops : Stops source count fault)
    (again : Stops source count' fault') : count = count' ∧ fault = fault' := by
  obtain rfl : count = count' :=
    Nat.le_antisymm (again.le_of_clear stops.1) (stops.le_of_clear again.1)
  have same := stops.2.symm.trans again.2
  cases fault <;> cases fault' <;> simp_all

end Source

namespace Window
variable {σ : Type} [Source σ] {source middle rest : σ} {first second : Lexeme}
  {fault : Option LexError} {consumed : Nat}
open Source (behind Clear Gives Stops)

theorem ofSource_two (here : Source.pull source = (some (.ok first),middle))
    (there : Source.pull middle = (some (.ok second),rest)) :
    ofSource source = ⟨some first,some second,[],rest,false⟩ := by
  simp [ofSource,step,pull,here,there]

theorem ofSource_one (here : Source.pull source = (some (.ok first),middle))
    (stopped : Source.pull middle = (fault.map .error,rest)) :
    ofSource source = ⟨some first,none,fault.toList,rest,true⟩ := by
  cases fault <;> simp_all [ofSource,step,pull]

theorem ofSource_none (stopped : Source.pull source = (fault.map .error,rest)) :
    ofSource source = ⟨none,none,fault.toList,rest,true⟩ := by
  cases fault <;> simp_all [ofSource,step,pull]

theorem ofSource_current (here : Source.pull source = (some (.ok first),middle)) :
    (ofSource source).current = some first := by
  rcases Source.pull_cases middle with ⟨second,rest,there⟩ | ⟨fault,rest,stopped⟩
  · rw [ofSource_two here there]
  · rw [ofSource_one here stopped]

private theorem step_mk (current next : Option Lexeme) (faults : List LexError) (exhausted : Bool) :
    (⟨current,next,faults,source,exhausted⟩ : Window σ).step =
      (⟨none,next,faults,source,exhausted⟩ : Window σ).step := by
  cases exhausted with
  | true => rfl
  | false =>
    rcases Source.pull_cases source with ⟨lexeme,rest,found⟩ | ⟨fault,rest,found⟩
    · simp [step,pull,found]
    · cases fault <;> simp_all [step,pull]

/-- A step over a token leads to the window that would be opened behind it. -/
theorem step_ofSource (here : Source.pull source = (some (.ok first),middle)) :
    (ofSource source).step = ofSource middle := by
  rcases Source.pull_cases middle with ⟨second,rest,there⟩ | ⟨fault,rest,stopped⟩
  · rw [ofSource_two here there,step_mk,ofSource]
    congr 1
    simp [step,pull,there]
  · rw [ofSource_one here stopped,ofSource_none stopped]
    rfl

theorem step_ofSource_none (stopped : Source.pull source = (fault.map .error,rest)) :
    (ofSource source).step = ofSource source := by
  rw [ofSource_none stopped]
  rfl

def Passed (source : σ) (consumed : Nat) (window : Window σ) : Prop :=
  Clear source consumed ∧ window = ofSource (behind source consumed)

theorem ofSource_passed (source : σ) : Passed source 0 (ofSource source) :=
  ⟨Source.clear_zero source,rfl⟩

theorem Passed.cases {window : Window σ} (passed : Passed source consumed window) :
    (∃ first second, Gives source consumed first ∧ Gives source (consumed + 1) second ∧
      window = ⟨some first,some second,[],behind source (consumed + 2),false⟩) ∨
    (∃ last fault, Gives source consumed last ∧ Stops source (consumed + 1) fault ∧
      window = ⟨some last,none,fault.toList,behind source (consumed + 2),true⟩) ∨
    ∃ fault, Stops source consumed fault ∧
      window = ⟨none,none,fault.toList,behind source (consumed + 1),true⟩ := by
  obtain ⟨clear,rfl⟩ := passed
  rcases Source.gives_or_stops clear with ⟨first,given⟩ | ⟨fault,stops⟩
  · rcases Source.gives_or_stops given.clear with ⟨second,more⟩ | ⟨fault,stops⟩
    · exact .inl ⟨first,second,given,more,ofSource_two given.pull more.pull⟩
    · exact .inr (.inl ⟨first,fault,given,stops,ofSource_one given.pull stops.pull⟩)
  · exact .inr (.inr ⟨fault,stops,ofSource_none stops.pull⟩)

theorem Passed.step {window : Window σ} (passed : Passed source consumed window) :
    Passed source (consumed + window.current.toList.length) window.step := by
  obtain ⟨clear,rfl⟩ := passed
  rcases Source.gives_or_stops clear with ⟨first,given⟩ | ⟨fault,stops⟩
  · rw [ofSource_current given.pull,step_ofSource given.pull]
    exact ⟨given.clear,rfl⟩
  · rw [step_ofSource_none stops.pull,ofSource_none stops.pull]
    exact ⟨clear,(ofSource_none stops.pull).symm⟩

/-- What a window shows of its source when the given number of tokens is consumed. -/
structure Shows (window : Window σ) (source : σ) (consumed : Nat) : Prop where
  clear : Clear source consumed
  current : ∀ lexeme, window.current = some lexeme ↔ Gives source consumed lexeme
  next : ∀ lexeme, window.next = some lexeme ↔ Gives source (consumed + 1) lexeme
  faults : ∀ count fault, Stops source count fault →
    window.faults = if count < consumed + 2 then fault.toList else []
  faultless : (∀ count fault, ¬ Stops source count fault) → window.faults = []
  pulled : ∃ pulls ≤ consumed + 2, window.source = behind source pulls ∧ Clear source (pulls - 1)

theorem Passed.shows {window : Window σ} (passed : Passed source consumed window) :
    window.Shows source consumed := by
  -- Once the source has stopped in view, no other place of the stop needs to be looked at.
  have known {place : Nat} {fault : Option LexError} (stops : Stops source place fault)
      (near : place < consumed + 2) (count : Nat) (other : Option LexError)
      (again : Stops source count other) :
      fault.toList = if count < consumed + 2 then other.toList else [] := by
    obtain ⟨rfl,rfl⟩ := stops.unique again
    rw [if_pos near]
  rcases passed.cases with ⟨first,second,given,more,rfl⟩ | ⟨last,fault,given,stops,rfl⟩ |
    ⟨fault,stops,rfl⟩
  · refine ⟨passed.1,fun _ => given.iff,fun _ => more.iff,fun count _ stops => ?_,fun _ => rfl,
      consumed + 2,Nat.le_refl _,rfl,given.clear⟩
    have beyond := stops.lt_of_gives more
    rw [if_neg (by omega)]
  · exact ⟨passed.1,fun _ => given.iff,fun _ => stops.iff (Nat.le_refl _),known stops (by omega),
      fun never => (never _ _ stops).elim,consumed + 2,Nat.le_refl _,rfl,given.clear⟩
  · exact ⟨passed.1,fun _ => stops.iff (Nat.le_refl _),fun _ => stops.iff (Nat.le_succ _),
      known stops (by omega),fun never => (never _ _ stops).elim,consumed + 1,Nat.le_succ _,rfl,
      stops.1⟩

end Window
end Scriptlet
