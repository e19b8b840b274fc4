import Scriptlet.Proofs.Store.History
import Scriptlet.Proofs.Store.Region

/-! Unrelated scopes and objects do not matter. An evaluation reads and writes what its scope leads
to and what it makes itself; two runs that agree on that cannot be told apart, and the rest of
either store is left alone. -/
namespace Scriptlet
open Store

variable {region : Node → Prop}

/-- Two runs from worlds of their own that agree inside the region. -/
structure Abreast (region : Node → Prop) (start start' first second : World) : Prop where
  stays : Stays region start.store first.store
  stays' : Stays region start'.store second.store
  agrees : Agrees region first.store second.store
  printed : ∃ text, first.printed = start.printed ++ text ∧ second.printed = start'.printed ++ text
  clock : second.clock = first.clock

namespace Accord

def within (region : Node → Prop) (start start' : World) : Accord where
  related := Abreast region start start'
  value := Fits region
  scope scope := region (.scope scope)
  owned scope := region (.scope scope)

end Accord

namespace Abreast

variable {start start' first second : World} (abreast : Abreast region start start' first second)
include abreast

theorem text {value : Value} (held : Fits region value) :
    second.store.text value = first.store.text value := by
  unfold Store.text
  rw [abreast.agrees.objects]
  exact abreast.agrees.render abreast.stays held

theorem update {store store' : Store} {node : Node} {content : Option Cell}
    {events events' : List Event} (inside : region node)
    (changed : store.cell = Function.update first.store.cell node content)
    (changed' : store'.cell = Function.update second.store.cell node content)
    (held : ∀ cell ∈ content, ∀ target, cell.Mentions target → region target)
    (scopes : store'.scopes.size = store.scopes.size)
    (objects : store'.objects.size = store.objects.size)
    (identities : store'.identities = store.identities) :
    Abreast region start start' {first with store := store,events := events}
      {second with store := store',events := events'} where
  stays := abreast.stays.update inside changed held
  stays' := abreast.stays'.update inside changed' held
  agrees := abreast.agrees.update changed changed' scopes objects identities
  printed := abreast.printed
  clock := abreast.clock

theorem written {node : Node} {name : String} {value : Value} {marked : Bool}
    (inside : region node) (held : Fits region value) :
    ∀ cell ∈ (first.store.cell node).map (Cell.write name value marked),
      ∀ target, cell.Mentions target → region target := by
  intro cell member target mentions
  obtain ⟨content,stored,rfl⟩ := Option.map_eq_some_iff.mp member
  rcases Cell.mentions_write mentions with leads | before
  · exact held target leads
  · exact abreast.stays.closed inside stored before

theorem bind {scope : ScopeId} {name : String} {value : Value} {constant : Bool}
    {events events' : List Event} (inside : region (.scope scope)) (held : Fits region value) :
    Abreast region start start'
      {first with store := first.store.bind scope name value constant,events := events}
      {second with store := second.store.bind scope name value constant,events := events'} := by
  have same := abreast.agrees.same inside
  refine abreast.update inside (cell_bind ..) ?_ (abreast.written inside held) ?_
    abreast.agrees.objects abreast.agrees.identities
  · rw [cell_bind,same]
  · rw [size_bind,size_bind,abreast.agrees.scopes]

theorem addScope {parent : ScopeId} (inside : region (.scope parent)) :
    Abreast region start start' {first with store := (first.store.addScope (some parent)).2}
      {second with store := (second.store.addScope (some parent)).2} := by
  have spare : region (.scope first.store.scopes.size) := abreast.stays.spare (by simp [cell])
  refine abreast.update spare (cell_addScope ..) ?_ ?_ ?_ abreast.agrees.objects
    abreast.agrees.identities
  · rw [cell_addScope,abreast.agrees.scopes]
  · intro cell member target mentions
    obtain rfl := Option.some.inj member
    cases mentions with
    | value stored => simp [Table.empty] at stored
    | parent => exact inside
  · rw [size_addScope,size_addScope,abreast.agrees.scopes]

theorem addObject {properties : Table Value}
    (held : ∀ entry ∈ properties.entries, Fits region entry.2) :
    Abreast region start start' {first with store := (first.store.addObject properties).2}
      {second with store := (second.store.addObject properties).2} := by
  have spare : region (.object first.store.objects.size) := abreast.stays.spare (by simp [cell])
  refine abreast.update spare (cell_addObject ..) ?_ ?_ abreast.agrees.scopes ?_
    abreast.agrees.identities
  · rw [cell_addObject,abreast.agrees.objects]
  · intro cell member target mentions
    obtain rfl := Option.some.inj member
    cases mentions with
    | property stored leads => exact held _ stored target leads
  · simp [Store.addObject,abreast.agrees.objects]

theorem writeProperty {object : ObjectId} {key : String} {value : Value}
    (inside : region (.object object)) (held : Fits region value) :
    Abreast region start start' {first with store := first.store.writeProperty object key value}
      {second with store := second.store.writeProperty object key value} := by
  have same := abreast.agrees.same inside
  refine abreast.update inside (cell_writeProperty ..) ?_ (abreast.written inside held)
    abreast.agrees.scopes ?_ abreast.agrees.identities
  · rw [cell_writeProperty,same]
  · simp [Store.writeProperty,abreast.agrees.objects]

theorem printLine (line : String) :
    Abreast region start start' {first with printed := first.printed ++ line ++ "\n"}
      {second with printed := second.printed ++ line ++ "\n"} := by
  obtain ⟨text,before,before'⟩ := abreast.printed
  refine ⟨abreast.stays,abreast.stays',abreast.agrees,⟨text ++ line ++ "\n",?_,?_⟩,abreast.clock⟩
  · simp [before,String.append_assoc]
  · simp [before',String.append_assoc]

end Abreast

namespace Accord

variable {start start' : World}

private theorem within_lawful : (within region start start').Lawful where
  number _ := fits_of_none rfl
  null := fits_of_none rfl
  closure held := held _ rfl
  owned inside := inside
  log {_ _} := by
    intro first second abreast
    exact .ok trivial {abreast with}
  lookup {scope name} inside := by
    intro first second abreast
    rw [Act.lookup_apply,Act.lookup_apply,abreast.agrees.lookup abreast.stays name inside]
    cases found : first.store.lookup scope name with
    | error fault => exact .error abreast
    | ok value => exact .ok (abreast.stays.lookup inside found) abreast
  declare {scope name value constant} inside held := by
    intro first second abreast
    rw [Act.declare_apply,Act.declare_apply]
    unfold Store.declare
    rw [declares_of_cell (abreast.agrees.same inside)]
    cases first.store.declares name scope with
    | true => exact .error abreast
    | false => exact .ok held (abreast.bind inside held)
  assign {scope name value} inside held := by
    intro first second abreast
    rw [Act.assign_apply,Act.assign_apply]
    unfold Store.assign
    rw [abreast.agrees.resolve? abreast.stays name inside]
    cases found : first.store.resolve? scope name with
    | none => exact .error abreast
    | some owner =>
      have known := abreast.stays.resolve? inside found
      dsimp only
      rw [isConstant_of_cell (abreast.agrees.same known)]
      cases first.store.isConstant name owner with
      | true => exact .error abreast
      | false => exact .ok held (abreast.bind known held)
  addScope {ε parent} inside := by
    intro first second abreast
    have made := abreast.addScope inside
    have spare : region (.scope first.store.scopes.size) := abreast.stays.spare (by simp [cell])
    rw [Act.addScope_apply,Act.addScope_apply,abreast.agrees.scopes]
    exact .ok spare made
  addObject {ε table} held := by
    intro first second abreast
    have made := abreast.addObject held
    have spare : Fits region (.object first.store.objects.size) := by
      rintro node ⟨⟩
      exact abreast.stays.spare (by simp [cell])
    rw [Act.addObject_apply,Act.addObject_apply,abreast.agrees.objects]
    exact .ok spare made
  readProperty {object key span} held := by
    intro first second abreast
    have inside : region (.object object) := held _ rfl
    have same : second.store.property? object key = first.store.property? object key := by
      unfold Store.property?
      rw [objects_of_cell (abreast.agrees.same inside)]
    rw [Eval.readProperty_apply,Eval.readProperty_apply,same]
    cases found : first.store.property? object key with
    | none => exact .error abreast
    | some value => exact .ok (abreast.stays.property? inside found) abreast
  writeProperty known held := by
    intro first second abreast
    exact .ok trivial (abreast.writeProperty (known _ rfl) held)
  print {arguments} held := by
    intro first second abreast
    have same : arguments.map second.store.text = arguments.map first.store.text :=
      List.map_congr_left fun value member => abreast.text (held value member)
    rw [Host.print_apply,Host.print_apply,same]
    exact .ok (fits_of_none rfl) (abreast.printLine _)
  readClock {_} := by
    intro first second abreast
    rw [Act.readClock_apply,Act.readClock_apply,abreast.clock]
    exact .ok trivial {abreast with clock := rfl}

end Accord

/-- Custom routines use the values and the scope they are given and what these lead to, and nothing
else: in two runs that agree on that, they do the same. -/
def Host.Discreet (host : Host) : Prop :=
  ∀ region start start', host.Honours (.within region start start')

/-- What an evaluation in this scope is judged by: the scope and the value it gives. -/
def rootsOf (scope : ScopeId) (answer : Except RuntimeError Value) (node : Node) : Prop :=
  node = .scope scope ∨ ∃ value, answer = .ok value ∧ value.node? = some node

/-- What two runs that agree have in common in the end, and what either leaves alone. -/
structure Isolated (scope : ScopeId) (start start' : World)
    (first second : EStateM.Result RuntimeError World Value) : Prop where
  answer : answerOf second = answerOf first
  printed : ∃ text, (stateAfter first).printed = start.printed ++ text ∧
    (stateAfter second).printed = start'.printed ++ text
  agrees : Agrees ((stateAfter first).store.Reaches (rootsOf scope (answerOf first)))
    (stateAfter first).store (stateAfter second).store
  reaches : ∀ node, (stateAfter second).store.Reaches (rootsOf scope (answerOf first)) node ↔
    (stateAfter first).store.Reaches (rootsOf scope (answerOf first)) node
  alone : ∀ node, start.store.cell node ≠ none → ¬start.store.Reaches (· = .scope scope) node →
    (stateAfter first).store.cell node = start.store.cell node
  alone' : ∀ node, start'.store.cell node ≠ none →
    ¬start'.store.Reaches (· = .scope scope) node →
    (stateAfter second).store.cell node = start'.store.cell node

private theorem Abreast.isolated {scope : ScopeId} {start start' : World}
    {first second : EStateM.Result RuntimeError World Value}
    (agrees : Agrees (start.store.Reaches (· = .scope scope)) start.store start'.store)
    (answer : answerOf second = answerOf first)
    (abreast : Abreast (start.store.Realm (· = .scope scope)) start start' (stateAfter first)
      (stateAfter second))
    (held : ∀ value, answerOf first = .ok value →
      Fits (start.store.Realm (· = .scope scope)) value) :
    Isolated scope start start' first second := by
  have rooted : ∀ node, rootsOf scope (answerOf first) node →
      start.store.Realm (· = .scope scope) node := by
    rintro node (rfl | ⟨value,given,leads⟩)
    · exact .inl (.root rfl)
    · exact held value given node leads
  have common : Agrees ((stateAfter first).store.Reaches (rootsOf scope (answerOf first)))
      (stateAfter first).store (stateAfter second).store :=
    ⟨abreast.agrees.scopes,abreast.agrees.objects,abreast.agrees.identities,
      fun reached => abreast.agrees.same (abreast.stays.reaches rooted reached)⟩
  refine ⟨answer,abreast.printed,common,common.reaches,?_,?_⟩
  · intro node made apart
    exact abreast.stays.outside (not_or.mpr ⟨apart,made⟩)
  · intro node made apart
    rw [agrees.reaches] at apart
    exact abreast.stays'.outside (not_or.mpr ⟨apart,fun free => made (agrees.cell_isNone.mpr free)⟩)

/-! The toolkit. -/

namespace Toolkit

variable {start start' : World}

private theorem scopeTable_same {first second : Store} {scope : ScopeId}
    (same : second.cell (.scope scope) = first.cell (.scope scope)) :
    scopeTable second scope = scopeTable first scope := by
  simp only [scopeTable,names_of_cell same,value?_of_cell same]

private theorem scopeObject_governed {scope : ScopeId} (inside : region (.scope scope)) :
    (Accord.within region start start').Governs (Fits region) (scopeObject scope) := by
  intro first second abreast
  have lawful : (Accord.within region start start').Lawful := Accord.within_lawful
  have held : ∀ entry ∈ (scopeTable first.store scope).entries, Fits region entry.2 := by
    intro entry member
    obtain ⟨name,stored⟩ := scopeTable_entries first.store scope entry member
    exact abreast.stays.value inside stored
  rw [scopeObject_apply,scopeObject_apply,scopeTable_same (abreast.agrees.same inside)]
  exact lawful.addObject held abreast

private theorem host_discreet : host.Discreet := by
  intro region start start' label invoke arguments scope serves held inside
  change (Accord.within region start start').Governs (Fits region)
    (routine label invoke arguments scope)
  have lawful : (Accord.within region start start').Lawful := Accord.within_lawful
  have null : Fits region .null := fits_of_none rfl
  have first := argument_satisfies held null 0
  unfold routine
  split
  · exact Accord.governs_pure first
  · exact Accord.governs_pure (last_satisfies held null)
  · exact Accord.governs_pure (fits_of_none rfl)
  · exact Accord.governs_pure (fits_of_none rfl)
  · dsimp only
    split
    · exact Accord.governs_pure (argument_satisfies held null 1)
    · exact Accord.governs_pure (argument_satisfies held null 2)
  · intro first second abreast
    have same : arguments.map second.store.text = arguments.map first.store.text :=
      List.map_congr_left fun value member => abreast.text (held value member)
    change (Accord.within region start start').Match _
      (.error (Fault.native (" ".intercalate (arguments.map first.store.text))) first)
      (.error (Fault.native (" ".intercalate (arguments.map second.store.text))) second)
    rw [same]
    exact .error abreast
  · exact lawful.lookup inside
  · exact lawful.assign inside first
  · exact lawful.declare inside first
  · exact scopeObject_governed inside
  · exact serves first (fun value member => held value (List.mem_of_mem_drop member)) inside
  · exact Accord.governs_throw

end Toolkit

/-- Two runs of a program from worlds that agree on all that its scope leads to: the same answer and
the same text, and in the end they agree on all that the scope and the answer lead to. What the
scope did not lead to is left as it was. -/
theorem evaluation_isolated {host : Host} (discreet : host.Discreet) {start start' : World}
    {scope : ScopeId}
    (agrees : Agrees (start.store.Reaches (· = .scope scope)) start.store start'.store)
    (clock : start'.clock = start.clock) (program : Program) :
    Isolated scope start start' (host.evaluate scope program start)
      (host.evaluate scope program start') := by
  -- The region stays the same all along: what the scope leads to changes during the run, but only
  -- within what it led to at the start and what was made since.
  have abreast : Abreast (start.store.Realm (· = .scope scope)) start start' start start' :=
    ⟨(Agrees.refl _ _).stays,agrees.stays,agrees.realm,⟨"",by simp,by simp⟩,clock⟩
  have inside : (Accord.within (start.store.Realm (· = .scope scope)) start start').owned scope :=
    .inl (.root rfl)
  have matched := Accord.evaluate_governed Accord.within_lawful (discreet _ start start') inside
    program abreast
  generalize host.evaluate scope program start = first at matched ⊢
  generalize host.evaluate scope program start' = second at matched ⊢
  cases matched with
  | ok held later =>
    exact Abreast.isolated agrees rfl later fun value given => Except.ok.inj given ▸ held
  | error later =>
    refine Abreast.isolated agrees rfl later ?_
    intro value given
    cases given

/-- A program that prints leaves a session of its own alone, whatever that has declared. -/
theorem evaluation_isolated_sessions :
    let base := Store.empty.addGlobal.2.addGlobal.2
    let start : World := ⟨base.bind 1 "x" .null false,"",[],fun _ => .ok 0⟩
    let start' : World := ⟨base.bind 1 "x" (.boolean true) false,"> ",[],fun _ => .ok 0⟩
    let program : Program := ⟨[.expression (.call (.identifier ⟨"print",⟨0,5⟩⟩)
      [.identifier ⟨"true",⟨6,10⟩⟩] ⟨0,11⟩)],⟨0,12⟩⟩
    start'.store.value? 1 "x" ≠ start.store.value? 1 "x" ∧
      Toolkit.host.Discreet ∧
      Agrees (start.store.Reaches (· = .scope 0)) start.store start'.store ∧
      start'.clock = start.clock ∧
      Isolated 0 start start' (Toolkit.host.evaluate 0 program start)
        (Toolkit.host.evaluate 0 program start') := by
  intro base start start' program
  have global : base.cell (.scope 0) = some (.scope
      ⟨[("false",.boolean false),("null",.null),("print",.native ⟨0,"print",.print⟩),
        ("time",.native ⟨1,"time",.time⟩),("true",.boolean true)],by decide⟩
      (fun name => ["time","print","null","false","true"].contains name) none) := by rfl
  have alone : ∀ node, start.store.Reaches (· = .scope 0) node → node = .scope 0 := by
    intro node reached
    induction reached with
    | root given => exact given
    | step _ stored mentioned ih =>
      subst ih
      rw [cell_bind,Function.update_of_ne (by simp),global] at stored
      obtain rfl := Option.some.inj stored
      cases mentioned with
      | value stored leads =>
        simp only [List.mem_cons,List.not_mem_nil,or_false] at stored
        rcases stored with rfl | rfl | rfl | rfl | rfl <;> cases leads
  have agrees : Agrees (start.store.Reaches (· = .scope 0)) start.store start'.store := by
    refine ⟨by simp [start,start',size_bind],rfl,rfl,?_⟩
    intro node reached
    rw [alone node reached,cell_bind,cell_bind,Function.update_of_ne (by simp),
      Function.update_of_ne (by simp)]
  have differs : start'.store.value? 1 "x" ≠ start.store.value? 1 "x" := by
    change some (Value.boolean true) ≠ some .null
    simp
  exact ⟨differs,Toolkit.host_discreet,agrees,rfl,
    evaluation_isolated Toolkit.host_discreet agrees rfl program⟩

end Scriptlet
