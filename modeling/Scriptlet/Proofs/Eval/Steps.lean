import Scriptlet.Host

/-! What the single steps of an evaluation do to a world, and which faults they can meet. -/
namespace Scriptlet

def answerOf {ε σ α : Type} : EStateM.Result ε σ α → Except ε α
  | .ok value _ => .ok value
  | .error reason _ => .error reason

variable {world : World} {scope : ScopeId} {name : String} {value : Value}

theorem Act.lookup_apply : Act.lookup scope name world =
    match world.store.lookup scope name with
    | .ok value => .ok value world
    | .error fault => .error fault world := by
  change (match world.store.lookup scope name with
    | .ok value => pure value
    | .error fault => throw fault : Act Fault Value) world = _
  cases world.store.lookup scope name <;> rfl

theorem Act.declare_apply {constant : Bool} : Act.declare scope name value constant world =
    match world.store.declare scope name value constant with
    | .error fault => .error fault world
    | .ok store =>
      .ok value {world with store := store,events := .declare name constant :: world.events} := by
  change (match world.store.declare scope name value constant with
    | .error fault => throw fault
    | .ok store => do
      log (.declare name constant)
      modify fun world => {world with store := store}
      return value : Act Fault Value) world = _
  cases world.store.declare scope name value constant <;> rfl

theorem Act.assign_apply : Act.assign scope name value world =
    match world.store.assign scope name value with
    | .error fault => .error fault world
    | .ok store => .ok value {world with store := store} := by
  change (match world.store.assign scope name value with
    | .error fault => throw fault
    | .ok store => do
      modify fun world => {world with store := store}
      return value : Act Fault Value) world = _
  cases world.store.assign scope name value <;> rfl

theorem Eval.readProperty_apply {object : ObjectId} {span : Span} :
    Eval.readProperty object name span world =
    match world.store.property? object name with
    | some value => .ok value world
    | none => .error ⟨.unknownProperty name,span⟩ world := by
  change (match world.store.property? object name with
    | some value => return value
    | none => Eval.fail (.unknownProperty name) span : Eval Value) world = _
  cases world.store.property? object name <;> rfl

theorem Eval.readProperty_eq {object : ObjectId} {span : Span} :
    Eval.readProperty object name span =
      Act.located span (Act.unlocated (Eval.readProperty object name Span.empty)) := by
  funext world
  unfold Act.located Act.unlocated
  rw [Eval.readProperty_apply,Eval.readProperty_apply]
  cases world.store.property? object name <;> rfl

/-- Faults that arise without running the body of a function. -/
def Fault.Plain : Fault → Prop
  | .arityMismatch _ _ _ => False
  | .depthExceeded => False
  | _ => True

theorem Act.lookup_plain {fault : Fault} {after : World}
    (failed : Act.lookup scope name world = .error fault after) : fault.Plain := by
  rw [Act.lookup_apply,Store.lookup] at failed
  split at failed
  · cases failed
  · next missing =>
    obtain ⟨rfl,_⟩ := EStateM.Result.error.inj failed
    split at missing
    · cases missing
    · obtain rfl := Except.error.inj missing
      trivial

theorem Act.declare_plain {constant : Bool} {fault : Fault} {after : World}
    (failed : Act.declare scope name value constant world = .error fault after) : fault.Plain := by
  rw [Act.declare_apply,Store.declare] at failed
  split at failed
  · next taken =>
    obtain ⟨rfl,_⟩ := EStateM.Result.error.inj failed
    split at taken
    · obtain rfl := Except.error.inj taken
      trivial
    · cases taken
  · cases failed

theorem Act.assign_plain {fault : Fault} {after : World}
    (failed : Act.assign scope name value world = .error fault after) : fault.Plain := by
  rw [Act.assign_apply,Store.assign] at failed
  split at failed
  · next refused =>
    obtain ⟨rfl,_⟩ := EStateM.Result.error.inj failed
    split at refused
    · obtain rfl := Except.error.inj refused
      trivial
    · split at refused
      · obtain rfl := Except.error.inj refused
        trivial
      · cases refused
  · cases failed

theorem Eval.readProperty_plain {object : ObjectId} {span : Span} {fault : Fault} {after : World}
    (failed : Act.unlocated (Eval.readProperty object name span) world = .error fault after) :
    fault.Plain := by
  unfold Act.unlocated at failed
  rw [Eval.readProperty_apply] at failed
  cases found : world.store.property? object name with
  | some value =>
    rw [found] at failed
    cases failed
  | none =>
    rw [found] at failed
    obtain ⟨rfl,_⟩ := EStateM.Result.error.inj failed
    trivial

theorem Eval.expression_invalid {call : Call} {target value : Expr} {span : Span}
    (named : ∀ name, target ≠ .identifier name)
    (plain : ∀ object property place, target ≠ .member object property place)
    (computed : ∀ object key place, target ≠ .index object key place) :
    Eval.expression call scope (.assign target value span) =
      Eval.fail (.invalidTarget target.source) target.span := by
  rw [Eval.expression]
  · exact named
  · exact plain
  · exact computed

theorem Act.addScope_apply {ε : Type} {parent : Option ScopeId} :
    (Act.addScope parent : Act ε ScopeId) world =
      .ok world.store.scopes.size {world with store := (world.store.addScope parent).2} := rfl

theorem Act.addObject_apply {ε : Type} {table : Table Value} :
    (Act.addObject table : Act ε Value) world =
      .ok (.object world.store.objects.size)
        {world with store := (world.store.addObject table).2} := rfl

theorem Host.print_apply {arguments : List Value} : Host.print arguments world =
    let line := " ".intercalate (arguments.map world.store.text)
    .ok .null {world with printed := world.printed ++ line ++ "\n"} := rfl

theorem Act.readClock_apply {ε : Type} : (Act.readClock : Act ε Reading) world =
    .ok (world.clock 0) {world with clock := fun look => world.clock (look + 1)} := rfl

theorem Host.time_apply : Host.time world =
    match world.clock 0 with
    | .ok reading => .ok (.number reading) {world with clock := fun look => world.clock (look + 1)}
    | .error message =>
      .error (.native message) {world with clock := fun look => world.clock (look + 1)} := by
  change (match world.clock 0 with
    | .ok reading => (pure (.number reading) : Act Fault Value)
    | .error message => throw (Fault.native message)) _ = _
  cases world.clock 0 <;> rfl

end Scriptlet
