import Scriptlet.Proofs.Eval.Storing
import Scriptlet.Proofs.Printing.Nodes
import Scriptlet.Proofs.Store.Rendering

/-! Expressions without assignments and calls. Their evaluation adds objects and changes nothing
else, and evaluating them again comes to the same. The second run meets the objects that the first
one has added, so that its own have other identities: the two runs are followed side by side
under a renaming, which a text does not show. -/
namespace Scriptlet

def Expr.Effectless : Expr → Prop
  | .assign _ _ _ | .call _ _ _ => False
  | _ => True

def World.grown (world : World) (created : Array (Table Value)) : World :=
  {world with store := {world.store with objects := world.store.objects ++ created}}

/-- No value that is stored leads to an object that was never made. -/
def Store.Sealed (store : Store) : Prop := store.Only (Value.Below store.objects.size)

theorem Store.Sound.closed {store : Store} (sound : store.Sound Store.Present) : store.Sealed := by
  intro value stored
  cases stored with
  | @inScope place content entry found member =>
    have inside : store.value? place entry.1 = some entry.2 :=
      Option.bind_eq_some_iff.mpr ⟨content,found,content.values.mem_entries.mp member⟩
    exact (sound.held inside).2
  | @inObject object table entry found member =>
    have inside : store.property? object entry.1 = some entry.2 :=
      Option.bind_eq_some_iff.mpr ⟨table,found,table.mem_entries.mp member⟩
    exact (sound.property inside).2

/-- Whatever is done with values that exist, no value that is stored leads anywhere else. -/
theorem Stage.Runs.closed [Text.Decoder] {host : Host} (confined : host.Confines Store.Present)
    {start stage : Stage} (fresh : start.Fresh) (runs : Runs Store.Present host start stage) :
    stage.store.Sealed :=
  (runs.keep confined fresh.sound).1.store.closed

/-- The identities from `size` on are moved up, to make room for `shift` objects. -/
def shifted (size shift id : Nat) : Nat := if id < size then id else id + shift

section
variable {size shift id other : Nat} {value : Value}

private theorem shifted_old (old : id < size) : shifted size shift id = id := if_pos old

private theorem shifted_new (new : size ≤ id) : shifted size shift id = id + shift :=
  if_neg (Nat.not_lt.mpr new)

private theorem shifted_injective (same : shifted size shift id = shifted size shift other) :
    id = other := by
  unfold shifted at same
  split at same <;> split at same <;> omega

private theorem Value.below_number {number : Float} : (Value.number number).Below size := by
  intro id same
  cases same

theorem Value.Below.mono {more : Nat} (below : value.Below size) (le : size ≤ more) :
    value.Below more :=
  fun id same => Nat.lt_of_lt_of_le (below id same) le

private theorem Value.Below.move_shifted (below : value.Below size) :
    value.move (shifted size shift) = value := by
  cases value with
  | object id => exact congrArg Value.object (shifted_old (below id rfl))
  | number | boolean | null | native | closure => rfl

end

section
variable {world : World} {created : Array (Table Value)} {id : ObjectId} {key : String}

private theorem World.size_grown :
    (world.grown created).store.objects.size = world.store.objects.size + created.size := by
  simp [grown]

private theorem World.property?_grown (old : id < world.store.objects.size) :
    (world.grown created).store.property? id key = world.store.property? id key := by
  unfold Store.property?
  rw [show (world.grown created).store.objects[id]? = world.store.objects[id]? from
    Array.getElem?_append_left old]

private theorem World.lookup_grown {scope : ScopeId} :
    (world.grown created).store.lookup scope key = world.store.lookup scope key :=
  Store.lookup_of_scopes rfl

private theorem World.grown_nil : world.grown #[] = world := by
  simp [grown]

private theorem World.grown_addObject {table : Table Value} :
    {world.grown created with store := ((world.grown created).store.addObject table).2} =
      world.grown (created.push table) := by
  simp [grown,Store.addObject]

end

theorem Store.Moved.addObject {store store' : Store} {rename : ObjectId → ObjectId}
    (moved : Moved rename (· < store.objects.size) store store')
    (injective : ∀ {id other}, rename id = rename other → id = other)
    (next : rename store.objects.size = store'.objects.size) {table table' : Table Value}
    (held : ∀ key value, table.get? key = some value → value.Below store.objects.size)
    (alike : ∀ key, table'.get? key = (table.get? key).map (·.move rename)) :
    Moved rename (· < (store.addObject table).2.objects.size) (store.addObject table).2
      (store'.addObject table').2 := by
  have old {id : ObjectId} (inside : id < (store.addObject table).2.objects.size)
      (other : id ≠ store.objects.size) : id < store.objects.size := by
    simp only [Store.addObject,Array.size_push] at inside
    exact Nat.lt_of_le_of_ne (Nat.le_of_lt_succ inside) other
  refine ⟨?_,fun _ _ _ _ same => injective same,?_⟩
  · intro id inside key inner found
    simp only [Store.addObject,Array.size_push]
    rw [Store.property?_addObject] at found
    split at found
    · exact Nat.lt_succ_of_lt (held key _ found inner rfl)
    · next other => exact Nat.lt_succ_of_lt (moved.closed id (old inside other) key inner found)
  · intro id inside key
    rw [Store.property?_addObject,Store.property?_addObject,← next]
    by_cases new : id = store.objects.size
    · rw [if_pos new,if_pos (congrArg rename new),alike]
    · rw [if_neg new,if_neg fun same => new (injective same),moved.alike id (old inside new)]

/-- Two worlds that have grown from one: the second is `shift` objects ahead, and the rest of what
was added is the same. -/
structure Twin (base : World) (shift : Nat) (first second : World) : Prop where
  grown : ∃ created, first = base.grown created
  grown' : ∃ created, second = base.grown created
  size : second.store.objects.size = first.store.objects.size + shift
  moved : Store.Moved (shifted base.store.objects.size shift) (· < first.store.objects.size)
    first.store second.store

section
variable {base first second : World} {shift : Nat}

theorem Store.Sealed.property {store : Store} (closed : store.Sealed) {id : ObjectId} {key : String}
    {value : Value} (found : store.property? id key = some value) :
    value.Below store.objects.size :=
  closed value (stored_property? found)

theorem Twin.old (twin : Twin base shift first second) :
    base.store.objects.size ≤ first.store.objects.size := by
  obtain ⟨created,rfl⟩ := twin.grown
  rw [World.size_grown]
  exact Nat.le_add_right _ _

private theorem twin_grown (closed : base.store.Sealed) (created : Array (Table Value)) :
    Twin base created.size base (base.grown created) where
  grown := ⟨#[],World.grown_nil.symm⟩
  grown' := ⟨created,rfl⟩
  size := World.size_grown
  moved := by
    refine ⟨?_,fun _ _ _ _ same => shifted_injective same,?_⟩
    · intro id _ key inner found
      exact closed.property found inner rfl
    · intro id old key
      rw [shifted_old old,World.property?_grown old]
      cases found : base.store.property? id key with
      | none => rfl
      | some value => rw [Option.map_some,(closed.property found).move_shifted]

theorem Twin.closed (twin : Twin base shift first second) (closed : base.store.Sealed) :
    first.store.Sealed := by
  obtain ⟨created,rfl⟩ := twin.grown
  intro value stored
  cases stored with
  | inScope found member => exact (closed _ (.inScope found member)).mono twin.old
  | @inObject object table entry found member =>
    intro id same
    have inside := (Array.getElem?_eq_some_iff.mp found).1
    refine twin.moved.closed object inside entry.1 id ?_
    exact Option.bind_eq_some_iff.mpr ⟨table,found,table.mem_entries.mp (same ▸ member)⟩

end

section
variable {base first second : World} {shift least : Nat} {α β ε : Type}
  {alike : Nat → α → α → Prop} {alike' : Nat → β → β → Prop}

inductive Pairs (base : World) (shift least : Nat) (alike : Nat → α → α → Prop) :
    EStateM.Result ε World α → EStateM.Result ε World α → Prop where
  | ok {value value' : α} {first second : World} (twin : Twin base shift first second)
      (enough : least ≤ first.store.objects.size)
      (held : alike first.store.objects.size value value') :
      Pairs base shift least alike (.ok value first) (.ok value' second)
  | error {reason : ε} {first second : World} (twin : Twin base shift first second) :
      Pairs base shift least alike (.error reason first) (.error reason second)

def Twins (base : World) (shift least : Nat) (alike : Nat → α → α → Prop) (act act' : Act ε α) :
    Prop :=
  ∀ ⦃first second⦄, Twin base shift first second → least ≤ first.store.objects.size →
    Pairs base shift least alike (act first) (act' second)

private theorem twins_pure {value value' : α}
    (held : ∀ size, least ≤ size → alike size value value') :
    Twins base shift least alike (pure value : Act ε α) (pure value') := by
  intro first second twin enough
  exact .ok twin enough (held _ enough)

private theorem twins_throw {reason : ε} :
    Twins base shift least alike (throw reason : Act ε α) (throw reason) := by
  intro first second twin _
  exact .error twin

theorem Twins.bind {act act' : Act ε α} {next next' : α → Act ε β}
    (start : Twins base shift least alike act act')
    (onward : ∀ size value value', least ≤ size → alike size value value' →
      Twins base shift size alike' (next value) (next' value')) :
    Twins base shift least alike' (act >>= next) (act' >>= next') := by
  intro first second twin enough
  have started := start twin enough
  change Pairs base shift least alike' (EStateM.bind act next first)
    (EStateM.bind act' next' second)
  unfold EStateM.bind
  revert started
  generalize act first = outcome
  generalize act' second = outcome'
  intro started
  cases started with
  | error twin => exact .error twin
  | @ok value value' first second twin enough held =>
    have further := onward _ value value' enough held twin (Nat.le_refl _)
    dsimp only
    revert further
    generalize next value first = outcome
    generalize next' value' second = outcome'
    intro further
    cases further with
    | error twin => exact .error twin
    | ok twin more held => exact .ok twin (Nat.le_trans enough more) held

end

section
variable {base : World} {shift least : Nat} {ε : Type} {call : Call} {scope : ScopeId} {span : Span}

def Renamed (base : World) (shift size : Nat) (value value' : Value) : Prop :=
  value.Below size ∧ value' = value.move (shifted base.store.objects.size shift)

def RenamedTable (base : World) (shift size : Nat) (table table' : Table Value) : Prop :=
  (∀ key value, table.get? key = some value → value.Below size) ∧
    ∀ key, table'.get? key =
      (table.get? key).map (·.move (shifted base.store.objects.size shift))

private theorem renamedTable_empty {size : Nat} : RenamedTable base shift size .empty .empty := by
  refine ⟨?_,fun _ => rfl⟩
  intro key value found
  cases found

theorem RenamedTable.insert {size more : Nat} {table table' : Table Value} {value value' : Value}
    (tables : RenamedTable base shift size table table') (le : size ≤ more)
    (values : Renamed base shift more value value') (name : String) :
    RenamedTable base shift more (table.insert name value) (table'.insert name value') := by
  obtain ⟨below,rfl⟩ := values
  constructor
  · intro key content found
    rw [Table.get?_insert] at found
    split at found
    · exact Option.some.inj found ▸ below
    · exact (tables.1 key content found).mono le
  · intro key
    rw [Table.get?_insert,Table.get?_insert]
    split
    · rfl
    · exact tables.2 key

/-! Single steps. -/

private theorem lookup_twins (closed : base.store.Sealed) {name : String} :
    Twins base shift least (Renamed base shift) (Act.located span (Act.lookup scope name))
      (Act.located span (Act.lookup scope name)) := by
  intro first second twin enough
  obtain ⟨created,rfl⟩ := twin.grown
  obtain ⟨created',rfl⟩ := twin.grown'
  unfold Act.located
  rw [Act.lookup_apply,Act.lookup_apply,World.lookup_grown,World.lookup_grown]
  cases found : base.store.lookup scope name with
  | error fault => exact .error twin
  | ok value =>
    have below := closed value (Store.stored_lookup found)
    exact .ok twin enough ⟨below.mono twin.old,below.move_shifted.symm⟩

private theorem operate_twins {operator : Operator} {left right left' right' : Value}
    {size size' : Nat}
    (first : Renamed base shift size left left') (second : Renamed base shift size' right right') :
    Twins base shift least (Renamed base shift) (Eval.operate operator left right span)
      (Eval.operate operator left' right' span) := by
  obtain ⟨_,rfl⟩ := first
  obtain ⟨_,rfl⟩ := second
  cases left with
  | number =>
    cases right with
    | number => exact twins_pure fun _ _ => ⟨Value.below_number,rfl⟩
    | boolean | null | object | native | closure => exact twins_throw
  | boolean | null | object | native | closure => cases right <;> exact twins_throw

private theorem keyText_twins {key key' : Value} {size : Nat}
    (keys : Renamed base shift size key key') :
    Twins base shift least (fun _ text text' => text' = text) (Eval.keyText key span)
      (Eval.keyText key' span) := by
  obtain ⟨_,rfl⟩ := keys
  intro first second twin enough
  cases key with
  | number | boolean | null => exact .ok twin enough rfl
  | object | native | closure => exact .error twin

private theorem objectOf_twins {value value' : Value} {key : String} {size : Nat}
    (le : size ≤ least)
    (values : Renamed base shift size value value') :
    Twins base shift least
      (fun size id id' => id < size ∧ id' = shifted base.store.objects.size shift id)
      (Eval.objectOf value key span) (Eval.objectOf value' key span) := by
  obtain ⟨below,rfl⟩ := values
  cases value with
  | object id =>
    refine twins_pure fun more enough => ⟨?_,rfl⟩
    exact below.mono (Nat.le_trans le enough) id rfl
  | number | boolean | null | native | closure => exact twins_throw

private theorem readProperty_twins {id : ObjectId} {key : String} (inside : id < least) :
    Twins base shift least (Renamed base shift) (Eval.readProperty id key span)
      (Eval.readProperty (shifted base.store.objects.size shift id) key span) := by
  intro first second twin enough
  have here : id < first.store.objects.size := Nat.lt_of_lt_of_le inside enough
  rw [Eval.readProperty_apply,Eval.readProperty_apply,twin.moved.alike id here]
  cases found : first.store.property? id key with
  | none => exact .error twin
  | some value =>
    refine .ok twin enough ⟨?_,rfl⟩
    rintro inner rfl
    exact twin.moved.closed id here key inner found

theorem Twin.addObject {first second : World} {table table' : Table Value}
    (twin : Twin base shift first second) (tables : RenamedTable base shift least table table')
    (enough : least ≤ first.store.objects.size) :
    Twin base shift {first with store := (first.store.addObject table).2}
      {second with store := (second.store.addObject table').2} where
  grown := by
    obtain ⟨created,rfl⟩ := twin.grown
    exact ⟨_,World.grown_addObject⟩
  grown' := by
    obtain ⟨created,rfl⟩ := twin.grown'
    exact ⟨_,World.grown_addObject⟩
  size := by
    have size := twin.size
    simp only [Store.addObject,Array.size_push]
    omega
  moved := by
    have next : shifted base.store.objects.size shift first.store.objects.size =
        second.store.objects.size := by
      rw [shifted_new twin.old,twin.size]
    refine twin.moved.addObject shifted_injective next ?_ tables.2
    intro key value found
    exact (tables.1 key value found).mono enough

private theorem addObject_twins {table table' : Table Value}
    (tables : RenamedTable base shift least table table') :
    Twins base shift least (Renamed base shift) (Act.addObject table : Act ε Value)
      (Act.addObject table') := by
  intro first second twin enough
  rw [Act.addObject_apply,Act.addObject_apply]
  have old := twin.old
  refine .ok (twin.addObject tables enough) ?_ ⟨?_,?_⟩
  · simp [Store.addObject]
    omega
  · rintro _ ⟨⟩
    simp [Store.addObject]
  · rw [Value.move,shifted_new twin.old,← twin.size]

private theorem properties_twins (closed : base.store.Sealed) {content : List Property}
    (each : ∀ key tree place, .valued key tree place ∈ content → ∀ least,
      Twins base shift least (Renamed base shift) (Eval.expression call scope tree)
        (Eval.expression call scope tree)) {table table' : Table Value}
    (tables : RenamedTable base shift least table table') :
    Twins base shift least (RenamedTable base shift) (Eval.properties call scope content table)
      (Eval.properties call scope content table') := by
  induction content generalizing least table table' with
  | nil =>
    simp only [Eval.properties]
    refine twins_pure fun size enough => ⟨?_,tables.2⟩
    intro key value found
    exact (tables.1 key value found).mono enough
  | cons property rest ih =>
    have first : Twins base shift least (Renamed base shift)
        (Eval.propertyValue call scope property) (Eval.propertyValue call scope property) := by
      cases property with
      | shorthand key place =>
        simp only [Eval.propertyValue]
        exact lookup_twins closed
      | valued key tree place =>
        simp only [Eval.propertyValue]
        exact each key tree place List.mem_cons_self least
    simp only [Eval.properties]
    apply first.bind
    intro size value value' enough values
    refine ih ?_ (tables.insert enough values property.key)
    intro key tree place member
    exact each key tree place (List.mem_cons_of_mem _ member)

private theorem expression_twins (closed : base.store.Sealed) (call : Call) (scope : ScopeId)
    (tree : Expr)
    (effectless : tree.Every Expr.Effectless) (least : Nat) :
    Twins base shift least (Renamed base shift) (Eval.expression call scope tree)
      (Eval.expression call scope tree) := by
  induction tree using Expr.induct generalizing least with
  | number value place =>
    rw [Eval.expression]
    exact twins_pure fun _ _ => ⟨Value.below_number,rfl⟩
  | identifier name =>
    rw [Eval.expression]
    exact lookup_twins closed
  | assign target value place => exact (effectless _ List.mem_cons_self).elim
  | call callee given place => exact (effectless _ List.mem_cons_self).elim
  | binary operator left right place first second =>
    simp only [Expr.every_binary] at effectless
    rw [Eval.expression]
    apply (first effectless.2.1 least).bind
    intro size value value' enough values
    apply (second effectless.2.2 size).bind
    intro more other other' _ others
    exact operate_twins values others
  | object content place inside =>
    simp only [Expr.every_object] at effectless
    rw [Eval.expression]
    refine (properties_twins closed ?_ renamedTable_empty).bind fun size table table' _ tables =>
      addObject_twins tables
    intro key tree place member
    exact inside key tree place member
      (Property.every_valued.mp (effectless.2 _ member))
  | member object name place first =>
    simp only [Expr.every_member] at effectless
    rw [Eval.expression]
    apply (first effectless.2 least).bind
    intro size value value' _ values
    apply (objectOf_twins (Nat.le_refl _) values).bind
    rintro more id _ _ ⟨inside,rfl⟩
    exact readProperty_twins inside
  | index object key place first second =>
    simp only [Expr.every_index] at effectless
    rw [Eval.expression]
    apply (first effectless.2.1 least).bind
    intro size value value' _ values
    apply (second effectless.2.2 size).bind
    intro more index index' le indices
    apply (keyText_twins indices).bind
    rintro most text _ le' rfl
    apply (objectOf_twins (Nat.le_trans le le') values).bind
    rintro all id _ _ ⟨inside,rfl⟩
    exact readProperty_twins inside

end

section
variable {world : World} {tree : Expr}

private theorem Pairs.twin {base : World} {shift least : Nat} {alike : Nat → Value → Value → Prop}
    {outcome outcome' : EStateM.Result RuntimeError World Value}
    (pairs : Pairs base shift least alike outcome outcome') :
    Twin base shift (stateAfter outcome) (stateAfter outcome') := by
  cases pairs with
  | ok twin _ _ => exact twin
  | error twin => exact twin

/-- A run next to itself, with nothing added in between. -/
theorem expression_grows (closed : world.store.Sealed) (call : Call) (scope : ScopeId)
    (effectless : tree.Every Expr.Effectless) :
    (∃ created, stateAfter (Eval.expression call scope tree world) = world.grown created) ∧
      (stateAfter (Eval.expression call scope tree world)).store.Sealed := by
  have start := twin_grown closed #[]
  rw [World.grown_nil] at start
  have twin := (expression_twins closed call scope tree effectless 0 start (Nat.zero_le _)).twin
  exact ⟨twin.grown,twin.closed closed⟩

private theorem text_grown (closed : world.store.Sealed) {value : Value}
    (below : value.Below world.store.objects.size) (created : Array (Table Value)) :
    (world.grown created).store.text value = world.store.text value := by
  have twin := twin_grown closed created
  have moved := twin.moved.same_text value below
  rwa [below.move_shifted] at moved

/-- What the second evaluation of an expression comes to, after the first one in a world: the same
error; the same value, unless it is an object that the first one made; or else another object, made
by the second one, with the same text. -/
inductive Repeats (world : World) : EStateM.Result RuntimeError World Value →
    EStateM.Result RuntimeError World Value → Prop where
  | error {reason : RuntimeError} {after later : World} :
      Repeats world (.error reason after) (.error reason later)
  | same {value : Value} {after later : World} (old : value.Below world.store.objects.size) :
      Repeats world (.ok value after) (.ok value later)
  | fresh {id id' : ObjectId} {after later : World} (new : world.store.objects.size ≤ id)
      (made : id < after.store.objects.size) (new' : after.store.objects.size ≤ id')
      (made' : id' < later.store.objects.size)
      (alike : later.store.text (.object id') = after.store.text (.object id))
      (kept : later.store.text (.object id) = after.store.text (.object id)) :
      Repeats world (.ok (.object id) after) (.ok (.object id') later)

private theorem Pairs.repeats {created : Array (Table Value)}
    {outcome outcome' : EStateM.Result RuntimeError World Value} {least : Nat}
    (closed : world.store.Sealed)
    (pairs : Pairs world created.size least (Renamed world created.size) outcome outcome')
    (after : stateAfter outcome = world.grown created)
    (later : ∃ more, stateAfter outcome' = (stateAfter outcome).grown more) :
    Repeats world outcome outcome' := by
  cases pairs with
  | error => exact .error
  | @ok value value' first second twin enough held =>
    obtain ⟨below,rfl⟩ := held
    by_cases old : value.Below world.store.objects.size
    · rw [old.move_shifted]
      exact .same old
    · obtain ⟨id,rfl,new⟩ : ∃ id, value = .object id ∧ world.store.objects.size ≤ id := by
        simpa [Value.Below] using old
      have text := twin.moved.same_text (.object id) below
      obtain ⟨more,grown⟩ : ∃ more, second = first.grown more := later
      have size : first.store.objects.size = world.store.objects.size + created.size := by
        rw [show first = world.grown created from after,World.size_grown]
      have made := below id rfl
      rw [Value.move,shifted_new new] at text ⊢
      refine .fresh new made ?_ ?_ text ?_
      · rw [size]
        exact Nat.add_le_add_right new _
      · rw [twin.size]
        exact Nat.add_lt_add_right made _
      · rw [grown]
        exact text_grown (twin.closed closed) below more

/-- An expression without assignments and calls, evaluated in any scope and in any world whose
values lead to objects that exist: whether it gives a value or an error, it adds objects and changes
nothing else, neither what is printed nor any scope or object; and evaluated once more, it repeats
itself. -/
theorem pure_expressions_repeat (call : Call) (scope : ScopeId) (tree : Expr)
    (effectless : tree.Every Expr.Effectless) (world : World) (closed : world.store.Sealed) :
    let first := Eval.expression call scope tree world
    let second := Eval.expression call scope tree (stateAfter first)
    (∃ created, stateAfter first = world.grown created) ∧
      (∃ created, stateAfter second = (stateAfter first).grown created) ∧
      (stateAfter first).store.Sealed ∧ Repeats world first second := by
  intro first second
  obtain ⟨⟨created,after⟩,closed'⟩ := expression_grows closed call scope effectless
  have later := (expression_grows closed' call scope effectless).1
  refine ⟨⟨created,after⟩,later,closed',?_⟩
  have pairs := expression_twins closed call scope tree effectless 0 (twin_grown closed created)
    (Nat.zero_le _)
  rw [← after] at pairs
  exact pairs.repeats closed after later

/-- Two new objects, one of which encloses an old one. -/
theorem pure_expressions_repeat_object :
    let store := ((Store.empty.addScope none).2.addObject (Table.empty.insert "a" .null)).2.bind 0
      "x" (.object 0) false
    let world : World := ⟨store,"",[],fun _ => .ok 0⟩
    let tree : Expr := .object [.valued "b" (.identifier ⟨"x",⟨4,5⟩⟩) ⟨1,5⟩,
      .valued "c" (.object [] ⟨10,12⟩) ⟨7,12⟩] ⟨0,13⟩
    let first := Eval.expression Host.standard.callValue 0 tree world
    let second := Eval.expression Host.standard.callValue 0 tree (stateAfter first)
    tree.Every Expr.Effectless ∧ store.Sealed ∧ Repeats world first second ∧
      (∃ after, first = .ok (.object 2) after) ∧ ∃ later, second = .ok (.object 4) later ∧
        later.store.text (.object 4) = "\x7b b: \x7b a: null \x7d, c: \x7b\x7d \x7d" := by
  intro store world tree first second
  have effectless : tree.Every Expr.Effectless := by simp [tree,Expr.Effectless]
  have closed : store.Sealed := by
    have start : (Store.empty.addScope none).2.Only (Value.Below 1) := by
      intro value stored
      cases Store.stored_addScope stored with
      | inScope found => simp [Store.empty] at found
      | inObject found => simp [Store.empty] at found
    have object : Value.Below 1 (.object 0) := by simp [Value.Below]
    refine Store.Only.bind (start.addObject ?_) object
    intro entry member
    obtain rfl : entry = ("a",.null) := List.mem_singleton.mp member
    intro id same
    cases same
  obtain ⟨_,_,_,repeats⟩ :=
    pure_expressions_repeat Host.standard.callValue 0 tree effectless world closed
  exact ⟨effectless,closed,repeats,⟨_,rfl⟩,⟨_,rfl,rfl⟩⟩

end
end Scriptlet
