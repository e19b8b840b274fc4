import Scriptlet.Proofs.Eval.Steps
import Scriptlet.Proofs.Store.Touch
import Scriptlet.Proofs.Tree.Places

/-! Two runs side by side. An accord relates the worlds of two runs and says which values and
scopes they may use. If the single steps of an evaluation respect an accord, the whole evaluation
does: both runs give the same answer and leave related worlds. Taken with a relation that holds
of a world and itself, an accord is an invariant of one run. The second run may evaluate the same
tree at other places and make other calls; its errors then correspond to those of the first. -/
namespace Scriptlet

structure Accord where
  related : World → World → Prop
  value : Value → Prop
  scope : ScopeId → Prop
  owned : ScopeId → Prop

namespace Accord

variable {accord : Accord} {α β ε : Type} {fits : α → Prop} {fits' : β → Prop}

/-- The same answer, fit for use, and related worlds. -/
inductive Match (accord : Accord) (fits : α → Prop) :
    EStateM.Result ε World α → EStateM.Result ε World α → Prop where
  | ok {value : α} {first second : World} (held : fits value)
      (related : accord.related first second) :
      Match accord fits (.ok value first) (.ok value second)
  | error {reason : ε} {first second : World} (related : accord.related first second) :
      Match accord fits (.error reason first) (.error reason second)

def Governs (accord : Accord) (fits : α → Prop) (act : Act ε α) : Prop :=
  ∀ ⦃first second⦄, accord.related first second → accord.Match fits (act first) (act second)

theorem governs_pure {value : α} (held : fits value) :
    accord.Governs fits (pure value : Act ε α) := by
  intro first second related
  exact .ok held related

theorem governs_throw {reason : ε} : accord.Governs fits (throw reason : Act ε α) := by
  intro first second related
  exact .error related

theorem Governs.unlocated {act : Eval α} (governed : accord.Governs fits act) :
    accord.Governs fits (Act.unlocated act) := by
  intro first second related
  have matched := governed related
  unfold Act.unlocated
  revert matched
  generalize act first = outcome
  generalize act second = outcome'
  intro matched
  cases matched with
  | ok held related => exact .ok held related
  | error related => exact .error related

/-! Acts that differ, one in each run. -/

variable {reported : ε → ε → Prop}

/-- The same value, fit for use, or errors that correspond, and related worlds. -/
inductive Meet (accord : Accord) (reported : ε → ε → Prop) (fits : α → Prop) :
    EStateM.Result ε World α → EStateM.Result ε World α → Prop where
  | ok {value : α} {first second : World} (held : fits value)
      (related : accord.related first second) :
      Meet accord reported fits (.ok value first) (.ok value second)
  | error {reason reason' : ε} {first second : World} (told : reported reason reason')
      (related : accord.related first second) :
      Meet accord reported fits (.error reason first) (.error reason' second)

def Follows (accord : Accord) (reported : ε → ε → Prop) (fits : α → Prop) (act act' : Act ε α) :
    Prop :=
  ∀ ⦃first second⦄, accord.related first second →
    accord.Meet reported fits (act first) (act' second)

private theorem follows_pure {value : α} (held : fits value) :
    accord.Follows reported fits (pure value) (pure value) := by
  intro first second related
  exact .ok held related

theorem follows_throw {reason reason' : ε} (told : reported reason reason') :
    accord.Follows reported fits (throw reason) (throw reason') := by
  intro first second related
  exact .error told related

theorem Follows.bind {act act' : Act ε α} {next next' : α → Act ε β}
    (start : accord.Follows reported fits act act')
    (onward : ∀ value, fits value → accord.Follows reported fits' (next value) (next' value)) :
    accord.Follows reported fits' (act >>= next) (act' >>= next') := by
  intro first second related
  have started := start related
  change accord.Meet reported fits' (EStateM.bind act next first) (EStateM.bind act' next' second)
  unfold EStateM.bind
  revert started
  generalize act first = outcome
  generalize act' second = outcome'
  intro started
  cases started with
  | ok held related => exact onward _ held related
  | error told related => exact .error told related

private theorem Follows.governs {act : Act ε α} (follows : accord.Follows Eq fits act act) :
    accord.Governs fits act := by
  intro first second related
  have met := follows related
  revert met
  generalize act first = outcome
  generalize act second = outcome'
  intro met
  cases met with
  | ok held related => exact .ok held related
  | error told related =>
    subst told
    exact .error related

theorem Governs.follows {act : Act ε α} (governed : accord.Governs fits act) :
    accord.Follows Eq fits act act := by
  intro first second related
  have matched := governed related
  revert matched
  generalize act first = outcome
  generalize act second = outcome'
  intro matched
  cases matched with
  | ok held related => exact .ok held related
  | error related => exact .error rfl related

private theorem Governs.sure {act : Act ε α} (governed : accord.Governs fits act)
    (succeeds : ∀ world, ∃ value after, act world = .ok value after) :
    accord.Follows reported fits act act := by
  intro first second related
  have matched := governed related
  obtain ⟨value,after,ok⟩ := succeeds first
  rw [ok] at matched ⊢
  revert matched
  generalize act second = outcome
  intro matched
  cases matched with
  | ok held related => exact .ok held related

/-- An act whose faults are reported at corresponding places. -/
theorem Governs.placed {reported : RuntimeError → RuntimeError → Prop} {act : Act Fault α}
    {span span' : Span} (governed : accord.Governs fits act)
    (told : ∀ {world fault after}, act world = .error fault after →
      reported ⟨fault,span⟩ ⟨fault,span'⟩) :
    accord.Follows reported fits (Act.located span act) (Act.located span' act) := by
  intro first second related
  have matched := governed related
  have telling := fun fault after => @told first fault after
  unfold Act.located
  revert matched telling
  generalize act first = outcome
  generalize act second = outcome'
  intro matched telling
  cases matched with
  | ok held related => exact .ok held related
  | error related => exact .error (telling _ _ rfl) related

/-- What the steps of statements and expressions do. -/
structure Stepwise (accord : Accord) : Prop where
  number : ∀ number, accord.value (.number number)
  null : accord.value .null
  owned : ∀ {scope}, accord.owned scope → accord.scope scope
  log : ∀ {ε : Type} {event}, accord.Governs (fun _ => True) (Act.log event : Act ε Unit)
  lookup : ∀ {scope name}, accord.scope scope → accord.Governs accord.value (Act.lookup scope name)
  declare : ∀ {scope name value constant}, accord.owned scope → accord.value value →
    accord.Governs accord.value (Act.declare scope name value constant)
  assign : ∀ {scope name value}, accord.scope scope → accord.value value →
    accord.Governs accord.value (Act.assign scope name value)
  addObject : ∀ {ε : Type} {table : Table Value}, (∀ entry ∈ table.entries, accord.value entry.2) →
    accord.Governs accord.value (Act.addObject table : Act ε Value)
  readProperty : ∀ {object key span}, accord.value (.object object) →
    accord.Governs accord.value (Eval.readProperty object key span)
  writeProperty : ∀ {ε : Type} {object key value}, accord.value (.object object) →
    accord.value value →
    accord.Governs (fun _ => True) (Act.writeProperty object key value : Act ε Unit)

/-- What the steps of calls do as well. -/
structure Lawful (accord : Accord) : Prop extends Stepwise accord where
  closure : ∀ {function : Closure}, accord.value (.closure function) → accord.scope function.scope
  addScope : ∀ {ε : Type} {parent}, accord.scope parent →
    accord.Governs accord.owned (Act.addScope (some parent) : Act ε ScopeId)
  print : ∀ {arguments}, (∀ value ∈ arguments, accord.value value) →
    accord.Governs accord.value (Host.print arguments)
  readClock : ∀ {ε : Type}, accord.Governs (fun _ => True) (Act.readClock : Act ε Reading)

theorem Stepwise.time_governed (steps : accord.Stepwise)
    (read : accord.Governs (fun _ => True) (Act.readClock : Act Fault Reading)) :
    accord.Governs accord.value Host.time := by
  apply Follows.governs
  apply read.follows.bind
  intro reading _
  cases reading with
  | ok number => exact follows_pure (steps.number number)
  | error message => exact follows_throw rfl

def Serves (accord : Accord) (call : Call) : Prop :=
  ∀ ⦃callee given scope span⦄, accord.value callee → (∀ value ∈ given, accord.value value) →
    accord.scope scope → accord.Governs accord.value (call callee given scope span)

section
variable {reported : RuntimeError → RuntimeError → Prop} {span span' : Span}

/-- One place may stand in the second run where the other stands in the first, in errors and in
the log. -/
structure Tells (accord : Accord) (reported : RuntimeError → RuntimeError → Prop)
    (span span' : Span) : Prop where
  error : ∀ {fault : Fault}, fault.Plain → reported ⟨fault,span⟩ ⟨fault,span'⟩
  statement : accord.Follows reported (fun _ => True) (Act.log (.statement span))
    (Act.log (.statement span'))

theorem Stepwise.log_follows (steps : accord.Stepwise) {event : Event} :
    accord.Follows reported (fun _ => True) (Act.log event) (Act.log event) :=
  steps.log.sure fun _ => ⟨_,_,rfl⟩

theorem Stepwise.tells (steps : accord.Stepwise)
    (told : ∀ fault : Fault, fault.Plain → reported ⟨fault,span⟩ ⟨fault,span⟩) :
    accord.Tells reported span span :=
  ⟨told _,steps.log_follows⟩

def ByPlace (reported : RuntimeError → RuntimeError → Prop) : Prop :=
  ∀ ⦃span span' fault fault'⦄, reported ⟨fault,span⟩ ⟨fault,span'⟩ →
    reported ⟨fault',span⟩ ⟨fault',span'⟩

theorem byPlace_eq : ByPlace Eq := by
  intro span span' fault fault' same
  obtain rfl : span = span' := congrArg RuntimeError.span same
  rfl

theorem Tells.any (told : accord.Tells reported span span') (byPlace : ByPlace reported)
    (fault : Fault) : reported ⟨fault,span⟩ ⟨fault,span'⟩ := by
  have plain : Fault.Plain (.unresolvedVariable "") := trivial
  exact byPlace (told.error plain)

def Answers (accord : Accord) (reported : RuntimeError → RuntimeError → Prop)
    (call call' : Call) : Prop :=
  ∀ ⦃callee given scope span span'⦄, accord.value callee → (∀ value ∈ given, accord.value value) →
    accord.scope scope → accord.Tells reported span span' →
    accord.Follows reported accord.value (call callee given scope span)
      (call' callee given scope span')

theorem Serves.answers {call : Call} (serves : accord.Serves call) :
    accord.Answers Eq call call := by
  intro callee given scope span span' callable held inside told
  obtain rfl : span = span' := congrArg RuntimeError.span (told.any byPlace_eq .depthExceeded)
  exact (serves callable held inside).follows

theorem Answers.serves {call : Call} (answers : accord.Answers Eq call call)
    (steps : accord.Stepwise) : accord.Serves call := by
  intro callee given scope span callable held inside
  exact (answers callable held inside (steps.tells fun _ _ => rfl)).governs

/-! Expressions. -/

private theorem operate_follows (steps : accord.Stepwise) (told : accord.Tells reported span span')
    {operator : Operator} {left right : Value} :
    accord.Follows reported accord.value (Eval.operate operator left right span)
      (Eval.operate operator left right span') := by
  unfold Eval.operate
  split
  · exact follows_pure (steps.number _)
  · exact follows_throw (told.error trivial)

private theorem keyText_follows (told : accord.Tells reported span span') {key : Value} :
    accord.Follows reported (fun _ => True) (Eval.keyText key span) (Eval.keyText key span') := by
  intro first second related
  cases key with
  -- No key is an object, so the two stores do not matter for its text.
  | number | boolean | null => exact .ok trivial related
  | object | native | closure => exact .error (told.error trivial) related

private theorem objectOf_follows (told : accord.Tells reported span span') {value : Value}
    {key : String}
    (held : accord.value value) :
    accord.Follows reported (fun object => accord.value (.object object))
      (Eval.objectOf value key span) (Eval.objectOf value key span') := by
  unfold Eval.objectOf
  split
  · exact follows_pure held
  · exact follows_throw (told.error trivial)

private theorem readProperty_follows (steps : accord.Stepwise)
    (told : accord.Tells reported span span')
    {object : ObjectId} {key : String} (known : accord.value (.object object)) :
    accord.Follows reported accord.value (Eval.readProperty object key span)
      (Eval.readProperty object key span') := by
  rw [Eval.readProperty_eq,@Eval.readProperty_eq key object span']
  exact (steps.readProperty known).unlocated.placed fun failed =>
    told.error (Eval.readProperty_plain failed)

private theorem writeProperty_follows (steps : accord.Stepwise) {object : ObjectId} {key : String}
    {value : Value} (known : accord.value (.object object)) (held : accord.value value) :
    accord.Follows reported accord.value
      (do Act.writeProperty object key value; return value)
      (do Act.writeProperty object key value; return value) := by
  apply ((steps.writeProperty known held).sure fun _ => ⟨_,_,rfl⟩).bind
  intro _ _
  exact follows_pure held

end

section
variable {reported : RuntimeError → RuntimeError → Prop} {move : Span → Span} {call call' : Call}
  {scope : ScopeId}

mutual
private theorem expression_follows (steps : accord.Stepwise)
    (answers : accord.Answers reported call call') (inside : accord.scope scope) (tree : Expr)
    (told : ∀ span ∈ tree.spans, accord.Tells reported span (move span)) :
    accord.Follows reported accord.value (Eval.expression call scope tree)
      (Eval.expression call' scope (tree.mapSpans move)) := by
  cases tree with
  | number value span =>
    rw [Expr.mapSpans,Eval.expression,Eval.expression]
    exact follows_pure (steps.number value)
  | identifier name =>
    simp only [Expr.spans,List.forall_mem_singleton] at told
    rw [Expr.mapSpans,Eval.expression,Eval.expression]
    exact (steps.lookup inside).placed fun failed => told.error (Act.lookup_plain failed)
  | object content span =>
    simp only [Expr.spans,List.forall_mem_cons] at told
    obtain ⟨_,told⟩ := told
    rw [Expr.mapSpans,Eval.expression,Eval.expression]
    have empty : ∀ entry ∈ (Table.empty : Table Value).entries, accord.value entry.2 := by
      simp [Table.empty]
    apply (properties_follow steps answers inside content told empty).bind
    intro table held
    exact (steps.addObject held).sure fun _ => ⟨_,_,rfl⟩
  | call callee given span =>
    simp only [Expr.spans,List.forall_mem_cons,List.forall_mem_append] at told
    obtain ⟨here,first,others⟩ := told
    rw [Expr.mapSpans,Eval.expression,Eval.expression]
    apply (expression_follows steps answers inside callee first).bind
    intro value held
    apply (arguments_follow steps answers inside given others).bind
    intro values given
    exact answers held given inside here
  | binary operator left right span =>
    simp only [Expr.spans,List.forall_mem_cons,List.forall_mem_append] at told
    obtain ⟨here,first,second⟩ := told
    rw [Expr.mapSpans,Eval.expression,Eval.expression]
    apply (expression_follows steps answers inside left first).bind
    intro _ _
    apply (expression_follows steps answers inside right second).bind
    intro _ _
    exact operate_follows steps here
  | member object property span =>
    simp only [Expr.spans,List.forall_mem_cons] at told
    obtain ⟨_,named,inner⟩ := told
    rw [Expr.mapSpans,Eval.expression,Eval.expression,Expr.mapSpans_span]
    apply (expression_follows steps answers inside object inner).bind
    intro value held
    apply (objectOf_follows (inner _ object.span_mem) held).bind
    intro id known
    exact readProperty_follows steps named known
  | index object key span =>
    simp only [Expr.spans,List.forall_mem_cons,List.forall_mem_append] at told
    obtain ⟨_,inner,keyed⟩ := told
    rw [Expr.mapSpans,Eval.expression,Eval.expression,Expr.mapSpans_span,Expr.mapSpans_span]
    apply (expression_follows steps answers inside object inner).bind
    intro value held
    apply (expression_follows steps answers inside key keyed).bind
    intro _ _
    apply (keyText_follows (keyed _ key.span_mem)).bind
    intro _ _
    apply (objectOf_follows (inner _ object.span_mem) held).bind
    intro id known
    exact readProperty_follows steps (keyed _ key.span_mem) known
  | assign target value span =>
    simp only [Expr.spans,List.forall_mem_cons,List.forall_mem_append] at told
    obtain ⟨here,aimed,given⟩ := told
    cases target with
    | identifier name =>
      simp only [Expr.mapSpans]
      rw [Eval.expression,Eval.expression]
      apply (expression_follows steps answers inside value given).bind
      intro result held
      exact (steps.assign inside held).placed fun failed => here.error (Act.assign_plain failed)
    | member object property place =>
      simp only [Expr.spans,List.forall_mem_cons] at aimed
      obtain ⟨_,_,inner⟩ := aimed
      simp only [Expr.mapSpans]
      rw [Eval.expression,Eval.expression,Expr.mapSpans_span]
      apply (expression_follows steps answers inside object inner).bind
      intro holder held
      apply (objectOf_follows (inner _ object.span_mem) held).bind
      intro id known
      apply (expression_follows steps answers inside value given).bind
      intro result fit
      exact writeProperty_follows steps known fit
    | index object key place =>
      simp only [Expr.spans,List.forall_mem_cons,List.forall_mem_append] at aimed
      obtain ⟨_,inner,keyed⟩ := aimed
      simp only [Expr.mapSpans]
      rw [Eval.expression,Eval.expression,Expr.mapSpans_span,Expr.mapSpans_span]
      apply (expression_follows steps answers inside object inner).bind
      intro holder held
      apply (expression_follows steps answers inside key keyed).bind
      intro _ _
      apply (keyText_follows (keyed _ key.span_mem)).bind
      intro _ _
      apply (objectOf_follows (inner _ object.span_mem) held).bind
      intro id known
      apply (expression_follows steps answers inside value given).bind
      intro result fit
      exact writeProperty_follows steps known fit
    | number | assign | binary | object | call =>
      rw [Expr.mapSpans,Eval.expression_invalid,Eval.expression_invalid,Expr.mapSpans_source,
        Expr.mapSpans_span]
      · exact follows_throw ((aimed _ (Expr.span_mem _)).error trivial)
      all_goals simp [Expr.mapSpans]

private theorem arguments_follow (steps : accord.Stepwise)
    (answers : accord.Answers reported call call') (inside : accord.scope scope) (trees : List Expr)
    (told : ∀ span ∈ argumentSpans trees, accord.Tells reported span (move span)) :
    accord.Follows reported (fun values => ∀ value ∈ values, accord.value value)
      (Eval.arguments call scope trees)
      (Eval.arguments call' scope (mapArgumentSpans move trees)) := by
  cases trees with
  | nil =>
    rw [mapArgumentSpans,Eval.arguments,Eval.arguments]
    exact follows_pure (by simp)
  | cons first others =>
    simp only [argumentSpans,List.forall_mem_append] at told
    rw [mapArgumentSpans,Eval.arguments,Eval.arguments]
    apply (expression_follows steps answers inside first told.1).bind
    intro value held
    apply (arguments_follow steps answers inside others told.2).bind
    intro values rest
    exact follows_pure (by simpa using ⟨held,rest⟩)

private theorem properties_follow (steps : accord.Stepwise)
    (answers : accord.Answers reported call call') (inside : accord.scope scope)
    (trees : List Property)
    (told : ∀ span ∈ propertySpans trees, accord.Tells reported span (move span))
    {table : Table Value} (kept : ∀ entry ∈ table.entries, accord.value entry.2) :
    accord.Follows reported (fun table => ∀ entry ∈ table.entries, accord.value entry.2)
      (Eval.properties call scope trees table)
      (Eval.properties call' scope (mapPropertySpans move trees) table) := by
  cases trees with
  | nil =>
    rw [mapPropertySpans,Eval.properties,Eval.properties]
    exact follows_pure kept
  | cons first others =>
    simp only [propertySpans,List.forall_mem_append] at told
    rw [mapPropertySpans,Eval.properties,Eval.properties,Property.mapSpans_key]
    apply (propertyValue_follows steps answers inside first told.1).bind
    intro value held
    apply properties_follow steps answers inside others told.2
    intro entry member
    rcases table.entries_insert first.key value entry member with rfl | member
    · exact held
    · exact kept entry member

private theorem propertyValue_follows (steps : accord.Stepwise)
    (answers : accord.Answers reported call call') (inside : accord.scope scope) (tree : Property)
    (told : ∀ span ∈ tree.spans, accord.Tells reported span (move span)) :
    accord.Follows reported accord.value (Eval.propertyValue call scope tree)
      (Eval.propertyValue call' scope (tree.mapSpans move)) := by
  cases tree with
  | shorthand key span =>
    simp only [Property.spans,List.forall_mem_singleton] at told
    rw [Property.mapSpans,Eval.propertyValue,Eval.propertyValue]
    exact (steps.lookup inside).placed fun failed => told.error (Act.lookup_plain failed)
  | valued key value span =>
    simp only [Property.spans,List.forall_mem_cons] at told
    rw [Property.mapSpans,Eval.propertyValue,Eval.propertyValue]
    exact expression_follows steps answers inside value told.2
end

/-! Statements, in a scope that names may be declared in. -/

variable (steps : accord.Stepwise) (answers : accord.Answers reported call call')
  (owned : accord.owned scope)
include steps answers owned

private theorem declaration_follows (content : Declaration)
    (told : ∀ span ∈ content.spans, accord.Tells reported span (move span)) :
    accord.Follows reported accord.value (Eval.declaration call scope content)
      (Eval.declaration call' scope (content.mapSpans move)) := by
  obtain ⟨identifier,constant,value,span⟩ := content
  simp only [Declaration.spans,List.forall_mem_cons] at told
  obtain ⟨here,_,inner⟩ := told
  unfold Eval.declaration
  cases value with
  | none =>
    exact (steps.declare owned steps.null).placed fun failed =>
      here.error (Act.declare_plain failed)
  | some tree =>
    apply (expression_follows steps answers (steps.owned owned) tree inner).bind
    intro value held
    exact (steps.declare owned held).placed fun failed => here.error (Act.declare_plain failed)

private theorem statement_follows (content : Statement)
    (told : ∀ span ∈ content.spans, accord.Tells reported span (move span)) :
    accord.Follows reported accord.value (Eval.statement call scope content)
      (Eval.statement call' scope (content.mapSpans move)) := by
  unfold Eval.statement
  rw [Statement.mapSpans_span]
  apply (told _ content.span_mem).statement.bind
  intro _ _
  cases content with
  | declaration content => exact declaration_follows steps answers owned content told
  | expression content => exact expression_follows steps answers (steps.owned owned) content told

theorem body_follows (statements : List Statement)
    (told : ∀ span ∈ statements.flatMap Statement.spans, accord.Tells reported span (move span)) :
    accord.Follows reported accord.value (Eval.body call scope statements)
      (Eval.body call' scope (statements.map (Statement.mapSpans move))) := by
  unfold Eval.body
  have any (initial : Value) (held : accord.value initial) : accord.Follows reported accord.value
      (statements.foldlM (fun _ content => Eval.statement call scope content) initial)
      ((statements.map (Statement.mapSpans move)).foldlM
        (fun _ content => Eval.statement call' scope content) initial) := by
    induction statements generalizing initial with
    | nil => exact follows_pure held
    | cons first others ih =>
      simp only [List.flatMap_cons,List.forall_mem_append] at told
      rw [List.map_cons,List.foldlM_cons,List.foldlM_cons]
      apply (statement_follows steps answers owned first told.1).bind
      intro value held
      exact ih told.2 value held
  exact any .null steps.null

end

theorem expression_governed (lawful : accord.Lawful) {call : Call} (serves : accord.Serves call)
    {scope : ScopeId} (inside : accord.scope scope) (tree : Expr) :
    accord.Governs accord.value (Eval.expression call scope tree) := by
  have told : ∀ span ∈ tree.spans, accord.Tells Eq span (id span) :=
    fun span _ => lawful.tells fun _ _ => rfl
  have follows := expression_follows lawful.toStepwise serves.answers inside tree told
  rw [Expr.mapSpans_id] at follows
  exact follows.governs

end Accord

/-! Calls. -/

/-- Custom routines respect the accord, if the calls they are given do. -/
def Host.Honours (host : Host) (accord : Accord) : Prop :=
  ∀ ⦃label : String⦄ ⦃invoke : Value → List Value → ScopeId → Act Fault Value⦄
    ⦃arguments : List Value⦄ ⦃scope : ScopeId⦄,
    (∀ ⦃callee given caller⦄, accord.value callee → (∀ value ∈ given, accord.value value) →
      accord.scope caller → accord.Governs accord.value (invoke callee given caller)) →
    (∀ value ∈ arguments, accord.value value) → accord.scope scope →
    accord.Governs accord.value (host.custom label invoke arguments scope)

def Closure.spans (function : Closure) : List Span := function.body.flatMap Statement.spans

namespace Accord

section
variable {accord : Accord} {reported : RuntimeError → RuntimeError → Prop} {span span' : Span}

private theorem bindParameters_follows (steps : accord.Stepwise) {scope : ScopeId}
    (owned : accord.owned scope) (told : accord.Tells reported span span')
    {parameters : List String} {arguments : List Value}
    (held : ∀ value ∈ arguments, accord.value value) :
    accord.Follows reported (fun _ => True)
      (Host.bindParameters scope span parameters arguments)
      (Host.bindParameters scope span' parameters arguments) := by
  induction parameters generalizing arguments with
  | nil =>
    rw [Host.bindParameters,Host.bindParameters]
    · exact follows_pure trivial
    all_goals simp
  | cons parameter parameters ih =>
    cases arguments with
    | nil =>
      rw [Host.bindParameters,Host.bindParameters]
      · exact follows_pure trivial
      all_goals simp
    | cons argument arguments =>
      rw [Host.bindParameters,Host.bindParameters]
      apply ((steps.declare owned (held argument (by simp))).placed fun failed =>
        told.error (Act.declare_plain failed)).bind
      intro _ _
      exact ih fun value member => held value (by simp [member])

private theorem enter_follows (lawful : accord.Lawful) (byPlace : ByPlace reported)
    {call call' : Call}
    (answers : accord.Answers reported call call') (told : accord.Tells reported span span')
    {function : Closure} (made : accord.scope function.scope)
    (inner : ∀ span ∈ function.spans, accord.Tells reported span (id span))
    {arguments : List Value} (held : ∀ value ∈ arguments, accord.value value) :
    accord.Follows reported accord.value (Host.enter call function arguments span)
      (Host.enter call' function arguments span') := by
  unfold Host.enter
  split
  · exact follows_throw (told.any byPlace _)
  · apply ((lawful.addScope made).sure fun _ => ⟨_,_,rfl⟩).bind
    intro scope owned
    apply (bindParameters_follows lawful.toStepwise owned told held).bind
    intro _ _
    have same : Statement.mapSpans id = id := funext Statement.mapSpans_id
    have follows := body_follows lawful.toStepwise answers owned function.body inner
    rwa [same,List.map_id] at follows

end

section
variable {accord : Accord} (lawful : accord.Lawful) {host : Host} (honours : host.Honours accord)
include lawful honours

private theorem routine_governed {call : Call} (serves : accord.Serves call)
    {arguments : List Value}
    {scope : ScopeId} (held : ∀ value ∈ arguments, accord.value value)
    (inside : accord.scope scope) (routine : Routine) :
    accord.Governs accord.value (host.routine call arguments scope routine) := by
  cases routine with
  | print => exact lawful.print held
  | time => exact lawful.time_governed lawful.readClock
  | custom label =>
    refine honours ?_ held inside
    intro callee given caller callable fit outside
    exact (serves callable fit outside).unlocated

/-- Calls correspond, if the places inside the functions that can be called do. -/
theorem call_answers (depth : Nat) {reported : RuntimeError → RuntimeError → Prop}
    (byPlace : ByPlace reported)
    (bodies : ∀ function, accord.value (.closure function) →
      ∀ span ∈ function.spans, ∀ fault, reported ⟨fault,span⟩ ⟨fault,span⟩) :
    accord.Answers reported (host.call depth) (host.call depth) := by
  -- Bodies and custom routines call with one level less; a custom routine sees no place.
  induction depth generalizing reported with
  | zero =>
    intro callee given scope span span' _ _ _ told
    exact follows_throw (told.any byPlace _)
  | succ depth ih =>
    intro callee given scope span span' callable held inside told
    cases callee with
    | native function =>
      have serves := (ih byPlace_eq fun _ _ _ _ _ => rfl).serves lawful.toStepwise
      apply lawful.log_follows.bind
      intro _ _
      exact (routine_governed lawful honours serves held inside function.routine).placed
        fun _ => told.any byPlace _
    | closure function =>
      apply lawful.log_follows.bind
      intro _ _
      refine enter_follows lawful byPlace (ih byPlace bodies) told (lawful.closure callable) ?_ held
      intro span member
      exact lawful.tells fun fault _ => bodies function callable span member fault
    | number | boolean | null | object => exact follows_throw (told.any byPlace _)

theorem call_serves (depth : Nat) : accord.Serves (host.call depth) :=
  (call_answers lawful honours depth byPlace_eq fun _ _ _ _ _ => rfl).serves lawful.toStepwise

theorem evaluate_follows {reported : RuntimeError → RuntimeError → Prop} {move : Span → Span}
    {scope : ScopeId} (owned : accord.owned scope) (byPlace : ByPlace reported)
    (bodies : ∀ function, accord.value (.closure function) →
      ∀ span ∈ function.spans, ∀ fault, reported ⟨fault,span⟩ ⟨fault,span⟩)
    (program : Program)
    (told : ∀ span ∈ program.spans, accord.Tells reported span (move span)) :
    accord.Follows reported accord.value (host.evaluate scope program)
      (host.evaluate scope (program.mapSpans move)) :=
  body_follows lawful.toStepwise (call_answers lawful honours host.depth byPlace bodies) owned
    program.statements told

theorem evaluate_governed {scope : ScopeId} (owned : accord.owned scope) (program : Program) :
    accord.Governs accord.value (host.evaluate scope program) := by
  have told : ∀ span ∈ program.spans, accord.Tells Eq span (id span) :=
    fun span _ => lawful.tells fun _ _ => rfl
  have follows := evaluate_follows lawful honours owned byPlace_eq (fun _ _ _ _ _ => rfl)
    program told
  rw [program.mapSpans_id] at follows
  exact follows.governs

end
end Accord
end Scriptlet
