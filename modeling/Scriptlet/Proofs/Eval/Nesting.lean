import Mathlib.Order.MinMax
import Scriptlet.Host

/-! How deep evaluation nests. Where calls evaluate nothing, the evaluation of a tree goes no deeper
than the tree is high. -/
namespace Scriptlet

mutual
def Expr.height : Expr → Nat
  | .number _ _ => 1
  | .identifier _ => 1
  | .assign target value _ => max target.height value.height + 1
  | .binary _ left right _ => max left.height right.height + 1
  | .object properties _ => propertiesHeight properties + 1
  | .call callee arguments _ => max callee.height (argumentsHeight arguments) + 1
  | .member object _ _ => object.height + 1
  | .index object key _ => max object.height key.height + 1
def propertiesHeight : List Property → Nat
  | [] => 0
  | property :: rest => max property.height (propertiesHeight rest)
def argumentsHeight : List Expr → Nat
  | [] => 0
  | argument :: rest => max argument.height (argumentsHeight rest)
def Property.height : Property → Nat
  | .shorthand _ _ => 0
  | .valued _ value _ => value.height
end

def Statement.height : Statement → Nat
  | .declaration content => content.value.elim 0 Expr.height
  | .expression content => content.height

def Program.height (program : Program) : Nat :=
  program.statements.foldr (fun content height => max content.height height) 0

private theorem Expr.height_pos (tree : Expr) : 0 < tree.height := by
  cases tree <;> simp [height]

private theorem height_le_properties {properties : List Property} {property : Property}
    (member : property ∈ properties) : property.height ≤ propertiesHeight properties := by
  induction properties with
  | nil => cases member
  | cons first rest ih =>
    rw [propertiesHeight]
    rcases List.mem_cons.mp member with rfl | later
    · exact le_max_left _ _
    · exact le_max_of_le_right (ih later)

private theorem height_le_arguments {arguments : List Expr} {argument : Expr}
    (member : argument ∈ arguments) : argument.height ≤ argumentsHeight arguments := by
  induction arguments with
  | nil => cases member
  | cons first rest ih =>
    rw [argumentsHeight]
    rcases List.mem_cons.mp member with rfl | later
    · exact le_max_left _ _
    · exact le_max_of_le_right (ih later)

theorem Program.height_le {program : Program} {content : Statement}
    (member : content ∈ program.statements) : content.height ≤ program.height := by
  obtain ⟨statements,span⟩ := program
  unfold height
  dsimp only at member ⊢
  induction statements with
  | nil => cases member
  | cons first rest ih =>
    rw [List.foldr_cons]
    rcases List.mem_cons.mp member with rfl | later
    · exact le_max_left _ _
    · exact le_max_of_le_right (ih later)

namespace Eval
open Act

variable (call : Call) (scope : ScopeId)

def propertyBy (inner : Expr → Eval Value) : Property → Eval Value
  | .shorthand key span => located span (lookup scope key)
  | .valued _ value _ => inner value

/-- Evaluates an expression; those inside it are evaluated by `inner`. -/
def node (inner : Expr → Eval Value) : Expr → Eval Value
  | .number value _ => return .number value
  | .identifier name => located name.span (lookup scope name.name)
  | .object content _ => do
    let properties ← content.foldlM (fun table property => do
      let value ← propertyBy scope inner property
      return table.insert property.key value) .empty
    addObject properties
  | .call callee given span => do
    let callee ← inner callee
    let given ← given.mapM inner
    call callee given scope span
  | .binary operator left right span => do
    let left ← inner left
    let right ← inner right
    operate operator left right span
  | .member object property _ => do
    let value ← inner object
    let id ← objectOf value property.name object.span
    readProperty id property.name property.span
  | .index object key _ => do
    let value ← inner object
    let name ← keyText (← inner key) key.span
    let id ← objectOf value name object.span
    readProperty id name key.span
  | .assign (.identifier name) value span => do
    let value ← inner value
    located span (assign scope name.name value)
  | .assign (.member object property _) value _ => do
    let holder ← inner object
    let id ← objectOf holder property.name object.span
    let value ← inner value
    writeProperty id property.name value
    return value
  | .assign (.index object key _) value _ => do
    let holder ← inner object
    let name ← keyText (← inner key) key.span
    let id ← objectOf holder name object.span
    let value ← inner value
    writeProperty id name value
    return value
  | .assign target _ _ => fail (.invalidTarget target.source) target.span

/-- Evaluation with a limit on its levels: it fails where they are used up. -/
def within : Nat → Expr → Eval Value
  | 0,tree => fail .depthExceeded tree.span
  | level + 1,tree => node call scope (within level) tree

def statementWithin (level : Nat) (content : Statement) : Eval Value := do
  log (.statement content.span)
  match content with
  | .declaration content =>
    let value ← match content.value with
      | some value => within call scope level value
      | none => pure .null
    located content.span (declare scope content.identifier.name value content.constant)
  | .expression content => within call scope level content

def bodyWithin (level : Nat) (statements : List Statement) : Eval Value :=
  statements.foldlM (fun _ content => statementWithin call scope level content) .null

variable {call scope}

private theorem arguments_eq_mapM (trees : List Expr) :
    arguments call scope trees = trees.mapM (expression call scope) := by
  induction trees with
  | nil => rw [arguments,List.mapM_nil]
  | cons first rest ih => rw [arguments,List.mapM_cons,ih]

private theorem properties_eq_foldlM (trees : List Property) (table : Table Value) :
    properties call scope trees table = trees.foldlM (fun table property => do
      let value ← propertyBy scope (expression call scope) property
      return table.insert property.key value) table := by
  induction trees generalizing table with
  | nil => rw [properties,List.foldlM_nil]
  | cons first rest ih =>
    have same : propertyValue call scope first =
        propertyBy scope (expression call scope) first := by
      cases first <;> rw [propertyValue,propertyBy]
    rw [properties,List.foldlM_cons,bind_assoc,same]
    simp only [pure_bind,ih]

private theorem node_expression (tree : Expr) :
    node call scope (expression call scope) tree = expression call scope tree := by
  cases tree with
  | object content span => rw [node,expression,properties_eq_foldlM]
  | call callee given span => rw [node,expression,arguments_eq_mapM]
  | assign target value span =>
    cases target with
    | identifier | member | index => rw [node,expression]
    | number | assign | binary | object | call =>
      rw [node,expression]
      all_goals simp
  | _ => rw [node,expression]

private theorem foldlM_congr {α β : Type} {first second : β → α → Eval β} {items : List α}
    (same : ∀ before, ∀ item ∈ items, first before item = second before item) (initial : β) :
    items.foldlM first initial = items.foldlM second initial := by
  induction items generalizing initial with
  | nil => rfl
  | cons item rest ih =>
    rw [List.foldlM_cons,List.foldlM_cons,same initial item (by simp)]
    congr 1
    funext later
    exact ih (fun before other member => same before other (by simp [member])) later

private theorem mapM_congr {α β : Type} {first second : α → Eval β} {items : List α}
    (same : ∀ item ∈ items, first item = second item) : items.mapM first = items.mapM second := by
  induction items with
  | nil => rfl
  | cons item rest ih =>
    rw [List.mapM_cons,List.mapM_cons,same item (by simp),
      ih fun other member => same other (by simp [member])]

private theorem node_congr {inner inner' : Expr → Eval Value} {tree : Expr}
    (same : ∀ lower : Expr, lower.height < tree.height → inner lower = inner' lower) :
    node call scope inner tree = node call scope inner' tree := by
  cases tree with
  | number | identifier => rw [node,node]
  | object content span =>
    simp only [Expr.height] at same
    rw [node,node]
    congr 1
    apply foldlM_congr
    intro table property member
    have least := height_le_properties member
    congr 1
    cases property with
    | shorthand key place => rfl
    | valued key value place =>
      rw [Property.height] at least
      exact same value (by omega)
  | call callee given span =>
    simp only [Expr.height] at same
    have alike : given.mapM inner = given.mapM inner' := by
      apply mapM_congr
      intro argument member
      have least := height_le_arguments member
      exact same argument (by omega)
    rw [node,node,same callee (by omega),alike]
  | binary operator left right span =>
    simp only [Expr.height] at same
    rw [node,node,same left (by omega),same right (by omega)]
  | member object property span =>
    simp only [Expr.height] at same
    rw [node,node,same object (by omega)]
  | index object key span =>
    simp only [Expr.height] at same
    rw [node,node,same object (by omega),same key (by omega)]
  | assign target value span =>
    cases target with
    | identifier name =>
      simp only [Expr.height] at same
      rw [node,node,same value (by omega)]
    | member object property place =>
      simp only [Expr.height] at same
      rw [node,node,same object (by omega),same value (by omega)]
    | index object key place =>
      simp only [Expr.height] at same
      rw [node,node,same object (by omega),same key (by omega),same value (by omega)]
    | number | assign | binary | object | call =>
      rw [node,node]
      all_goals simp

private theorem within_eq {level : Nat} {tree : Expr} (enough : tree.height ≤ level) :
    within call scope level tree = expression call scope tree := by
  induction level generalizing tree with
  | zero => exact absurd tree.height_pos (by omega)
  | succ level ih =>
    rw [within,node_congr fun lower less => ih (by omega),node_expression]

theorem bodyWithin_eq {level : Nat} {statements : List Statement}
    (enough : ∀ content ∈ statements, content.height ≤ level) :
    bodyWithin call scope level statements = body call scope statements := by
  apply foldlM_congr
  intro _ content member
  have least := enough content member
  cases content with
  | expression content => rw [statementWithin,statement,within_eq least]
  | declaration content =>
    obtain ⟨identifier,constant,value,span⟩ := content
    cases value with
    | none => rfl
    | some tree =>
      unfold statementWithin statement declaration
      dsimp only
      rw [within_eq least]

end Eval

end Scriptlet
