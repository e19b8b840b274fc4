import Mathlib.Data.List.Basic
import Scriptlet.Tree

/-! The nodes of a tree, and induction over trees through the lists inside them. -/
namespace Scriptlet

theorem Expr.induct {holds : Expr → Prop}
    (number : ∀ value span, holds (.number value span))
    (identifier : ∀ name, holds (.identifier name))
    (assign : ∀ target value span, holds target → holds value → holds (.assign target value span))
    (binary : ∀ operator left right span, holds left → holds right →
      holds (.binary operator left right span))
    (object : ∀ properties span,
      (∀ key value place, .valued key value place ∈ properties → holds value) →
      holds (.object properties span))
    (call : ∀ callee given span, holds callee → (∀ argument ∈ given, holds argument) →
      holds (.call callee given span))
    (member : ∀ object name span, holds object → holds (.member object name span))
    (index : ∀ object key span, holds object → holds key → holds (.index object key span))
    (tree : Expr) : holds tree := by
  apply @Expr.rec holds
    (fun property => ∀ key value place, .valued key value place = property → holds value)
    (fun properties => ∀ key value place, .valued key value place ∈ properties → holds value)
    (fun given => ∀ argument ∈ given, holds argument)
  · exact number
  · exact identifier
  · exact assign
  · exact binary
  · exact object
  · exact call
  · exact member
  · exact index
  · intro key span _ value place same
    cases same
  · intro key value span inside _ _ _ same
    obtain ⟨_,rfl,_⟩ := Property.valued.inj same
    exact inside
  · simp
  · intro property rest head tail key value place member
    rcases List.mem_cons.mp member with same | later
    · exact head key value place same
    · exact tail key value place later
  · simp
  · intro argument rest head tail given member
    rcases List.mem_cons.mp member with rfl | later
    · exact head
    · exact tail given later

mutual
def Expr.nodes : Expr → List Expr
  | .number value span => [.number value span]
  | .identifier name => [.identifier name]
  | .assign target value span => .assign target value span :: (target.nodes ++ value.nodes)
  | .binary operator left right span =>
    .binary operator left right span :: (left.nodes ++ right.nodes)
  | .object properties span => .object properties span :: propertyNodes properties
  | .call callee arguments span =>
    .call callee arguments span :: (callee.nodes ++ argumentNodes arguments)
  | .member object property span => .member object property span :: object.nodes
  | .index object key span => .index object key span :: (object.nodes ++ key.nodes)
def propertyNodes : List Property → List Expr
  | [] => []
  | property :: rest => property.nodes ++ propertyNodes rest
def argumentNodes : List Expr → List Expr
  | [] => []
  | argument :: rest => argument.nodes ++ argumentNodes rest
def Property.nodes : Property → List Expr
  | .shorthand _ _ => []
  | .valued _ value _ => value.nodes
end

def Statement.nodes : Statement → List Expr
  | .declaration content => content.value.elim [] Expr.nodes
  | .expression content => content.nodes

@[simp] theorem propertyNodes_eq (properties : List Property) :
    propertyNodes properties = properties.flatMap Property.nodes := by
  induction properties with
  | nil => rfl
  | cons property rest ih => simp [propertyNodes,ih]

@[simp] theorem argumentNodes_eq (arguments : List Expr) :
    argumentNodes arguments = arguments.flatMap Expr.nodes := by
  induction arguments with
  | nil => rfl
  | cons argument rest ih => simp [argumentNodes,ih]

def Expr.Every (holds : Expr → Prop) (tree : Expr) : Prop := ∀ node ∈ tree.nodes, holds node

def Property.Every (holds : Expr → Prop) (property : Property) : Prop :=
  ∀ node ∈ property.nodes, holds node

def Statement.Every (holds : Expr → Prop) (statement : Statement) : Prop :=
  ∀ node ∈ statement.nodes, holds node

section
variable {holds : Expr → Prop} {span : Span}
attribute [local simp] Expr.nodes Property.nodes

@[simp] theorem Expr.every_number {value : Float} :
    (number value span).Every holds ↔ holds (number value span) := by
  simp [Every]

@[simp] theorem Expr.every_identifier {name : Identifier} :
    (identifier name).Every holds ↔ holds (identifier name) := by
  simp [Every]

@[simp] theorem Expr.every_assign {target value : Expr} : (assign target value span).Every holds ↔
    holds (assign target value span) ∧ target.Every holds ∧ value.Every holds := by
  simp only [Every,nodes,List.forall_mem_cons,List.forall_mem_append]

@[simp] theorem Expr.every_binary {operator : Operator} {left right : Expr} :
    (binary operator left right span).Every holds ↔
      holds (binary operator left right span) ∧ left.Every holds ∧ right.Every holds := by
  simp only [Every,nodes,List.forall_mem_cons,List.forall_mem_append]

@[simp] theorem Expr.every_object {properties : List Property} :
    (object properties span).Every holds ↔
      holds (object properties span) ∧ ∀ property ∈ properties, property.Every holds := by
  simp only [Every,Property.Every,nodes,propertyNodes_eq,List.forall_mem_cons,
    List.forall_mem_flatMap]

@[simp] theorem Expr.every_call {callee : Expr} {given : List Expr} :
    (call callee given span).Every holds ↔ holds (call callee given span) ∧
      callee.Every holds ∧ ∀ argument ∈ given, argument.Every holds := by
  simp only [Every,nodes,argumentNodes_eq,List.forall_mem_cons,List.forall_mem_append,
    List.forall_mem_flatMap]

@[simp] theorem Expr.every_member {object : Expr} {name : Identifier} :
    (member object name span).Every holds ↔
      holds (member object name span) ∧ object.Every holds := by
  simp only [Every,nodes,List.forall_mem_cons]

@[simp] theorem Expr.every_index {object key : Expr} : (index object key span).Every holds ↔
    holds (index object key span) ∧ object.Every holds ∧ key.Every holds := by
  simp only [Every,nodes,List.forall_mem_cons,List.forall_mem_append]

@[simp] theorem Property.every_shorthand {key : String} : (shorthand key span).Every holds := by
  simp [Every]

@[simp] theorem Property.every_valued {key : String} {value : Expr} :
    (valued key value span).Every holds ↔ value.Every holds := by
  simp only [Every,nodes,Expr.Every]

end

private theorem Expr.nodes_erase (tree : Expr) : tree.erase.nodes = tree.nodes.map Expr.erase := by
  induction tree using Expr.induct with
  | number value span => simp [nodes]
  | identifier name => simp [nodes]
  | assign target value span first second => simp [nodes,first,second]
  | binary operator left right span first second => simp [nodes,first,second]
  | object properties span inside =>
    simp only [nodes,erase_object,propertyNodes_eq,List.flatMap_map,List.map_cons,List.map_flatMap]
    congr 1
    apply List.flatMap_congr
    intro property member
    cases property with
    | shorthand key place => simp [Property.nodes]
    | valued key value place => simp [Property.nodes,inside key value place member]
  | call callee given span first inside =>
    simp only [nodes,erase_call,argumentNodes_eq,List.flatMap_map,List.map_cons,List.map_append,
      List.map_flatMap,first]
    congr 2
    exact List.flatMap_congr inside
  | member object name span first => simp [nodes,first]
  | index object key span first second => simp [nodes,first,second]

theorem Expr.every_of_erase {holds : Expr → Prop} {tree : Expr}
    (steady : ∀ node : Expr, holds node.erase → holds node) (every : tree.erase.Every holds) :
    tree.Every holds := by
  intro node member
  apply steady
  apply every
  rw [nodes_erase]
  exact List.mem_map_of_mem member

end Scriptlet
