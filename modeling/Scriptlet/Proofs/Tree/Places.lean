import Mathlib.Logic.Relation
import Scriptlet.Proofs.Printing.Nodes
import Scriptlet.Tree.Source

/-! The places of a tree: those of its expressions, properties and names, and how its parts lie
inside one another. Moving a tree moves its places and changes nothing else. -/
namespace Scriptlet

mutual
def Expr.spans : Expr → List Span
  | .number _ span => [span]
  | .identifier name => [name.span]
  | .assign target value span => span :: (target.spans ++ value.spans)
  | .binary _ left right span => span :: (left.spans ++ right.spans)
  | .object properties span => span :: propertySpans properties
  | .call callee arguments span => span :: (callee.spans ++ argumentSpans arguments)
  | .member object property span => span :: property.span :: object.spans
  | .index object key span => span :: (object.spans ++ key.spans)
def propertySpans : List Property → List Span
  | [] => []
  | property :: rest => property.spans ++ propertySpans rest
def argumentSpans : List Expr → List Span
  | [] => []
  | argument :: rest => argument.spans ++ argumentSpans rest
def Property.spans : Property → List Span
  | .shorthand _ span => [span]
  | .valued _ value span => span :: value.spans
end

def Declaration.spans (declaration : Declaration) : List Span :=
  declaration.span :: declaration.identifier.span :: declaration.value.elim [] Expr.spans

def Statement.spans : Statement → List Span
  | .declaration content => content.spans
  | .expression content => content.spans

def Program.spans (program : Program) : List Span := program.statements.flatMap Statement.spans

theorem Expr.span_mem (tree : Expr) : tree.span ∈ tree.spans := by
  cases tree <;> simp [span,spans]

theorem Statement.span_mem (statement : Statement) : statement.span ∈ statement.spans := by
  cases statement with
  | declaration content => simp [span,spans,Declaration.spans]
  | expression content => exact content.span_mem

/-! Parts of every kind, and the parts inside them. -/

inductive Part where
  | program (content : Program)
  | statement (content : Statement)
  | expression (content : Expr)
  | property (content : Property)
  | identifier (content : Identifier)

namespace Part

def span : Part → Span
  | .program content => content.span
  | .statement content => content.span
  | .expression content => content.span
  | .property content => content.span
  | .identifier content => content.span

def children : Part → List Part
  | .program content => content.statements.map .statement
  | .statement (.declaration content) =>
    .identifier content.identifier :: content.value.elim [] fun value => [.expression value]
  | .statement (.expression content) => [.expression content]
  | .expression (.number _ _) => []
  | .expression (.identifier _) => []
  | .expression (.assign target value _) => [.expression target,.expression value]
  | .expression (.binary _ left right _) => [.expression left,.expression right]
  | .expression (.object properties _) => properties.map .property
  | .expression (.call callee arguments _) => .expression callee :: arguments.map .expression
  | .expression (.member object name _) => [.expression object,.identifier name]
  | .expression (.index object key _) => [.expression object,.expression key]
  | .property (.shorthand _ _) => []
  | .property (.valued _ value _) => [.expression value]
  | .identifier _ => []

def Contains : Part → Part → Prop := Relation.ReflTransGen fun part child => child ∈ part.children

def Holds (part : Part) (span : Span) : Prop := ∃ inner, part.Contains inner ∧ inner.span = span

private theorem holds_self (part : Part) : part.Holds part.span := ⟨part,.refl,rfl⟩

theorem Holds.below {part child : Part} {span : Span} (holds : child.Holds span)
    (member : child ∈ part.children) : part.Holds span := by
  obtain ⟨inner,below,same⟩ := holds
  exact ⟨inner,.head member below,same⟩

end Part

private theorem propertySpans_eq (properties : List Property) :
    propertySpans properties = properties.flatMap Property.spans := by
  induction properties with
  | nil => rfl
  | cons property rest ih => rw [propertySpans,ih,List.flatMap_cons]

private theorem argumentSpans_eq (arguments : List Expr) :
    argumentSpans arguments = arguments.flatMap Expr.spans := by
  induction arguments with
  | nil => rfl
  | cons argument rest ih => rw [argumentSpans,ih,List.flatMap_cons]

theorem Expr.holds_of_mem {tree : Expr} {span : Span} (member : span ∈ tree.spans) :
    (Part.expression tree).Holds span := by
  induction tree using Expr.induct with
  | number value place =>
    obtain rfl := List.mem_singleton.mp member
    exact Part.holds_self _
  | identifier name =>
    obtain rfl := List.mem_singleton.mp member
    exact Part.holds_self _
  | assign left right place first second | binary sign left right place first second
  | index left right place first second =>
    rw [spans,List.mem_cons,List.mem_append] at member
    rcases member with rfl | member | member
    · exact Part.holds_self _
    · exact (first member).below (by simp [Part.children])
    · exact (second member).below (by simp [Part.children])
  | object properties place inside =>
    rw [spans,propertySpans_eq,List.mem_cons,List.mem_flatMap] at member
    rcases member with rfl | ⟨property,listed,member⟩
    · exact Part.holds_self _
    · have holds : (Part.property property).Holds span := by
        cases property with
        | shorthand key spot =>
          obtain rfl := List.mem_singleton.mp member
          exact Part.holds_self _
        | valued key value spot =>
          rw [Property.spans,List.mem_cons] at member
          rcases member with rfl | member
          · exact Part.holds_self _
          · exact (inside key value spot listed member).below (by simp [Part.children])
      exact holds.below (by simpa [Part.children] using listed)
  | call callee given place first inside =>
    rw [spans,argumentSpans_eq,List.mem_cons,List.mem_append,List.mem_flatMap] at member
    rcases member with rfl | member | ⟨argument,listed,member⟩
    · exact Part.holds_self _
    · exact (first member).below (by simp [Part.children])
    · exact (inside argument listed member).below (by simp [Part.children,listed])
  | member object name place inside =>
    rw [spans,List.mem_cons,List.mem_cons] at member
    rcases member with rfl | rfl | member
    · exact Part.holds_self _
    · exact (Part.holds_self (.identifier name)).below (by simp [Part.children])
    · exact (inside member).below (by simp [Part.children])

theorem Statement.holds_of_mem {statement : Statement} {span : Span}
    (member : span ∈ statement.spans) : (Part.statement statement).Holds span := by
  cases statement with
  | declaration content =>
    rw [spans,Declaration.spans,List.mem_cons,List.mem_cons] at member
    rcases member with rfl | rfl | member
    · exact Part.holds_self (.statement (.declaration content))
    · exact (Part.holds_self (.identifier content.identifier)).below (by simp [Part.children])
    · cases given : content.value with
      | none => simp [given] at member
      | some value =>
        rw [given] at member
        exact (Expr.holds_of_mem member).below (by simp [Part.children,given])
  | expression content => exact (Expr.holds_of_mem member).below (by simp [Part.children])

/-! Moved trees. -/

@[simp] theorem Expr.mapSpans_span (move : Span → Span) (tree : Expr) :
    (tree.mapSpans move).span = move tree.span := by
  cases tree <;> simp [mapSpans,span,Identifier.mapSpans]

@[simp] theorem Property.mapSpans_key (move : Span → Span) (property : Property) :
    (property.mapSpans move).key = property.key := by
  cases property <;> simp [mapSpans,key]

@[simp] theorem Statement.mapSpans_span (move : Span → Span) (statement : Statement) :
    (statement.mapSpans move).span = move statement.span := by
  cases statement <;> simp [mapSpans,span,Declaration.mapSpans]

theorem Expr.mapSpans_id (tree : Expr) : tree.mapSpans id = tree := by
  induction tree using Expr.induct with
  | object properties span inside =>
    have same : properties.map (Property.mapSpans id) = properties := by
      refine (List.map_congr_left ?_).trans (List.map_id _)
      intro property member
      cases property with
      | shorthand key place => simp [Property.mapSpans]
      | valued key value place => simp [Property.mapSpans,inside key value place member]
    simp [mapSpans,mapPropertySpans_eq_map,same]
  | call callee given span first inside =>
    have same : given.map (Expr.mapSpans id) = given :=
      (List.map_congr_left inside).trans (List.map_id _)
    simp [mapSpans,mapArgumentSpans_eq_map,same,first]
  | _ => simp_all [mapSpans,Identifier.mapSpans]

theorem Expr.mapSpans_congr {move move' : Span → Span} {tree : Expr}
    (same : ∀ span ∈ tree.spans, move span = move' span) :
    tree.mapSpans move = tree.mapSpans move' := by
  induction tree using Expr.induct with
  | object properties span inside =>
    simp only [spans,propertySpans_eq,List.forall_mem_cons] at same
    have each : properties.map (Property.mapSpans move) =
        properties.map (Property.mapSpans move') := by
      apply List.map_congr_left
      intro property member
      have held (place : Span) (here : place ∈ property.spans) : move place = move' place :=
        same.2 place (List.mem_flatMap_of_mem member here)
      cases property with
      | shorthand key place => simp [Property.mapSpans,held place (by simp [Property.spans])]
      | valued key value place =>
        have value' := inside key value place member fun span here =>
          held span (by simp [Property.spans,here])
        simp [Property.mapSpans,held place (by simp [Property.spans]),value']
    simp [mapSpans,mapPropertySpans_eq_map,each,same.1]
  | call callee given span first inside =>
    simp only [spans,argumentSpans_eq,List.forall_mem_cons,List.forall_mem_append] at same
    have each : given.map (Expr.mapSpans move) = given.map (Expr.mapSpans move') := by
      apply List.map_congr_left
      intro argument member
      exact inside argument member fun span here =>
        same.2.2 span (List.mem_flatMap_of_mem member here)
    simp [mapSpans,mapArgumentSpans_eq_map,each,first same.2.1,same.1]
  | _ => simp_all [mapSpans,spans,Identifier.mapSpans]

theorem Statement.mapSpans_congr {move move' : Span → Span} {statement : Statement}
    (same : ∀ span ∈ statement.spans, move span = move' span) :
    statement.mapSpans move = statement.mapSpans move' := by
  cases statement with
  | declaration content =>
    obtain ⟨identifier,constant,value,span⟩ := content
    cases value with
    | none => simp_all [spans,Declaration.spans,mapSpans,Declaration.mapSpans,Identifier.mapSpans]
    | some tree =>
      simp only [spans,Declaration.spans,List.forall_mem_cons] at same
      have value := Expr.mapSpans_congr same.2.2
      simp [mapSpans,Declaration.mapSpans,Identifier.mapSpans,same.1,same.2.1,value]
  | expression content => exact congrArg expression (Expr.mapSpans_congr same)

theorem Property.mapSpans_id (property : Property) : property.mapSpans id = property := by
  cases property <;> simp [mapSpans,Expr.mapSpans_id]

theorem Statement.mapSpans_id (statement : Statement) : statement.mapSpans id = statement := by
  cases statement with
  | declaration content =>
    have same : Expr.mapSpans id = id := funext Expr.mapSpans_id
    simp [mapSpans,Declaration.mapSpans,Identifier.mapSpans,same]
  | expression content => simp [mapSpans,Expr.mapSpans_id]

theorem Program.mapSpans_id (program : Program) : program.mapSpans id = program := by
  have same : Statement.mapSpans id = id := funext Statement.mapSpans_id
  simp [mapSpans,same]

theorem propertySources_eq (properties : List Property) :
    propertySources properties = properties.map Property.source := by
  induction properties with
  | nil => rfl
  | cons property rest ih => rw [propertySources,ih,List.map_cons]

theorem argumentSources_eq (arguments : List Expr) :
    argumentSources arguments = arguments.map Expr.source := by
  induction arguments with
  | nil => rfl
  | cons argument rest ih => rw [argumentSources,ih,List.map_cons]

/-- The text of a tree does not depend on where it stands. -/
@[simp] theorem Expr.mapSpans_source (move : Span → Span) (tree : Expr) :
    (tree.mapSpans move).source = tree.source := by
  induction tree using Expr.induct with
  | object properties span inside =>
    have same : (properties.map (Property.mapSpans move)).map Property.source =
        properties.map Property.source := by
      rw [List.map_map]
      apply List.map_congr_left
      intro property member
      cases property with
      | shorthand key place => simp [Property.mapSpans,Property.source]
      | valued key value place =>
        simp [Property.mapSpans,Property.source,inside key value place member]
    simp only [mapSpans,source,mapPropertySpans_eq_map,propertySources_eq,List.isEmpty_map,same]
  | call callee given span first inside =>
    have same : (given.map (Expr.mapSpans move)).map Expr.source = given.map Expr.source := by
      rw [List.map_map]
      exact List.map_congr_left inside
    simp only [mapSpans,source,mapArgumentSpans_eq_map,argumentSources_eq,first,same]
  | _ => simp_all [mapSpans,source,Identifier.mapSpans]

end Scriptlet
