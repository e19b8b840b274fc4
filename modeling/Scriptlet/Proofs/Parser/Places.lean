import Mathlib.Order.Basic
import Scriptlet.Proofs.Parser.Soundness
import Scriptlet.Proofs.Tree.Places

/-! Where the parts of a parsed tree stand. If the tokens stand one behind the other, every part
reaches from the start of a token to the end of that token or a later one, the parts right below it
stand one behind the other inside of it, and what is parsed first stands in front of what is parsed
next. -/
namespace Scriptlet

instance positionOrder : LinearOrder UInt32 where
  le_refl := UInt32.le_refl
  le_trans _ _ _ := UInt32.le_trans
  lt_iff_le_not_ge first second := by
    rw [UInt32.not_le]
    exact ⟨fun less => ⟨UInt32.le_of_lt less,less⟩,And.right⟩
  le_antisymm _ _ := UInt32.le_antisymm
  le_total := UInt32.le_total
  toDecidableLE := inferInstance
  toDecidableLT := inferInstance
  min_def _ _ := rfl
  max_def _ _ := rfl

namespace Parser
open Scriptlet.Stream

variable {tokens : List Lexeme} {low middle high : UInt32} {first second span : Span}

/-- A place of some length between two bounds, from the start of a token to the end of one. -/
structure Fills (tokens : List Lexeme) (low high : UInt32) (span : Span) : Prop where
  low : low ≤ span.start
  some : span.start < span.stop
  high : span.stop ≤ high
  start : ∃ lexeme ∈ tokens, lexeme.token ≠ .eof ∧ lexeme.span.start = span.start
  stop : ∃ lexeme ∈ tokens, lexeme.token ≠ .eof ∧ lexeme.span.stop = span.stop

theorem Fills.widen {low' high' : UInt32} (fills : Fills tokens low high span) (below : low' ≤ low)
    (above : high ≤ high') : Fills tokens low' high' span :=
  ⟨below.trans fills.low,fills.some,fills.high.trans above,fills.start,fills.stop⟩

theorem Fills.le (fills : Fills tokens low high span) : low ≤ high :=
  (fills.low.trans fills.some.le).trans fills.high

theorem Fills.join (before : Fills tokens low middle first)
    (after : Fills tokens middle high second) :
    Fills tokens low high ⟨first.start,second.stop⟩ := by
  have between := before.high.trans after.low
  exact ⟨before.low,(before.some.trans_le between).trans after.some,after.high,before.start,
    after.stop⟩

theorem Fills.merge (before : Fills tokens low middle first)
    (after : Fills tokens middle high second) :
    first.merge second = ⟨first.start,second.stop⟩ := by
  have between := before.high.trans after.low
  have start : min first.start second.start = first.start :=
    min_eq_left (before.some.le.trans between)
  have stop : max first.stop second.stop = second.stop :=
    max_eq_right (between.trans after.some.le)
  rw [Span.merge,start,stop]

def Spaced (tokens : List Lexeme) : UInt32 → UInt32 → List Span → Prop
  | low,high,[] => low ≤ high
  | low,high,span :: spans => Fills tokens low high span ∧ Spaced tokens span.stop high spans

theorem Spaced.fills {spans : List Span} (spaced : Spaced tokens low high spans) :
    ∀ span ∈ spans, Fills tokens low high span := by
  induction spans generalizing low with
  | nil => simp
  | cons first spans ih =>
    obtain ⟨fills,spaced⟩ := spaced
    have past := fills.low.trans fills.some.le
    exact List.forall_mem_cons.mpr
      ⟨fills,fun span member => (ih spaced span member).widen past le_rfl⟩

theorem Spaced.pairwise {spans : List Span} (spaced : Spaced tokens low high spans) :
    spans.Pairwise fun before after => before.stop ≤ after.start := by
  induction spans generalizing low with
  | nil => exact .nil
  | cons first spans ih =>
    obtain ⟨_,spaced⟩ := spaced
    exact .cons (fun span member => (spaced.fills span member).low) (ih spaced)

/-- The parts right below any part of this one stand one behind the other inside of it. -/
def Tidy (tokens : List Lexeme) (part : Part) : Prop :=
  ∀ inner, part.Contains inner →
    Spaced tokens inner.span.start inner.span.stop (inner.children.map Part.span)

/-- Tidy parts, one behind the other between two bounds. -/
def Row (tokens : List Lexeme) (low high : UInt32) (parts : List Part) : Prop :=
  Spaced tokens low high (parts.map Part.span) ∧ ∀ part ∈ parts, Tidy tokens part

theorem tidy_iff {part : Part} :
    Tidy tokens part ↔ Row tokens part.span.start part.span.stop part.children := by
  constructor
  · intro tidy
    refine ⟨tidy part .refl,fun child member inner below => ?_⟩
    exact tidy inner (.head member below)
  · rintro ⟨spaced,tidy⟩ inner below
    rcases Relation.ReflTransGen.cases_head below with rfl | ⟨child,member,below⟩
    · exact spaced
    · exact tidy child member inner below

variable {part : Part} {parts others : List Part}

@[simp] theorem row_nil : Row tokens low high [] ↔ low ≤ high := by simp [Row,Spaced]

private theorem row_cons : Row tokens low high (part :: parts) ↔
    Fills tokens low high part.span ∧ Tidy tokens part ∧ Row tokens part.span.stop high parts := by
  simp only [Row,Spaced,List.map_cons,List.forall_mem_cons]
  constructor
  · rintro ⟨⟨fills,spaced⟩,tidy,more⟩
    exact ⟨fills,tidy,spaced,more⟩
  · rintro ⟨fills,tidy,spaced,more⟩
    exact ⟨⟨fills,spaced⟩,tidy,more⟩

theorem Row.le (row : Row tokens low high parts) : low ≤ high := by
  cases parts with
  | nil => exact row_nil.mp row
  | cons part parts => exact (row_cons.mp row).1.le

theorem Row.widen {low' high' : UInt32} (row : Row tokens low high parts) (below : low' ≤ low)
    (above : high ≤ high') : Row tokens low' high' parts := by
  induction parts generalizing low low' with
  | nil => exact row_nil.mpr ((below.trans (row_nil.mp row)).trans above)
  | cons part parts ih =>
    obtain ⟨fills,tidy,more⟩ := row_cons.mp row
    exact row_cons.mpr ⟨fills.widen below above,tidy,ih more le_rfl⟩

theorem Row.append (row : Row tokens low middle parts) (more : Row tokens middle high others) :
    Row tokens low high (parts ++ others) := by
  induction parts generalizing low with
  | nil => exact more.widen (row_nil.mp row) le_rfl
  | cons part parts ih =>
    obtain ⟨fills,tidy,later⟩ := row_cons.mp row
    exact row_cons.mpr ⟨fills.widen le_rfl more.le,tidy,ih later⟩

theorem Row.own (row : Row tokens low high [part]) :
    Row tokens part.span.start part.span.stop [part] := by
  obtain ⟨fills,tidy,_⟩ := row_cons.mp row
  exact row_cons.mpr ⟨⟨le_rfl,fills.some,le_rfl,fills.start,fills.stop⟩,tidy,row_nil.mpr le_rfl⟩

theorem Row.fills (row : Row tokens low high [part]) : Fills tokens low high part.span :=
  (row_cons.mp row).1

theorem Row.within {limit : UInt32} (row : Row tokens low high parts)
    (bounded : ∀ lexeme ∈ tokens, lexeme.span.stop ≤ limit) (room : low ≤ limit) :
    Row tokens low limit parts := by
  induction parts generalizing low with
  | nil => exact row_nil.mpr room
  | cons part parts ih =>
    obtain ⟨fills,tidy,more⟩ := row_cons.mp row
    obtain ⟨lexeme,member,_,same⟩ := fills.stop
    have reach : part.span.stop ≤ limit := same ▸ bounded lexeme member
    exact row_cons.mpr ⟨{fills with high := reach},tidy,ih more reach⟩

theorem Row.contained {inner : Part} (row : Row tokens low high parts) (member : part ∈ parts)
    (below : part.Contains inner) : Fills tokens low high inner.span := by
  obtain ⟨spaced,tidy⟩ := row
  induction below with
  | refl => exact spaced.fills _ (List.mem_map_of_mem member)
  | @tail outer child below step ih =>
    have fills := (tidy part member outer below).fills _ (List.mem_map_of_mem step)
    exact fills.widen ih.low ih.high

/-- A part that stands between the bounds with the parts below it inside. -/
theorem row_of_children (fills : Fills tokens low high part.span)
    (below : Row tokens part.span.start part.span.stop part.children) :
    Row tokens low high [part] :=
  row_cons.mpr ⟨fills,tidy_iff.mpr below,row_nil.mpr fills.high⟩

private theorem row_of_leaf (fills : Fills tokens low high part.span) (leaf : part.children = []) :
    Row tokens low high [part] :=
  row_of_children fills (by simpa [leaf] using fills.some.le)

def Ordered : UInt32 → List Lexeme → Prop
  | _,[] => True
  | low,lexeme :: rest => lexeme.token = .eof ∨ (low ≤ lexeme.span.start ∧
      lexeme.span.start < lexeme.span.stop ∧ Ordered lexeme.span.stop rest)

def Stands (tokens : List Lexeme) (low : UInt32) (stream : Stream) : Prop :=
  stream.Steady ∧ stream.tokens ⊆ tokens ∧ Ordered low stream.tokens

variable {stream rest : Stream}

theorem Stands.step {token : Token} (stands : Stands tokens low stream)
    (found : stream.current = some ⟨token,span⟩) (inner : token ≠ .eof) :
    low ≤ span.stop ∧ Fills tokens low span.stop span ∧ Stands tokens span.stop stream.step := by
  obtain ⟨steady,held,ordered⟩ := stands
  obtain ⟨lexemes,parts,_,whole,_,steady'⟩ := Takes.one steady found inner
  obtain ⟨first,rfl,_⟩ := List.map_eq_singleton_iff.mp parts
  obtain rfl : first = ⟨token,span⟩ := by simpa [current,whole] using found
  rw [whole,List.singleton_append] at held ordered
  obtain ⟨member,held⟩ := List.cons_subset.mp held
  obtain ⟨low,some,behind⟩ := ordered.resolve_left inner
  have fills : Fills tokens _ span.stop span :=
    ⟨low,some,le_rfl,⟨_,member,inner,rfl⟩,⟨_,member,inner,rfl⟩⟩
  exact ⟨fills.le,fills,steady',held,behind⟩

/-- What was parsed stands from the bound on, and what is left stands behind it. -/
def Lands (tokens : List Lexeme) (low : UInt32) (parts : List Part) (rest : Stream) : Prop :=
  ∃ high, Row tokens low high parts ∧ Stands tokens high rest

theorem Lands.widen {low' : UInt32} (lands : Lands tokens low parts rest) (below : low' ≤ low) :
    Lands tokens low' parts rest := by
  obtain ⟨high,row,stands⟩ := lands
  exact ⟨high,row.widen below le_rfl,stands⟩

theorem Lands.over {token : Token} (lands : Lands tokens low parts rest)
    (found : rest.current = some ⟨token,span⟩) (inner : token ≠ .eof) :
    Lands tokens low parts rest.step := by
  obtain ⟨high,row,stands⟩ := lands
  obtain ⟨past,_,stands⟩ := stands.step found inner
  exact ⟨_,row.widen le_rfl past,stands⟩

/-- Every rule returns trees that stand where its tokens do. A loop is given the tree that stands in
front of them. -/
structure Placing (tokens : List Lexeme) (bound : Nat) : Prop where
  expression : ∀ {low stream rest tree}, Stands tokens low stream →
    Parser.expression bound stream = .ok tree rest → Lands tokens low [.expression tree] rest
  assignee : ∀ {low stream rest tree}, Stands tokens low stream →
    Parser.assignee bound stream = .ok tree rest → Lands tokens low [.expression tree] rest
  object : ∀ {low stream rest tree}, Stands tokens low stream →
    Parser.object bound stream = .ok tree rest → Lands tokens low [.expression tree] rest
  properties : ∀ {low stream rest trees}, Stands tokens low stream →
    Parser.properties bound stream = .ok trees rest → Lands tokens low (trees.map .property) rest
  property : ∀ {low stream rest tree}, Stands tokens low stream →
    Parser.property bound stream = .ok tree rest → Lands tokens low [.property tree] rest
  operations : ∀ {low stream rest floor tree}, Stands tokens low stream →
    Parser.operations bound floor stream = .ok tree rest → Lands tokens low [.expression tree] rest
  moreOperations : ∀ {low middle stream rest floor left tree},
    Row tokens low middle [.expression left] → Stands tokens middle stream →
    Parser.moreOperations bound floor left stream = .ok tree rest →
      Lands tokens low [.expression tree] rest
  operation : ∀ {low middle stream rest left tree}, Row tokens low middle [.expression left] →
    Stands tokens middle stream → Parser.operation bound left stream = .ok tree rest →
      Lands tokens low [.expression tree] rest
  calls : ∀ {low stream rest tree}, Stands tokens low stream →
    Parser.calls bound stream = .ok tree rest → Lands tokens low [.expression tree] rest
  moreCalls : ∀ {low middle stream rest callee tree}, Row tokens low middle [.expression callee] →
    Stands tokens middle stream → Parser.moreCalls bound callee stream = .ok tree rest →
      Lands tokens low [.expression tree] rest
  call : ∀ {low middle stream rest callee tree}, Row tokens low middle [.expression callee] →
    Stands tokens middle stream → Parser.call bound callee stream = .ok tree rest →
      Lands tokens low [.expression tree] rest
  arguments : ∀ {low stream rest trees}, Stands tokens low stream →
    Parser.arguments bound stream = .ok trees rest → Lands tokens low (trees.map .expression) rest
  members : ∀ {low stream rest tree}, Stands tokens low stream →
    Parser.members bound stream = .ok tree rest → Lands tokens low [.expression tree] rest
  moreMembers : ∀ {low middle stream rest object tree}, Row tokens low middle [.expression object] →
    Stands tokens middle stream → Parser.moreMembers bound object stream = .ok tree rest →
      Lands tokens low [.expression tree] rest
  member : ∀ {low middle stream rest object tree}, Row tokens low middle [.expression object] →
    Stands tokens middle stream → Parser.member bound object stream = .ok tree rest →
      Lands tokens low [.expression tree] rest
  primary : ∀ {low stream rest tree}, Stands tokens low stream →
    Parser.primary bound stream = .ok tree rest → Lands tokens low [.expression tree] rest

private theorem placing_zero : Placing tokens 0 := by
  constructor <;> intros <;> simp_all [expression,assignee,object,properties,property,operations,
    moreOperations,operation,calls,moreCalls,call,arguments,members,moreMembers,member,primary,
    failAtEnd_run]

theorem Row.pair {other : Part} (before : Row tokens low middle [part])
    (after : Row tokens middle high [other]) :
    Row tokens part.span.start other.span.stop [part,other] := by
  have between := before.fills.high.trans after.fills.low
  exact before.own.append (after.own.widen between le_rfl)

private theorem Row.merged {left right : Part} (before : Row tokens low middle [left])
    (after : Row tokens middle high [right]) (below : part.children = [left,right])
    (span : part.span = left.span.merge right.span) : Row tokens low high [part] := by
  rw [before.fills.merge after.fills] at span
  apply row_of_children
  · rw [span]
    exact before.fills.join after.fills
  · rw [span,below]
    exact before.pair after

section
variable {bound : Nat} {tree left : Expr} (placing : Placing tokens bound)
include placing

private theorem expression_lands (stands : Stands tokens low stream)
    (ok : expression (bound + 1) stream = .ok tree rest) :
    Lands tokens low [.expression tree] rest := by
  obtain ⟨target,after,first,alone | assigned⟩ := expression_ok.mp ok
  · obtain ⟨_,rfl,rfl⟩ := alone
    exact placing.assignee stands first
  · obtain ⟨equals,value,second,rfl⟩ := assigned
    obtain ⟨_,found⟩ := isAt_iff.mp equals
    obtain ⟨middle,aimed,stands⟩ := placing.assignee stands first
    obtain ⟨past,_,stands⟩ := stands.step found (by simp)
    obtain ⟨high,given,stands⟩ := placing.expression stands second
    exact ⟨high,aimed.merged (given.widen past le_rfl) rfl rfl,stands⟩

private theorem assignee_lands (stands : Stands tokens low stream)
    (ok : assignee (bound + 1) stream = .ok tree rest) :
    Lands tokens low [.expression tree] rest := by
  rw [assignee_run] at ok
  split at ok
  · exact placing.object stands ok
  · exact placing.operations stands ok

private theorem object_lands (stands : Stands tokens low stream)
    (ok : object (bound + 1) stream = .ok tree rest) :
    Lands tokens low [.expression tree] rest := by
  obtain ⟨opening,content,after,closing,found,inside,closed,rfl,rfl⟩ := object_ok.mp ok
  obtain ⟨_,opened,stands⟩ := stands.step found (by simp)
  obtain ⟨middle,row,stands⟩ := placing.properties stands inside
  obtain ⟨past,ended,stands⟩ := stands.step closed (by simp)
  have own := opened.join (ended.widen row.le le_rfl)
  exact ⟨closing.stop,row_of_children own (row.widen opened.some.le past),stands⟩

private theorem properties_land {trees : List Property} (stands : Stands tokens low stream)
    (ok : properties (bound + 1) stream = .ok trees rest) :
    Lands tokens low (trees.map .property) rest := by
  rcases properties_ok.mp ok with ⟨_,rfl,rfl⟩ | ⟨_,_,first,after,others,head,tail,rfl⟩
  · exact ⟨low,row_nil.mpr le_rfl,stands⟩
  · obtain ⟨middle,row,stands⟩ := placing.property stands head
    obtain ⟨high,more,stands⟩ := placing.properties stands tail
    exact ⟨high,row.append more,stands⟩

private theorem property_lands {tree : Property} (stands : Stands tokens low stream)
    (ok : property (bound + 1) stream = .ok tree rest) :
    Lands tokens low [.property tree] rest := by
  obtain ⟨name,span,found,short | short | valued⟩ := property_ok.mp ok
  · obtain ⟨comma,rfl,rfl⟩ := short
    obtain ⟨place,found'⟩ := isAt_iff.mp comma
    obtain ⟨_,named,stands⟩ := stands.step found (by simp)
    exact Lands.over ⟨span.stop,row_of_leaf named rfl,stands⟩ found' (by simp)
  · obtain ⟨_,rfl,rfl⟩ := short
    obtain ⟨_,named,stands⟩ := stands.step found (by simp)
    exact ⟨span.stop,row_of_leaf named rfl,stands⟩
  · obtain ⟨place,value,after,colon,inside,rfl,ending⟩ := valued
    obtain ⟨_,named,stands⟩ := stands.step found (by simp)
    obtain ⟨past,_,stands⟩ := stands.step colon (by simp)
    obtain ⟨high,given,stands⟩ := placing.expression stands inside
    have given := given.widen past le_rfl
    have inner := given.own.widen (named.some.le.trans given.fills.low) le_rfl
    have own := named.join given.fills
    have lands : Lands tokens low
        [.property (.valued name value ⟨span.start,value.span.stop⟩)] after :=
      ⟨high,row_of_children own inner,stands⟩
    rcases ending with ⟨_,rfl⟩ | ⟨comma,rfl⟩
    · exact lands
    · obtain ⟨_,found'⟩ := isAt_iff.mp comma
      exact lands.over found' (by simp)

private theorem operations_land {floor : Precedence} (stands : Stands tokens low stream)
    (ok : operations (bound + 1) floor stream = .ok tree rest) :
    Lands tokens low [.expression tree] rest := by
  obtain ⟨left,after,first,more⟩ := operations_ok.mp ok
  obtain ⟨middle,row,stands⟩ := placing.calls stands first
  exact placing.moreOperations row stands more

private theorem moreOperations_land {floor : Precedence}
    (before : Row tokens low middle [.expression left])
    (stands : Stands tokens middle stream)
    (ok : moreOperations (bound + 1) floor left stream = .ok tree rest) :
    Lands tokens low [.expression tree] rest := by
  rcases moreOperations_ok.mp ok with ⟨_,rfl,rfl⟩ | ⟨_,whole,after,first,more⟩
  · exact ⟨middle,before,stands⟩
  · obtain ⟨high,row,stands⟩ := placing.operation before stands first
    exact placing.moreOperations row stands more

private theorem operation_lands (before : Row tokens low middle [.expression left])
    (stands : Stands tokens middle stream)
    (ok : operation (bound + 1) left stream = .ok tree rest) :
    Lands tokens low [.expression tree] rest := by
  obtain ⟨sign,place,right,found,operand,rfl⟩ := operation_ok.mp ok
  obtain ⟨past,_,stands⟩ := stands.step found (by simp)
  obtain ⟨high,after,stands⟩ := placing.operations stands operand
  exact ⟨high,before.merged (after.widen past le_rfl) rfl rfl,stands⟩

private theorem calls_land (stands : Stands tokens low stream)
    (ok : calls (bound + 1) stream = .ok tree rest) : Lands tokens low [.expression tree] rest := by
  obtain ⟨callee,after,first,more⟩ := calls_ok.mp ok
  obtain ⟨middle,row,stands⟩ := placing.members stands first
  exact placing.moreCalls row stands more

private theorem moreCalls_land (before : Row tokens low middle [.expression left])
    (stands : Stands tokens middle stream)
    (ok : moreCalls (bound + 1) left stream = .ok tree rest) :
    Lands tokens low [.expression tree] rest := by
  rcases moreCalls_ok.mp ok with ⟨_,rfl,rfl⟩ | ⟨_,whole,after,first,more⟩
  · exact ⟨middle,before,stands⟩
  · obtain ⟨high,row,stands⟩ := placing.call before stands first
    exact placing.moreCalls row stands more

private theorem call_lands (before : Row tokens low middle [.expression left])
    (stands : Stands tokens middle stream)
    (ok : call (bound + 1) left stream = .ok tree rest) :
    Lands tokens low [.expression tree] rest := by
  obtain ⟨opening,given,after,closing,found,inside,closed,rfl,rfl⟩ := call_ok.mp ok
  obtain ⟨past,_,stands⟩ := stands.step found (by simp)
  have passed : Lands tokens opening.stop (given.map .expression) after := by
    rcases inside with ⟨_,rfl,rfl⟩ | ⟨_,inside⟩
    · exact ⟨opening.stop,row_nil.mpr le_rfl,stands⟩
    · exact placing.arguments stands inside
  obtain ⟨last,row,stands⟩ := passed
  obtain ⟨later,ended,stands⟩ := stands.step closed (by simp)
  have own := before.fills.join (ended.widen (past.trans row.le) le_rfl)
  have inner := before.own.append (row.widen (before.fills.high.trans past) later)
  exact ⟨closing.stop,row_of_children own inner,stands⟩

private theorem arguments_land {trees : List Expr} (stands : Stands tokens low stream)
    (ok : arguments (bound + 1) stream = .ok trees rest) :
    Lands tokens low (trees.map .expression) rest := by
  obtain ⟨first,after,head,alone | more⟩ := arguments_ok.mp ok
  · obtain ⟨_,rfl,rfl⟩ := alone
    exact placing.expression stands head
  · obtain ⟨comma,others,tail,rfl⟩ := more
    obtain ⟨_,found⟩ := isAt_iff.mp comma
    obtain ⟨middle,row,stands⟩ := placing.expression stands head
    obtain ⟨past,_,stands⟩ := stands.step found (by simp)
    obtain ⟨high,later,stands⟩ := placing.arguments stands tail
    exact ⟨high,row.append (later.widen past le_rfl),stands⟩

private theorem members_land (stands : Stands tokens low stream)
    (ok : members (bound + 1) stream = .ok tree rest) :
    Lands tokens low [.expression tree] rest := by
  obtain ⟨object,after,first,more⟩ := members_ok.mp ok
  obtain ⟨middle,row,stands⟩ := placing.primary stands first
  exact placing.moreMembers row stands more

private theorem moreMembers_land (before : Row tokens low middle [.expression left])
    (stands : Stands tokens middle stream)
    (ok : moreMembers (bound + 1) left stream = .ok tree rest) :
    Lands tokens low [.expression tree] rest := by
  rcases moreMembers_ok.mp ok with ⟨_,rfl,rfl⟩ | ⟨_,whole,after,first,more⟩
  · exact ⟨middle,before,stands⟩
  · obtain ⟨high,row,stands⟩ := placing.member before stands first
    exact placing.moreMembers row stands more

private theorem member_lands (before : Row tokens low middle [.expression left])
    (stands : Stands tokens middle stream)
    (ok : member (bound + 1) left stream = .ok tree rest) :
    Lands tokens low [.expression tree] rest := by
  rcases member_ok.mp ok with ⟨place,name,span,found,named,rfl,rfl⟩ |
    ⟨place,key,after,closing,found,inside,closed,rfl,rfl⟩
  · obtain ⟨past,_,stands⟩ := stands.step found (by simp)
    obtain ⟨_,property,stands⟩ := stands.step named (by simp)
    have property : Row tokens middle span.stop [.identifier ⟨name,span⟩] :=
      row_of_leaf (property.widen past le_rfl) rfl
    exact ⟨span.stop,row_of_children (before.fills.join property.fills) (before.pair property),
      stands⟩
  · obtain ⟨past,_,stands⟩ := stands.step found (by simp)
    obtain ⟨last,row,stands⟩ := placing.expression stands inside
    obtain ⟨later,ended,stands⟩ := stands.step closed (by simp)
    have own := before.fills.join (ended.widen (past.trans row.le) le_rfl)
    have inner := before.own.append (row.widen (before.fills.high.trans past) later)
    exact ⟨closing.stop,row_of_children own inner,stands⟩

private theorem primary_lands (stands : Stands tokens low stream)
    (ok : primary (bound + 1) stream = .ok tree rest) :
    Lands tokens low [.expression tree] rest := by
  rcases primary_ok.mp ok with ⟨name,span,found,rfl,rfl⟩ | ⟨digits,span,value,found,_,rfl,rfl⟩ |
    ⟨opening,after,closing,found,inside,closed,rfl⟩
  · obtain ⟨_,named,stands⟩ := stands.step found (by simp)
    exact ⟨span.stop,row_of_leaf named rfl,stands⟩
  · obtain ⟨_,written,stands⟩ := stands.step found (by simp)
    exact ⟨span.stop,row_of_leaf written rfl,stands⟩
  · obtain ⟨below,_,stands⟩ := stands.step found (by simp)
    exact ((placing.expression stands inside).widen below).over closed (by simp)

private theorem placing_succ : Placing tokens (bound + 1) where
  expression := expression_lands placing
  assignee := assignee_lands placing
  object := object_lands placing
  properties := properties_land placing
  property := property_lands placing
  operations := operations_land placing
  moreOperations := moreOperations_land placing
  operation := operation_lands placing
  calls := calls_land placing
  moreCalls := moreCalls_land placing
  call := call_lands placing
  arguments := arguments_land placing
  members := members_land placing
  moreMembers := moreMembers_land placing
  member := member_lands placing
  primary := primary_lands placing

end

private theorem placing (bound : Nat) : Placing tokens bound := by
  induction bound with
  | zero => exact placing_zero
  | succ bound ih => exact placing_succ ih

/-! Statements. -/

variable {bound : Nat}

private theorem declaration_lands {content : Declaration} {opening : Lexeme}
    (stands : Stands tokens low stream) (opened : stream.current = some opening)
    (inner : opening.token ≠ .eof) (ok : declaration bound stream = .ok content rest) :
    Lands tokens low [.statement (.declaration content)] rest := by
  obtain ⟨_,name,span,found,named,short | valued⟩ := declaration_ok.mp ok
  all_goals obtain rfl := Option.some.inj (opened.symm.trans found)
  · obtain ⟨closing,_,closed,rfl,rfl⟩ := short
    obtain ⟨_,first,stands⟩ := stands.step opened inner
    obtain ⟨_,second,stands⟩ := stands.step named (by simp)
    obtain ⟨last,third,stands⟩ := stands.step closed (by simp)
    have second : Row tokens opening.span.stop span.stop [.identifier ⟨name,span⟩] :=
      row_of_leaf second rfl
    have own := first.join (third.widen second.le le_rfl)
    exact ⟨closing.stop,row_of_children own (second.widen first.some.le last),stands⟩
  · obtain ⟨place,value,after,closing,equals,inside,closed,rfl,rfl⟩ := valued
    obtain ⟨_,first,stands⟩ := stands.step opened inner
    obtain ⟨_,second,stands⟩ := stands.step named (by simp)
    obtain ⟨past,_,stands⟩ := stands.step equals (by simp)
    obtain ⟨high,given,stands⟩ := (placing bound).expression stands inside
    obtain ⟨last,third,stands⟩ := stands.step closed (by simp)
    have second : Row tokens opening.span.stop span.stop [.identifier ⟨name,span⟩] :=
      row_of_leaf second rfl
    have both := second.append (given.widen past le_rfl)
    have own := first.join (third.widen both.le le_rfl)
    exact ⟨closing.stop,row_of_children own (both.widen first.some.le last),stands⟩

private theorem statement_lands {content : Statement} (stands : Stands tokens low stream)
    (ok : statement bound stream = .ok content rest) :
    Lands tokens low [.statement content] rest := by
  obtain ⟨opening,found,reserved | free⟩ := statement_ok.mp ok
  · obtain ⟨reserved,content,parsed,rfl⟩ := reserved
    exact declaration_lands stands found (reserved_ne_eof reserved) parsed
  · obtain ⟨_,content,after,parsed,rfl,rfl⟩ := free
    obtain ⟨high,row,stands⟩ := (placing bound).expression stands parsed
    have lands : Lands tokens low [.statement (.expression content)] after :=
      ⟨high,row_of_children row.fills row.own,stands⟩
    split
    · next ended =>
      obtain ⟨_,closed⟩ := isAt_iff.mp ended
      exact lands.over closed (by simp)
    · exact lands

theorem statements_land {trees : List Statement} (stands : Stands tokens low stream)
    (ok : statements bound stream = .ok trees rest) :
    Lands tokens low (trees.map .statement) rest := by
  induction bound generalizing low stream trees with
  | zero => simp [statements,failAtEnd_run] at ok
  | succ bound ih =>
    rcases statements_ok.mp ok with ⟨_,rfl,rfl⟩ | ⟨_,first,after,others,head,tail,rfl⟩
    · exact ⟨low,row_nil.mpr le_rfl,stands⟩
    · obtain ⟨middle,row,stands⟩ := statement_lands stands head
      obtain ⟨high,more,stands⟩ := ih stands tail
      exact ⟨high,row.append more,stands⟩

end Parser
end Scriptlet
