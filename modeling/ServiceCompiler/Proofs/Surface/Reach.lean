import ServiceCompiler.Surface.Tree

/-! # What is reached in a tree

The types, patterns, expressions and statements inside an item are its nodes. A node is reached
unless it stands inside another one that is replaced as a whole, or in the block of a lambda whose
value is an expression. -/

namespace ServiceCompiler.Surface

inductive Node
  | ty (t : Ty)
  /-- The type of a parameter of a lambda, or a type argument of a call. -/
  | bodyTy (t : Ty)
  | pattern (p : Pattern)
  | expr (e : Expr)
  | stmt (s : Stmt)

def Ty.parts : Ty → List Ty
  | .array t | .optional t | .future t => [t]
  | .union ts => ts
  | .generic base args => base :: args
  | .function params result => params ++ result.toList
  | .int | .float | .string | .bool | .named _ | .typeParam _ | .database | .redis | .mongoDb | .llm
  | .unsupported => []

def Pattern.parts : Pattern → List Pattern
  | .object fields => fields.filterMap (·.pattern)
  | .array elements _ => elements
  | .literal _ | .variable _ | .wildcard | .unsupported => []

/-- The type and the default of a parameter of a lambda. -/
def Field.paramNodes (f : Field) : List Node :=
  f.type.toList.map .bodyTy ++ f.default.toList.map .expr

def MatchCase.nodes (c : MatchCase) : List Node :=
  .pattern c.pattern :: (c.guard.toList.map .expr ++ [.expr c.body])

def SwitchCase.nodes (c : SwitchCase) : List Node := .expr c.value :: c.body.map .stmt

/-- A lambda with an expression does not show its block. -/
def Expr.parts : Expr → List Node
  | .literal _ | .var _ | .unsupported => []
  | .binary _ left right | .pipe left right => [.expr left, .expr right]
  | .index target position => [.expr target, .expr position]
  | .unary _ e | .field e _ | .await e | .unquote e => [.expr e]
  | .call _ typeArgs args => typeArgs.map .bodyTy ++ args.map .expr
  | .object fields => fields.map fun f => .expr f.value
  | .array elements => elements.map .expr
  | .lambda params (some body) _ => params.flatMap Field.paramNodes ++ [.expr body]
  | .lambda params none block => params.flatMap Field.paramNodes ++ block.map .stmt
  | .matchOn value cases => .expr value :: cases.flatMap MatchCase.nodes
  | .async body | .quote body => body.map .stmt

def Stmt.parts : Stmt → List Node
  | .assign _ e | .reassign _ e | .expr e | .validate e => [.expr e]
  | .ret value => value.toList.map .expr
  | .cond condition thenBlock elseBlock =>
    .expr condition :: (thenBlock.map .stmt ++ elseBlock.map .stmt)
  | .forEach _ _ iterable body => .expr iterable :: body.map .stmt
  | .whileLoop condition body => .expr condition :: body.map .stmt
  | .switch value cases otherwise =>
    .expr value :: (cases.flatMap SwitchCase.nodes ++ otherwise.map .stmt)
  | .breakLoop | .continueLoop | .unsupported => []
  | .dbQuery _ params => params.map .expr
  | .wsSend client message => [.expr client, .expr message]
  | .wsBroadcast message room => .expr message :: room.toList.map .expr
  | .wsClose reason => reason.toList.map .expr
  | .macroInvocation _ args => args.map .expr

namespace Node

/-- The nodes directly inside a node; the type of a body is one node, however large it is. -/
def parts : Node → List Node
  | ty t => t.parts.map ty
  | bodyTy _ => []
  | pattern p => p.parts.map pattern
  | expr e => e.parts
  | stmt s => s.parts

/-- The nodes that are replaced as a whole. -/
def isFallback : Node → Bool
  | stmt (.dbQuery _ _) | stmt (.wsSend _ _) | stmt (.wsBroadcast _ _) | stmt (.wsClose _)
  | stmt (.macroInvocation _ _) | stmt .unsupported => true
  | expr (.quote _) | expr (.unquote _) | expr .unsupported => true
  | pattern .unsupported => true
  | ty .unsupported => true
  | _ => false

theorem sizeOf_lt_of_mem_toList {α : Type} [SizeOf α] {a : α} {a? : Option α}
    (hMem : a ∈ a?.toList) : sizeOf a < sizeOf a? := by
  obtain rfl : a? = some a := by simpa using hMem
  simp

theorem sizeOf_paramNodes {f : Field} {m : Node} (hMem : m ∈ f.paramNodes) :
    sizeOf m ≤ sizeOf f := by
  obtain ⟨name, type, required, default, decorators⟩ := f
  simp only [Field.paramNodes, List.mem_append, List.mem_map] at hMem
  grind [→ sizeOf_lt_of_mem_toList]

theorem sizeOf_matchCase {c : MatchCase} {m : Node} (hMem : m ∈ c.nodes) :
    sizeOf m ≤ sizeOf c := by
  obtain ⟨p, guard, body⟩ := c
  simp only [MatchCase.nodes, List.mem_cons, List.mem_append, List.mem_map] at hMem
  grind [→ sizeOf_lt_of_mem_toList]

theorem sizeOf_switchCase {c : SwitchCase} {m : Node} (hMem : m ∈ c.nodes) :
    sizeOf m ≤ sizeOf c := by
  obtain ⟨value, body⟩ := c
  simp only [SwitchCase.nodes, List.mem_cons, List.mem_map] at hMem
  grind [→ List.sizeOf_lt_of_mem]

theorem sizeOf_value {f : ObjectField} : sizeOf f.value < sizeOf f := by
  obtain ⟨key, value⟩ := f
  grind

theorem sizeOf_tyParts {t u : Ty} (hMem : u ∈ t.parts) : sizeOf u < sizeOf t := by
  cases t <;>
    simp only [Ty.parts, List.mem_cons, List.mem_append, List.not_mem_nil, or_false] at hMem <;>
    grind [→ List.sizeOf_lt_of_mem, → sizeOf_lt_of_mem_toList]

theorem sizeOf_patternParts {p q : Pattern} (hMem : q ∈ p.parts) : sizeOf q < sizeOf p := by
  cases p with
  | object fields =>
    obtain ⟨⟨key, pattern?⟩, hField, hPattern⟩ := List.mem_filterMap.mp hMem
    grind [→ List.sizeOf_lt_of_mem]
  | array elements rest =>
    have hSize : sizeOf q < sizeOf elements := List.sizeOf_lt_of_mem hMem
    grind
  | _ => cases hMem

theorem sizeOf_exprParts {e : Expr} {m : Node} (hMem : m ∈ e.parts) : sizeOf m ≤ sizeOf e := by
  fun_cases Expr.parts e <;>
    simp only [Expr.parts, List.mem_cons, List.mem_append, List.mem_map, List.mem_flatMap,
      List.not_mem_nil, or_false] at hMem <;>
    grind [→ List.sizeOf_lt_of_mem, → sizeOf_paramNodes, → sizeOf_matchCase, sizeOf_value]

theorem sizeOf_stmtParts {s : Stmt} {m : Node} (hMem : m ∈ s.parts) : sizeOf m ≤ sizeOf s := by
  cases s <;>
    simp only [Stmt.parts, List.mem_cons, List.mem_append, List.mem_map, List.mem_flatMap,
      List.not_mem_nil, or_false] at hMem <;>
    grind [→ List.sizeOf_lt_of_mem, → sizeOf_lt_of_mem_toList, → sizeOf_switchCase]

theorem sizeOf_parts {m n : Node} (hMem : m ∈ n.parts) : sizeOf m < sizeOf n := by
  cases n with
  | ty t =>
    obtain ⟨u, hPart, rfl⟩ := List.mem_map.mp hMem
    have hSize := sizeOf_tyParts hPart
    grind
  | bodyTy t => cases hMem
  | pattern p =>
    obtain ⟨q, hPart, rfl⟩ := List.mem_map.mp hMem
    have hSize := sizeOf_patternParts hPart
    grind
  | expr e =>
    have hSize := sizeOf_exprParts hMem
    grind
  | stmt s =>
    have hSize := sizeOf_stmtParts hMem
    grind

/-- The node and what is reached inside it, in reading order. -/
def reached (n : Node) : List Node :=
  n :: if n.isFallback then [] else n.parts.attach.flatMap fun m => m.val.reached
termination_by sizeOf n
decreasing_by exact sizeOf_parts m.property

theorem reached_eq (n : Node) :
    n.reached = n :: if n.isFallback then [] else n.parts.flatMap reached := by
  rw [reached]
  split
  · rfl
  · simp

theorem reached_leaf {n : Node} (hLeaf : n.parts = []) : n.reached = [n] := by
  rw [reached_eq, hLeaf, List.flatMap_nil, ite_self]

/-- What is collected from a node and then from its parts is collected from all nodes that are
reached. The nodes of interest may be any that have only such nodes inside. -/
theorem flatMap_reached {α : Type} {f own : Node → List α} {P : Node → Prop}
    (hInside : ∀ n, P n → ∀ m ∈ n.parts, P m)
    (hStep : ∀ n, P n → f n = own n ++ if n.isFallback then [] else n.parts.flatMap f)
    (n : Node) (hNode : P n) : f n = n.reached.flatMap own := by
  rw [hStep n hNode, reached_eq, List.flatMap_cons]
  split
  · rfl
  · rw [List.flatMap_assoc, List.flatMap_def, List.flatMap_def]
    refine congrArg (own n ++ ·.flatten) (List.map_congr_left fun m hMem => ?_)
    exact flatMap_reached hInside hStep m (hInside n hNode m hMem)
termination_by sizeOf n
decreasing_by exact sizeOf_parts hMem

end Node

end ServiceCompiler.Surface
