import ServiceCompiler.Proofs.Core.Occurrence

/-! # Names and strings of bodies

The names and the string literals that stand directly at a node, and properties that hold throughout
a node. -/

namespace ServiceCompiler

namespace Literal

def strings : Literal → List String
  | string s => [s]
  | int _ | float _ | bool _ | null => []

end Literal

namespace Core

mutual

def Pattern.names : Pattern → List String
  | .literal _ => []
  | .variable name => [name]
  | .wildcard => []
  | .object fields => Pattern.fieldNames fields
  | .array elements rest => Pattern.listNames elements ++ rest.toList

def Pattern.fieldNames : List PatternField → List String
  | [] => []
  | ⟨key, none⟩ :: fs => key :: Pattern.fieldNames fs
  | ⟨key, some p⟩ :: fs => key :: (p.names ++ Pattern.fieldNames fs)

def Pattern.listNames : List Pattern → List String
  | [] => []
  | p :: ps => p.names ++ Pattern.listNames ps

end

mutual

def Pattern.strings : Pattern → List String
  | .literal value => value.strings
  | .variable _ => []
  | .wildcard => []
  | .object fields => Pattern.fieldStrings fields
  | .array elements _ => Pattern.listStrings elements

def Pattern.fieldStrings : List PatternField → List String
  | [] => []
  | ⟨_, none⟩ :: fs => Pattern.fieldStrings fs
  | ⟨_, some p⟩ :: fs => p.strings ++ Pattern.fieldStrings fs

def Pattern.listStrings : List Pattern → List String
  | [] => []
  | p :: ps => p.strings ++ Pattern.listStrings ps

end

namespace Node

def expr? : Node → Option Expr
  | expr e => some e
  | ty _ | field _ | stmt _ => none

/-- The names at a node, without those of its parts. -/
def names : Node → List String
  | ty t => t.name?.toList
  | field f => [f.name]
  | expr (.var name) | expr (.field _ name) | expr (.call name _ _) => [name]
  | expr (.object fields) => fields.map (·.key)
  | expr (.matchOn _ cases) => cases.flatMap (·.pattern.names)
  | expr _ => []
  | stmt (.assign target _) | stmt (.reassign target _) => [target]
  | stmt (.forEach key value _ _) => key.toList ++ [value]
  | stmt _ => []

/-- The string literals at a node, without those of its parts. -/
def strings : Node → List String
  | expr (.string s) => [s]
  | expr (.matchOn _ cases) => cases.flatMap (·.pattern.strings)
  | _ => []

attribute [simp] parts Expr.parts Stmt.parts LambdaBody.parts MatchCase.parts SwitchCase.parts
  exprNode?

/-- A property of everything inside a node. -/
def Throughout (P : Node → Prop) (n : Node) : Prop := ∀ m, m.Inside n → P m

variable {P : Node → Prop} {n : Node}

theorem Throughout.here (h : n.Throughout P) : P n := h n .here

theorem Throughout.part (h : n.Throughout P) {m : Node} (hPart : m ∈ n.parts) :
    m.Throughout P :=
  fun k hInside => h k (.part hPart hInside)

theorem Throughout.intro (hHere : P n) (hParts : ∀ m ∈ n.parts, m.Throughout P) :
    n.Throughout P := by
  intro m hInside
  cases hInside with
  | here => exact hHere
  | part hPart hInside => exact hParts _ hPart m hInside

theorem Throughout.mono {Q : Node → Prop} (h : n.Throughout P) (hImp : ∀ m, P m → Q m) :
    n.Throughout Q :=
  fun m hInside => hImp m (h m hInside)

/-- Checks everything inside a node, which must end within the depth. -/
def check (P : Node → Prop) [DecidablePred P] : Nat → Node → Bool
  | 0, _ => false
  | depth + 1, n => decide (P n) && n.parts.all (check P depth)

theorem throughout_of_check [DecidablePred P] {depth : Nat} (h : n.check P depth = true) :
    n.Throughout P := by
  induction depth generalizing n with
  | zero => cases h
  | succ depth ih =>
    simp only [check, Bool.and_eq_true, decide_eq_true_eq, List.all_eq_true] at h
    exact .intro h.1 fun m hm => ih (h.2 m hm)

theorem body_of_check [DecidablePred P] (depth : Nat) {body : List Stmt}
    (h : (body.all fun s => (stmt s).check P depth) = true) :
    ∀ s ∈ body, (stmt s).Throughout P :=
  fun s hs => throughout_of_check (List.all_eq_true.mp h s hs)

end Node

namespace Service

variable {s : Service}

theorem forall_of_check {P : Node → Prop} [DecidablePred P] (depth : Nat)
    (h : s.nodes.all (·.check P depth) = true) : ∀ n, s.Has n → P n := by
  rintro n ⟨root, hRoot, hInside⟩
  exact Node.throughout_of_check (List.all_eq_true.mp h root hRoot) n hInside

theorem record_nodes_subset {r : Record} (hr : r ∈ s.records) : r.nodes ⊆ s.nodes := by
  intro n hn
  simp only [nodes, List.mem_append, List.mem_flatMap, or_assoc]
  exact .inl ⟨r, hr, hn⟩

theorem function_nodes_subset {f : Function} (hf : f ∈ s.functions) : f.nodes ⊆ s.nodes := by
  intro n hn
  simp only [nodes, List.mem_append, List.mem_flatMap]
  exact .inl (.inl (.inl (.inl (.inr ⟨f, hf, hn⟩))))

theorem constant_nodes_subset {c : Constant} (hc : c ∈ s.constants) : c.nodes ⊆ s.nodes :=
  fun _ hn => List.mem_append_right _ (List.mem_flatMap.mpr ⟨c, hc, hn⟩)

end Service

end Core

end ServiceCompiler
