import Mathlib.Data.List.Basic
import ServiceCompiler.Plan.Usage
import ServiceCompiler.Proofs.Core.Within

/-! # What is used is recorded

The uses of dependencies are collected from all bindings before anything is written. Main statement:
a method that lies in the body of a binding and is called on one of its dependencies, or on a table
of its database, is among the uses, and so is the table. -/

namespace ServiceCompiler.Plan

open ServiceCompiler.Core (Expr Stmt Node Injection Service)

/-- The bindings of a service that have dependencies, with their injections and their body. -/
inductive Binds (s : Service) : List Injection → List Stmt → Prop
  | route {r : Core.Route} (h : r ∈ s.routes) : Binds s r.injections r.body
  | event {e : Core.EventBinding} (h : e ∈ s.events) : Binds s e.injections e.body
  | cron {j : Core.CronJob} (h : j ∈ s.cronJobs) : Binds s j.injections j.body
  | queue {q : Core.QueueBinding} (h : q ∈ s.queues) : Binds s q.injections q.body
  | resolver {r : Core.Resolver} (h : r ∈ s.resolvers) : Binds s r.injections r.body
  | rpc {d : Core.RpcService} {h : Core.RpcHandler} (hService : d ∈ s.rpc)
      (hHandler : h ∈ d.handlers) : Binds s h.injections h.body

variable {s : Service} {is : List Injection} {body : List Stmt}

theorem Binds.mem_injectedBodies (h : Binds s is body) : (is, body) ∈ injectedBodies s := by
  simp only [injectedBodies, List.mem_append, List.mem_map, List.mem_flatMap, Prod.mk.injEq]
  cases h with
  | route h => exact .inl (.inl (.inl (.inl (.inl ⟨_, h, rfl, rfl⟩))))
  | event h => exact .inl (.inl (.inl (.inl (.inr ⟨_, h, rfl, rfl⟩))))
  | cron h => exact .inl (.inl (.inl (.inr ⟨_, h, rfl, rfl⟩)))
  | queue h => exact .inl (.inl (.inr ⟨_, h, rfl, rfl⟩))
  | resolver h => exact .inl (.inr ⟨_, h, rfl, rfl⟩)
  | rpc hService hHandler => exact .inr ⟨_, hService, _, hHandler, rfl, rfl⟩

def LiesIn (e : Expr) (body : List Stmt) : Prop :=
  ∃ n ∈ body.map Node.stmt, (Node.expr e).Within n

theorem LiesIn.part {e part : Expr} (h : LiesIn e body) (hPart : .expr part ∈ e.parts) :
    LiesIn part body := by
  obtain ⟨n, hn, hWithin⟩ := h
  exact ⟨n, hn, (Node.Within.part hPart rfl .here).trans hWithin⟩

theorem Binds.mem_uses (hBinds : Binds s is body) {e : Expr} (hLies : LiesIn e body) {u : Use}
    (hUse : use? is e = some u) : u ∈ uses s := by
  refine List.mem_flatMap.mpr ⟨(is, body), hBinds.mem_injectedBodies, ?_⟩
  exact List.mem_filterMap.mpr ⟨e, Stmt.mem_bodyNodes_iff.mpr hLies, hUse⟩

/-! ## Receivers -/

theorem eq_var_of_providerPath {e : Expr} {root : String} (h : providerPath? e = some (root, [])) :
    e = .var root := by
  cases e with
  | var name =>
    obtain ⟨rfl, -⟩ := Prod.mk.inj (Option.some.inj h)
    rfl
  | field target name =>
    obtain ⟨base, -, hPath⟩ := Option.map_eq_some_iff.mp h
    exact absurd (Prod.mk.inj hPath).2 (by simp)
  | _ => cases h

theorem eq_field_of_providerPath {e : Expr} {root table : String}
    (h : providerPath? e = some (root, [table])) : e = .field (.var root) table := by
  cases e with
  | var name => exact absurd (Prod.mk.inj (Option.some.inj h)).2 (by simp)
  | field target name =>
    obtain ⟨⟨base, path⟩, hBase, hPath⟩ := Option.map_eq_some_iff.mp h
    obtain ⟨rfl, hFields⟩ := Prod.mk.inj hPath
    obtain ⟨rfl, rfl⟩ : path = [] ∧ name = table := by
      simpa [List.append_eq_singleton_iff] using hFields
    rw [eq_var_of_providerPath hBase]
  | _ => cases h

theorem use?_call {name root type : String} {typeArgs : List Core.Ty} {target : Expr}
    {rest : List Expr} {path : List String}
    (hMethod : classify name (target :: rest) = .method target name rest)
    (hPath : providerPath? target = some (root, path))
    (hType : injectedType? is root = some type) :
    use? is (.call name typeArgs (target :: rest)) = methodUse? type path name := by
  simp only [use?, hMethod, hPath, hType, Option.bind_eq_bind, Option.bind_some]

/-! ## Recorded uses -/

variable {us : List Use} {name type table : String}

theorem mem_usedMethods (h : .method type name ∈ us) : name ∈ usedMethods us type := by
  refine mem_distinct.mpr (List.mem_filterMap.mpr ⟨_, h, ?_⟩)
  simp

theorem mem_usedTables (h : .table table ∈ us) : table ∈ usedTables us :=
  mem_distinct.mpr (List.mem_filterMap.mpr ⟨_, h, rfl⟩)

theorem mem_usedTableMethods (h : .tableMethod name ∈ us) : name ∈ usedTableMethods us :=
  mem_distinct.mpr (List.mem_append_right _ (List.mem_filterMap.mpr ⟨_, h, rfl⟩))

variable {root : String} {typeArgs : List Core.Ty} {target : Expr} {rest : List Expr}

theorem Binds.method_recorded (hBinds : Binds s is body)
    (hLies : LiesIn (.call name typeArgs (target :: rest)) body)
    (hMethod : classify name (target :: rest) = .method target name rest)
    (hPath : providerPath? target = some (root, []))
    (hType : injectedType? is root = some type) : name ∈ usedMethods (uses s) type := by
  apply mem_usedMethods
  apply hBinds.mem_uses hLies
  rw [use?_call hMethod hPath hType]
  rfl

theorem Binds.table_recorded (hBinds : Binds s is body)
    (hLies : LiesIn (.call name typeArgs (target :: rest)) body)
    (hMethod : classify name (target :: rest) = .method target name rest)
    (hPath : providerPath? target = some (root, [table]))
    (hType : injectedType? is root = some "Database") :
    table ∈ usedTables (uses s) ∧ name ∈ usedTableMethods (uses s) := by
  constructor
  · -- the receiver itself is the node that records the table
    have hTarget : LiesIn target body := hLies.part (by simp [Expr.parts])
    rw [eq_field_of_providerPath hPath] at hTarget
    apply mem_usedTables
    apply hBinds.mem_uses hTarget
    rw [use?, if_pos hType]
  · apply mem_usedTableMethods
    apply hBinds.mem_uses hLies
    rw [use?_call hMethod hPath hType]
    rfl

end ServiceCompiler.Plan
