import ServiceCompiler.Proofs.Plan.Usage
import ServiceCompiler.Proofs.Source.Emission
import ServiceCompiler.Target.RustProvider

/-! # Calls of dependencies in Rust

The types of the dependencies are written before the handlers, from the uses that were recorded.
Main statement: what a handler calls on a dependency is declared there, by the type of the
dependency or by the type of its tables. -/

namespace ServiceCompiler.Rust

open ServiceCompiler.Core (Expr Stmt Injection Service Provider)
open Plan (Binds LiesIn Use)
open Source (Emit Line)
open Source.Emit (nest lines gap each only)

/-! ## Declarations -/

/-- The line that opens a method of a dependency or of a table. -/
def methodHeader (name : String) : String :=
  s!"pub fn {ident name}(&self, args: &[Value]) -> Value" ++ " \x7b"

theorem writes_stubLines (name message : String) :
    (stubLines (ident name) message).Writes (.code 0 (methodHeader name)) :=
  fun _ => List.mem_cons_self

variable {us : List Use} {s : Service} {p : Provider} {name table : String}

theorem writes_providerMethodLines (m : ProviderMethod) :
    (providerMethodLines p.type m).Writes (.code 0 (methodHeader m.name)) := by
  unfold providerMethodLines
  cases m.signature with
  | some signature => exact .after _ fun _ => (writes_stubLines _ _).before _
  | none => exact (writes_stubLines _ _).before _

theorem exists_providerMethod (h : name ∈ Plan.usedMethods us p.type) :
    ∃ m ∈ providerMethods us p, m.name = name := by
  by_cases hContract : ∃ m ∈ p.methods.map contractMethod, m.name = name
  · obtain ⟨m, hm, hName⟩ := hContract
    exact ⟨m, List.mem_append_left _ hm, hName⟩
  · refine ⟨⟨name, none⟩, List.mem_append_right _ (List.mem_map_of_mem ?_), rfl⟩
    refine List.mem_filter.mpr ⟨h, ?_⟩
    simpa using hContract

theorem writes_method {m : ProviderMethod} (hm : m ∈ providerMethods us p) :
    (providerLines us s p).Writes (.code 1 (methodHeader m.name)) := by
  refine .after _ fun _ => .after _ fun _ => .after _ fun _ => .before ?_ _
  exact ((Source.Emit.writes_each hm (writes_providerMethodLines m)).before _).braces _ _

theorem writes_tableField (hType : p.type = "Database") (h : table ∈ Plan.usedTables us) :
    (providerLines us s p).Writes (.code 1 s!"pub {ident table}: TableProxy,") := by
  have hStandard : p.standard? = some .database := by
    rw [Provider.standard?, hType]
    rfl
  have hField : s!"pub {ident table}: TableProxy," ∈ providerFields us p := by
    rw [providerFields, hStandard]
    exact List.mem_cons_of_mem _ (List.mem_map_of_mem h)
  have hFields : (lines (providerFields us p)).Writes (.code 0 s!"pub {ident table}: TableProxy,") :=
    fun _ => List.mem_map_of_mem hField
  exact .after _ fun _ => .before (hFields.braces _ _) _

theorem writes_tableMethod (h : name ∈ Plan.usedTableMethods us) :
    (tableLines us).Writes (.code 1 (methodHeader name)) := by
  refine .after _ fun _ => .after _ fun _ => .after _ fun _ => ?_
  refine Source.Emit.Writes.braces (l := .code 0 _) (.before (Source.Emit.writes_each h ?_) _) _ _
  exact (writes_stubLines name _).before _

/-! ## The section of dependencies -/

theorem providersSection_eq (hp : p ∈ s.providers) :
    providersSection s = (do
      only (s.uses .database) (tableLines (Plan.uses s))
      each s.providers fun p => do
        gap
        providerLines (Plan.uses s) s p) := by
  have hSome : (!s.providers.isEmpty) = true := by
    simpa using List.ne_nil_of_mem hp
  rw [providersSection, only, if_pos hSome]

theorem providerLines_within (hp : p ∈ s.providers) :
    (providerLines (Plan.uses s) s p).Within (providersSection s) := by
  rw [providersSection_eq hp]
  refine .after _ fun _ => ?_
  refine Source.Emit.Within.trans ?_ (Source.Emit.within_each hp _)
  exact .after _ fun _ => .refl _

theorem tableLines_within (hp : p ∈ s.providers) (hType : p.type = "Database") :
    (tableLines (Plan.uses s)).Within (providersSection s) := by
  have hUses : s.uses .database = true := by
    rw [Service.uses, Service.provider?, List.find?_isSome]
    exact ⟨p, hp, by simp [hType, Core.StandardProvider.typeName]⟩
  rw [providersSection_eq hp, hUses]
  exact .before (.refl _) _

/-! ## Calls -/

theorem expr_providerCall {sc : Scope} {type root : String} {path : List String}
    {typeArgs : List Core.Ty} {target : Expr} {rest : List Expr}
    (hMethod : Plan.classify name (target :: rest) = .method target name rest)
    (hTarget : receiver? sc target = some (type, root, path)) (env : Env) :
    expr env sc (.call name typeArgs (target :: rest)) = (do
      let rest ← exprs env sc rest
      return .value (providerCall type root path name rest)) := by
  rw [expr, hMethod, hTarget]

/-- Every call that lies in the body of a binding and is written as a method of a dependency. The
first part says how it is written; then the method of the dependency itself, and a method of one of
the tables of a database, are declared in the section of dependencies. -/
theorem provider_calls_declared (s : Service) {is : List Injection} {body : List Stmt}
    (hBinds : Binds s is body) {name : String} {typeArgs : List Core.Ty} {target : Expr}
    {rest : List Expr} (hLies : LiesIn (.call name typeArgs (target :: rest)) body) (sc : Scope)
    (hScope : sc.injections = is)
    (hMethod : Plan.classify name (target :: rest) = .method target name rest)
    {type root : String} {path : List String}
    (hTarget : receiver? sc target = some (type, root, path)) :
    (∀ env, expr env sc (.call name typeArgs (target :: rest)) = (do
      let rest ← exprs env sc rest
      return .value (providerCall type root path name rest))) ∧
    (path = [] →
      name ∈ Plan.usedMethods (Plan.uses s) type ∧
        ∀ p ∈ s.providers, p.type = type →
          (∃ m ∈ providerMethods (Plan.uses s) p, m.name = name) ∧
            (providerLines (Plan.uses s) s p).Within (providersSection s) ∧
            (providerLines (Plan.uses s) s p).Writes (.code 1 (methodHeader name))) ∧
    ∀ table, path = [table] → type = "Database" →
      table ∈ Plan.usedTables (Plan.uses s) ∧ name ∈ Plan.usedTableMethods (Plan.uses s) ∧
        ∀ p ∈ s.providers, p.type = "Database" →
          (providerLines (Plan.uses s) s p).Within (providersSection s) ∧
            (providerLines (Plan.uses s) s p).Writes
              (.code 1 s!"pub {ident table}: TableProxy,") ∧
            (tableLines (Plan.uses s)).Within (providersSection s) ∧
            (tableLines (Plan.uses s)).Writes (.code 1 (methodHeader name)) := by
  subst hScope
  obtain ⟨⟨root, path⟩, hPath, hRest⟩ := Option.bind_eq_some_iff.mp hTarget
  obtain ⟨type, hType, hEq⟩ := Option.bind_eq_some_iff.mp hRest
  cases hEq
  refine ⟨expr_providerCall hMethod hTarget, ?_, ?_⟩
  · rintro rfl
    have hUsed := hBinds.method_recorded hLies hMethod hPath hType
    refine ⟨hUsed, ?_⟩
    rintro p hp rfl
    obtain ⟨m, hm, rfl⟩ := exists_providerMethod hUsed
    exact ⟨⟨m, hm, rfl⟩, providerLines_within hp, writes_method hm⟩
  · rintro table rfl rfl
    obtain ⟨hTable, hName⟩ := hBinds.table_recorded hLies hMethod hPath hType
    refine ⟨hTable, hName, ?_⟩
    intro p hp hDatabase
    exact ⟨providerLines_within hp, writes_tableField hDatabase hTable,
      tableLines_within hp hDatabase, writes_tableMethod hName⟩

def archive : Expr := .call "Archive" [] [.field (.var "db") "orders", .var "order"]

def notify : Expr := .call "Notify" [] [.var "post", .string "sold"]

/-- A guarded case of a match archives an order, and an async block sends a message. -/
def stocking : List Stmt :=
  [.forEach none "order" (.var "message")
    [.expr (.matchOn (.var "order") [⟨.wildcard, some (.var "sold"), archive⟩]),
      .expr (.async [.ret notify])]]

/-- The name `db` is injected twice, and the last injection counts. -/
def worker : Core.QueueBinding :=
  ⟨"orders", 1, 0, 0, [⟨"db", "Mailer"⟩, ⟨"post", "Mailer"⟩, ⟨"db", "Database"⟩], stocking⟩

/-- The contract of `Mailer` does not have the method that is called. -/
def warehouse : Service :=
  { Service.empty "warehouse" with
    providers := [.of "Database" [], .of "Mailer" [⟨"Send", [], .any⟩]]
    queues := [worker] }

theorem provider_calls_declared_warehouse :
    (LiesIn archive stocking ∧ "orders" ∈ Plan.usedTables (Plan.uses warehouse) ∧
      "Archive" ∈ Plan.usedTableMethods (Plan.uses warehouse)) ∧
      LiesIn notify stocking ∧ "Notify" ∈ Plan.usedMethods (Plan.uses warehouse) "Mailer" := by
  have hBinds : Binds warehouse worker.injections worker.body := .queue List.mem_cons_self
  have hArchive : LiesIn archive stocking :=
    Stmt.mem_bodyNodes_iff.mp (by simp [stocking, archive, Stmt.bodyNodes, Stmt.nodes, Expr.nodes,
      Expr.caseNodes])
  have hNotify : LiesIn notify stocking :=
    Stmt.mem_bodyNodes_iff.mp (by simp [stocking, notify, Stmt.bodyNodes, Stmt.nodes, Expr.nodes])
  have hTable := (provider_calls_declared warehouse hBinds hArchive (injected _) rfl rfl rfl).2.2
    "orders" rfl rfl
  have hMethod := (provider_calls_declared warehouse hBinds hNotify (injected _) rfl rfl rfl).2.1 rfl
  exact ⟨⟨hArchive, hTable.1, hTable.2.1⟩, hNotify, hMethod.1⟩

end ServiceCompiler.Rust
