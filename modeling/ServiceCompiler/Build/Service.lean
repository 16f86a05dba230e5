import ServiceCompiler.Build.Fallback
import ServiceCompiler.Build.Path
import ServiceCompiler.Distinct

/-! # Services from programs

All types and contracts are declared first; then every other declaration becomes a binding. Each
binding stands on its own, and the service collects the bindings of each kind in program order. -/

namespace ServiceCompiler.Build

abbrev Lowered (α : Type) : Type := Except Cause α

/-- Names the declaration that a cause concerns. -/
def within {α : Type} (place : Place) (name : String) (x : Lowered α) : Except Failure α :=
  x.mapError fun cause => ⟨place, name, cause⟩

def lowerTy? : Option Surface.Ty → Lowered (Option Core.Ty)
  | none => .ok none
  | some t => do return some (← lowerTy t)

/-- A type that may be anything when it is left out. -/
def lowerTyOrAny (t : Option Surface.Ty) : Lowered Core.Ty := do
  return (← lowerTy? t).getD .any

def lowerField (f : Surface.Field) : Lowered Core.Field := do
  return ⟨f.name, ← lowerTyOrAny f.type, f.required, lowerExpr? f.default,
    f.decorators.map lowerDecorator⟩

def lowerFields (fs : List Surface.Field) : Lowered (List Core.Field) := fs.mapM lowerField

def lowerMethod (m : Surface.Method) : Lowered Core.Method := do
  let params ← lowerFields m.params
  return ⟨m.name, params, ← lowerTyOrAny m.result, lowerBody m.body⟩

/-- Lowers a type declaration behind those with the given names. -/
def lowerRecord (declared : List String) (d : Surface.TypeDecl) : Lowered Core.Record :=
  if d.name.isEmpty then .error .emptyTypeName
  else if declared.contains d.name then .error (.duplicateDeclaration d.name)
  else do
    let fields ← lowerFields d.fields
    let methods ← d.methods.mapM lowerMethod
    return ⟨d.name, fields, d.typeParams, d.traits, methods⟩

def lowerSignatures : Nat → List Surface.ContractMethod → Lowered (List Core.Signature)
  | _, [] => .ok []
  | position, m :: ms =>
    if m.name.isEmpty then .error (.unnamedContractMethod position)
    else do
      let params ← lowerFields m.params
      let result ← lowerTyOrAny m.result
      return ⟨m.name, params, result⟩ :: (← lowerSignatures (position + 1) ms)

/-- Lowers a contract behind those with the given names. -/
def lowerContract (declared : List String) (c : Surface.Contract) : Lowered (List Core.Signature) :=
  if c.name.isEmpty then .error .emptyTypeName
  else if declared.contains c.name then .error (.duplicateDeclaration c.name)
  else lowerSignatures 0 c.methods

abbrev Contracts : Type := List (String × List Core.Signature)

structure Declarations where
  records : List Core.Record
  contracts : Contracts

def declare (d : Declarations) : Surface.Item → Except Failure Declarations
  | .typeDecl decl => do
    let r ← within .type decl.name (lowerRecord (d.records.map (·.name)) decl)
    return ⟨d.records ++ [r], d.contracts⟩
  | .contract decl => do
    let methods ← within .contract decl.name (lowerContract (d.contracts.map (·.1)) decl)
    return ⟨d.records, d.contracts ++ [(decl.name, methods)]⟩
  | _ => .ok d

def declarations (items : List Surface.Item) : Except Failure Declarations :=
  items.foldlM declare ⟨[], []⟩

/-- The type of the dependency that an injection asks for. -/
def providerType (name : String) : Option Surface.Ty → Lowered String
  | some .database => .ok Core.StandardProvider.database.typeName
  | some .redis => .ok Core.StandardProvider.redis.typeName
  | some .mongoDb => .ok Core.StandardProvider.mongoDb.typeName
  | some .llm => .ok Core.StandardProvider.llm.typeName
  | some (.named type) => if type.isEmpty then .error .emptyTypeName else .ok type
  | some other => do throw (.notAProvider name (← lowerTy other).display)
  | none => .error (.notAProvider name Core.Ty.any.display)

def lowerInjection (i : Surface.Injection) : Lowered Core.Injection := do
  let type ← providerType i.name i.type
  if i.name.isEmpty then throw (.missingInjectionName type)
  return ⟨i.name, type⟩

def lowerInjections (is : List Surface.Injection) : Lowered (List Core.Injection) :=
  is.mapM lowerInjection

def lowerAuth (a : Surface.Auth) : Core.Auth := ⟨a.scheme, a.required, a.roles⟩

def lowerQueryParam (q : Surface.QueryParam) : Lowered Core.QueryParam := do
  return ⟨q.name, ← lowerTyOrAny q.type, q.required, lowerExpr? q.default, q.isArray⟩

def lowerCommandParam (p : Surface.CommandParam) : Lowered Core.CommandParam := do
  return ⟨p.name, ← lowerTyOrAny p.type, p.required, lowerExpr? p.default, p.isFlag⟩

def lowerRoute (r : Surface.Route) : Lowered Core.Route := do
  let injections ← lowerInjections r.injections
  let input ← lowerTy? r.input
  let result ← lowerTy? r.result
  let query ← r.query.mapM lowerQueryParam
  return {
    method := r.method
    path := r.path
    pathParams := colonParams r.path
    query := query
    input := input
    result := result
    auth := r.auth.map lowerAuth
    rateLimit := r.rateLimit.map fun l => ⟨l.requests, l.window⟩
    middleware := r.middleware.map fun m => ⟨m.name, lowerExprs m.args⟩
    injections := injections
    body := lowerBody r.body }

def lowerFunction (f : Surface.Function) : Lowered Core.Function := do
  let params ← lowerFields f.params
  return ⟨f.name, f.typeParams, params, ← lowerTy? f.result, lowerBody f.body⟩

def lowerCommand (c : Surface.Command) : Lowered Core.Command := do
  let params ← c.params.mapM lowerCommandParam
  return ⟨c.name, c.description, params, ← lowerTy? c.result, lowerBody c.body⟩

def lowerRpcMethod (m : Surface.RpcMethod) : Lowered Core.RpcMethod := do
  let input ← lowerTyOrAny m.input
  return ⟨m.name, input, ← lowerTyOrAny m.result, m.stream⟩

def lowerRpcHandler (h : Surface.RpcHandler) : Lowered Core.RpcHandler := do
  let params ← lowerFields h.params
  let result ← lowerTy? h.result
  let injections ← lowerInjections h.injections
  return ⟨h.service, h.method, params, result, h.stream, h.auth.map lowerAuth, injections,
    lowerBody h.body⟩

def lowerResolver (r : Surface.Resolver) : Lowered Core.Resolver := do
  let params ← lowerFields r.params
  let result ← lowerTy? r.result
  let injections ← lowerInjections r.injections
  return ⟨r.operation, r.field, params, result, r.auth.map lowerAuth, injections, lowerBody r.body⟩

/-- What a declaration contributes to the service. -/
inductive Binding
  | route (route : Core.Route)
  | function (function : Core.Function)
  | cron (job : Core.CronJob)
  | event (handler : Core.EventBinding)
  | queue (worker : Core.QueueBinding)
  | command (command : Core.Command)
  | rpcMethods (service : String) (methods : List Core.RpcMethod)
  | rpcHandler (handler : Core.RpcHandler)
  | resolver (resolver : Core.Resolver)
  | socket (socket : Core.Socket)
  | constant (constant : Core.Constant)

/-- A job without a name is named after its position among the jobs. -/
def cronName (number : Nat) (name : String) : String :=
  if name.isEmpty then s!"cron_job_{number}" else name

/-- The declaration that messages name for an item; `number` counts the jobs up to it. -/
def scope (number : Nat) : Surface.Item → Option (Place × String)
  | .typeDecl d => some (.type, d.name)
  | .contract c => some (.contract, c.name)
  | .route r => some (.route, s!"{r.method.name} {r.path}")
  | .function f => some (.function, f.name)
  | .cron j => some (.cronJob, cronName number j.name)
  | .event h => some (.eventHandler, h.event)
  | .queue w => some (.queueWorker, w.queue)
  | .command c => some (.command, c.name)
  | .rpcService s => some (.rpcService, s.name)
  | .rpcHandler h => some (.rpcHandler, s!"{h.service}.{h.method}")
  | .resolver r => some (.resolver, r.field)
  | .socket r => some (.socket, r.path)
  | .constant c => some (.constant, c.name)
  | _ => none

/-- Lowers a declaration that is neither a type nor a contract. -/
def lowerBinding (number : Nat) : Surface.Item → Lowered (Option Binding)
  | .route r => do return some (.route (← lowerRoute r))
  | .function f => do return some (.function (← lowerFunction f))
  | .cron j => do
    let injections ← lowerInjections j.injections
    return some (.cron
      ⟨cronName number j.name, j.schedule, j.timezone, j.retries, injections, lowerBody j.body⟩)
  | .event h => do
    let injections ← lowerInjections h.injections
    return some (.event ⟨h.event, h.isAsync, injections, lowerBody h.body⟩)
  | .queue w => do
    let injections ← lowerInjections w.injections
    return some (.queue
      ⟨w.queue, w.concurrency, w.maxRetries, w.timeout, injections, lowerBody w.body⟩)
  | .command c => do return some (.command (← lowerCommand c))
  | .rpcService s => do return some (.rpcMethods s.name (← s.methods.mapM lowerRpcMethod))
  | .rpcHandler h => do return some (.rpcHandler (← lowerRpcHandler h))
  | .resolver r => do return some (.resolver (← lowerResolver r))
  | .socket r => .ok (some (.socket ⟨r.path, r.handlers.map fun h => ⟨h.event, lowerBody h.body⟩⟩))
  | .constant c => do
    return some (.constant ⟨c.name, ← lowerTy? c.type, (lowerExpr? c.value).getD .null⟩)
  | _ => .ok none

def isCron : Surface.Item → Bool
  | .cron _ => true
  | _ => false

/-- The items with the number of jobs up to and including each of them. -/
def numbered : Nat → List Surface.Item → List (Nat × Surface.Item)
  | _, [] => []
  | jobs, item :: items =>
    let number := if isCron item then jobs + 1 else jobs
    (number, item) :: numbered number items

def bind (entry : Nat × Surface.Item) : Except Failure (Option Binding) :=
  match scope entry.1 entry.2 with
  | some (place, name) => within place name (lowerBinding entry.1 entry.2)
  | none => .ok none

def bindings (items : List Surface.Item) : Except Failure (List Binding) := do
  return (← (numbered 0 items).mapM bind).reduceOption

namespace Binding

def injections : Binding → List Core.Injection
  | route r => r.injections
  | cron j => j.injections
  | event e => e.injections
  | queue q => q.injections
  | rpcHandler h => h.injections
  | resolver r => r.injections
  | function _ | command _ | rpcMethods _ _ | socket _ | constant _ => []

def rpcName? : Binding → Option String
  | rpcMethods service _ => some service
  | rpcHandler h => some h.service
  | _ => none

def rpcMethodsOf (service : String) : Binding → List Core.RpcMethod
  | rpcMethods name methods => if name = service then methods else []
  | _ => []

def rpcHandlersOf (service : String) : Binding → List Core.RpcHandler
  | rpcHandler h => if h.service = service then [h] else []
  | _ => []

end Binding

/-- The remote services, each once, with the methods and handlers of all their declarations. -/
def rpcServices (bs : List Binding) : List Core.RpcService :=
  (distinct (bs.filterMap Binding.rpcName?)).map fun service =>
    ⟨service, bs.flatMap (Binding.rpcMethodsOf service), bs.flatMap (Binding.rpcHandlersOf service)⟩

/-- A dependency with the methods of its contract. -/
def contracted (contracts : Contracts) (type : String) : Core.Provider :=
  .of type ((contracts.lookup type).getD [])

/-- Registers a type; one that is registered already stays as it is. -/
def register (contracts : Contracts) (registered : List Core.Provider) (type : String) :
    List Core.Provider :=
  addNew (·.type) registered (contracted contracts type)

/-- Registers what the bindings inject, one after the other. -/
def registry (contracts : Contracts) (bs : List Binding) : List Core.Provider :=
  (bs.flatMap fun b => b.injections.map (·.type)).foldl (register contracts) []

def serviceName (p : Surface.Program) : String :=
  match p.moduleName? with
  | some name => if name.isEmpty then "service" else name
  | none => "service"

def assemble (name : String) (d : Declarations) (bs : List Binding) : Core.Service where
  name := name
  records := d.records
  providers := registry d.contracts bs
  routes := bs.filterMap fun | .route r => some r | _ => none
  events := bs.filterMap fun | .event e => some e | _ => none
  cronJobs := bs.filterMap fun | .cron j => some j | _ => none
  queues := bs.filterMap fun | .queue q => some q | _ => none
  commands := bs.filterMap fun | .command c => some c | _ => none
  functions := bs.filterMap fun | .function f => some f | _ => none
  rpc := rpcServices bs
  resolvers := bs.filterMap fun | .resolver r => some r | _ => none
  sockets := bs.filterMap fun | .socket s => some s | _ => none
  constants := bs.filterMap fun | .constant c => some c | _ => none

def service (p : Surface.Program) : Except Failure Core.Service := do
  let d ← declarations p.items
  let bs ← bindings p.items
  return assemble (serviceName p) d bs

/-- The warnings about a program: those about types and contracts first. -/
def warnings (p : Surface.Program) : List Diagnostic :=
  let located (fallbacks : Surface.Item → List Fallback) (entry : Nat × Surface.Item) :=
    (fallbacks entry.2).map (Fallback.diagnostic (scope entry.1 entry.2))
  let entries := numbered 0 p.items
  entries.flatMap (located declarationFallbacks) ++ entries.flatMap (located bindingFallbacks)

structure Built where
  service : Core.Service
  warnings : List Diagnostic

def build (p : Surface.Program) : Except Failure Built := do
  return ⟨← service p, warnings p⟩

end ServiceCompiler.Build
