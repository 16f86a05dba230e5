import ServiceCompiler.Core.Nodes
import ServiceCompiler.Core.Service
import ServiceCompiler.Distinct
import ServiceCompiler.Plan.Call

/-! # Use of dependencies

The tables and methods that the bodies of a service use of its dependencies. -/

namespace ServiceCompiler.Plan

open ServiceCompiler.Core (Expr Stmt Injection Service)

/-- `db.users` gives `db` and `users`. -/
def providerPath? : Expr → Option (String × List String)
  | .var name => some (name, [])
  | .field target name => (providerPath? target).map fun (root, fields) => (root, fields ++ [name])
  | _ => none

/-- The type of the dependency under a local name; the last injection of a name counts. -/
def injectedType? (is : List Injection) (name : String) : Option String :=
  (is.reverse.find? (·.name == name)).map (·.type)

inductive Use
  | table (name : String)
  | tableMethod (name : String)
  | method (providerType name : String)
  deriving DecidableEq, Repr

/-- What a method call uses, given the type and the path of its receiver. -/
def methodUse? (providerType : String) (path : List String) (name : String) : Option Use :=
  match path with
  | [] => some (.method providerType name)
  | [_] => if providerType = "Database" then some (.tableMethod name) else none
  | _ => none

/-- What an expression itself, not one inside it, uses. -/
def use? (is : List Injection) : Expr → Option Use
  | .field (.var root) name =>
    if injectedType? is root = some "Database" then some (.table name) else none
  | .call name _ args =>
    match classify name args with
    | .method receiver _ _ => do
      let (root, path) ← providerPath? receiver
      methodUse? (← injectedType? is root) path name
    | .function _ _ => none
  | _ => none

def injectedBodies (s : Service) : List (List Injection × List Stmt) :=
  s.routes.map (fun r => (r.injections, r.body)) ++
    s.events.map (fun e => (e.injections, e.body)) ++
    s.cronJobs.map (fun j => (j.injections, j.body)) ++
    s.queues.map (fun q => (q.injections, q.body)) ++
    s.resolvers.map (fun r => (r.injections, r.body)) ++
    s.rpc.flatMap (fun d => d.handlers.map fun h => (h.injections, h.body))

def uses (s : Service) : List Use :=
  (injectedBodies s).flatMap fun (is, body) => (Stmt.bodyNodes body).filterMap (use? is)

def standardTableMethods : List String := ["Get", "Find", "Create", "Update", "Delete", "Where"]

def usedTables (us : List Use) : List String :=
  distinct (us.filterMap fun
    | .table name => some name
    | _ => none)

/-- The methods of tables, those that are not used included. -/
def usedTableMethods (us : List Use) : List String :=
  distinct (standardTableMethods ++ us.filterMap fun
    | .tableMethod name => some name
    | _ => none)

def usedMethods (us : List Use) (providerType : String) : List String :=
  distinct (us.filterMap fun
    | .method t name => if t = providerType then some name else none
    | _ => none)

end ServiceCompiler.Plan
