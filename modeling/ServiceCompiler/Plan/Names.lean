import ServiceCompiler.Core.Service
import ServiceCompiler.Distinct
import ServiceCompiler.Text.Identifier
import ServiceCompiler.Text.Words

/-! # Names in generated programs

The handlers of a kind are named after what they handle; a name that is taken already gets the
first free number from 2 on. -/

namespace ServiceCompiler.Plan

/-- The names to try for a base, in order. -/
def candidate (base : String) : Nat → String
  | 0 => base
  | n + 1 => s!"{base}_{n + 2}"

/-- The first name for a base that is not taken. One more candidate than there are names taken is
enough. -/
def freeName (taken : List String) (base : String) : String :=
  (((List.range (taken.length + 1)).map (candidate base)).find? (!taken.contains ·)).getD base

def uniqueFrom (taken : List String) : List String → List String
  | [] => []
  | base :: bases =>
    let name := freeName taken base
    name :: uniqueFrom (name :: taken) bases

def uniqueNames (bases : List String) : List String := uniqueFrom [] bases

/-- A segment of a path without the marks of a parameter. -/
def bareSegment (cs : List Char) : List Char :=
  Text.trimEnd (· == '}') ((cs.dropWhile (· == ':')).dropWhile (· == '{'))

/-- `GET /api/users/:id` gives `get_api_users_id`. -/
def routeBase (r : Core.Route) : String :=
  let verb := String.ofList (r.method.name.toList.map Char.toLower)
  let parts :=
    ((Text.splitChars '/' r.path.toList).map fun s => Text.identifierFragmentChars (bareSegment s)).filter
      (!·.isEmpty)
  if parts.isEmpty then s!"{verb}_root"
  else verb ++ "_" ++ Text.join "_" (parts.map String.ofList)

def routeNames (rs : List Core.Route) : List String := uniqueNames (rs.map routeBase)

/-- `user.created` gives `handle_user_created`. -/
def eventNames (es : List Core.EventBinding) : List String :=
  uniqueNames (es.map fun e => "handle_" ++ Text.identifierFragment e.event)

/-- `emails` gives `worker_emails`. -/
def queueNames (qs : List Core.QueueBinding) : List String :=
  uniqueNames (qs.map fun q => "worker_" ++ Text.identifierFragment q.queue)

/-- `/chat` gives `ws_chat`. -/
def socketNames (ss : List Core.Socket) : List String :=
  uniqueNames (ss.map fun s =>
    let fragment := Text.identifierFragment s.path
    if fragment.isEmpty then "ws_root" else "ws_" ++ fragment)

def cronNames (js : List Core.CronJob) : List String :=
  uniqueNames (js.map fun j => Text.identifierFragment j.name)

/-- `migrate` gives `command_migrate`. -/
def commandName (name : String) : String := "command_" ++ Text.snakeCase name

/-- The function that gives access to a dependency, as `get_db`. -/
def accessorName (providerType : String) : String := "get_" ++ Core.instanceName providerType

/-- The function that gives access to a dependency, as `getDb`. -/
def camelAccessorName (providerType : String) : String :=
  Text.lowerCamelCase (accessorName providerType)

def angleParams (params : List String) : String :=
  if params.isEmpty then "" else "<" ++ Text.join ", " params ++ ">"

def declaredTypeParams (s : Core.Service) : List String :=
  distinct (s.records.flatMap (·.typeParams) ++ s.functions.flatMap (·.typeParams))

end ServiceCompiler.Plan
