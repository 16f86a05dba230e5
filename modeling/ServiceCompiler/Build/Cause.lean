import ServiceCompiler.Diagnostic.Basic

/-! # Why a program is no service -/

namespace ServiceCompiler.Build

/-- The kind of a declaration in messages. -/
inductive Place
  | type | route | function | cronJob | eventHandler | queueWorker | command | rpcService
  | rpcHandler | resolver | socket | constant | contract
  deriving DecidableEq, Repr

def Place.name : Place → String
  | .type => "type"
  | .route => "route"
  | .function => "function"
  | .cronJob => "cron job"
  | .eventHandler => "event handler"
  | .queueWorker => "queue worker"
  | .command => "command"
  | .rpcService => "gRPC service"
  | .rpcHandler => "gRPC handler"
  | .resolver => "GraphQL resolver"
  | .socket => "WebSocket route"
  | .constant => "constant"
  | .contract => "provider contract"

/-- What is wrong in a signature. -/
inductive Cause
  | emptyTypeName
  | notAProvider (name type : String)
  | missingInjectionName (type : String)
  | duplicateDeclaration (name : String)
  | unnamedContractMethod (position : Nat)
  deriving DecidableEq, Repr

namespace Cause

def message : Cause → String
  | emptyTypeName => "named type with an empty name"
  | notAProvider name type => s!"injection `{name}` has type `{type}`, which is not a provider"
  | missingInjectionName type => s!"injection of `{type}` has no local name"
  | duplicateDeclaration name => s!"`{name}` is declared more than once"
  | unnamedContractMethod position => s!"contract method #{position} has no name"

def code : Cause → Code
  | emptyTypeName => .emptyTypeName
  | notAProvider _ _ => .notAProvider
  | missingInjectionName _ => .missingInjectionName
  | duplicateDeclaration _ => .duplicateDeclaration
  | unnamedContractMethod _ => .unnamedContractMethod

def notes : Cause → List String
  | notAProvider _ type =>
    [s!"`{type}` is neither a built-in provider nor a declared provider contract"]
  | missingInjectionName _ => ["an injection binds a provider to a local name"]
  | _ => []

def help : Cause → String
  | emptyTypeName => "give the type a name"
  | notAProvider _ _ => "inject Database, Redis, MongoDB, LLM or a type declared with `provider`"
  | missingInjectionName _ => "write the injection as `name: Provider`"
  | duplicateDeclaration _ => "rename or remove one of the declarations"
  | unnamedContractMethod _ => "give every contract method a name"

end Cause

structure Failure where
  place : Place
  name : String
  cause : Cause
  deriving DecidableEq, Repr

namespace Failure

def message (f : Failure) : String := s!"in {f.place.name} `{f.name}`: {f.cause.message}"

def diagnostic (f : Failure) (origin : String) : Diagnostic :=
  ⟨.error, some f.cause.code, f.cause.message, [origin, s!"{f.place.name} `{f.name}`"],
    f.cause.notes, [f.cause.help]⟩

end Failure

end ServiceCompiler.Build
