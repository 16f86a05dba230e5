import ServiceCompiler.Core.Service

/-! # Features

The capabilities that a service needs from the libraries of its target. -/

namespace ServiceCompiler.Plan

inductive Feature
  | database | redis | mongo | llm | customProviders | auth | graphql | subscriptions | rpc
  | socket | cron | events | queues | commands
  deriving DecidableEq, Repr

namespace Feature

def all : List Feature :=
  [database, redis, mongo, llm, customProviders, auth, graphql, subscriptions, rpc, socket, cron,
    events, queues, commands]

def name : Feature → String
  | database => "database"
  | redis => "redis"
  | mongo => "mongo"
  | llm => "llm"
  | customProviders => "custom_providers"
  | auth => "auth"
  | graphql => "graphql"
  | subscriptions => "subscriptions"
  | rpc => "grpc"
  | socket => "websocket"
  | cron => "cron"
  | events => "events"
  | queues => "queues"
  | commands => "commands"

def neededBy (s : Core.Service) : Feature → Bool
  | database => s.uses .database
  | redis => s.uses .redis
  | mongo => s.uses .mongoDb
  | llm => s.uses .llm
  | customProviders => s.providers.any (!·.isStandard)
  | auth => s.routes.any (·.auth.isSome)
  | graphql => !s.resolvers.isEmpty
  | subscriptions => s.resolvers.any (·.operation == .subscription)
  | rpc => !s.rpc.isEmpty
  | socket => !s.sockets.isEmpty
  | cron => !s.cronJobs.isEmpty
  | events => !s.events.isEmpty
  | queues => !s.queues.isEmpty
  | commands => !s.commands.isEmpty

end Feature

structure FeatureSet where
  has : Feature → Bool

namespace FeatureSet

instance : EmptyCollection FeatureSet := ⟨⟨fun _ => false⟩⟩

instance : Union FeatureSet := ⟨fun a b => ⟨fun f => a.has f || b.has f⟩⟩

def of (s : Core.Service) : FeatureSet := ⟨Feature.neededBy s⟩

def ofList (fs : List Feature) : FeatureSet := ⟨fs.contains⟩

/-- The features of a set in a fixed order. -/
def toList (s : FeatureSet) : List Feature := Feature.all.filter s.has

@[ext] theorem ext {a b : FeatureSet} (h : ∀ f, a.has f = b.has f) : a = b := by
  cases a
  cases b
  congr
  exact funext h

@[simp] theorem has_union (a b : FeatureSet) (f : Feature) : (a ∪ b).has f = (a.has f || b.has f) :=
  rfl

theorem mem_toList {s : FeatureSet} {f : Feature} : f ∈ s.toList ↔ s.has f = true := by
  simp only [toList, List.mem_filter, and_iff_right_iff_imp]
  intro _
  cases f <;> decide

end FeatureSet

end ServiceCompiler.Plan
