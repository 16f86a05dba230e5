import ServiceCompiler.Plan.Feature
import ServiceCompiler.Target.RustRecord
import ServiceCompiler.Target.RustRuntime
import ServiceCompiler.Text.LetterCase

/-! # Rust imports and dependencies -/

namespace ServiceCompiler.Rust

open ServiceCompiler.Core (Service Provider Signature)
open Plan (FeatureSet Use)
open Source (Emit)
open Source.Emit (line lines gap nest each only braces head)
open Text (join doubleQuoted)

def headerSection (s : Service) (f : FeatureSet) : Emit Unit := do
  line s!"//! Generated by glyph from service `{s.name}`"
  line "//! Do not edit manually"
  gap
  line "#![allow(unused_variables, unused_imports, unused_mut, unused_labels, dead_code)]"
  line "#![allow(non_snake_case, non_upper_case_globals, unreachable_code)]"
  gap
  line "use axum::\x7b"
  nest
    (lines
      ["extract::\x7bJson, Path, Query\x7d,", "http::StatusCode,",
        "response::\x7bIntoResponse, Response\x7d,",
        "routing::\x7bdelete, get, patch, post, put\x7d,", "Router,"])
  lines
    ["\x7d;", "use serde::\x7bDeserialize, Serialize\x7d;", "use serde_json::\x7bjson, Value\x7d;",
      "use std::collections::HashMap;", "use std::sync::\x7bArc, LazyLock, Mutex, OnceLock\x7d;",
      "use tokio::sync::OnceCell;"]
  only (f.has .socket)
    (lines
      ["use axum::extract::ws::\x7bMessage, WebSocket, WebSocketUpgrade\x7d;",
        "use futures::\x7bSinkExt, StreamExt\x7d;", "use uuid::Uuid;"])
  only (f.has .graphql)
    (lines
      ["use async_graphql::\x7bEmptyMutation, EmptySubscription, Object, Schema, Subscription\x7d;",
        "use async_graphql_axum::\x7bGraphQL, GraphQLSubscription\x7d;"])
  only (f.has .rpc) (line "use tonic::Status;")
  only (f.has .cron) (line "use tokio_cron_scheduler::\x7bJob, JobScheduler, JobSchedulerError\x7d;")
  only (f.has .queues)
    (lines ["use std::time::Duration;", "use tokio::sync::mpsc::UnboundedSender;"])
  gap
  runtimeLines

/-- A method that is not implemented yet. -/
def stubLines (name message : String) : Emit Unit :=
  braces s!"pub fn {name}(&self, args: &[Value]) -> Value" (line s!"unimplemented!({message})") ""

/-- The method that takes any other call. -/
def anyMethodLines (message : String) : Emit Unit :=
  braces "pub fn call(&self, method: &str, args: &[Value]) -> Value"
    (line s!"unimplemented!({message})") ""

def tableLines (us : List Use) : Emit Unit := do
  lines
    ["/// Table handle; every operation is a stub until wired to a real store",
      "#[derive(Debug, Clone)]"]
  braces "pub struct TableProxy" (line "name: &'static str,") ""
  gap
  braces "impl TableProxy"
    (do
      each (Plan.usedTableMethods us) fun method => do
        stubLines (ident method) ("\"\x7b\x7d." ++ method ++ "\", self.name")
        gap
      anyMethodLines "\"\x7b\x7d.\x7b\x7d\", self.name, method")
    ""

def providerFields (us : List Use) (p : Provider) : List String :=
  match p.standard? with
  | some .database =>
    "pub pool: Option<sqlx::PgPool>," ::
      (Plan.usedTables us).map fun table => s!"pub {ident table}: TableProxy,"
  | some .redis => ["pub client: Option<redis::Client>,"]
  | some .mongoDb => ["pub database: Option<mongodb::Database>,"]
  | some .llm => ["pub http: reqwest::Client,", "pub api_key: Option<String>,"]
  | none => []

/-- A method of a dependency, with its signature if it has a contract. -/
structure ProviderMethod where
  name : String
  signature : Option String
  deriving DecidableEq, Repr

def contractMethod (m : Signature) : ProviderMethod :=
  let ps := join ", " (m.params.map fun p => s!"{p.name}: {p.effectiveType.display}")
  ⟨m.name, some s!"{m.name}({ps}) -> {m.result.display}"⟩

/-- The methods of a contract, then the others that are called. -/
def providerMethods (us : List Use) (p : Provider) : List ProviderMethod :=
  let contract := p.methods.map contractMethod
  let called := (Plan.usedMethods us p.type).filter fun name => !contract.any (·.name == name)
  contract ++ called.map fun name => ⟨name, none⟩

def providerMethodLines (providerType : String) (m : ProviderMethod) : Emit Unit := do
  match m.signature with
  | some signature => line s!"/// `{signature}`"
  | none => pure ()
  stubLines (ident m.name) (doubleQuoted s!"{providerType}.{m.name}")
  gap

def variableText (name fallback : String) : String :=
  "std::env::var(" ++ doubleQuoted name ++ ").unwrap_or_else(|_| " ++ doubleQuoted fallback ++
    ".to_string())"

def instanceLines (us : List Use) (s : Service) (p : Provider) (type : String) : Emit Unit :=
  match p.standard? with
  | some .database => do
    head "let pool = std::env::var(\"DATABASE_URL\")"
      (lines [".ok()", ".and_then(|url| sqlx::PgPool::connect_lazy(&url).ok());"])
    braces "DatabaseProvider"
      (do
        line "pool,"
        each (Plan.usedTables us) fun table =>
          line s!"{ident table}: TableProxy \x7b name: {doubleQuoted table} \x7d,")
      ""
  | some .redis => do
    line ("let url = " ++ variableText "REDIS_URL" "redis://localhost:6379" ++ ";")
    line s!"{type} \x7b client: redis::Client::open(url).ok() \x7d"
  | some .mongoDb => do
    line ("let url = " ++ variableText "MONGODB_URL" "mongodb://localhost:27017" ++ ";")
    line "let client = mongodb::Client::with_uri_str(url).await.ok();"
    line ("let name = " ++ variableText "MONGODB_DATABASE" s.name ++ ";")
    line s!"{type} \x7b database: client.map(|c| c.database(&name)) \x7d"
  | some .llm =>
    braces type
      (lines
        ["http: reqwest::Client::new(),", "api_key: std::env::var(\"ANTHROPIC_API_KEY\").ok(),"])
      ""
  | none => line s!"{type} \x7b\x7d"

def providerLines (us : List Use) (s : Service) (p : Provider) : Emit Unit := do
  let type := s!"{p.type}Provider"
  let cell := s!"{Text.upperCase p.name}_PROVIDER"
  line "#[derive(Clone)]"
  braces s!"pub struct {type}" (lines (providerFields us p)) ""
  gap
  braces s!"impl {type}"
    (do
      each (providerMethods us p) (providerMethodLines p.type)
      anyMethodLines ("\"" ++ p.type ++ ".\x7b\x7d\", method"))
    ""
  gap
  line s!"static {cell}: OnceCell<{type}> = OnceCell::const_new();"
  gap
  braces s!"async fn {Plan.accessorName p.type}() -> {type}"
    (do
      braces s!"{cell}.get_or_init(|| async" (instanceLines us s p type) ")"
      lines [".await", ".clone()"])
    ""

def providersSection (s : Service) : Emit Unit :=
  only (!s.providers.isEmpty) do
    let us := Plan.uses s
    only (s.uses .database) (tableLines us)
    each s.providers fun p => do
      gap
      providerLines us s p

/-- Binds the dependencies of a handler to their local names. -/
def injectionLines (is : List Core.Injection) : Emit Unit :=
  each is fun i => line s!"let {ident i.name} = {Plan.accessorName i.type}().await;"

def injected (is : List Core.Injection) : Scope := { Scope.outer with injections := is }

def handlerLines (env : Env) (is : List Core.Injection) (ctx : Plan.BodyContext)
    (ss : List Core.Stmt) : Emit Unit := do
  injectionLines is
  body env (injected is) ctx ss

def authRemark (a : Core.Auth) : String :=
  if a.roles.isEmpty then s!"// Requires {a.scheme} authentication"
  else "// Requires " ++ a.scheme ++ " authentication (roles: " ++ join ", " a.roles ++ ")"

def authLine (a : Option Core.Auth) : Emit Unit :=
  match a with
  | some a => line (authRemark a)
  | none => pure ()

end ServiceCompiler.Rust
