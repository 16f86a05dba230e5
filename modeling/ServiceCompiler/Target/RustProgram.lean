import ServiceCompiler.Plan.Group
import ServiceCompiler.Source.Section
import ServiceCompiler.Target.RustRoute

/-! # Rust programs -/

namespace ServiceCompiler.Rust

open ServiceCompiler.Core (Service CronJob QueueBinding Command CommandParam)
open Plan (FeatureSet)
open Source (Emit Section Buffer)
open Source.Emit (line lines gap nest each only collect braces head)
open Text (join doubleQuoted)

/-- Adds a job to the scheduler, which wants a field for seconds in front. -/
def scheduleLines (j : CronJob) (name : String) : Emit Unit := do
  match j.timezone with
  | some tz => line s!"// Timezone: {tz}"
  | none => pure ()
  only (j.retries > 0) (line s!"// Retries: {j.retries}")
  head "scheduler" do
    let schedule := doubleQuoted ("0 " ++ j.schedule)
    braces s!".add(Job::new_async({schedule}, |_id, _scheduler|"
      (braces "Box::pin(async move" (line s!"{name}().await;") ")") ")?)"
    line ".await?;"

def cronSection (env : Env) (s : Service) : Emit Unit :=
  only (!s.cronJobs.isEmpty) do
    let jobs := s.cronJobs.zip (Plan.cronNames s.cronJobs)
    each jobs fun (j, name) => do
      braces s!"async fn {name}() -> Value" (handlerLines env j.injections .background j.body) ""
      gap
    braces "async fn start_cron_jobs() -> Result<JobScheduler, JobSchedulerError>"
      (do
        line "let scheduler = JobScheduler::new().await?;"
        each jobs fun (j, name) => scheduleLines j name
        lines ["scheduler.start().await?;", "Ok(scheduler)"])
      ""

def eventGroups (s : Service) : List (String × List String) :=
  Plan.groups ((s.events.map (·.event)).zip (Plan.eventNames s.events))

def eventArmLines (event : String) (handlers : List String) : Emit Unit :=
  braces s!"{doubleQuoted event} =>"
    (each handlers fun h => line s!"Box::pin({h}(event.clone())).await;") ""

def eventsSection (env : Env) (s : Service) : Emit Unit :=
  only (!s.events.isEmpty) do
    each (s.events.zip (Plan.eventNames s.events)) fun (e, name) => do
      braces s!"async fn {name}(event: Value) -> Value"
        (handlerLines env e.injections .background e.body) ""
      gap
    braces "async fn emit(event_type: Value, event: Value) -> Value"
      (do
        braces "match rt::text(&event_type).as_str()"
          (do
            each (eventGroups s) fun (event, handlers) => eventArmLines event handlers
            line "other => tracing::warn!(event_type = other, \"no handler for event\"),")
          ""
        line "Value::Null")
      ""

def enqueueLines : Emit Unit :=
  braces "async fn enqueue(queue: Value, message: Value) -> Value"
    (do
      line "let name = rt::text(&queue);"
      braces "match QUEUES.get().and_then(|queues| queues.get(name.as_str()))"
        (do
          braces "Some(sender) =>" (line "let _ = sender.send(message);") ""
          line "None => tracing::warn!(queue = %name, \"unknown queue\"),")
        ""
      line "Value::Null")
    ""

/-- Handles a message while a permit is held. -/
def workLines (q : QueueBinding) (name : String) : Emit Unit := do
  line "let _permit = permit;"
  if q.timeout > 0 then
    braces
      s!"if tokio::time::timeout(Duration::from_secs({q.timeout}), {name}(message)).await.is_err()"
      (line ("tracing::warn!(queue = " ++ doubleQuoted q.queue ++ ", \"worker timed out\");")) ""
  else line s!"{name}(message).await;"

def workerLines (q : QueueBinding) (name : String) : Emit Unit := do
  gap
  line "let (tx, mut rx) = tokio::sync::mpsc::unbounded_channel::<Value>();"
  line s!"senders.insert({doubleQuoted q.queue}, tx);"
  only (q.maxRetries > 0) (line s!"// Max retries: {q.maxRetries}")
  braces "tokio::spawn(async move"
    (do
      line s!"let limit = Arc::new(tokio::sync::Semaphore::new({max q.concurrency 1}));"
      braces "while let Some(message) = rx.recv().await"
        (do
          braces "let Ok(permit) = limit.clone().acquire_owned().await else" (line "break;") ";"
          braces "tokio::spawn(async move" (workLines q name) ");")
        "")
    ");"

def queuesSection (env : Env) (s : Service) : Emit Unit :=
  only (!s.queues.isEmpty) do
    let queues := s.queues.zip (Plan.queueNames s.queues)
    each queues fun (q, name) => do
      braces s!"async fn {name}(message: Value) -> Value"
        (handlerLines env q.injections .background q.body) ""
      gap
    line
      "static QUEUES: OnceLock<HashMap<&'static str, UnboundedSender<Value>>> = OnceLock::new();"
    gap
    enqueueLines
    gap
    braces "fn start_workers()"
      (do
        line "let mut senders = HashMap::new();"
        each queues fun (q, name) => workerLines q name
        line "let _ = QUEUES.set(senders);")
      ""

def argumentReaders : Emit Unit := do
  braces "fn has_flag(args: &[String], name: &str) -> bool"
    (line "args.iter().any(|a| *a == format!(\"--\x7b\x7d\", name))") ""
  gap
  braces "fn arg_value(args: &[String], name: &str) -> Option<String>"
    (lines
      ["let flag = format!(\"--\x7b\x7d\", name);",
        "let index = args.iter().position(|a| *a == flag)?;", "args.get(index + 1).cloned()"])
    ""
  gap

/-- The member of a parameter in the arguments of its command. -/
def argument (env : Env) (p : CommandParam) : Emit String := do
  let flag := doubleQuoted (Text.kebabCase p.name)
  if p.isFlag then return s!"{doubleQuoted p.name}: has_flag(&args, {flag})"
  else
    let missing := doubleQuoted s!"Missing required argument --{Text.kebabCase p.name}"
    optionalLines env (ident p.name)
      ("arg_value(&args, " ++ flag ++ ").map(|v| " ++ parseText "v" p.type ++ ")") p.default
      p.required [s!"eprintln!({missing});", "std::process::exit(1);"]
    return s!"{doubleQuoted p.name}: {ident p.name}"

def commandCaseLines (env : Env) (c : Command) : Emit Unit :=
  braces s!"Some({doubleQuoted c.name}) =>"
    (do
      let args ← collect c.params (argument env)
      line s!"let result = {Plan.commandName c.name}({objectText args}).await;"
      braces "if !result.is_null()"
        (line
          "println!(\"\x7b\x7d\", serde_json::to_string_pretty(&result).unwrap_or_default());")
        ""
      line "return;")
    ""

def commandsLines (env : Env) (s : Service) : Emit Unit := do
  gap
  line "let args: Vec<String> = std::env::args().collect();"
  braces "match args.get(1).map(String::as_str)"
    (do
      each s.commands (commandCaseLines env)
      line "_ => \x7b\x7d")
    ""

/-- The handlers of every path: those of routes, then those of sockets. -/
def routeGroups (s : Service) : List (String × List String) :=
  let routes := (s.routes.zip (Plan.routeNames s.routes)).map fun (r, name) =>
    (r.path, s!"{Plan.httpVerb r.method}({name})")
  let sockets := (s.sockets.zip (Plan.socketNames s.sockets)).map fun (socket, name) =>
    (socket.path, s!"get({name})")
  Plan.groups (routes ++ sockets)

def routeText (path : String) (handlers : List String) : String :=
  ".route(" ++ doubleQuoted path ++ ", " ++ join "." handlers ++ ")"

def routerLines (s : Service) (f : FeatureSet) : Emit Unit := do
  only (f.has .graphql) (line "let schema = build_schema();")
  head "let app = Router::new()" do
    each (routeGroups s) fun (path, handlers) => line (routeText path handlers)
    only (f.has .graphql) do
      line ".route_service(\"/graphql\", GraphQL::new(schema.clone()))"
      only (f.has .subscriptions)
        (line ".route_service(\"/graphql/ws\", GraphQLSubscription::new(schema))")
    line ".fallback(|| async \x7b not_found() \x7d);"

/-- Takes what is fine and reports an error otherwise. -/
def resultLines (opening fine : String) (errors : List String) : Emit Unit :=
  braces opening
    (do
      line fine
      braces "Err(err) =>" (lines errors) "")
    ";"

def entrypointSection (env : Env) (s : Service) (f : FeatureSet) (host : String) (port : UInt16) :
    Emit Unit := do
  only (f.has .commands) argumentReaders
  line "#[tokio::main]"
  braces "async fn main()"
    (do
      line "tracing_subscriber::fmt::init();"
      only (f.has .commands) (commandsLines env s)
      only (f.has .queues) do
        gap
        line "start_workers();"
      only (f.has .cron) do
        gap
        resultLines "let _scheduler = match start_cron_jobs().await"
          "Ok(scheduler) => Some(scheduler),"
          ["tracing::error!(error = %err, \"failed to start cron jobs\");", "None"]
      only (f.has .rpc) do
        gap
        line ("tracing::info!(proto = " ++ doubleQuoted (Schema.protoPath s) ++ ", port = " ++
          toString Plan.rpcPort ++ ", \"gRPC handlers ready\");")
      gap
      routerLines s f
      let address := s!"{host}:{port}"
      gap
      resultLines s!"let listener = match tokio::net::TcpListener::bind({doubleQuoted address}).await"
        "Ok(listener) => listener,"
        ["tracing::error!(error = %err, \"failed to bind " ++ address ++ "\");", "return;"]
      line ("tracing::info!(\"Server running on http://" ++ address ++ "\");")
      braces "if let Err(err) = axum::serve(listener, app).await"
        (line "tracing::error!(error = %err, \"server error\");") "")
    ""

def emitSection (env : Env) (s : Service) (host : String) (port : UInt16) : Section → Emit Unit
  | .header => headerSection s (.of s)
  | .types => typesSection env s
  | .providers => providersSection s
  | .bootstrap => bootstrapSection
  | .routes => routesSection env s
  | .graphQl => graphQlSection env s
  | .rpc => rpcSection env s
  | .socket => socketSection env s
  | .cron => cronSection env s
  | .events => eventsSection env s
  | .queues => queuesSection env s
  | .entrypoint => entrypointSection env s (.of s) host port

def banner (s : Section) (b : Buffer) : Buffer := (b.blank.line s!"// --- {s.title} ---").blank

def source (s : Service) (host : String) (port : UInt16) : String :=
  Source.emitProgram "    " banner (emitSection (.of s) s host port)

/-- A package with what the manifest says of it. -/
structure Crate where
  name : String
  spec : String
  deriving DecidableEq, Repr

def Crate.plain (name version : String) : Crate := ⟨name, doubleQuoted version⟩

def Crate.featured (name version : String) (features : List String) : Crate :=
  ⟨name, "\x7b version = " ++ doubleQuoted version ++ ", features = [" ++
    join ", " (features.map doubleQuoted) ++ "] \x7d"⟩

/-- The packages that a set of features asks for; two features may ask for the same one. -/
def crates (f : FeatureSet) : List Crate :=
  let when (feature : Plan.Feature) (packages : List Crate) : List Crate :=
    if f.has feature then packages else []
  [.featured "axum" "0.7" ["ws", "macros"], .featured "tokio" "1" ["full"],
    .featured "serde" "1" ["derive"], .plain "serde_json" "1", .plain "tracing" "0.1",
    .plain "tracing-subscriber" "0.3"] ++
    when .database [.featured "sqlx" "0.7" ["runtime-tokio", "postgres"]] ++
    when .redis [.plain "redis" "0.25"] ++
    when .mongo [.plain "mongodb" "2.8"] ++
    when .llm [.featured "reqwest" "0.12" ["json"]] ++
    when .cron [.plain "tokio-cron-scheduler" "0.10"] ++
    when .graphql [.plain "async-graphql" "7", .plain "async-graphql-axum" "7"] ++
    when .subscriptions [.plain "futures" "0.3"] ++
    when .rpc [.plain "tonic" "0.11", .plain "prost" "0.12"] ++
    when .socket [.plain "futures" "0.3", .featured "uuid" "1" ["v4"]]

/-- The packages that a set of features needs, one of each name. -/
def dependencies (f : FeatureSet) : List Crate := firsts Crate.name (crates f)

/-- The name of the package; it is not empty and starts with no digit. -/
def packageName (s : Service) : String :=
  let name := Text.kebabCase s.name
  match name.toList with
  | [] => "glyph"
  | c :: _ => if c.isDigit then s!"glyph-{name}" else name

def manifest (s : Service) : String :=
  let head :=
    ["[package]", "name = \"" ++ packageName s ++ "\"", "version = \"0.1.0\"",
      "edition = \"2021\"", "", "[dependencies]"]
  let packages := (dependencies (.of s)).map fun c => s!"{c.name} = {c.spec}"
  join "\n" (head ++ packages) ++ "\n"

def formatterSettings : String := "edition = \"2021\"\nmax_width = 100\n"

end ServiceCompiler.Rust
