import ServiceCompiler.Json.Printer
import ServiceCompiler.Source.Section
import ServiceCompiler.Target.TypeScriptRoute

/-! # TypeScript programs -/

namespace ServiceCompiler.TypeScript

open ServiceCompiler.Core (Service CronJob EventBinding QueueBinding Command CommandParam)
open Plan (FeatureSet)
open Source (Emit Section Buffer)
open Source.Emit (line lines gap nest each only collect braces)
open Text (join singleQuoted)

def bootstrapSection (f : FeatureSet) : Emit Unit := do
  lines ["const app = express();", "app.use(express.json());"]
  only (f.has .socket) (line "const server = createServer(app);")

def cronLines (j : CronJob) (name : String) : Emit Unit := do
  gap
  braces s!"async function {name}(): Promise<any>"
    (do
      only (j.retries > 0) (line s!"// Retries: {j.retries}")
      injectionLines j.injections
      body .background j.body)
    ""
  let options :=
    match j.timezone with
    | some tz => s!", \x7b timezone: {singleQuoted tz} \x7d"
    | none => ""
  line s!"cron.schedule({singleQuoted j.schedule}, () => \x7b void {name}(); \x7d{options});"

def cronSection (s : Service) : Emit Unit :=
  each (s.cronJobs.zip (Plan.cronNames s.cronJobs)) fun (j, name) => cronLines j (handlerName name)

def eventLines (e : EventBinding) (name : String) : Emit Unit := do
  gap
  braces s!"async function {name}(event: any): Promise<any>"
    (do
      injectionLines e.injections
      body .background e.body)
    ""
  line s!"eventBus.on({singleQuoted e.event}, (event: any) => \x7b void {name}(event); \x7d);"

def eventsSection (s : Service) : Emit Unit :=
  only (!s.events.isEmpty) do
    line "const eventBus = new EventEmitter();"
    gap
    braces "function emit(eventType: string, event: any): void"
      (line "eventBus.emit(eventType, event);") ""
    each (s.events.zip (Plan.eventNames s.events)) fun (e, name) => eventLines e (handlerName name)

def queueLines (q : QueueBinding) (name : String) : Emit Unit := do
  gap
  braces s!"async function {name}(message: any): Promise<any>"
    (do
      only (q.timeout > 0) (line s!"// Timeout: {q.timeout}s")
      injectionLines q.injections
      body .background q.body)
    ""

def workerText (q : QueueBinding) (name : String) : String :=
  s!"new Worker({singleQuoted q.queue}, async (job: Job) => {name}(job.data), \x7b connection: queueConnection, concurrency: {max q.concurrency 1} \x7d);"

/-- How often a message is tried: once, and again for every retry. The count has 32 bits and is back
at zero for the greatest number of retries. -/
def attempts (q : QueueBinding) : UInt32 := q.maxRetries + 1

def queuesSection (s : Service) : Emit Unit :=
  only (!s.queues.isEmpty) do
    braces "const queueConnection ="
      (lines
        ["host: process.env.REDIS_HOST ?? 'localhost',",
          "port: Number(process.env.REDIS_PORT ?? 6379),"])
      ";"
    braces "const queueAttempts: Record<string, number> ="
      (each s.queues fun q => line s!"{singleQuoted q.queue}: {attempts q},") ";"
    line "const queues: Record<string, Queue> = \x7b\x7d;"
    gap
    braces "async function enqueue(queueName: string, message: any): Promise<void>"
      (lines
        ["queues[queueName] ??= new Queue(queueName, \x7b connection: queueConnection \x7d);",
          "await queues[queueName].add(queueName, message, \x7b attempts: queueAttempts[queueName] ?? 1 \x7d);"])
      ""
    let workers := s.queues.zip ((Plan.queueNames s.queues).map handlerName)
    each workers fun (q, name) => queueLines q name
    gap
    braces "function startWorkers(): void"
      (each workers fun (q, name) => line (workerText q name)) ""

/-- The property of a parameter in the arguments of its command. -/
def argument (p : CommandParam) : Emit String := do
  let flag := singleQuoted (Text.kebabCase p.name)
  let raw := s!"argValue({flag})"
  let converted := convertText raw p.type
  let key := keyText p.name
  if p.isFlag then return s!"{key}: hasFlag({flag})"
  else
    match p.default with
    | some value => return s!"{key}: {raw} !== undefined ? {converted} : {← expr false value}"
    | none =>
      if p.required then
        let message := singleQuoted s!"Missing required argument --{Text.kebabCase p.name}"
        braces s!"if ({raw} === undefined)"
          (lines [s!"console.error({message});", "process.exit(1);"]) ""
        return s!"{key}: {converted}"
      else return s!"{key}: {raw} !== undefined ? {converted} : undefined"

def commandCaseLines (c : Command) : Emit Unit :=
  braces s!"case {singleQuoted c.name}:"
    (do
      let args ← collect c.params argument
      line s!"const result = await {commandFunction c}({objectText args});"
      line "if (result !== undefined) console.log(JSON.stringify(result, null, 2));"
      line "return;")
    ""

def argumentReaders : Emit Unit := do
  braces "function hasFlag(name: string): boolean"
    (line "return process.argv.includes(`--$\x7bname\x7d`);") ""
  gap
  braces "function argValue(name: string): string | undefined"
    (lines
      ["const index = process.argv.indexOf(`--$\x7bname\x7d`);",
        "return index >= 0 ? process.argv[index + 1] : undefined;"])
    ""
  gap

def entrypointSection (s : Service) (f : FeatureSet) (host : String) (port : UInt16) :
    Emit Unit := do
  only (f.has .commands) argumentReaders
  braces "async function main(): Promise<void>"
    (do
      only (f.has .commands) do
        braces "switch (process.argv[2])" (each s.commands commandCaseLines) ""
        gap
      only (f.has .graphql)
        (lines
          ["await apolloServer.start();", "app.use('/graphql', expressMiddleware(apolloServer));"])
      only (f.has .rpc) (line "startGrpcServer();")
      only (f.has .queues) (line "startWorkers();")
      let listener := if f.has .socket then "server" else "app"
      braces s!"{listener}.listen({port}, {singleQuoted host}, () =>"
        (line s!"console.log(`Server running on http://{host}:{port}`);") ");")
    ""
  gap
  braces "main().catch((err) =>" (lines ["console.error(err);", "process.exit(1);"]) ");"

def emitSection (s : Service) (host : String) (port : UInt16) : Section → Emit Unit
  | .header => headerSection s (.of s)
  | .types => typesSection s
  | .providers => providersSection s
  | .bootstrap => bootstrapSection (.of s)
  | .routes => routesSection s
  | .graphQl => graphQlSection s
  | .rpc => rpcSection s
  | .socket => socketSection s
  | .cron => cronSection s
  | .events => eventsSection s
  | .queues => queuesSection s
  | .entrypoint => entrypointSection s (.of s) host port

def banner (s : Section) (b : Buffer) : Buffer := (b.blank.line s!"// --- {s.title} ---").blank

def source (s : Service) (host : String) (port : UInt16) : String :=
  Source.emitProgram "  " banner (emitSection s host port)

/-- A package with the versions of it that will do. -/
structure Package where
  name : String
  version : String
  deriving DecidableEq, Repr

/-- The packages that a set of features needs to run. -/
def dependencies (f : FeatureSet) : List Package :=
  let when (feature : Plan.Feature) (packages : List Package) : List Package :=
    if f.has feature then packages else []
  [⟨"express", "^4.18.0"⟩] ++
    when .database [⟨"pg", "^8.11.0"⟩] ++
    when .redis [⟨"redis", "^4.6.0"⟩] ++
    when .mongo [⟨"mongodb", "^6.3.0"⟩] ++
    when .llm [⟨"@anthropic-ai/sdk", "^0.30.0"⟩] ++
    when .cron [⟨"node-cron", "^3.0.0"⟩] ++
    when .queues [⟨"bullmq", "^5.1.0"⟩] ++
    when .graphql [⟨"@apollo/server", "^4.10.0"⟩, ⟨"graphql", "^16.8.0"⟩] ++
    when .rpc [⟨"@grpc/grpc-js", "^1.10.0"⟩, ⟨"@grpc/proto-loader", "^0.7.10"⟩] ++
    when .socket [⟨"ws", "^8.16.0"⟩]

/-- The packages that a set of features needs to build. -/
def devDependencies (f : FeatureSet) : List Package :=
  let when (feature : Plan.Feature) (packages : List Package) : List Package :=
    if f.has feature then packages else []
  [⟨"typescript", "^5.0.0"⟩, ⟨"ts-node", "^10.0.0"⟩, ⟨"@types/node", "^20.0.0"⟩,
    ⟨"@types/express", "^4.17.0"⟩] ++
    when .cron [⟨"@types/node-cron", "^3.0.0"⟩] ++
    when .socket [⟨"@types/ws", "^8.5.0"⟩]

/-- Packages as an object, sorted by name. -/
def packagesJson (packages : List Package) : Json :=
  .object ((packages.mergeSort (·.name ≤ ·.name)).map fun p => (p.name, .string p.version))

/-- The manifest of a package; the keys of every object are sorted. -/
def manifest (s : Service) : String :=
  let features := FeatureSet.of s
  let value : Json :=
    .object
      [("dependencies", packagesJson (dependencies features)),
        ("description", .string s!"Generated by glyph from service `{s.name}`"),
        ("devDependencies", packagesJson (devDependencies features)),
        ("main", .string "dist/app.js"),
        ("name", .string (Text.kebabCase s.name)),
        ("scripts",
          .object
            [("build", .string "tsc"), ("dev", .string "ts-node src/app.ts"),
              ("start", .string "node dist/app.js")]),
        ("version", .string "1.0.0")]
  value.pretty ++ "\n"

def compilerSettings : String :=
  let value : Json :=
    .object
      [("compilerOptions",
          .object
            [("declaration", .bool true), ("declarationMap", .bool true),
              ("esModuleInterop", .bool true),
              ("forceConsistentCasingInFileNames", .bool true),
              ("lib", .array [.string "ES2020"]), ("module", .string "commonjs"),
              ("outDir", .string "./dist"), ("resolveJsonModule", .bool true),
              ("rootDir", .string "./src"), ("skipLibCheck", .bool true),
              ("sourceMap", .bool true), ("strict", .bool true), ("target", .string "ES2020")]),
        ("exclude", .array [.string "node_modules", .string "dist"]),
        ("include", .array [.string "src/**/*"])]
  value.pretty ++ "\n"

end ServiceCompiler.TypeScript
