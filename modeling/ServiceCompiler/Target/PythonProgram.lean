import ServiceCompiler.Source.Section
import ServiceCompiler.Target.PythonRoute

/-! # Python programs -/

namespace ServiceCompiler.Python

open ServiceCompiler.Core (Service CronJob EventBinding QueueBinding Command CommandParam)
open Plan (FeatureSet)
open Source (Emit Section Buffer)
open Source.Emit (line lines gap nest head each only)
open Text (join doubleQuoted)

def cronLines (j : CronJob) (name : String) : Emit Unit := do
  apart
  let timezone :=
    match j.timezone with
    | some tz => s!", timezone={doubleQuoted tz}"
    | none => ""
  line s!"@scheduler.scheduled_job(CronTrigger.from_crontab({doubleQuoted j.schedule}{timezone}))"
  head s!"async def {name}():" do
    only (j.retries > 0) (line s!"# Retries: {j.retries}")
    injectionLines j.injections
    block .background j.body

def cronSection (s : Service) : Emit Unit :=
  only (!s.cronJobs.isEmpty) do
    line "scheduler = AsyncIOScheduler()"
    each (s.cronJobs.zip (Plan.cronNames s.cronJobs)) fun (j, name) => cronLines j name
    apart
    line "@app.on_event(\"startup\")"
    head "async def start_scheduler():" (line "scheduler.start()")

def eventLines (e : EventBinding) (name : String) : Emit Unit := do
  apart
  let background := if e.isAsync then ", background=True" else ""
  line s!"@on_event({doubleQuoted e.event}{background})"
  head s!"async def {name}(event):" do
    injectionLines e.injections
    block .background e.body

def eventsSection (s : Service) : Emit Unit :=
  only (!s.events.isEmpty) do
    line "event_handlers: Dict[str, List[Any]] = \x7b\x7d"
    apart
    head "def on_event(event_type: str, background: bool = False):" do
      head "def register(handler):"
        (lines
          ["event_handlers.setdefault(event_type, []).append((handler, background))",
            "return handler"])
      line "return register"
    apart
    head "async def emit(event_type: str, event: Any) -> None:"
      (head "for handler, background in event_handlers.get(event_type, []):" do
        head "if background:" (line "asyncio.ensure_future(handler(event))")
        head "else:" (line "await handler(event)"))
    each (s.events.zip (Plan.eventNames s.events)) fun (e, name) => eventLines e name

def queueLines (q : QueueBinding) (name : String) : Emit Unit := do
  apart
  head s!"async def {name}(message):" do
    only (q.concurrency > 0) (line s!"# Concurrency: {q.concurrency}")
    injectionLines q.injections
    block .background q.body
  let retries := if q.maxRetries > 0 then [s!"max_retries={q.maxRetries}"] else []
  let limit := if q.timeout > 0 then [s!"time_limit={q.timeout}"] else []
  apart
  line ("@celery_app.task(" ++ join ", " ([s!"name={doubleQuoted q.queue}"] ++ retries ++ limit) ++ ")")
  head s!"def {name}_task(message):" (line s!"return asyncio.run({name}(message))")

def queuesSection (s : Service) : Emit Unit :=
  only (!s.queues.isEmpty) do
    line ("celery_app = Celery(" ++ doubleQuoted s.name ++
      ", broker=os.getenv(\"CELERY_BROKER_URL\", \"redis://localhost:6379/0\"))")
    each (s.queues.zip (Plan.queueNames s.queues)) fun (q, name) => queueLines q name

def argumentType : Core.Ty → String
  | .int => "type=int"
  | .float => "type=float"
  | .string => "type=str"
  | _ => "type=json.loads"

def argumentLine (parser : String) (p : CommandParam) : Emit Unit := do
  let base := [doubleQuoted s!"--{Text.kebabCase p.name}", s!"dest={doubleQuoted p.name}"]
  let rest ←
    if p.isFlag then pure ["action=\"store_true\""]
    else
      match p.default with
      | some value => do pure [argumentType p.type.present, s!"default={← expr false value}"]
      | none => pure (argumentType p.type.present :: if p.required then ["required=True"] else [])
  line (parser ++ ".add_argument(" ++ join ", " (base ++ rest) ++ ")")

def commandParserLines (c : Command) : Emit Unit := do
  let parser := s!"{Text.snakeCase c.name}_parser"
  let help := if c.description.isEmpty then "" else s!", help={doubleQuoted c.description}"
  line s!"{parser} = subcommands.add_parser({doubleQuoted c.name}{help})"
  each c.params (argumentLine parser)

def entrypointSection (s : Service) (host : String) (port : UInt16) : Emit Unit := do
  let serve := s!"uvicorn.run(app, host={doubleQuoted host}, port={port})"
  if s.commands.isEmpty then head "if __name__ == \"__main__\":" (line serve)
  else
    head "def main() -> None:" do
      line s!"parser = argparse.ArgumentParser(prog={doubleQuoted s.name})"
      lines
        ["subcommands = parser.add_subparsers(dest=\"command\")",
          "subcommands.add_parser(\"serve\", help=\"Run the HTTP server\")"]
      each s.commands commandParserLines
      line "args = parser.parse_args()"
      gap
      each s.commands fun c =>
        head s!"if args.command == {doubleQuoted c.name}:" do
          line s!"result = asyncio.run({Plan.commandName c.name}(args))"
          head "if result is not None:"
            (line "print(json.dumps(jsonable_encoder(result), indent=2))")
          line "return"
      line serve
    apart
    head "if __name__ == \"__main__\":" (line "main()")

def emitSection (s : Service) (host : String) (port : UInt16) : Section → Emit Unit
  | .header => headerSection s (.of s)
  | .types => typesSection s
  | .providers => providersSection s
  | .bootstrap => line s!"app = FastAPI(title={doubleQuoted s.name})"
  | .routes => routesSection s
  | .graphQl => graphQlSection s
  | .rpc => rpcSection s
  | .socket => socketSection s
  | .cron => cronSection s
  | .events => eventsSection s
  | .queues => queuesSection s
  | .entrypoint => entrypointSection s host port

def banner (s : Section) (b : Buffer) : Buffer :=
  ((b.blank.line "").line s!"# --- {s.title} ---").blank

def source (s : Service) (host : String) (port : UInt16) : String :=
  Source.emitProgram "    " banner (emitSection s host port)

def requirements (f : FeatureSet) : List String :=
  let when (feature : Plan.Feature) (packages : List String) : List String :=
    if f.has feature then packages else []
  ["fastapi>=0.100.0", "uvicorn>=0.23.0", "pydantic>=2.0.0"] ++
    when .database ["sqlalchemy>=2.0.0", "databases>=0.9.0"] ++
    when .redis ["redis>=5.0.0"] ++
    when .mongo ["motor>=3.3.0", "pymongo>=4.6.0"] ++
    when .llm ["anthropic>=0.40.0"] ++
    when .cron ["apscheduler>=3.10.0"] ++
    when .queues ["celery>=5.3.0"] ++
    when .graphql ["strawberry-graphql>=0.220.0"] ++
    when .rpc ["grpcio>=1.60.0", "grpcio-tools>=1.60.0"] ++
    when .socket ["websockets>=12.0"]

end ServiceCompiler.Python
