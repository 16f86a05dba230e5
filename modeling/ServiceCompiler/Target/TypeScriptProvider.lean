import ServiceCompiler.Plan.Feature
import ServiceCompiler.Target.TypeScriptRecord

/-! # TypeScript imports and dependencies -/

namespace ServiceCompiler.TypeScript

open ServiceCompiler.Core (Service Provider Signature)
open Plan (FeatureSet)
open Source (Emit)
open Source.Emit (line lines gap nest each only braces enclosed)
open Text (join singleQuoted)

def importText (names : List String) (module : String) : String :=
  "import " ++ objectText names ++ " from " ++ singleQuoted module ++ ";"

def headerSection (s : Service) (f : FeatureSet) : Emit Unit := do
  line s!"// Generated by glyph from service `{s.name}`"
  line "// Do not edit manually"
  gap
  line "import express, \x7b Request, Response \x7d from 'express';"
  only (f.has .socket)
    (lines
      [importText ["createServer"] "http", importText ["randomUUID"] "crypto",
        importText ["WebSocket", "WebSocketServer"] "ws"])
  only (f.has .redis) (line (importText ["createClient"] "redis"))
  only (f.has .mongo) (line (importText ["Db", "MongoClient"] "mongodb"))
  only (f.has .llm) (line "import Anthropic from '@anthropic-ai/sdk';")
  only (f.has .cron) (line "import cron from 'node-cron';")
  only (f.has .events) (line (importText ["EventEmitter"] "events"))
  only (f.has .queues) (line (importText ["Job", "Queue", "Worker"] "bullmq"))
  only (f.has .graphql)
    (lines
      [importText ["ApolloServer"] "@apollo/server",
        importText ["expressMiddleware"] "@apollo/server/express4"])
  only (f.has .rpc)
    (lines
      ["import path from 'path';", "import * as grpc from '@grpc/grpc-js';",
        "import * as protoLoader from '@grpc/proto-loader';"])

/-- A function without parameters that returns a value. -/
def accessorLines (signature value : String) : Emit Unit :=
  braces s!"function {signature}" (line s!"return {value};") ""

/-- The methods of a table with their parameters and results. -/
def tableMethods : List (String × String × String) :=
  [("Get", "id: any", "any"), ("Find", "filter?: any", "any[]"), ("Create", "data: any", "any"),
    ("Update", "id: any, data: any", "any"), ("Delete", "id: any", "void"),
    ("Where", "filter: any", "any[]")]

def tableMethodText (name ps result : String) : String :=
  s!"async {name}({ps}): Promise<{result}> \x7b throw new Error(`$\x7bthis.name\x7d.{name}: Not implemented`); \x7d"

def databaseLines : Emit Unit := do
  line "// Database provider stub - replace with a real implementation"
  braces "class TableProxy"
    (do
      line "constructor(private name: string) \x7b\x7d"
      each tableMethods fun (name, ps, result) => line (tableMethodText name ps result))
    ""
  gap
  braces "class DatabaseProvider"
    (do
      line "private tables: Record<string, TableProxy> = \x7b\x7d;"
      line "[key: string]: any;"
      gap
      braces "constructor()"
        (braces "return new Proxy(this,"
          (braces "get: (target, prop: string) =>"
            (lines
              ["if (prop in target) return (target as any)[prop];",
                "if (!target.tables[prop]) target.tables[prop] = new TableProxy(prop);",
                "return target.tables[prop];"])
            ",")
          ");")
        "")
    ""
  gap
  line "const dbProvider = new DatabaseProvider();"
  accessorLines "getDb(): DatabaseProvider" "dbProvider"

def redisLines : Emit Unit := do
  line
    "const redisClient = createClient(\x7b url: process.env.REDIS_URL ?? 'redis://localhost:6379' \x7d);"
  accessorLines "getRedis()" "redisClient"

def mongoLines (s : Service) : Emit Unit := do
  line
    "const mongoClient = new MongoClient(process.env.MONGODB_URL ?? 'mongodb://localhost:27017');"
  accessorLines "getMongo(): Db"
    s!"mongoClient.db(process.env.MONGODB_DATABASE ?? {singleQuoted s.name})"

def llmLines : Emit Unit := do
  line "const llmClient = new Anthropic();"
  accessorLines "getLlm(): Anthropic" "llmClient"

def contractMethodLines (m : Signature) : Emit Unit :=
  let ps := m.params.map fun p => s!"{p.name}: {typeText p.effectiveType}"
  braces (m.name ++ "(" ++ join ", " ps ++ "): " ++ typeText m.result)
    (line "throw new Error('Not implemented');") ""

def customLines (p : Provider) : Emit Unit := do
  let className := s!"{p.type}Provider"
  let instanceName := s!"{Text.lowerCamelCase p.name}Provider"
  line s!"// Custom provider stub: {p.type}"
  braces s!"class {className}" (each p.methods contractMethodLines) ""
  gap
  line s!"const {instanceName} = new {className}();"
  accessorLines s!"{Plan.camelAccessorName p.type}(): {className}" instanceName

def providersSection (s : Service) : Emit Unit :=
  each s.providers fun p => do
    gap
    match p.standard? with
    | some .database => databaseLines
    | some .redis => redisLines
    | some .mongoDb => mongoLines s
    | some .llm => llmLines
    | none => customLines p

/-- Binds the dependencies of a handler to their local names. -/
def injectionLines (is : List Core.Injection) : Emit Unit :=
  each is fun i => line s!"const {i.name} = {Plan.camelAccessorName i.type}();"

def authRemark (a : Core.Auth) : String :=
  if a.roles.isEmpty then s!"// Requires {a.scheme} authentication"
  else "// Requires " ++ a.scheme ++ " authentication (roles: " ++ join ", " a.roles ++ ")"

def authLine (a : Option Core.Auth) : Emit Unit :=
  match a with
  | some a => line (authRemark a)
  | none => pure ()

/-- A value of a type from a text of the query or the command line. -/
def convertText (raw : String) (t : Core.Ty) : String :=
  match t.present with
  | .int | .float => s!"Number({raw})"
  | .bool => s!"{raw} === 'true'"
  | .string => s!"String({raw})"
  | _ => s!"JSON.parse(String({raw}))"

end ServiceCompiler.TypeScript
