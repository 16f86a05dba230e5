import ServiceCompiler.Plan.Feature
import ServiceCompiler.Target.PythonRecord

/-! # Python imports and dependencies -/

namespace ServiceCompiler.Python

open ServiceCompiler.Core (Service Provider StandardProvider Signature)
open Plan (FeatureSet)
open Source (Emit)
open Source.Emit (line lines gap nest head each only)
open Text (join doubleQuoted)

def headerSection (s : Service) (f : FeatureSet) : Emit Unit := do
  line s!"# Generated by glyph from service `{s.name}`"
  line "# Do not edit manually"
  gap
  lines ["import asyncio", "import json", "import os", "import uuid"]
  only (f.has .commands) (line "import argparse")
  line
    "from typing import Any, AsyncGenerator, Callable, Dict, Generic, List, Optional, TypeVar, Union"
  gap
  let sockets := if f.has .socket then ["WebSocket", "WebSocketDisconnect"] else []
  line ("from fastapi import " ++
    join ", " (["Depends", "FastAPI", "HTTPException", "Query", "Request"] ++ sockets))
  lines
    ["from fastapi.encoders import jsonable_encoder", "from fastapi.responses import JSONResponse",
      "from pydantic import BaseModel", "import uvicorn"]
  only (f.has .redis) (line "import redis")
  only (f.has .mongo) (line "from motor.motor_asyncio import AsyncIOMotorClient")
  only (f.has .llm) (line "import anthropic")
  only (f.has .cron)
    (lines
      ["from apscheduler.schedulers.asyncio import AsyncIOScheduler",
        "from apscheduler.triggers.cron import CronTrigger"])
  only (f.has .queues) (line "from celery import Celery")
  only (f.has .graphql)
    (lines
      ["import strawberry", "from strawberry.fastapi import GraphQLRouter",
        "from strawberry.scalars import JSON"])
  only (f.has .rpc) (line "import grpc")

def tableMethods : List (String × String) :=
  [("Get", "id"), ("Find", "filter=None"), ("Create", "data"), ("Update", "id, data"),
    ("Delete", "id"), ("Where", "filter")]

def databaseLines : Emit Unit := do
  line "# Database provider stub - replace with a real implementation"
  head "class TableProxy:" do
    head "def __init__(self, name: str):" (line "self.name = name")
    each tableMethods fun (method, ps) => do
      gap
      head s!"def {method}(self, {ps}):"
        (line ("raise NotImplementedError(f\"\x7bself.name\x7d." ++ method ++ "\")"))
  apart
  head "class DatabaseProvider:" do
    head "def __init__(self):" (line "self._tables: Dict[str, TableProxy] = \x7b\x7d")
    gap
    head "def __getattr__(self, name: str) -> TableProxy:" do
      head "if name not in self._tables:" (line "self._tables[name] = TableProxy(name)")
      line "return self._tables[name]"
  apart
  line "db_provider = DatabaseProvider()"
  apart
  head "def get_db() -> DatabaseProvider:" (line "return db_provider")

def redisLines : Emit Unit := do
  head "redis_client = redis.Redis.from_url("
    (line "os.getenv(\"REDIS_URL\", \"redis://localhost:6379\"), decode_responses=True")
  line ")"
  apart
  head "def get_redis() -> redis.Redis:" (line "return redis_client")

def mongoLines (s : Service) : Emit Unit := do
  line
    "mongo_client = AsyncIOMotorClient(os.getenv(\"MONGODB_URL\", \"mongodb://localhost:27017\"))"
  line ("mongo_database = mongo_client[os.getenv(\"MONGODB_DATABASE\", " ++ doubleQuoted s.name ++ ")]")
  apart
  head "def get_mongo():" (line "return mongo_database")

def llmLines : Emit Unit := do
  line "llm_client = anthropic.AsyncAnthropic()"
  apart
  head "def get_llm() -> anthropic.AsyncAnthropic:" (line "return llm_client")

def contractParam (f : Core.Field) : Param := ⟨f.name, some (typeText f.effectiveType), none⟩

def contractMethodLines (provider : String) (m : Signature) : Emit Unit := do
  gap
  let ps := methodParams (m.params.map contractParam)
  head s!"def {m.name}({paramTexts ps}) -> {typeText m.result}:"
    (line ("raise NotImplementedError(" ++ doubleQuoted s!"{provider}.{m.name}" ++ ")"))

def customLines (p : Provider) : Emit Unit := do
  let className := s!"{p.type}Provider"
  let instanceName := s!"{p.name}_provider"
  head s!"class {className}:" do
    line ("\"\"\"Custom provider " ++ p.type ++ "\"\"\"")
    each p.methods (contractMethodLines p.type)
  apart
  line s!"{instanceName} = {className}()"
  apart
  head s!"def {Plan.accessorName p.type}() -> {className}:" (line s!"return {instanceName}")

def providersSection (s : Service) : Emit Unit :=
  each s.providers fun p => do
    gap
    match p.standard? with
    | some .database => databaseLines
    | some .redis => redisLines
    | some .mongoDb => mongoLines s
    | some .llm => llmLines
    | none => customLines p

/-- Binds the dependencies of a handler to their local names. -/
def injectionLines (is : List Core.Injection) : Emit Unit :=
  each is fun i => line s!"{i.name} = {Plan.accessorName i.type}()"

def authRemark (a : Core.Auth) : String :=
  if a.roles.isEmpty then s!"# Requires {a.scheme} authentication"
  else "# Requires " ++ a.scheme ++ " authentication (roles: " ++ join ", " a.roles ++ ")"

def authLine (a : Option Core.Auth) : Emit Unit :=
  match a with
  | some a => line (authRemark a)
  | none => pure ()

end ServiceCompiler.Python
