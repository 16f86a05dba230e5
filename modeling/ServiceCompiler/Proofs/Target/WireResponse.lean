import ServiceCompiler.Proofs.Target.PythonBody
import ServiceCompiler.Proofs.Target.RustDefaults
import ServiceCompiler.Proofs.Target.TypeScriptBody

/-! # Responses on the wire

A return in the body of a route is a response on the wire; everywhere else it hands a value over.
Main statement: in every target the emitted lines with a response are as many as the statements of a
route that give one, and none outside of routes, as long as nothing in the body spells a response by
itself and, in Rust, the default values that are filled in for it come to an end. -/

namespace ServiceCompiler

open ServiceCompiler.Core (Expr Stmt Node Service)
open Plan (BodyContext)
open Source (mentioning)
open Text (Mentions)

/-- The lines with a response are the returns of a route, with its validations in the targets that
answer them by a response of their own, and with the end of a body that control can reach in the
target that must end in a response. Bodies in other contexts, and what runs on its own inside of a
body, give none. Where no default value is filled in for itself, default values are written out to
the end, like all others. -/
theorem responses_of_returns (ctx : BodyContext) (body : List Stmt) (n : Nat) :
    ((∀ s ∈ body, (Node.stmt s).Throughout (Python.Spelled Python.wire)) →
      mentioning ["JSONResponse"] (Python.block ctx body n).lines =
        if ctx.status?.isSome then Stmt.returns body else 0) ∧
    ((∀ s ∈ body, (Node.stmt s).Throughout TypeScript.Spelled) →
      mentioning ["res.json(", "res.status("] (TypeScript.body ctx body n).lines =
        if ctx.status?.isSome then Stmt.returns body + Stmt.validations body else 0) ∧
    ∀ (service : Service) (sc : Rust.Scope),
      Plan.Settled (Plan.callables service) (Stmt.bodyNodes body) →
      (∀ c ∈ Plan.callables service, ∀ f ∈ c.params, ∀ value ∈ f.default,
        (Node.expr value).Throughout (Rust.Spelled Rust.wire)) →
      (∀ s ∈ body, (Node.stmt s).Throughout (Rust.Spelled Rust.wire)) →
      (∀ value, Plan.FilledIn (Plan.callables service) (Stmt.bodyNodes body) value →
        ∀ sc, (Rust.Env.of service).default sc value =
          do return (← Rust.expr (.of service) sc value).owned) ∧
      mentioning ["into_response()"] (Rust.body (.of service) sc ctx body n).lines =
        if ctx.status?.isSome then
          Stmt.returns body + Stmt.validations body + if Plan.fallsThrough body then 1 else 0
        else 0 := by
  refine ⟨fun h => ?_, fun h => ?_, fun service sc hSettled hDefaults h => ⟨?_, ?_⟩⟩
  · exact Python.mentioning_wire_block ctx body h n
  · exact TypeScript.mentioning_wire_body ctx body h n
  · intro value hFilled sc
    exact Rust.default_of hSettled hFilled sc
  · exact Rust.mentioning_wire_body service hDefaults sc ctx body h n

/-- A body with a return and a validation in its flow, a return of a lambda, and a call that leaves
out an argument. -/
def ordering : List Stmt :=
  [.validate (.call "valid" [] [.var "order"]),
    .assign "rate" (.call "tax" [] []),
    .assign "price" (.lambda [⟨"item", .any, true, none, []⟩]
      (.block [.ret (.field (.var "item") "price")])),
    .forEach none "item" (.field (.var "order") "items")
      [.cond (.call "price" [] [.var "item"]) [.ret (.string "sold")] []]]

/-- A service whose function has a default value. -/
def shop : Service :=
  { Service.empty "shop" with
    functions := [⟨"tax", [], [⟨"rate", .any, false, some (.int 20), []⟩], none, []⟩] }

theorem responses_of_returns_ordering :
    Plan.FilledIn (Plan.callables shop) (Stmt.bodyNodes ordering) (.int 20) ∧
      mentioning ["JSONResponse"] (Python.block (.route 201) ordering 0).lines = 1 ∧
      mentioning ["res.json(", "res.status("] (TypeScript.body (.route 201) ordering 0).lines = 2 ∧
      mentioning ["into_response()"]
        (Rust.body (.of shop) .outer (.route 201) ordering 0).lines = 3 := by
  obtain ⟨hPython, hTypeScript, hRust⟩ := responses_of_returns (.route 201) ordering 0
  refine ⟨?_, hPython ?_, hTypeScript ?_, (hRust shop .outer ?_ ?_ ?_).2⟩
  · have hNode : .call "tax" [] [] ∈ Stmt.bodyNodes ordering := by
      simp [ordering, Stmt.bodyNodes, Stmt.nodes, Expr.nodes]
    exact .here hNode List.mem_cons_self
  · exact Node.body_of_check 5 (by decide +kernel)
  · exact Node.body_of_check 5 (by decide +kernel)
  · exact Plan.settled_of_complete (by decide +kernel)
  · exact fun c hc f hf value hValue => Node.throughout_of_check (n := .expr value)
      ((by decide +kernel : ∀ c ∈ Plan.callables shop, ∀ f ∈ c.params, ∀ value ∈ f.default,
        (Node.expr value).check (Rust.Spelled Rust.wire) 1 = true) c hc f hf value hValue)
  · exact Node.body_of_check 5 (by decide +kernel)

/-- None of the texts is in a name or a string at a node. -/
def Without (texts : List String) (n : Node) : Prop :=
  ∀ x ∈ n.names ++ n.strings, ∀ t ∈ texts, ¬ Mentions t x

instance (texts : List String) : DecidablePred (Without texts) :=
  fun n => inferInstanceAs (Decidable (∀ x ∈ n.names ++ n.strings, _))

/-- Bodies that spell a response of TypeScript without having it in a name or a string: by a call,
by a field and by an escape. -/
def spelledInTypeScript : List (List Stmt) :=
  [[.expr (.call "json" [] [.var "res", .int 1])], [.expr (.field (.var "res") "json(")],
    [.expr (.string "\res.json(")]]

/-- Bodies that spell a response of Rust: by a call, by a name and by a default value. -/
def spelledInRust : List (List Stmt) :=
  [[.assign "into_response" (.lambda [] (.expr (.int 1))), .expr (.call "into_response" [] [])],
    [.forEach none "x" (.var "into_response(") []], [.expr (.call "tax" [] [])]]

/-- A service whose function has a response as the default value of its parameter. -/
def echo : Service :=
  { Service.empty "echo" with
    functions :=
      [⟨"tax", [], [⟨"rate", .any, false, some (.string "into_response()"), []⟩], none, []⟩] }

theorem responses_outside_routes :
    (∀ body ∈ spelledInTypeScript,
      (∀ s ∈ body, (Node.stmt s).Throughout (Without ["res.json(", "res.status("])) ∧
        mentioning ["res.json(", "res.status("] (TypeScript.body .function body 0).lines = 1) ∧
    ∀ body ∈ spelledInRust,
      (∀ s ∈ body, (Node.stmt s).Throughout (Without ["into_response()"])) ∧
        mentioning ["into_response()"] (Rust.body (.of echo) .outer .function body 0).lines =
          1 := by
  have hTypeScript : ∀ body ∈ spelledInTypeScript,
      (body.all fun s => (Node.stmt s).check (Without ["res.json(", "res.status("]) 4) = true ∧
        mentioning ["res.json(", "res.status("] (TypeScript.body .function body 0).lines = 1 := by
    decide +kernel
  have hRust : ∀ body ∈ spelledInRust,
      (body.all fun s => (Node.stmt s).check (Without ["into_response()"]) 4) = true ∧
        mentioning ["into_response()"] (Rust.body (.of echo) .outer .function body 0).lines =
          1 := by
    decide +kernel
  constructor
  · intro body hBody
    exact ⟨Node.body_of_check 4 (hTypeScript body hBody).1, (hTypeScript body hBody).2⟩
  · intro body hBody
    exact ⟨Node.body_of_check 4 (hRust body hBody).1, (hRust body hBody).2⟩

end ServiceCompiler
