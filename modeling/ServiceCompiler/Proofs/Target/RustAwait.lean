import ServiceCompiler.Proofs.Target.RustBody
import ServiceCompiler.Target.RustRecord

/-! # Awaiting in Rust functions

Functions, lambda constants and methods become asynchronous by what their bodies suspend on. Main
statement: one that is not asynchronous does not await, as long as no default value suspends. A call
fills in default values that the body around it does not show; where one of them suspends, a plain
function awaits. -/

namespace ServiceCompiler.Rust

open ServiceCompiler.Core (Expr Stmt Field Node Service Method Constant Function)
open Source (Emit Line Mentioning mentioning)
open Source.Emit (Yields line braces yields_each)
open Text (Mentions Phrase)
open Text.Phrase (clear_template)

/-- The names at a node, with the dotted name of what it calls. -/
def identifiers (n : Node) : List String := n.names ++ (n.expr?.bind Plan.calledFunction?).toList

/-- What writes the lambda constants, the functions and the methods of records of a service. -/
def functionEmissions (s : Service) : List (Emit Unit) :=
  s.constants.map (constantLines (.of s)) ++
    s.functions.map (fun f => functionLines (.of s) f.name f.typeParams f.params f.body) ++
    s.records.flatMap fun r => r.methods.map (methodLines (.of s))

/-- The first line of a function that is not asynchronous. -/
def PlainHeader (header : String) : Prop :=
  "fn ".toList <+: header.toList ∨ "pub fn ".toList <+: header.toList

instance (header : String) : Decidable (PlainHeader header) := inferInstanceAs (Decidable (_ ∨ _))

/-- An emission starts with a line such that, if it is the first of a function that is not
asynchronous, the lines below it do not await. -/
def AwaitsNowhere (m : Emit Unit) : Prop :=
  ∀ n, ∃ header rest, (m n).lines = .code 0 header :: rest ∧
    (PlainHeader header → mentioning [".await"] rest = 0)

variable {s : Service}

theorem awaitsNowhere_braces {opening : String} {m : Emit Unit}
    (h : PlainHeader (opening ++ " \x7b") → m.Yields (fun _ => True) (Mentioning [awaiting.text] 0)) :
    AwaitsNowhere (braces opening m "") := by
  refine fun n => ⟨_, _, rfl, fun hPlain => ?_⟩
  have hInner : mentioning [".await"] (m n).lines = 0 := (h hPlain n).2
  have hClosing : mentioning [".await"] [Line.code 0 ("\x7d" ++ "")] = 0 := by decide
  simpa [Source.Emit.nest, line, hInner] using hClosing

/-- What does not start as a function is none. -/
theorem awaitsNowhere_of_first {m : Emit Unit} {text : String}
    (hFirst : ∀ n, ∃ rest, (m n).lines = .code 0 text :: rest) (h : ¬ PlainHeader text) :
    AwaitsNowhere m := by
  intro n
  obtain ⟨rest, hLines⟩ := hFirst n
  exact ⟨text, rest, hLines, fun hPlain => absurd hPlain h⟩

theorem awaitsNowhere_capture {α : Type} {m : Emit α} {f : α × List Line → Emit Unit}
    (h : ∀ r, AwaitsNowhere (f r)) : AwaitsNowhere (Source.Emit.capture m >>= f) :=
  fun n => h ((m n).value, (m n).lines) (m n).next

theorem awaitsNowhere_lazyLines (env : Env) (name : String) (value : Expr) :
    AwaitsNowhere (lazyLines env name value) := by
  refine awaitsNowhere_capture fun (term, ahead) => ?_
  dsimp only
  split
  · exact awaitsNowhere_of_first (fun n => ⟨_, rfl⟩) (by simp [PlainHeader, toString])
  · exact awaitsNowhere_of_first (fun n => ⟨_, rfl⟩) (by simp [PlainHeader, toString])

/-! ## Functions, constants and methods -/

theorem awaitsNowhere_functionLines (hPlain : Plain awaiting (Plan.callables s) (Plan.asyncNames s))
    {name : String} {params : List Field} {ss : List Stmt}
    (hCallable : ⟨name, params, ss⟩ ∈ Plan.callables s)
    (hParams : ∀ f ∈ params, awaiting.Clear f.name)
    (hBody : ∀ st ∈ ss, (Node.stmt st).Throughout (Spelled awaiting)) (typeParams : List String) :
    AwaitsNowhere (functionLines (.of s) name typeParams params ss) := by
  have hp : awaiting ∈ phrases := List.mem_cons_self
  refine awaitsNowhere_braces fun hHeader => ?_
  have hName : name ∉ Plan.asyncNames s := by
    intro hAsync
    simp [PlainHeader, functionHeader, asyncText, Env.isAsync, hAsync, toString] at hHeader
  have hRest : Plan.bodySuspends (Plan.asyncNames s) ss = false := by
    by_contra hSuspends
    exact hName (Plan.closed_asyncNames s _ hCallable (by simpa using hSuspends))
  refine (yields_each (additive_lines awaiting) fun f hf => yields_line ?_).andThen
    (additive_lines awaiting) fun _ _ => yields_resting s hPlain rfl .function hBody hRest
  have hIdent := clear_ident hp (hParams f (List.mem_of_mem_filter hf))
  exact clear_template hp [.lit _, .arg (ident f.name), .lit _,
    .arg (ident f.name), .lit _] rfl ⟨hIdent, hIdent, trivial⟩

theorem awaitsNowhere_methodLines (hPlain : Plain awaiting (Plan.callables s) (Plan.asyncNames s))
    {m : Method} (hBody : ∀ st ∈ m.body, (Node.stmt st).Throughout (Spelled awaiting)) :
    AwaitsNowhere (methodLines (.of s) m) := by
  refine awaitsNowhere_braces fun hHeader => ?_
  have hRest : Plan.bodySuspends (Plan.asyncNames s) m.body = false := by
    by_contra hSuspends
    rw [Bool.not_eq_false] at hSuspends
    simp [PlainHeader, asyncText, hSuspends, toString] at hHeader
  refine (yields_line (p := awaiting) (by decide +kernel)).andThen (additive_lines awaiting) fun _ _ => ?_
  exact yields_resting s hPlain rfl .function hBody hRest

/-- The statements of a lambda are spelled as the lambda is. -/
theorem throughout_lambdaStmts {params : List Field} {b : Core.LambdaBody}
    (h : (Node.expr (.lambda params b)).Throughout (Spelled awaiting)) :
    ∀ st ∈ Plan.lambdaStmts b, (Node.stmt st).Throughout (Spelled awaiting) := by
  cases b with
  | expr e =>
    have hReturn : Spelled awaiting (Node.stmt (.ret e)) := ⟨nofun, nofun, nofun⟩
    refine List.forall_mem_singleton.mpr (.intro hReturn (List.forall_mem_singleton.mpr ?_))
    exact h.part (by simp)
  | block body =>
    intro st hst
    have hIn : st ∈ body := hst
    exact h.part (by simp [hIn])

theorem awaitsNowhere_constantLines (hPlain : Plain awaiting (Plan.callables s) (Plan.asyncNames s))
    {c : Constant} (hc : c ∈ s.constants)
    (hSpelled : (Node.expr c.value).Throughout (Spelled awaiting)) :
    AwaitsNowhere (constantLines (.of s) c) := by
  obtain ⟨name, type, value⟩ := c
  have hDeclared (type text : String) :
      AwaitsNowhere (line s!"pub const {ident name}: {type} = {text};") :=
    awaitsNowhere_of_first (fun n => ⟨_, rfl⟩) (by simp [PlainHeader, toString])
  cases value with
  | int n => exact hDeclared _ _
  | float x => exact hDeclared _ _
  | string s => exact hDeclared _ _
  | bool b => exact hDeclared _ _
  | lambda params b =>
    -- a closure is written as a function, unless a later constant of the name is no closure
    have hFunction : AwaitsNowhere (functionLines (.of s) name [] params (Plan.lambdaStmts b)) := by
      refine awaitsNowhere_functionLines hPlain ?_ (fun f hf => ?_) (fun st hst => ?_) []
      · exact List.mem_append_left _ (List.mem_filterMap.mpr ⟨_, hc, rfl⟩)
      · exact (hSpelled.part (m := .field f) (by simp [hf])).here.names f.name List.mem_cons_self
      · exact throughout_lambdaStmts hSpelled st hst
    unfold constantLines
    dsimp only
    cases (Env.of s).constant? name with
    | none => exact awaitsNowhere_lazyLines _ _ _
    | some kind =>
      cases kind with
      | function => exact hFunction
      | literal | lazy => exact awaitsNowhere_lazyLines _ _ _
  | _ => exact awaitsNowhere_lazyLines _ _ _

/-- The parameters of callables are among those of functions and lambdas. -/
theorem field_of_callable {P : Node → Prop}
    (hConstants : ∀ c ∈ s.constants, (Node.expr c.value).Throughout P)
    (hFunctions : ∀ f ∈ s.functions, ∀ g ∈ f.params, (Node.field g).Throughout P)
    {c : Plan.Callable} (hc : c ∈ Plan.callables s) {f : Field} (hf : f ∈ c.params) :
    (Node.field f).Throughout P := by
  rcases List.mem_append.mp hc with hc | hc
  · obtain ⟨k, hk, hCallable⟩ := List.mem_filterMap.mp hc
    have hValue := hConstants k hk
    unfold Plan.constantCallable? at hCallable
    split at hCallable
    · rename_i params body hLambda
      obtain rfl := Option.some.inj hCallable
      rw [hLambda] at hValue
      exact hValue.part (by simp [hf])
    · cases hCallable
  · obtain ⟨g, hg, rfl⟩ := List.mem_map.mp hc
    exact hFunctions g hg f hf

/-- No identifier and no string at a node holds `.await`. -/
def Unawaited (n : Node) : Prop := ∀ x ∈ identifiers n ++ n.strings, ¬ Mentions ".await" x

instance : DecidablePred Unawaited :=
  fun n => inferInstanceAs (Decidable (∀ x ∈ identifiers n ++ n.strings, _))

theorem Unawaited.spelled {n : Node} (h : Unawaited n) : Spelled awaiting n := by
  obtain ⟨hNames, hStrings⟩ := List.forall_mem_append.mp h
  have hClear {x : String} (hx : x ∈ identifiers n) : awaiting.Clear x :=
    (Text.Phrase.clear_iff_not_mentions rfl).mpr (hNames x hx)
  refine ⟨fun x hx => hClear (List.mem_append_left _ hx), hStrings, fun x hx => ?_⟩
  have hCalled : awaiting.Clear x := hClear (List.mem_append_right _ (Option.mem_toList.mpr hx))
  exact Text.Phrase.clear_spell [.arg x, .lit _] rfl ⟨hCalled, trivial⟩

/-- A function that is not asynchronous does not await: lambda constants, functions and methods of
records, in a service without `.await` in an identifier or a string and without a default value
that suspends. -/
theorem plain_functions_await_nowhere (s : Service)
    (hSpelled : ∀ n, s.Has n → Unawaited n)
    (hDefaults : ∀ c ∈ Plan.callables s, ∀ f ∈ c.params, ∀ value ∈ f.default,
      Plan.exprSuspends (Plan.asyncNames s) value = false) :
    ∀ m ∈ functionEmissions s, AwaitsNowhere m := by
  have hHas {root : Node} (hRoot : root ∈ s.nodes) : root.Throughout (Spelled awaiting) :=
    fun n hInside => (hSpelled n ⟨root, hRoot, hInside⟩).spelled
  have hConstant {c : Constant} (hc : c ∈ s.constants) :
      (Node.expr c.value).Throughout (Spelled awaiting) :=
    hHas (Service.constant_nodes_subset hc (List.mem_append_right _ List.mem_cons_self))
  have hParam {f : Function} (hf : f ∈ s.functions) {g : Field} (hg : g ∈ f.params) :
      (Node.field g).Throughout (Spelled awaiting) :=
    hHas (Service.function_nodes_subset hf (by simp [Function.nodes, hg]))
  have hPlain : Plain awaiting (Plan.callables s) (Plan.asyncNames s) := by
    refine fun c hc f hf value hValue => ⟨?_, fun _ e he => ?_⟩
    · have hField := field_of_callable (fun c => hConstant) (fun f hf g => hParam hf) hc hf
      exact hField.part (by simpa [Field.parts] using hValue)
    · have hRests := hDefaults c hc f hf value hValue
      simp only [Plan.exprSuspends, List.any_eq_false, Bool.not_eq_true] at hRests
      exact hRests e he
  intro m hm
  simp only [functionEmissions, List.mem_append, List.mem_map, List.mem_flatMap] at hm
  rcases hm with (⟨c, hc, rfl⟩ | ⟨f, hf, rfl⟩) | ⟨r, hr, m, hm, rfl⟩
  · exact awaitsNowhere_constantLines hPlain hc (hConstant hc)
  · refine awaitsNowhere_functionLines hPlain ?_ ?_ ?_ _
    · exact List.mem_append_right _ (List.mem_map_of_mem hf)
    · exact fun g hg => (hParam hf hg).here.names g.name List.mem_cons_self
    · exact fun st hst => hHas (Service.function_nodes_subset hf (by simp [Function.nodes, hst]))
  · refine awaitsNowhere_methodLines hPlain fun st hst => hHas ?_
    have hMethod : Node.stmt st ∈ m.nodes := by simp [Method.nodes, hst]
    exact Service.record_nodes_subset hr
      (List.mem_append_right _ (List.mem_flatMap.mpr ⟨m, hm, hMethod⟩))

/-- `show` leaves out the argument of `pick`, and `double` and `Point` have no one to wait for. -/
def pickers (start : Expr) : Service :=
  { Service.empty "pickers" with
    records := [⟨"Point", [], [], [], [⟨"left", [], .any, [.ret (.field (.var "this") "x")]⟩]⟩]
    functions :=
      [⟨"load", [], [], none, [.ret (.await (.call "fetch" [] []))]⟩,
        ⟨"pick", [], [⟨"x", .any, false, some start, []⟩], none, [.ret (.var "x")]⟩,
        ⟨"show", [], [], none, [.ret (.call "pick" [] [])]⟩]
    constants := [⟨"double", none, .lambda [⟨"y", .any, true, none, []⟩]
      (.expr (.binary .add (.var "y") (.var "y")))⟩] }

theorem plain_functions_await_nowhere_pickers :
    (∀ m ∈ functionEmissions (pickers (.int 1)), AwaitsNowhere m) ∧
      (functionLines (.of (pickers (.int 1))) "show" [] [] [.ret (.call "pick" [] [])] 0).lines =
        [.code 0 "fn show() -> Value \x7b", .code 1 "return pick(json!(1));", .code 0 "\x7d"] := by
  refine ⟨plain_functions_await_nowhere _ ?_ ?_, by decide +kernel⟩
  · exact Service.forall_of_check 4 (by decide +kernel)
  · decide +kernel

/-- A function that is not asynchronous awaits if the default value that a call fills in suspends. -/
theorem plain_function_awaits_default :
    (∀ n, (pickers (.call "load" [] [])).Has n → Unawaited n) ∧
      (functionLines (.of (pickers (.call "load" [] []))) "show" [] [] [.ret (.call "pick" [] [])]
          0).lines =
        [.code 0 "fn show() -> Value \x7b", .code 1 "return pick(Box::pin(load()).await);",
          .code 0 "\x7d"] := by
  refine ⟨?_, by decide +kernel⟩
  exact Service.forall_of_check 4 (by decide +kernel)

end ServiceCompiler.Rust
