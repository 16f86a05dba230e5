import ServiceCompiler.Build.Service
import ServiceCompiler.Proofs.Plan.HandlerNames
import ServiceCompiler.Proofs.Source.Emission
import ServiceCompiler.Target.PythonProgram

/-! # Parameter lists in Python

Python refuses a parameter without a default value behind one that has one. The parameters of a
route are put in groups, those of functions and methods stay as they are declared. Main statement:
which of the parameter lists in the program for a service are legal. -/

namespace ServiceCompiler

/-! ## Lists in two parts -/

section Rising

variable {α : Type} {has : α → Bool}

/-- Nothing without a mark stands behind something that is marked. -/
def Rising (has : α → Bool) (xs : List α) : Prop := xs.Pairwise fun x y => has x → has y

instance (has : α → Bool) : DecidablePred (Rising has) := fun xs =>
  inferInstanceAs (Decidable (xs.Pairwise _))

/-- The order of the marks is all that counts. -/
theorem rising_iff_marks {xs : List α} : Rising has xs ↔ Rising id (xs.map has) := by
  rw [Rising, Rising, List.pairwise_map]
  rfl

theorem rising_append {xs ys : List α} :
    Rising has (xs ++ ys) ↔
      Rising has xs ∧ Rising has ys ∧ ∀ x ∈ xs, ∀ y ∈ ys, has x → has y :=
  List.pairwise_append

theorem rising_of_all {b : Bool} {xs : List α} (h : ∀ x ∈ xs, has x = b) : Rising has xs :=
  List.Pairwise.imp_of_mem (fun hx hy _ hMark => by rw [h _ hy, ← h _ hx]; exact hMark)
    (List.pairwise_of_forall fun _ _ => trivial)

/-- What is not marked in front and what is marked behind do not matter. -/
theorem rising_between {front middle back : List α} (hFront : ∀ x ∈ front, has x = false)
    (hBack : ∀ x ∈ back, has x = true) :
    Rising has (front ++ middle ++ back) ↔ Rising has middle := by
  rw [rising_append, rising_append]
  constructor
  · exact fun h => h.1.2.1
  · intro h
    refine ⟨⟨rising_of_all hFront, h, fun x hx y _ hMark => ?_⟩, rising_of_all hBack,
      fun x _ y hy _ => hBack y hy⟩
    rw [hFront x hx] at hMark
    cases hMark

end Rising

namespace Python

open ServiceCompiler.Core (Service Route QueryParam Field Function Method Record)
open Source (Emit)
open Source.Emit (Within collect)

/-- No parameter without a default value stands behind one that has a default value. -/
def Legal (ps : List Param) : Prop := Rising (·.default.isSome) ps

instance : DecidablePred Legal := fun ps => inferInstanceAs (Decidable (Rising _ ps))

/-! ## Marks of emitted parameters -/

/-- What is known of the values of an emission from its element alone. -/
theorem map_value_collect {α β γ : Type} {g : α → Emit β} {seen : β → γ} {known : α → γ}
    (h : ∀ x n, seen (g x n).value = known x) (xs : List α) (n : Nat) :
    (collect xs g n).value.map seen = xs.map known := by
  induction xs generalizing n with
  | nil => rfl
  | cons x xs ih =>
    rw [collect]
    exact congrArg₂ List.cons (h x n) (ih _)

/-- A parameter that a call can leave out. -/
def omissible (f : Field) : Bool := f.default.isSome || !f.required

theorem isSome_param (f : Field) (n : Nat) :
    (param f n).value.default.isSome = omissible f := by
  unfold param omissible
  cases f.default with
  | some value => rfl
  | none => cases f.required <;> rfl

theorem legal_params (fs : List Field) (n : Nat) :
    Legal (params fs n).value ↔ Rising omissible fs := by
  rw [Legal, rising_iff_marks, params, map_value_collect isSome_param, ← rising_iff_marks]

theorem legal_methodParams (ps : List Param) : Legal (methodParams ps) ↔ Legal ps :=
  ⟨fun h => (List.pairwise_cons.mp h).2, fun h => .cons (fun _ _ hMark => nomatch hMark) h⟩

/-- A query that a request must have. -/
def demanded (q : QueryParam) : Bool := q.required && q.default.isNone

/-- Whether a parameter of the query stands behind the required ones, and whether it has a default
value. -/
def marks (p : Bool × Param) : Bool × Bool := (p.1, p.2.default.isSome)

theorem marks_queryParam (q : QueryParam) (n : Nat) :
    marks (queryParam q n).value = (!demanded q, !demanded q || q.isArray) := by
  unfold queryParam demanded
  cases q.default with
  | some value => cases q.required <;> rfl
  | none => cases q.required <;> cases q.isArray <;> rfl

/-- The parameters of a query in a group of their list. -/
def picked (optional : Bool) (queries : List (Bool × Param)) : List Param :=
  (queries.filter (·.1 == optional)).map (·.2)

theorem map_isSome_picked (optional : Bool) (queries : List (Bool × Param)) :
    (picked optional queries).map (·.default.isSome) =
      ((queries.map marks).filter (·.1 == optional)).map (·.2) := by
  rw [picked, List.map_map, List.filter_map, List.map_map]
  rfl

theorem isSome_of_mem_picked {qs : List QueryParam} {n : Nat} {p : Param}
    (hp : p ∈ picked true (collect qs queryParam n).value) : p.default.isSome = true := by
  have hMark : p.default.isSome ∈
      (picked true (collect qs queryParam n).value).map (·.default.isSome) :=
    List.mem_map_of_mem hp
  rw [map_isSome_picked, map_value_collect marks_queryParam] at hMark
  obtain ⟨mark, hFilter, hSome⟩ := List.mem_map.mp hMark
  obtain ⟨hMem, hOptional⟩ := List.mem_filter.mp hFilter
  obtain ⟨q, -, rfl⟩ := List.mem_map.mp hMem
  rw [← hSome, Bool.or_eq_true]
  exact .inl (by simpa using hOptional)

theorem legal_picked (qs : List QueryParam) (n : Nat) :
    Legal (picked false (collect qs queryParam n).value) ↔
      Rising (·.isArray) (qs.filter demanded) := by
  have hMarks : (picked false (collect qs queryParam n).value).map (·.default.isSome) =
      (qs.filter demanded).map (·.isArray) := by
    rw [map_isSome_picked, map_value_collect marks_queryParam, List.filter_map, List.map_map]
    simp only [Function.comp_def, beq_false, Bool.not_not]
    refine List.map_congr_left fun q hq => ?_
    rw [(List.mem_filter.mp hq).2, Bool.not_true, Bool.false_or]
  rw [Legal, rising_iff_marks, hMarks, ← rising_iff_marks]

theorem legal_routeParams (s : Service) (r : Route) (n : Nat) :
    Legal (routeParams s r n).value ↔ Rising (·.isArray) (r.query.filter demanded) := by
  let queries := (collect r.query queryParam n).value
  let path : List Param := r.pathParams.map fun name => ⟨name, some "str", none⟩
  let input : List Param := (r.input.map fun t => ⟨"input", some (inputType s t), none⟩).toList
  let injected : List Param :=
    r.injections.map fun i => ⟨i.name, none, some s!"Depends({Plan.accessorName i.type})"⟩
  have hParams : (routeParams s r n).value =
      (path ++ input) ++ picked false queries ++ (picked true queries ++ injected) :=
    List.append_assoc _ _ _
  have hFront : ∀ p ∈ path ++ input, p.default.isSome = false := by
    rw [List.forall_mem_append]
    constructor
    · rintro _ hp
      obtain ⟨_, -, rfl⟩ := List.mem_map.mp hp
      rfl
    · rintro _ hp
      obtain ⟨_, -, rfl⟩ := Option.map_eq_some_iff.mp (Option.mem_toList.mp hp)
      rfl
  have hBack : ∀ p ∈ picked true queries ++ injected, p.default.isSome = true := by
    rw [List.forall_mem_append]
    refine ⟨fun p hp => isSome_of_mem_picked hp, ?_⟩
    rintro _ hp
    obtain ⟨_, -, rfl⟩ := List.mem_map.mp hp
    rfl
  -- the fixed parts are in order by themselves; only the query parameters between them matter
  rw [hParams, Legal, rising_between hFront hBack]
  exact legal_picked r.query n

/-! ## Headers -/

/-- A definition is written whose header has the parameters that an emission gives. -/
def Defines {α : Type} (e : Emit α) (depth : Nat) (header : List Param → String)
    (ps : Emit (List Param)) : Prop :=
  ∀ n, ∃ k, .code depth (header (ps k).value) ∈ (e n).lines

variable {α β : Type} {m : Emit α} {e : Emit β} {depth : Nat} {header : List Param → String}
  {ps : Emit (List Param)}

theorem Defines.within (h : Defines m depth header ps) (hWithin : m.Within e) :
    Defines e depth header ps := by
  intro n
  obtain ⟨j, hInfix⟩ := hWithin n
  obtain ⟨k, hMem⟩ := h j
  exact ⟨k, hInfix.subset hMem⟩

theorem Defines.nest (h : Defines m depth header ps) :
    Defines (Source.Emit.nest m) (depth + 1) header ps := by
  intro n
  obtain ⟨k, hMem⟩ := h n
  exact ⟨k, List.mem_map_of_mem hMem⟩

def routeHeader (name : String) (ps : List Param) : String :=
  s!"async def {name}({paramTexts ps}):"

theorem defines_routeLines (s : Service) (r : Route) (name : String) :
    Defines (routeLines s r name) 0 (routeHeader name) (routeParams s r) :=
  fun n => ⟨n, List.mem_append_right _ (.tail _ (.head _))⟩

theorem defines_routesSection {s : Service} {r : Route} {name : String}
    (h : (r, name) ∈ s.routes.zip (Plan.routeNames s.routes)) :
    Defines (routesSection s) 0 (routeHeader name) (routeParams s r) := by
  refine (defines_routeLines s r name).within ?_
  refine Within.trans ?_ (Source.Emit.within_each h _)
  exact .after _ fun _ => .refl _

def functionHeader (f : Function) (ps : List Param) : String :=
  let result :=
    match f.result with
    | some t => s!" -> {typeText t}"
    | none => ""
  s!"{defText (Core.Stmt.bodyAwaits f.body)} {f.name}({paramTexts ps}){result}:"

theorem defines_functionLines (f : Function) :
    Defines (functionLines f) 0 (functionHeader f) (params f.params) :=
  fun n => ⟨n, List.mem_append_right _ (List.mem_append_right _ (.head _))⟩

theorem defines_function {s : Service} {f : Function} (hf : f ∈ s.functions) :
    Defines (typesSection s) 0 (functionHeader f) (params f.params) := by
  have hFunctions := Source.Emit.within_each hf functionLines
  refine (defines_functionLines f).within ?_
  exact .after _ fun _ => .after _ fun _ => .after _ fun _ => .after _ fun _ => hFunctions.before _

def methodHeader (m : Method) (ps : List Param) : String :=
  s!"{defText (Core.Stmt.bodyAwaits m.body)} {m.name}({paramTexts (methodParams ps)}) -> {typeText m.result}:"

theorem defines_methodLines (m : Method) :
    Defines (methodLines m) 0 (methodHeader m) (params m.params) :=
  fun n => ⟨n, List.mem_append_right _ (List.mem_append_right _ (.head _))⟩

theorem defines_recordLines {r : Record} {m : Method} (hm : m ∈ r.methods) :
    Defines (recordLines r) 1 (methodHeader m) (params m.params) := by
  have hMethods := Source.Emit.within_each hm methodLines
  refine (defines_methodLines m).nest.within ?_
  exact .after _ fun _ => .after _ fun _ => (Within.after _ fun _ => .after _ fun _ => hMethods).nest

theorem defines_method {s : Service} {r : Record} (hr : r ∈ s.records) {m : Method}
    (hm : m ∈ r.methods) : Defines (typesSection s) 1 (methodHeader m) (params m.params) := by
  refine (defines_recordLines hm).within ?_
  refine .after _ fun _ => .before (Within.trans ?_ (Source.Emit.within_each hr _)) _
  exact .after _ fun _ => .refl _

/-- The parameter list of a route is legal exactly if none of the single values that a request must
have stands behind a list that it must have; the parameter list of a function or a method, exactly
if none that a call must give stands behind one that it can leave out. -/
theorem legal_signatures_iff (s : Service) (host : String) (port : UInt16) :
    (∀ r ∈ s.routes,
      (∃ name, (r, name) ∈ s.routes.zip (Plan.routeNames s.routes) ∧
        Defines (emitSection s host port .routes) 0 (routeHeader name) (routeParams s r)) ∧
      ∀ n, Legal (routeParams s r n).value ↔ Rising (·.isArray) (r.query.filter demanded)) ∧
    (∀ f ∈ s.functions,
      Defines (emitSection s host port .types) 0 (functionHeader f) (params f.params) ∧
      ∀ n, Legal (params f.params n).value ↔ Rising omissible f.params) ∧
    ∀ r ∈ s.records, ∀ m ∈ r.methods,
      Defines (emitSection s host port .types) 1 (methodHeader m) (params m.params) ∧
      ∀ n, Legal (methodParams (params m.params n).value) ↔ Rising omissible m.params := by
  refine ⟨fun r hr => ⟨?_, legal_routeParams s r⟩, fun f hf => ⟨defines_function hf, legal_params _⟩,
    fun r hr m hm => ⟨defines_method hr hm, fun n => ?_⟩⟩
  · obtain ⟨name, hName⟩ := Plan.exists_name_of_mem (f := Plan.routeBase) hr
    exact ⟨name, hName, defines_routesSection hName⟩
  · exact (legal_methodParams _).trans (legal_params m.params n)

/-- Everything that a list of parameters can hold, in an order that is legal. -/
def shelves : Surface.Program where
  items := [
    .typeDecl ⟨"Shelf", [], [], [], [⟨"find", [⟨"title", some .string, true, none, []⟩,
      ⟨"limit", some .int, false, none, []⟩], some .bool, []⟩]⟩,
    .route ⟨.post, "/shelves/:id", some (.named "Shelf"), none, none, none, [],
      [⟨"db", some .database⟩],
      [⟨"sort", some .string, false, none, false⟩, ⟨"page", some .int, true, none, false⟩,
        ⟨"tags", some .string, true, none, true⟩], []⟩,
    .function ⟨"lend", [], [⟨"title", some .string, true, none, []⟩,
      ⟨"days", some .int, true, some (.literal (.int 14)), []⟩], none, []⟩]

/-- The same with the required list first, and with parameters that have a default value first. -/
def piles : Surface.Program where
  items := [
    .typeDecl ⟨"Shelf", [], [], [], [⟨"find", [⟨"limit", some .int, false, none, []⟩,
      ⟨"title", some .string, true, none, []⟩], some .bool, []⟩]⟩,
    .route ⟨.get, "/items", none, none, none, none, [], [],
      [⟨"tags", some .string, true, none, true⟩, ⟨"page", some .int, true, none, false⟩], []⟩,
    .function ⟨"lend", [], [⟨"days", some .int, true, some (.literal (.int 14)), []⟩,
      ⟨"title", some .string, true, none, []⟩], none, []⟩]

theorem legal_signatures_iff_shelves : ∃ b, Build.build shelves = .ok b ∧
    (∃ r ∈ b.service.routes, paramTexts (routeParams b.service r 0).value =
      "id: str, input: Shelf, page: int, tags: List[str] = Query(...), " ++
        "sort: Optional[str] = None, db = Depends(get_db)" ∧
      Legal (routeParams b.service r 0).value) ∧
    (∃ f ∈ b.service.functions, Legal (params f.params 0).value) ∧
    ∃ r ∈ b.service.records, ∃ m ∈ r.methods, Legal (methodParams (params m.params 0).value) := by
  obtain ⟨b, hBuild⟩ : ∃ b, Build.build shelves = .ok b := ⟨_, rfl⟩
  obtain ⟨hRoutes, hFunctions, hMethods⟩ := legal_signatures_iff b.service "0.0.0.0" 8000
  refine ⟨b, hBuild, ?_⟩
  cases hBuild
  exact ⟨⟨_, .head _, by decide +kernel, ((hRoutes _ (.head _)).2 0).mpr (by decide)⟩,
    ⟨_, .head _, ((hFunctions _ (.head _)).2 0).mpr (by decide)⟩,
    _, .head _, _, .head _, ((hMethods _ (.head _) _ (.head _)).2 0).mpr (by decide)⟩

theorem signatures_refused_piles : ∃ b, Build.build piles = .ok b ∧
    (∃ r ∈ b.service.routes, ¬ Legal (routeParams b.service r 0).value) ∧
    (∃ f ∈ b.service.functions, ¬ Legal (params f.params 0).value) ∧
    (∃ r ∈ b.service.records, ∃ m ∈ r.methods,
      ¬ Legal (methodParams (params m.params 0).value)) ∧
    .code 0 "async def get_items(tags: List[str] = Query(...), page: int):" ∈
      (emitSection b.service "0.0.0.0" 8000 .routes 0).lines ∧
    .code 0 "def lend(days: int = 14, title: str):" ∈
      (emitSection b.service "0.0.0.0" 8000 .types 0).lines ∧
    .code 1 "def find(self, limit: Optional[int] = None, title: str) -> bool:" ∈
      (emitSection b.service "0.0.0.0" 8000 .types 0).lines := by
  obtain ⟨b, hBuild⟩ : ∃ b, Build.build piles = .ok b := ⟨_, rfl⟩
  refine ⟨b, hBuild, ?_⟩
  cases hBuild
  exact ⟨⟨_, .head _, by decide +kernel⟩, ⟨_, .head _, by decide +kernel⟩,
    ⟨_, .head _, _, .head _, by decide +kernel⟩, by decide +kernel, by decide +kernel,
    by decide +kernel⟩

end Python

end ServiceCompiler
