import ServiceCompiler.Proofs.Build.Offence

/-! # Failed builds

A build fails exactly if some item of the program offends. It names the first declaration that does
or, if all types and contracts can be declared, the first other item that does. What stands in
bodies, defaults and values never matters. -/

namespace ServiceCompiler.Surface

/-- Every item with those before it; all stand behind the items of `past`. -/
def history (past : List Item) : List Item → List (List Item × Item)
  | [] => []
  | item :: items => (past, item) :: history (past ++ [item]) items

theorem mem_history {past before : List Item} {item : Item} {items : List Item} :
    (before, item) ∈ history past items ↔
      ∃ passed rest, items = passed ++ item :: rest ∧ before = past ++ passed := by
  induction items generalizing past with
  | nil => simp [history]
  | cons first items ih =>
    simp only [history, List.mem_cons, Prod.mk.injEq, ih]
    constructor
    · rintro (⟨rfl, rfl⟩ | ⟨passed, rest, rfl, rfl⟩)
      · exact ⟨[], items, rfl, by simp⟩
      · exact ⟨first :: passed, rest, rfl, by simp⟩
    · rintro ⟨_ | ⟨head, passed⟩, rest, hItems, rfl⟩
      · obtain ⟨rfl, rfl⟩ := List.cons.inj hItems
        exact .inl ⟨by simp, rfl⟩
      · obtain ⟨rfl, rfl⟩ := List.cons.inj hItems
        exact .inr ⟨passed, rest, rfl, by simp⟩

def declarationOffends (entry : List Item × Item) : Bool :=
  entry.2.declares && decide (entry.2.Offends entry.1)

def bindingOffends (entry : List Item × Item) : Bool :=
  !entry.2.declares && decide (entry.2.Offends entry.1)

/-- The item that a failure is about, with those before it. -/
def firstOffender (items : List Item) : Option (List Item × Item) :=
  ((history [] items).find? declarationOffends).or ((history [] items).find? bindingOffends)

/-! ## Bodies and values -/

def Field.bare (f : Field) : Field := { f with default := none }

def ContractMethod.bare (m : ContractMethod) : ContractMethod :=
  { m with params := m.params.map Field.bare }

/-- An item without all its statements and expressions: bodies, defaults, values and arguments of
middleware. -/
def Item.bare : Item → Item
  | .typeDecl d => .typeDecl { d with
      fields := d.fields.map Field.bare
      methods := d.methods.map fun m => { m with params := m.params.map Field.bare, body := [] } }
  | .contract c => .contract { c with methods := c.methods.map ContractMethod.bare }
  | .route r => .route { r with
      middleware := r.middleware.map fun m => { m with args := [] }
      query := r.query.map fun q => { q with default := none }
      body := [] }
  | .function f => .function { f with params := f.params.map Field.bare, body := [] }
  | .cron j => .cron { j with body := [] }
  | .event h => .event { h with body := [] }
  | .queue w => .queue { w with body := [] }
  | .command c => .command { c with
      params := c.params.map fun p => { p with default := none }
      body := [] }
  | .rpcHandler h => .rpcHandler { h with params := h.params.map Field.bare, body := [] }
  | .resolver r => .resolver { r with params := r.params.map Field.bare, body := [] }
  | .socket r => .socket { r with handlers := r.handlers.map fun h => { h with body := [] } }
  | .constant c => .constant { c with value := none }
  | .test name _ => .test name []
  | .macroDecl name params _ => .macroDecl name params []
  | .traitDecl name methods => .traitDecl name (methods.map ContractMethod.bare)
  | .moduleName name => .moduleName name
  | .importing path shortName => .importing path shortName
  | .rpcService s => .rpcService s
  | .staticRoute path dir => .staticRoute path dir
  | .unsupported => .unsupported

def Program.bare (p : Program) : Program := ⟨p.items.map Item.bare⟩

@[simp] theorem Item.typeName?_bare (item : Item) : item.bare.typeName? = item.typeName? := by
  cases item <;> rfl

@[simp] theorem Item.contractName?_bare (item : Item) :
    item.bare.contractName? = item.contractName? := by
  cases item <;> rfl

@[simp] theorem Item.declares_bare (item : Item) : item.bare.declares = item.declares := by
  cases item <;> rfl

@[simp] theorem Item.injections_bare (item : Item) : item.bare.injections = item.injections := by
  cases item <;> rfl

@[simp] theorem Item.signatureTypes_bare (item : Item) :
    item.bare.signatureTypes = item.signatureTypes := by
  cases item <;> simp [bare, signatureTypes, Field.bare, ContractMethod.bare, List.flatMap_map]

theorem Item.misnamed_bare (past : List Item) (item : Item) :
    item.bare.misnamed (past.map bare) = item.misnamed past := by
  have hTypes : (past.map bare).filterMap (·.typeName?) = past.filterMap (·.typeName?) := by
    rw [List.filterMap_map]
    exact congrArg (List.filterMap · past) (funext typeName?_bare)
  have hContracts :
      (past.map bare).filterMap (·.contractName?) = past.filterMap (·.contractName?) := by
    rw [List.filterMap_map]
    exact congrArg (List.filterMap · past) (funext contractName?_bare)
  cases item with
  | typeDecl d =>
    rw [misnamed, ← hTypes]
    rfl
  | contract c =>
    have hMethods : (c.methods.map ContractMethod.bare).any (·.name = "") =
        c.methods.any (·.name = "") := by
      rw [List.any_map]
      rfl
    rw [misnamed, ← hContracts, ← hMethods]
    rfl
  | _ => rfl

theorem Item.offends_bare (past : List Item) (item : Item) :
    item.bare.Offends (past.map bare) ↔ item.Offends past := by
  rw [Offends, Offends, misnamed_bare, injections_bare, signatureTypes_bare]

theorem history_bare (past items : List Item) :
    history (past.map Item.bare) (items.map Item.bare) =
      (history past items).map fun entry => (entry.1.map Item.bare, entry.2.bare) := by
  induction items generalizing past with
  | nil => rfl
  | cons item items ih =>
    have hRest := ih (past ++ [item])
    rw [List.map_append] at hRest
    simpa [history] using hRest

theorem firstOffender_bare (items : List Item) :
    firstOffender (items.map Item.bare) =
      (firstOffender items).map fun entry => (entry.1.map Item.bare, entry.2.bare) := by
  have hHistory := history_bare [] items
  rw [List.map_nil] at hHistory
  simp only [firstOffender, hHistory, List.find?_map, Option.map_or]
  congr 3 <;> funext entry <;>
    simp [declarationOffends, bindingOffends, Item.offends_bare]

end ServiceCompiler.Surface

namespace ServiceCompiler.Build

open Outcome
open Surface (history declarationOffends bindingOffends firstOffender)

/-- The kind and name of the declaration that a failure is about. -/
def blamed {α : Type} : Except Failure α → Option (Place × String)
  | .ok _ => none
  | .error f => some (f.place, f.name)

/-- The kind of declaration that a message calls an item, if it may name it at all. -/
def placeOf : Surface.Item → Option Place
  | .typeDecl _ => some .type
  | .contract _ => some .contract
  | .route _ => some .route
  | .function _ => some .function
  | .cron _ => some .cronJob
  | .event _ => some .eventHandler
  | .queue _ => some .queueWorker
  | .command _ => some .command
  | .rpcService _ => some .rpcService
  | .rpcHandler _ => some .rpcHandler
  | .resolver _ => some .resolver
  | .socket _ => some .socket
  | .constant _ => some .constant
  | .moduleName _ | .importing _ _ | .test _ _ | .macroDecl _ _ _ | .traitDecl _ _
  | .staticRoute _ _ | .unsupported => none

/-- The name of an item in messages; a job without one has a number. -/
def nameOf (number : Nat) : Surface.Item → String
  | .typeDecl d => d.name
  | .contract c => c.name
  | .route r => r.method.name ++ " " ++ r.path
  | .function f => f.name
  | .cron j => if j.name = "" then "cron_job_" ++ toString number else j.name
  | .event h => h.event
  | .queue w => w.queue
  | .command c => c.name
  | .rpcService s => s.name
  | .rpcHandler h => h.service ++ "." ++ h.method
  | .resolver r => r.field
  | .socket r => r.path
  | .constant c => c.name
  | _ => ""

/-- The kind and name of an item behind others; jobs are counted from the first item on. -/
def title (entry : List Surface.Item × Surface.Item) : Option (Place × String) :=
  (placeOf entry.2).map fun place =>
    (place, nameOf ((entry.1 ++ [entry.2]).countP isCron) entry.2)

/-! ## One item -/

theorem scope_eq_title (past : List Surface.Item) (item : Surface.Item) :
    scope ((past ++ [item]).countP isCron) item = title (past, item) := by
  cases item with
  | cron j =>
    by_cases hEmpty : j.name = ""
    · simp only [scope, title, placeOf, nameOf, cronName, hEmpty]
      rfl
    · simp [scope, title, placeOf, nameOf, cronName, hEmpty]
  | _ => rfl

theorem exists_title_of_offends {past : List Surface.Item} {item : Surface.Item}
    (hOffends : item.Offends past) : ∃ found, title (past, item) = some found := by
  cases item with
  | moduleName | importing | test | macroDecl | traitDecl | staticRoute | unsupported =>
    simp [Surface.Item.Offends, Surface.Item.misnamed, Surface.Item.injections,
      Surface.Item.signatureTypes] at hOffends
  | _ => exact ⟨_, rfl⟩

theorem blamed_bind_pure {α β : Type} (x : Except Failure α) (f : α → β) :
    blamed (x >>= fun a => pure (f a)) = blamed x := by
  cases x <;> rfl

theorem blamed_within {α : Type} {x : Lowered α} {offends : Prop} [Decidable offends]
    (hFails : Fails x ↔ offends) (place : Place) (name : String) :
    blamed (within place name x) = if offends then some (place, name) else none := by
  cases x with
  | ok a =>
    have hFine : ¬ offends := fun h => by simpa using hFails.mpr h
    simp [within, blamed, hFine]
  | error cause =>
    have hOffends : offends := hFails.mp ⟨cause, rfl⟩
    simp [within, blamed, hOffends]

theorem blamed_declare {past : List Surface.Item} {d : Declarations} (hDeclared : Declared past d)
    (item : Surface.Item) :
    blamed (declare d item) =
      if declarationOffends (past, item) then title (past, item) else none := by
  cases item with
  | typeDecl decl =>
    rw [declare, blamed_bind_pure, blamed_within (hDeclared.fails_lowerRecord decl)]
    simp [declarationOffends, Surface.Item.declares, title, placeOf, nameOf]
  | contract c =>
    rw [declare, blamed_bind_pure, blamed_within (hDeclared.fails_lowerContract c)]
    simp [declarationOffends, Surface.Item.declares, title, placeOf, nameOf]
  | _ => simp [declare, blamed, declarationOffends, Surface.Item.declares]

theorem blamed_bind (past : List Surface.Item) (item : Surface.Item) :
    blamed (bind ((past ++ [item]).countP isCron, item)) =
      if bindingOffends (past, item) then title (past, item) else none := by
  rw [← scope_eq_title]
  generalize (past ++ [item]).countP isCron = number
  cases hDeclares : item.declares with
  | true =>
    cases item with
    | typeDecl | contract => simp [bind, scope, within, lowerBinding, blamed,
        bindingOffends, Surface.Item.declares]
    | _ => cases hDeclares
  | false =>
    cases hScope : scope number item with
    | none => simp [bind, hScope, blamed]
    | some found =>
      simp only [bind, hScope]
      rw [blamed_within (fails_lowerBinding hDeclares number past)]
      simp [bindingOffends, hDeclares]

/-! ## All items -/

/-- A test for items that only offenders do not pass. -/
def Finds (test : List Surface.Item × Surface.Item → Bool) : Prop :=
  ∀ past item, test (past, item) = true → item.Offends past

theorem finds_declarationOffends : Finds declarationOffends := by
  intro past item hTest
  simp only [declarationOffends, Bool.and_eq_true, decide_eq_true_eq] at hTest
  exact hTest.2

theorem finds_bindingOffends : Finds bindingOffends := by
  intro past item hTest
  simp only [bindingOffends, Bool.and_eq_true, decide_eq_true_eq] at hTest
  exact hTest.2

/-- One step of a run that stops at the first offender. -/
theorem blamed_bind_find {test : List Surface.Item × Surface.Item → Bool} (hFinds : Finds test)
    {α β : Type} {x : Except Failure α} {f : α → Except Failure β} {past : List Surface.Item}
    {item : Surface.Item} {entries : List (List Surface.Item × Surface.Item)}
    (hStep : blamed x = if test (past, item) then title (past, item) else none)
    (hRest : ∀ a, x = .ok a → blamed (f a) = (entries.find? test).bind title) :
    blamed (x >>= f) = (((past, item) :: entries).find? test).bind title := by
  cases x with
  | error e =>
    have hTest : test (past, item) = true := by
      refine Classical.byContradiction fun hFine => ?_
      rw [if_neg hFine] at hStep
      cases hStep
    rw [List.find?_cons_of_pos hTest]
    rw [if_pos hTest] at hStep
    exact hStep
  | ok a =>
    have hFine : ¬ test (past, item) = true := by
      intro hTest
      obtain ⟨found, hFound⟩ := exists_title_of_offends (hFinds past item hTest)
      rw [if_pos hTest, hFound] at hStep
      cases hStep
    rw [List.find?_cons_of_neg hFine]
    exact hRest a rfl

theorem blamed_declarations {past : List Surface.Item} {d : Declarations}
    (hDeclared : Declared past d) (items : List Surface.Item) :
    blamed (items.foldlM declare d) =
      ((history past items).find? declarationOffends).bind title := by
  induction items generalizing past d with
  | nil => rfl
  | cons item items ih =>
    rw [List.foldlM_cons, history]
    refine blamed_bind_find finds_declarationOffends (blamed_declare hDeclared item) ?_
    intro next hNext
    exact ih (hDeclared.step hNext)

theorem blamed_numbered (past items : List Surface.Item) :
    blamed ((numbered (past.countP isCron) items).mapM bind) =
      ((history past items).find? bindingOffends).bind title := by
  induction items generalizing past with
  | nil => rfl
  | cons item items ih =>
    have hNumber : (if isCron item then past.countP isCron + 1 else past.countP isCron) =
        (past ++ [item]).countP isCron := by
      cases hCron : isCron item <;> simp [hCron]
    rw [numbered, hNumber, List.mapM_cons, history]
    refine blamed_bind_find finds_bindingOffends (blamed_bind past item) ?_
    intro found _
    rw [blamed_bind_pure]
    exact ih (past ++ [item])

theorem mem_of_firstOffender {items past : List Surface.Item} {item : Surface.Item}
    (hFirst : firstOffender items = some (past, item)) :
    (past, item) ∈ history [] items ∧ item.Offends past := by
  rcases Option.or_eq_some_iff.mp hFirst with hDeclaration | ⟨-, hBinding⟩
  · exact ⟨List.mem_of_find?_eq_some hDeclaration,
      finds_declarationOffends _ _ (List.find?_some hDeclaration)⟩
  · exact ⟨List.mem_of_find?_eq_some hBinding,
      finds_bindingOffends _ _ (List.find?_some hBinding)⟩

theorem exists_firstOffender {items past : List Surface.Item} {item : Surface.Item}
    (hMem : (past, item) ∈ history [] items) (hOffends : item.Offends past) :
    ∃ entry, firstOffender items = some entry := by
  rw [← Option.isSome_iff_exists, firstOffender, Option.isSome_or, Bool.or_eq_true,
    List.find?_isSome, List.find?_isSome]
  cases hDeclares : item.declares with
  | true => exact .inl ⟨_, hMem, by simp [declarationOffends, hDeclares, hOffends]⟩
  | false => exact .inr ⟨_, hMem, by simp [bindingOffends, hDeclares, hOffends]⟩

theorem blamed_build_eq (p : Surface.Program) :
    blamed (build p) = (firstOffender p.items).bind title := by
  have hDeclarations := blamed_declarations Declared.nothing p.items
  have hBindings := blamed_numbered [] p.items
  rw [build, blamed_bind_pure, service, firstOffender]
  -- the bindings are looked at only if no declaration offends
  cases hFind : (history [] p.items).find? declarationOffends with
  | some entry =>
    obtain ⟨found, hTitle⟩ :=
      exists_title_of_offends (finds_declarationOffends _ _ (List.find?_some hFind))
    rw [hFind, Option.bind_some, hTitle] at hDeclarations
    cases hRun : declarations p.items with
    | ok d =>
      rw [← declarations, hRun] at hDeclarations
      cases hDeclarations
    | error f =>
      rw [← declarations, hRun] at hDeclarations
      rw [Option.some_or, Option.bind_some, hTitle]
      exact hDeclarations
  | none =>
    rw [hFind, Option.bind_none] at hDeclarations
    cases hRun : declarations p.items with
    | ok d =>
      rw [ok_bind, blamed_bind_pure, bindings, blamed_bind_pure, Option.none_or]
      exact hBindings
    | error f =>
      rw [← declarations, hRun] at hDeclarations
      cases hDeclarations

theorem fails_build (p : Surface.Program) :
    Fails (build p) ↔ ∃ (past : List Surface.Item) (item : Surface.Item) (rest : List Surface.Item),
      p.items = past ++ item :: rest ∧ item.Offends past := by
  have hBlamed := blamed_build_eq p
  constructor
  · rintro ⟨f, hError⟩
    rw [hError] at hBlamed
    obtain ⟨⟨past, item⟩, hFirst, -⟩ := Option.bind_eq_some_iff.mp hBlamed.symm
    obtain ⟨hMem, hOffends⟩ := mem_of_firstOffender hFirst
    obtain ⟨passed, rest, hItems, hPast⟩ := Surface.mem_history.mp hMem
    rw [List.nil_append] at hPast
    exact ⟨past, item, rest, hPast ▸ hItems, hOffends⟩
  · rintro ⟨past, item, rest, hItems, hOffends⟩
    have hMem : (past, item) ∈ history [] p.items :=
      Surface.mem_history.mpr ⟨past, rest, hItems, rfl⟩
    obtain ⟨⟨before, first⟩, hFirst⟩ := exists_firstOffender hMem hOffends
    obtain ⟨found, hTitle⟩ := exists_title_of_offends (mem_of_firstOffender hFirst).2
    rw [hFirst, Option.bind_some, hTitle] at hBlamed
    cases hBuild : build p with
    | ok b =>
      rw [hBuild] at hBlamed
      cases hBlamed
    | error f => simp

theorem isCron_bare (item : Surface.Item) : isCron item.bare = isCron item := by
  cases item <;> rfl

theorem title_bare (past : List Surface.Item) (item : Surface.Item) :
    title (past.map Surface.Item.bare, item.bare) = title (past, item) := by
  have hCount : (past.map Surface.Item.bare ++ [item.bare]).countP isCron =
      (past ++ [item]).countP isCron := by
    simp [List.countP_append, List.countP_map, isCron_bare, Function.comp_def,
      List.countP_singleton]
  have hPlace : placeOf item.bare = placeOf item := by cases item <;> rfl
  have hName (number : Nat) : nameOf number item.bare = nameOf number item := by
    cases item <;> rfl
  simp only [title, hCount, hPlace, hName]

theorem blamed_build_bare (p : Surface.Program) : blamed (build p.bare) = blamed (build p) := by
  rw [blamed_build_eq, blamed_build_eq, Surface.Program.bare, Surface.firstOffender_bare]
  cases firstOffender p.items with
  | none => rfl
  | some entry => exact title_bare entry.1 entry.2

/-- A build fails exactly if some item offends, names the first offender, declarations before all
else, and does so whatever the program has in its bodies and values. -/
theorem build_fails_iff_offends (p : Surface.Program) :
    ((∃ f, build p = .error f) ↔
      ∃ past item rest, p.items = past ++ item :: rest ∧ item.Offends past) ∧
      blamed (build p) = (firstOffender p.items).bind title ∧
      blamed (build p.bare) = blamed (build p) :=
  ⟨fails_build p, blamed_build_eq p, blamed_build_bare p⟩

-- the type is named, though the job offends too and stands before it
example : blamed (build ⟨[.cron ⟨"", "@daily", none, 0, [⟨"db", none⟩], []⟩,
    .typeDecl ⟨"Order", [], [], [⟨"id", some (.array (.named "")), true, none, []⟩], []⟩]⟩) =
    some (.type, "Order") := by
  decide

end ServiceCompiler.Build
