import ServiceCompiler.Proofs.Build.Registry
import ServiceCompiler.Surface.Keyword

/-! # Interleaved declarations

The items of one kind keep their order in a service, but it does not matter how the kinds are
interleaved. Main statement: two programs whose items of each kind are the same, in the same order,
are both services or both none, and the services differ at most in the order of the registry and of
the warnings. A remote service and its handlers are of one kind, since the first of them that is
declared gives the service its place. -/

namespace ServiceCompiler

section Keys

variable {α κ : Type} [DecidableEq κ] {key : α → κ} {as bs : List α}

theorem perm_of_filter_eq (hKeys : ∀ k, as.filter (key · = k) = bs.filter (key · = k)) :
    as.Perm bs := by
  classical
  rw [List.perm_iff_count]
  intro a
  have hCount (cs : List α) : (cs.filter (key · = key a)).count a = cs.count a :=
    List.count_filter (by simp)
  rw [← hCount as, hKeys, hCount bs]

/-- What comes from the elements with one key only. -/
theorem flatMap_eq_of_filter_eq (hKeys : ∀ k, as.filter (key · = k) = bs.filter (key · = k))
    {β : Type} {f : α → List β} (k : κ) (hOnly : ∀ a, key a ≠ k → f a = []) :
    as.flatMap f = bs.flatMap f := by
  have hFilter (cs : List α) : (cs.filter (key · = k)).flatMap f = cs.flatMap f := by
    induction cs with
    | nil => rfl
    | cons c cs ih =>
      by_cases hKey : key c = k
      · simp [hKey, ih]
      · simp [hKey, hOnly c hKey, ih]
  rw [← hFilter as, hKeys, hFilter bs]

theorem filterMap_eq_of_filter_eq (hKeys : ∀ k, as.filter (key · = k) = bs.filter (key · = k))
    {β : Type} {select : α → Option β} (k : κ) (hOnly : ∀ a b, select a = some b → key a = k) :
    as.filterMap select = bs.filterMap select := by
  have hLists (cs : List α) : cs.filterMap select = cs.flatMap fun c => (select c).toList := by
    induction cs with
    | nil => rfl
    | cons c cs ih => cases hSelect : select c <;> simp [hSelect, ih]
  rw [hLists, hLists]
  refine flatMap_eq_of_filter_eq hKeys k fun a hKey => ?_
  cases hSelect : select a with
  | none => rfl
  | some b => exact absurd (hOnly a b hSelect) hKey

end Keys

end ServiceCompiler

namespace ServiceCompiler.Surface

/-- The kind of an item, where remote services and their handlers are of one kind. -/
def Item.strand (item : Item) : ItemKind :=
  match item.kind with
  | .rpcHandler => .rpcService
  | kind => kind

/-- Two programs with the same items of each kind, in the same order. -/
def Interleaves (p q : Program) : Prop :=
  ∀ strand, p.items.filter (·.strand = strand) = q.items.filter (·.strand = strand)

def Item.typeDecl? : Item → Option TypeDecl
  | .typeDecl d => some d
  | _ => none

def Item.contract? : Item → Option Contract
  | .contract c => some c
  | _ => none

end ServiceCompiler.Surface

namespace ServiceCompiler.Build

open Outcome
open Surface (Interleaves)

/-! ## Declarations

Types are declared behind types and contracts behind contracts. -/

def addRecord (rs : List Core.Record) (decl : Surface.TypeDecl) :
    Except Failure (List Core.Record) := do
  return rs ++ [← within .type decl.name (lowerRecord (rs.map (·.name)) decl)]

def addContract (cs : Contracts) (decl : Surface.Contract) : Except Failure Contracts := do
  return cs ++ [(decl.name, ← within .contract decl.name (lowerContract (cs.map (·.1)) decl))]

theorem declare_eq_ok {d d' : Declarations} {item : Surface.Item} :
    declare d item = .ok d' ↔
      item.typeDecl?.toList.foldlM addRecord d.records = .ok d'.records ∧
        item.contract?.toList.foldlM addContract d.contracts = .ok d'.contracts := by
  obtain ⟨rs, cs⟩ := d'
  cases item with
  | typeDecl decl =>
    simp [declare, addRecord, Surface.Item.typeDecl?, Surface.Item.contract?, bind_eq_ok,
      ← and_assoc]
  | contract decl =>
    simp [declare, addContract, Surface.Item.typeDecl?, Surface.Item.contract?, bind_eq_ok,
      and_left_comm]
  | _ =>
    obtain ⟨rs', cs'⟩ := d
    simp [declare, Surface.Item.typeDecl?, Surface.Item.contract?]

theorem foldlM_declare_eq_ok {d d' : Declarations} {items : List Surface.Item} :
    items.foldlM declare d = .ok d' ↔
      (items.filterMap (·.typeDecl?)).foldlM addRecord d.records = .ok d'.records ∧
        (items.filterMap (·.contract?)).foldlM addContract d.contracts = .ok d'.contracts := by
  induction items generalizing d with
  | nil =>
    obtain ⟨rs, cs⟩ := d
    obtain ⟨rs', cs'⟩ := d'
    simp
  | cons item items ih =>
    have hSplit {α : Type} (select : Surface.Item → Option α) :
        (item :: items).filterMap select = (select item).toList ++ items.filterMap select := by
      cases hSelect : select item <;> simp [hSelect]
    -- one item adds to the records or to the contracts, so the two runs go on apart
    rw [List.foldlM_cons, hSplit, hSplit, List.foldlM_append, List.foldlM_append]
    simp only [bind_eq_ok, ih, declare_eq_ok]
    constructor
    · rintro ⟨next, ⟨hRecord, hContract⟩, hRecords, hContracts⟩
      exact ⟨⟨_, hRecord, hRecords⟩, ⟨_, hContract, hContracts⟩⟩
    · rintro ⟨⟨rs, hRecord, hRecords⟩, ⟨cs, hContract, hContracts⟩⟩
      exact ⟨⟨rs, cs⟩, ⟨hRecord, hContract⟩, hRecords, hContracts⟩

theorem declarations_interleaved {p q : Surface.Program} (hItems : Interleaves p q)
    (d : Declarations) : declarations p.items = .ok d ↔ declarations q.items = .ok d := by
  have hTypes : p.items.filterMap (·.typeDecl?) = q.items.filterMap (·.typeDecl?) := by
    refine filterMap_eq_of_filter_eq hItems .typeDecl fun item decl hSelect => ?_
    cases item <;> cases hSelect
    rfl
  have hContracts : p.items.filterMap (·.contract?) = q.items.filterMap (·.contract?) := by
    refine filterMap_eq_of_filter_eq hItems .contract fun item c hSelect => ?_
    cases item <;> cases hSelect
    rfl
  rw [declarations, declarations, foldlM_declare_eq_ok, foldlM_declare_eq_ok, hTypes, hContracts]

theorem serviceName_interleaved {p q : Surface.Program} (hItems : Interleaves p q) :
    serviceName p = serviceName q := by
  have hModules : p.moduleName? = q.moduleName? := by
    rw [Surface.Program.moduleName?, Surface.Program.moduleName?, ← List.head?_filterMap,
      ← List.head?_filterMap]
    congr 1
    refine filterMap_eq_of_filter_eq hItems .moduleName fun item name hSelect => ?_
    cases item <;> cases hSelect
    rfl
  rw [serviceName, serviceName, hModules]

/-! ## Entries

Only jobs are numbered. Without the other numbers, the entries of two interleaved programs are
permutations of each other. -/

/-- The entry without a number that nothing depends on. -/
def jobNumbered (entry : Nat × Surface.Item) : Nat × Surface.Item :=
  (if isCron entry.2 then entry.1 else 0, entry.2)

theorem scope_jobNumbered (entry : Nat × Surface.Item) :
    scope (jobNumbered entry).1 (jobNumbered entry).2 = scope entry.1 entry.2 := by
  obtain ⟨number, item⟩ := entry
  cases item <;> rfl

theorem bind_jobNumbered (entry : Nat × Surface.Item) : bind (jobNumbered entry) = bind entry := by
  obtain ⟨number, item⟩ := entry
  cases item <;> rfl

theorem isCron_eq_true {item : Surface.Item} : isCron item = true ↔ item.strand = .cron := by
  cases item <;> simp [isCron, Surface.Item.strand, Surface.Item.kind]

/-- The entries of a program that say as much as its numbered items. -/
def entries (p : Surface.Program) : List (Nat × Surface.Item) :=
  (numbered 0 p.items).map jobNumbered

theorem filter_numbered (strand : Surface.ItemKind) (items : List Surface.Item) {jobs jobs' : Nat}
    (hJobs : strand = .cron → jobs = jobs') :
    ((numbered jobs items).map jobNumbered).filter (·.2.strand = strand) =
      (numbered jobs' (items.filter (·.strand = strand))).map jobNumbered := by
  induction items generalizing jobs jobs' with
  | nil => rfl
  | cons item items ih =>
    simp only [numbered, List.map_cons]
    by_cases hStrand : item.strand = strand
    · rw [List.filter_cons_of_pos (by simpa [jobNumbered] using hStrand),
        List.filter_cons_of_pos (by simpa using hStrand), numbered, List.map_cons]
      cases hCron : isCron item with
      | true =>
        -- a job of the strand has the same number in both lists
        obtain rfl := hJobs (hStrand ▸ isCron_eq_true.mp hCron)
        rw [ih fun _ => rfl]
      | false =>
        have hHead : jobNumbered (jobs, item) = jobNumbered (jobs', item) := by
          simp [jobNumbered, hCron]
        simp only [Bool.false_eq_true, if_false]
        rw [hHead, ih hJobs]
    · rw [List.filter_cons_of_neg (by simpa [jobNumbered] using hStrand),
        List.filter_cons_of_neg (by simpa using hStrand)]
      refine ih fun hCron => ?_
      have hOther : isCron item = false := by
        rw [← Bool.not_eq_true, isCron_eq_true, ← hCron]
        exact hStrand
      simpa [hOther] using hJobs hCron

theorem filter_entries {p q : Surface.Program} (hItems : Interleaves p q)
    (strand : Surface.ItemKind) :
    (entries p).filter (·.2.strand = strand) = (entries q).filter (·.2.strand = strand) := by
  rw [entries, entries, filter_numbered strand p.items fun _ => rfl,
    filter_numbered strand q.items fun _ => rfl, hItems strand]

theorem entries_perm {p q : Surface.Program} (hItems : Interleaves p q) :
    (entries p).Perm (entries q) :=
  perm_of_filter_eq (filter_entries hItems)

theorem flatMap_entries {α : Type} {f : Nat × Surface.Item → List α}
    (hf : ∀ entry, f (jobNumbered entry) = f entry) (p : Surface.Program) :
    (entries p).flatMap f = (numbered 0 p.items).flatMap f := by
  rw [entries, List.flatMap_map]
  simp only [hf]

theorem bindings_eq (p : Surface.Program) :
    bindings p.items = (do return (← (entries p).mapM bind).reduceOption) := by
  have hBind : bind ∘ jobNumbered = bind := funext bind_jobNumbered
  rw [bindings, entries, List.mapM_map, hBind]

/-! ## Bindings -/

/-- The kind of the items that a binding comes from. -/
def Binding.strand : Binding → Surface.ItemKind
  | route _ => .route
  | function _ => .function
  | cron _ => .cron
  | event _ => .event
  | queue _ => .queue
  | command _ => .command
  | rpcMethods _ _ => .rpcService
  | rpcHandler _ => .rpcService
  | resolver _ => .resolver
  | socket _ => .socket
  | constant _ => .constant

theorem strand_lowerBinding {number : Nat} {item : Surface.Item} {b : Binding}
    (hLower : lowerBinding number item = .ok (some b)) : b.strand = item.strand := by
  cases item with
  | socket =>
    cases hLower
    rfl
  | moduleName | importing | typeDecl | contract | test | macroDecl | traitDecl | staticRoute
  | unsupported => cases hLower
  | _ =>
    simp only [lowerBinding, bind_eq_ok, pure_eq_ok] at hLower
    obtain ⟨_, -, hFound⟩ := hLower
    cases hFound
    rfl

theorem strand_bind {entry : Nat × Surface.Item} {b : Binding}
    (hBind : bind entry = .ok (some b)) : b.strand = entry.2.strand := by
  unfold bind at hBind
  split at hBind
  · exact strand_lowerBinding (mapError_eq_ok.mp hBind)
  · cases hBind

/-- The bindings of one kind come from the entries of that kind. -/
theorem mapM_bind_filter (strand : Surface.ItemKind) {es : List (Nat × Surface.Item)}
    {found : List (Option Binding)} (hRun : es.mapM bind = .ok found) :
    ∃ kept, (es.filter (·.2.strand = strand)).mapM bind = .ok kept ∧
      kept.reduceOption = found.reduceOption.filter (·.strand = strand) := by
  induction es generalizing found with
  | nil =>
    cases hRun
    exact ⟨[], rfl, rfl⟩
  | cons entry es ih =>
    obtain ⟨first, rest, hFirst, hRest, rfl⟩ := mapM_cons_eq_ok.mp hRun
    obtain ⟨kept, hKept, hReduced⟩ := ih hRest
    by_cases hStrand : entry.2.strand = strand
    · rw [List.filter_cons_of_pos (by simpa using hStrand)]
      refine ⟨first :: kept, mapM_cons_eq_ok.mpr ⟨_, _, hFirst, hKept, rfl⟩, ?_⟩
      cases first with
      | none => simpa using hReduced
      | some b =>
        have hSame : b.strand = strand := (strand_bind hFirst).trans hStrand
        simpa [hSame] using hReduced
    · rw [List.filter_cons_of_neg (by simpa using hStrand)]
      refine ⟨kept, hKept, ?_⟩
      cases first with
      | none => simpa using hReduced
      | some b =>
        have hOther : b.strand ≠ strand := fun hSame => hStrand ((strand_bind hFirst).symm.trans hSame)
        simpa [hOther] using hReduced

theorem filter_bindings {p q : Surface.Program} (hItems : Interleaves p q) {bs cs : List Binding}
    (hP : bindings p.items = .ok bs) (hQ : bindings q.items = .ok cs)
    (strand : Surface.ItemKind) :
    bs.filter (·.strand = strand) = cs.filter (·.strand = strand) := by
  simp only [bindings_eq, bind_eq_ok, pure_eq_ok, Except.ok.injEq] at hP hQ
  obtain ⟨found, hFound, rfl⟩ := hP
  obtain ⟨found', hFound', rfl⟩ := hQ
  obtain ⟨kept, hKept, hReduced⟩ := mapM_bind_filter strand hFound
  obtain ⟨kept', hKept', hReduced'⟩ := mapM_bind_filter strand hFound'
  rw [filter_entries hItems strand, hKept'] at hKept
  cases hKept
  rw [← hReduced, hReduced']

theorem fails_bindings {p q : Surface.Program} (hItems : Interleaves p q) :
    Fails (bindings p.items) ↔ Fails (bindings q.items) := by
  rw [bindings_eq, bindings_eq, fails_bind_pure, fails_bind_pure, fails_mapM, fails_mapM]
  simp only [(entries_perm hItems).mem_iff]

/-! ## Services -/

section Assembly

variable {bs cs : List Binding}
  (hStrands : ∀ strand : Surface.ItemKind,
    bs.filter (·.strand = strand) = cs.filter (·.strand = strand))

include hStrands

theorem rpcServices_strand : rpcServices bs = rpcServices cs := by
  have hNames : bs.filterMap Binding.rpcName? = cs.filterMap Binding.rpcName? := by
    refine filterMap_eq_of_filter_eq hStrands .rpcService fun b name hSelect => ?_
    cases b <;> cases hSelect <;> rfl
  have hMethods (service : String) :
      bs.flatMap (Binding.rpcMethodsOf service) = cs.flatMap (Binding.rpcMethodsOf service) := by
    refine flatMap_eq_of_filter_eq hStrands .rpcService fun b hOther => ?_
    cases b with
    | rpcMethods => exact absurd rfl hOther
    | _ => rfl
  have hHandlers (service : String) :
      bs.flatMap (Binding.rpcHandlersOf service) = cs.flatMap (Binding.rpcHandlersOf service) := by
    refine flatMap_eq_of_filter_eq hStrands .rpcService fun b hOther => ?_
    cases b with
    | rpcHandler => exact absurd rfl hOther
    | _ => rfl
  simp only [rpcServices, hNames, hMethods, hHandlers]

/-- All but the registry is the same. -/
theorem assemble_strand (name : String) (d : Declarations) :
    assemble name d bs = { assemble name d cs with providers := registry d.contracts bs } := by
  simp only [assemble, Core.Service.mk.injEq, true_and, rpcServices_strand hStrands]
  refine ⟨?_, ?_, ?_, ?_, ?_, ?_, ?_, ?_, ?_⟩
  -- each list of the service selects the bindings of one constructor
  all_goals
    refine filterMap_eq_of_filter_eq hStrands ?_ fun b a hSelect => ?_
    rotate_left
    · cases b <;> cases hSelect
      rfl

theorem registry_perm (contracts : Contracts) :
    (registry contracts bs).Perm (registry contracts cs) := by
  have hBindings : bs.Perm cs := perm_of_filter_eq hStrands
  rw [List.perm_ext_iff_of_nodup (nodup_registry contracts bs) (nodup_registry contracts cs)]
  intro provider
  rw [mem_registry, mem_registry]
  simp only [(hBindings.flatMap_right _).mem_iff]

end Assembly

theorem warnings_perm {p q : Surface.Program} (hItems : Interleaves p q) :
    (warnings p).Perm (warnings q) := by
  have hLocated (fallbacks : Surface.Item → List Fallback) :
      ((numbered 0 p.items).flatMap fun entry =>
        (fallbacks entry.2).map (Fallback.diagnostic (scope entry.1 entry.2))).Perm
      ((numbered 0 q.items).flatMap fun entry =>
        (fallbacks entry.2).map (Fallback.diagnostic (scope entry.1 entry.2))) := by
    have hPlain (entry : Nat × Surface.Item) :
        (fallbacks (jobNumbered entry).2).map
            (Fallback.diagnostic (scope (jobNumbered entry).1 (jobNumbered entry).2)) =
          (fallbacks entry.2).map (Fallback.diagnostic (scope entry.1 entry.2)) := by
      rw [scope_jobNumbered]
      rfl
    rw [← flatMap_entries hPlain p, ← flatMap_entries hPlain q]
    exact (entries_perm hItems).flatMap_right _
  exact (hLocated declarationFallbacks).append (hLocated bindingFallbacks)

theorem exists_build_of_interleaves {p q : Surface.Program} (hItems : Interleaves p q) {b : Built}
    (hBuild : build p = .ok b) : ∃ c, build q = .ok c := by
  obtain ⟨d, bs, hDeclarations, hBindings, -⟩ := build_eq_ok.mp hBuild
  have hFine : ¬ Fails (bindings q.items) := by
    rw [← fails_bindings hItems, hBindings, fails_ok]
    exact id
  cases hFound : bindings q.items with
  | error f => simp [hFound] at hFine
  | ok cs => exact ⟨_, build_eq_ok.mpr
      ⟨d, cs, (declarations_interleaved hItems d).mp hDeclarations, hFound, rfl⟩⟩

/-- How the kinds of declarations are interleaved shows only in the order of the registry and of
the warnings. -/
theorem build_interleaved {p q : Surface.Program} (hItems : Interleaves p q) :
    ((∃ b, build p = .ok b) ↔ ∃ c, build q = .ok c) ∧
      ∀ b c, build p = .ok b → build q = .ok c →
        b.service = { c.service with providers := b.service.providers } ∧
          b.service.providers.Perm c.service.providers ∧ b.warnings.Perm c.warnings := by
  have hBack : Interleaves q p := fun strand => (hItems strand).symm
  refine ⟨⟨fun ⟨b, hBuild⟩ => exists_build_of_interleaves hItems hBuild,
    fun ⟨c, hBuild⟩ => exists_build_of_interleaves hBack hBuild⟩, ?_⟩
  intro b c hP hQ
  obtain ⟨d, bs, hDeclarations, hBindings, rfl⟩ := build_eq_ok.mp hP
  obtain ⟨d', cs, hDeclarations', hBindings', rfl⟩ := build_eq_ok.mp hQ
  rw [← declarations_interleaved hItems, hDeclarations] at hDeclarations'
  cases hDeclarations'
  have hStrands := filter_bindings hItems hBindings hBindings'
  rw [serviceName_interleaved hItems]
  exact ⟨assemble_strand hStrands _ d, registry_perm hStrands d.contracts, warnings_perm hItems⟩

/-- Jobs without a name between other declarations, a contract behind its injection, and a remote
service that is first known by a handler. -/
def orders : Surface.Program where
  items := [
    .cron ⟨"", "0 0 * * *", none, 0, [⟨"ledger", some (.named "Ledger")⟩], [.unsupported]⟩,
    .rpcHandler ⟨"Stock", "Count", [], none, .unary, none, [⟨"db", some .database⟩], []⟩,
    .moduleName "orders",
    .cron ⟨"", "0 6 * * *", none, 0, [], [.wsClose none]⟩,
    .contract ⟨"Ledger", [⟨"total", [], some .unsupported⟩]⟩,
    .rpcService ⟨"Stock", [⟨"Count", none, some .int, .unary⟩]⟩]

/-- The same declarations, kind by kind. -/
def ordersByKind : Surface.Program where
  items := [
    .moduleName "orders",
    .contract ⟨"Ledger", [⟨"total", [], some .unsupported⟩]⟩,
    .rpcHandler ⟨"Stock", "Count", [], none, .unary, none, [⟨"db", some .database⟩], []⟩,
    .rpcService ⟨"Stock", [⟨"Count", none, some .int, .unary⟩]⟩,
    .cron ⟨"", "0 0 * * *", none, 0, [⟨"ledger", some (.named "Ledger")⟩], [.unsupported]⟩,
    .cron ⟨"", "0 6 * * *", none, 0, [], [.wsClose none]⟩]

theorem build_interleaved_orders :
    Interleaves orders ordersByKind ∧ ∃ b c, build orders = .ok b ∧ build ordersByKind = .ok c ∧
      b.service.providers.map (·.type) = ["Ledger", "Database"] ∧
      c.service.providers.map (·.type) = ["Database", "Ledger"] ∧
      b.service = { c.service with providers := b.service.providers } ∧
      b.service.providers.Perm c.service.providers ∧ b.warnings.Perm c.warnings := by
  have hItems : Interleaves orders ordersByKind := by
    intro strand
    cases strand <;> rfl
  have hBuild : ∃ b, build orders = .ok b := ⟨_, rfl⟩
  obtain ⟨c, hC⟩ := (build_interleaved hItems).1.mp hBuild
  obtain ⟨b, hB⟩ := hBuild
  refine ⟨hItems, b, c, hB, hC, ?_, ?_, (build_interleaved hItems).2 b c hB hC⟩
  · cases hB
    rfl
  · cases hC
    rfl

end ServiceCompiler.Build
