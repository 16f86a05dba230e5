import Mathlib.Data.List.Induction
import ServiceCompiler.Proofs.Distinct
import ServiceCompiler.Proofs.Plan.HandlerNames
import ServiceCompiler.Proofs.Source.Block
import ServiceCompiler.Proofs.Text.Quoted
import ServiceCompiler.Proofs.Text.Words
import ServiceCompiler.Target.RustProgram

/-! # Routing tables

The router lists the handlers of every path, and the function `emit` those of every event. Both are
filled by entering one handler after the other under its key. The tables are read back from the
lines that are written. Main statement: what is read has every key once, in the order of first
appearance, with all of its handlers in the order of their declarations. -/

namespace ServiceCompiler.Plan

/-! ## Entries by key -/

variable {κ β : Type} [DecidableEq κ]

/-- The values under a key, in the order of the entries. -/
def valuesOf (entries : List (κ × β)) (key : κ) : List β :=
  (entries.filter (·.1 = key)).map (·.2)

theorem valuesOf_concat (entries : List (κ × β)) (e : κ × β) (key : κ) :
    valuesOf (entries ++ [e]) key = valuesOf entries key ++ if e.1 = key then [e.2] else [] := by
  by_cases hSame : e.1 = key <;> simp [valuesOf, hSame]

theorem valuesOf_eq_nil {entries : List (κ × β)} {key : κ} :
    valuesOf entries key = [] ↔ key ∉ entries.map (·.1) := by
  rw [valuesOf, List.map_eq_nil_iff, List.filter_eq_nil_iff]
  constructor
  · intro h hMem
    obtain ⟨e, he, rfl⟩ := List.mem_map.mp hMem
    exact h e he (decide_eq_true rfl)
  · intro h e he hSame
    exact h (List.mem_map.mpr ⟨e, he, of_decide_eq_true hSame⟩)

theorem enter_of_not_mem {keys : List κ} {key : κ} (hNew : key ∉ keys) (value : β)
    (f : κ → List β) :
    enter key value (keys.map fun k => (k, f k)) =
      keys.map (fun k => (k, f k)) ++ [(key, [value])] := by
  induction keys with
  | nil => rfl
  | cons k keys ih =>
    obtain ⟨hFirst, hRest⟩ := List.ne_and_not_mem_of_not_mem_cons hNew
    rw [List.map_cons, enter, if_neg hFirst.symm, ih hRest, List.cons_append]

theorem enter_of_mem {keys : List κ} {key : κ} (hNodup : keys.Nodup) (hMem : key ∈ keys)
    (value : β) (f : κ → List β) :
    enter key value (keys.map fun k => (k, f k)) =
      keys.map fun k => (k, f k ++ if key = k then [value] else []) := by
  induction keys with
  | nil => cases hMem
  | cons k keys ih =>
    obtain ⟨hNew, hRest⟩ := List.nodup_cons.mp hNodup
    rw [List.map_cons, enter, List.map_cons]
    by_cases hSame : k = key
    · subst hSame
      rw [if_pos rfl, if_pos rfl]
      refine congrArg (_ :: ·) (List.map_congr_left fun other hOther => ?_)
      have hApart : k ≠ other := fun hKey => hNew (hKey ▸ hOther)
      rw [if_neg hApart, List.append_nil]
    · have hLater : key ∈ keys := (List.mem_cons.mp hMem).resolve_left (Ne.symm hSame)
      rw [if_neg hSame, if_neg (Ne.symm hSame), List.append_nil, ih hRest hLater]

/-- Entering one after the other gives every key its values. -/
theorem groups_eq (entries : List (κ × β)) :
    groups entries =
      (distinct (entries.map (·.1))).map fun key => (key, valuesOf entries key) := by
  induction entries using List.reverseRecOn with
  | nil => rfl
  | append_singleton entries e ih =>
    have hStep : groups (entries ++ [e]) = enter e.1 e.2 (groups entries) := by
      simp [groups]
    have hValues (key : κ) := valuesOf_concat entries e key
    simp only [hStep, ih, hValues, List.map_append, List.map_singleton, distinct_concat]
    by_cases hMem : e.1 ∈ entries.map (·.1)
    · rw [if_pos hMem, enter_of_mem (nodup_distinct _) (mem_distinct.mpr hMem)]
    · have hNew : e.1 ∉ distinct (entries.map (·.1)) := fun h => hMem (mem_distinct.mp h)
      rw [if_neg hMem, enter_of_not_mem hNew, List.map_append, List.map_singleton, if_pos rfl,
        valuesOf_eq_nil.mpr hMem, List.nil_append]
      refine congrArg (· ++ _) (List.map_congr_left fun key hKey => ?_)
      have hApart : e.1 ≠ key := fun hSame => hNew (hSame ▸ hKey)
      rw [if_neg hApart, List.append_nil]

theorem length_uniqueNames (bases : List String) : (uniqueNames bases).length = bases.length :=
  (forall₂_uniqueFrom [] bases).length_eq.symm

end ServiceCompiler.Plan

namespace ServiceCompiler.Text

/-- The text between a beginning and an end. -/
def between? (opening closing text : String) : Option String := do
  let rest ← text.toList.dropPrefix? opening.toList
  let inner ← rest.dropSuffix? closing.toList
  return String.ofList inner

theorem between?_eq (opening inner closing : String) :
    between? opening closing (opening ++ inner ++ closing) = some inner := by
  have hRest : (opening ++ inner ++ closing).toList.dropPrefix? opening.toList =
      some (inner.toList ++ closing.toList) := by
    rw [List.dropPrefix?_eq_some_iff]
    exact ⟨opening.toList, by simp, by simp⟩
  have hInner : (inner.toList ++ closing.toList).dropSuffix? closing.toList =
      some inner.toList := by
    rw [List.dropSuffix?_eq_some_iff]
    exact ⟨closing.toList, rfl, by simp⟩
  rw [between?, hRest]
  simp [hInner]

theorem splitAt_join {sep : Char} {pieces : List String} (hPieces : pieces ≠ [])
    (h : ∀ piece ∈ pieces, sep ∉ piece.toList) :
    splitAt sep (join (String.singleton sep) pieces) = pieces := by
  have hSplit : splitChars sep (joinChars [sep] (pieces.map String.toList)) =
      pieces.map String.toList := by
    refine splitChars_joinChars (by simpa using hPieces) fun piece hPiece => ?_
    obtain ⟨text, hText, rfl⟩ := List.mem_map.mp hPiece
    exact h text hText
  simp [splitAt, join, hSplit, Function.comp_def]

end ServiceCompiler.Text

namespace ServiceCompiler.Source

theorem nested_append (ls ms : List Line) : nested (ls ++ ms) = nested ls ++ nested ms :=
  List.map_append

theorem nested_cons (l : Line) (ls : List Line) : nested (l :: ls) = l.deeper :: nested ls := rfl

end ServiceCompiler.Source

namespace ServiceCompiler.Source.Emit

variable {α : Type} {f : α → Emit Unit} {g : α → List Line}

/-- An emission for every element that takes no numbers. -/
theorem each_eq (h : ∀ x n, f x n = ⟨(), g x, n⟩) (xs : List α) (n : Nat) :
    each xs f n = ⟨(), xs.flatMap g, n⟩ := by
  induction xs with
  | nil => rfl
  | cons x xs ih => simp [each, h, ih]

/-- What holds of the lines for every element holds of all lines. -/
theorem forall_mem_each {P : Line → Prop} {xs : List α}
    (h : ∀ x ∈ xs, ∀ n, ∀ l ∈ (f x n).lines, P l) (n : Nat) : ∀ l ∈ (each xs f n).lines, P l := by
  induction xs generalizing n with
  | nil => exact fun l hl => absurd hl List.not_mem_nil
  | cons x xs ih =>
    intro l hl
    rcases List.mem_append.mp hl with hFirst | hRest
    · exact h x List.mem_cons_self n l hFirst
    · exact ih (fun y hy => h y (List.mem_cons_of_mem _ hy)) _ l hRest

theorem braces_apply (opening tail : String) (body : Emit α) (n : Nat) :
    braces opening body tail n =
      ⟨(body n).value, .code 0 (opening ++ " \x7b") :: (nested (body n).lines ++
        [Line.code 0 ("\x7d" ++ tail)]), (body n).next⟩ :=
  rfl

end ServiceCompiler.Source.Emit

namespace ServiceCompiler.Rust

open ServiceCompiler.Core (Service)
open Plan (FeatureSet groups valuesOf groups_eq Led)
open Source (Emit Line Block nested nested_append nested_cons readBlocks readBlocks_block)
open Source.Emit (line nest each only braces each_eq braces_apply)
open Text (between? between?_eq readLiteral doubleQuoted join)

/-! ## Reading the router -/

/-- The path of a route and the handlers chained on it. -/
def readRoute (text : String) : Option (String × List String) := do
  let inner ← between? ".route(" ")" text
  let (path, rest) ← readLiteral '"' inner
  let chain ← between? ", " "" rest
  return (path, Text.splitAt '.' chain)

def readRouteLine : Line → Option (String × List String)
  | .code _ text => readRoute text
  | .gap => none

theorem readRoute_routeText (path : String) {handlers : List String} (hSome : handlers ≠ [])
    (hDots : ∀ h ∈ handlers, '.' ∉ h.toList) :
    readRoute (routeText path handlers) = some (path, handlers) := by
  have hText : routeText path handlers =
      ".route(" ++ (doubleQuoted path ++ (", " ++ join "." handlers ++ "")) ++ ")" := by
    simp [routeText, String.append_assoc]
  have hPath : readLiteral '"' (doubleQuoted path ++ (", " ++ join "." handlers ++ "")) =
      some (path, ", " ++ join "." handlers ++ "") :=
    Text.readLiteral_quote_append (by decide) _ _
  have hChain : Text.splitAt '.' (join "." handlers) = handlers := Text.splitAt_join hSome hDots
  rw [readRoute, hText, between?_eq, Option.bind_eq_bind, Option.bind_some, hPath]
  simp only [Option.bind_eq_bind, Option.bind_some, between?_eq, hChain]
  rfl

def routeHandlers (s : Service) (path : String) : List String :=
  ((s.routes.zip (Plan.routeNames s.routes)).filter (·.1.path = path)).map fun (r, name) =>
    s!"{Plan.httpVerb r.method}({name})"

def socketHandlers (s : Service) (path : String) : List String :=
  ((s.sockets.zip (Plan.socketNames s.sockets)).filter (·.1.path = path)).map fun (_, name) =>
    s!"get({name})"

/-- The paths of a service, as they are declared. -/
def paths (s : Service) : List String := s.routes.map (·.path) ++ s.sockets.map (·.path)

/-- A handler of a path is a call without points. -/
theorem no_point_call {opening name : String} (hOpening : '.' ∉ opening.toList)
    (hName : ∀ c ∈ name.toList, Text.isSnake c) : '.' ∉ (opening ++ name ++ ")").toList := by
  have hPoint : '.' ∉ name.toList := fun h => absurd (hName _ h) (by decide)
  simp [hOpening, hPoint]

theorem no_point_of_mem_routeHandlers {s : Service} {path h : String}
    (hMem : h ∈ routeHandlers s path) : '.' ∉ h.toList := by
  obtain ⟨⟨r, name⟩, hEntry, rfl⟩ := List.mem_map.mp hMem
  have hVerb : '.' ∉ (Plan.httpVerb r.method ++ "(").toList := by
    cases r.method <;> decide
  exact no_point_call hVerb (Plan.led_route (List.mem_of_mem_filter hEntry)).snake

theorem no_point_of_mem_socketHandlers {s : Service} {path h : String}
    (hMem : h ∈ socketHandlers s path) : '.' ∉ h.toList := by
  obtain ⟨⟨socket, name⟩, hEntry, rfl⟩ := List.mem_map.mp hMem
  have hName : name ∈ Plan.socketNames s.sockets :=
    (List.of_mem_zip (List.mem_of_mem_filter hEntry)).2
  have hOpening : '.' ∉ "get(".toList := by decide
  exact no_point_call hOpening (Plan.led_socket hName).snake

theorem routeGroups_eq (s : Service) :
    routeGroups s =
      (distinct (paths s)).map fun path => (path, routeHandlers s path ++ socketHandlers s path) := by
  have hRoutes : (s.routes.zip (Plan.routeNames s.routes)).map (·.1) = s.routes :=
    List.map_fst_zip (by simp [Plan.routeNames, Plan.length_uniqueNames])
  have hSockets : (s.sockets.zip (Plan.socketNames s.sockets)).map (·.1) = s.sockets :=
    List.map_fst_zip (by simp [Plan.socketNames, Plan.length_uniqueNames])
  rw [routeGroups, groups_eq]
  have hKeys : paths s = (((s.routes.zip (Plan.routeNames s.routes)).map fun x =>
      (x.1.path, s!"{Plan.httpVerb x.1.method}({x.2})")) ++
        (s.sockets.zip (Plan.socketNames s.sockets)).map fun x =>
          (x.1.path, s!"get({x.2})")).map (·.1) := by
    conv_lhs => rw [paths, ← hRoutes, ← hSockets]
    simp [Function.comp_def]
  rw [hKeys]
  refine List.map_congr_left fun path _ => ?_
  simp [valuesOf, routeHandlers, socketHandlers, List.filter_map, Function.comp_def]

theorem readRoute_of_mem_routeGroups {s : Service} {row : String × List String}
    (h : row ∈ routeGroups s) : readRoute (routeText row.1 row.2) = some row := by
  have hRow := h
  rw [routeGroups_eq] at hRow
  obtain ⟨path, -, rfl⟩ := List.mem_map.mp hRow
  refine readRoute_routeText path ?_ fun handler hMem => ?_
  · -- a key without values would not have been entered
    rw [routeGroups, groups_eq] at h
    obtain ⟨key, hKey, hEq⟩ := List.mem_map.mp h
    rw [Prod.mk.injEq] at hEq
    rw [← hEq.2]
    exact fun hNone => Plan.valuesOf_eq_nil.mp hNone (mem_distinct.mp hKey)
  · rcases List.mem_append.mp hMem with hRoute | hSocket
    · exact no_point_of_mem_routeHandlers hRoute
    · exact no_point_of_mem_socketHandlers hSocket

/-- The lines of the router besides those of paths. -/
theorem readRoute_others :
    readRoute "let schema = build_schema();" = none ∧
      readRoute "let app = Router::new()" = none ∧
      readRoute ".route_service(\"/graphql\", GraphQL::new(schema.clone()))" = none ∧
      readRoute ".route_service(\"/graphql/ws\", GraphQLSubscription::new(schema))" = none ∧
      readRoute ".fallback(|| async \x7b not_found() \x7d);" = none := by
  refine ⟨?_, ?_, ?_, ?_, ?_⟩ <;> decide

@[simp] theorem read_nested (ls : List Line) :
    (nested ls).filterMap readRouteLine = ls.filterMap readRouteLine := by
  rw [nested, List.filterMap_map]
  refine List.filterMap_congr fun l _ => ?_
  cases l <;> rfl

theorem read_line {text : String} (h : readRoute text = none) (n : Nat) :
    (line text n).lines.filterMap readRouteLine = [] :=
  List.filterMap_cons_none h

theorem read_routeRows (s : Service) (n : Nat) :
    (each (routeGroups s) (fun row => line (routeText row.1 row.2)) n).lines.filterMap
      readRouteLine = routeGroups s := by
  have hLine (row : String × List String) (k : Nat) : line (routeText row.1 row.2) k =
      ⟨(), [Line.code 0 (routeText row.1 row.2)], k⟩ := rfl
  rw [each_eq hLine, ← List.map_eq_flatMap, List.filterMap_map]
  refine (List.filterMap_congr fun row hRow => ?_).trans List.filterMap_some
  exact readRoute_of_mem_routeGroups hRow

theorem read_routerLines (s : Service) (f : FeatureSet) (n : Nat) :
    (routerLines s f n).lines.filterMap readRouteLine = routeGroups s := by
  obtain ⟨hSchema, hApp, hService, hSocket, hFallback⟩ := readRoute_others
  have hRows := read_routeRows s
  -- the lines of the paths stand between the fixed ones, whatever these are
  cases hGraph : f.has .graphql <;> cases hStream : f.has .subscriptions <;>
    simp [routerLines, Source.Emit.head, only, nest, hGraph, hStream, hRows, read_line hSchema,
      read_line hApp, read_line hService, read_line hSocket, read_line hFallback]

/-! ## Reading the function `emit` -/

def emitOpening : Line := .code 0 "async fn emit(event_type: Value, event: Value) -> Value \x7b"

/-- The function, which stands last in its section. -/
def emitFunction (ls : List Line) : List Line := ls.dropWhile (· ≠ emitOpening)

/-- The handler that a line calls. -/
def readCall : Line → Option String
  | .code _ text => between? "Box::pin(" "(event.clone())).await;" text
  | .gap => none

/-- The event of an arm and the handlers that it calls. -/
def readArm (b : Block) : Option (String × List String) := do
  let (event, rest) ← readLiteral '"' b.header
  if rest = " => \x7b" then some (event, b.inside.filterMap readCall) else none

/-- The arms of the function, which stand two levels deep. -/
def readArms (ls : List Line) : List (String × List String) := (readBlocks 2 ls).filterMap readArm

def eventHandlers (s : Service) (event : String) : List String :=
  ((s.events.zip (Plan.eventNames s.events)).filter (·.1.event = event)).map (·.2)

theorem eventGroups_eq (s : Service) :
    eventGroups s =
      (distinct (s.events.map (·.event))).map fun event => (event, eventHandlers s event) := by
  have hLength : (s.events.map (·.event)).length ≤ (Plan.eventNames s.events).length := by
    simp [Plan.eventNames, Plan.length_uniqueNames]
  rw [eventGroups, groups_eq, List.map_fst_zip hLength]
  refine List.map_congr_left fun event _ => ?_
  simp [valuesOf, eventHandlers, List.zip_map_left, List.filter_map, Function.comp_def]

def callText (handler : String) : String := s!"Box::pin({handler}(event.clone())).await;"

/-- The lines of an arm, at a depth. -/
def armRows (depth : Nat) (row : String × List String) : List Line :=
  .code depth (doubleQuoted row.1 ++ " => \x7b") ::
    (row.2.map (fun h => .code (depth + 1) (callText h)) ++ [Line.code depth "\x7d"])

theorem eventArmLines_eq (row : String × List String) (n : Nat) :
    eventArmLines row.1 row.2 n = ⟨(), armRows 0 row, n⟩ := by
  have hCall (h : String) (k : Nat) : line (callText h) k = ⟨(), [Line.code 0 (callText h)], k⟩ :=
    rfl
  have hEach := each_eq hCall row.2 n
  rw [← List.map_eq_flatMap] at hEach
  have hBraces := braces_apply s!"{doubleQuoted row.1} =>" "" (each row.2 fun h => line (callText h)) n
  rw [hEach] at hBraces
  refine hBraces.trans ?_
  simp [armRows, nested, Line.deeper, toString, String.append_assoc]

theorem nested_flatMap_armRows (depth : Nat) (rows : List (String × List String)) :
    nested (rows.flatMap (armRows depth)) = rows.flatMap (armRows (depth + 1)) := by
  rw [nested, List.map_flatMap]
  refine List.flatMap_congr fun row _ => ?_
  simp [armRows, Line.deeper]

theorem readArm_arm (row : String × List String) :
    readArm ⟨doubleQuoted row.1 ++ " => \x7b", row.2.map fun h => .code 3 (callText h)⟩ =
      some row := by
  have hHeader : readLiteral '"' (doubleQuoted row.1 ++ " => \x7b") = some (row.1, " => \x7b") :=
    Text.readLiteral_quote_append (by decide) _ _
  have hCalls : (row.2.map fun h => Line.code 3 (callText h)).filterMap readCall = row.2 := by
    rw [List.filterMap_map]
    refine (List.filterMap_congr fun h _ => ?_).trans List.filterMap_some
    exact between?_eq "Box::pin(" h "(event.clone())).await;"
  simp [readArm, hHeader, hCalls]

theorem readArms_append (rows : List (String × List String)) (rest : List Line) :
    readArms (rows.flatMap (armRows 2) ++ rest) = rows ++ readArms rest := by
  induction rows with
  | nil => rfl
  | cons row rows ih =>
    have hHeader : doubleQuoted row.1 ++ " => \x7b" ≠ "\x7d" := by
      intro hSame
      have hChars := congrArg String.toList hSame
      simp [doubleQuoted, Text.quote, Text.quoteChars] at hChars
    have hBelow : ∀ l ∈ row.2.map (fun h => Line.code 3 (callText h)), l.isBelow 2 = true := by
      intro l hl
      obtain ⟨h, -, rfl⟩ := List.mem_map.mp hl
      rfl
    have hBlock := readBlocks_block hHeader _ hBelow (rows.flatMap (armRows 2) ++ rest)
    have hLines : (row :: rows).flatMap (armRows 2) ++ rest =
        .code 2 (doubleQuoted row.1 ++ " => \x7b") ::
          (row.2.map (fun h => .code 3 (callText h)) ++ Line.code 2 "\x7d" ::
            (rows.flatMap (armRows 2) ++ rest)) := by
      simp [armRows]
    rw [readArms, hLines, hBlock, List.filterMap_cons_some (readArm_arm row), ← readArms, ih,
      List.cons_append]

def emitClosing : List Line :=
  [.code 2 "other => tracing::warn!(event_type = other, \"no handler for event\"),",
    .code 1 "\x7d", .code 1 "Value::Null", .code 0 "\x7d"]

/-- No handler opens as the function does. -/
theorem ne_emitOpening {name : String} (hName : Led .event name) (tail : String) (depth : Nat) :
    Line.code depth ("async fn " ++ name ++ tail) ≠ emitOpening := by
  intro hSame
  obtain ⟨rest, hRest⟩ := hName.start
  have hText := congrArg String.toList (Line.code.inj hSame).2
  simp only [String.toList_append, ← hRest] at hText
  cases hText

theorem lines_eventsSection (env : Env) {s : Service} (hSome : s.events ≠ []) (n : Nat) :
    ∃ ahead, (eventsSection env s n).lines = ahead ++ emitOpening ::
        .code 1 "match rt::text(&event_type).as_str() \x7b" ::
          ((eventGroups s).flatMap (armRows 2) ++ emitClosing) ∧
      ∀ l ∈ ahead, l ≠ emitOpening := by
  have hEvents : (!s.events.isEmpty) = true := by simpa using hSome
  rw [eventsSection, only, if_pos hEvents, Source.Emit.bind_apply]
  refine ⟨_, congrArg₂ (· ++ ·) rfl ?_, ?_⟩
  · simp only [braces_apply, Source.Emit.bind_apply, each_eq eventArmLines_eq, nested_append,
      nested_cons, nested_flatMap_armRows, List.append_assoc, List.cons_append]
    rfl
  -- the dispatcher does not stand among the handlers, whose names all start with `handle`
  · refine Source.Emit.forall_mem_each (fun x hEntry k l hl => ?_) n
    have hName : Led .event x.2 := Plan.led_event (List.of_mem_zip hEntry).2
    simp only [Source.Emit.bind_apply, braces_apply, List.mem_append, List.mem_cons] at hl
    rcases hl with (rfl | hInner | rfl | hNone) | hGap
    · rw [String.append_assoc]
      exact ne_emitOpening hName _ 0
    · rintro rfl
      cases Source.isBelow_of_mem_nested hInner
    · decide
    · cases hNone
    · rw [List.mem_singleton.mp hGap]
      intro hSame
      cases hSame

theorem read_eventsSection (env : Env) (s : Service) (n : Nat) :
    readArms (emitFunction (eventsSection env s n).lines) = eventGroups s := by
  by_cases hSome : s.events = []
  · have hNone : (eventsSection env s n).lines = [] := by
      simp [eventsSection, only, hSome]
    rw [hNone, eventGroups, hSome]
    rfl
  · obtain ⟨ahead, hLines, hAhead⟩ := lines_eventsSection env hSome n
    have hFunction : emitFunction (eventsSection env s n).lines = emitOpening ::
        .code 1 "match rt::text(&event_type).as_str() \x7b" ::
          ((eventGroups s).flatMap (armRows 2) ++ emitClosing) := by
      rw [emitFunction, hLines, List.dropWhile_append_of_pos (by simpa using hAhead)]
      simp
    -- the two lines above the arms open no block at their depth
    have hSkip (ls : List Line) : readArms (emitOpening ::
        .code 1 "match rt::text(&event_type).as_str() \x7b" :: ls) = readArms ls := rfl
    have hClosing : readArms emitClosing = [] := by decide
    rw [hFunction, hSkip, readArms_append, hClosing, List.append_nil]

/-- The lines of the router mention every path of the routes and sockets once, in the order of first
appearance, with the handlers of its routes and then those of its sockets, in the order of their
declarations; the function `emit` has an arm for every event, once and in the order of first
appearance, which calls the handlers of the event in the order of their declarations. Every route,
socket and event binding has a name of its own in the lists that the handlers are taken from. -/
theorem tables_of_service (env : Env) (s : Service) (f : FeatureSet) (n : Nat) :
    (routerLines s f n).lines.filterMap readRouteLine =
        (distinct (paths s)).map (fun path =>
          (path, routeHandlers s path ++ socketHandlers s path)) ∧
      readArms (emitFunction (eventsSection env s n).lines) =
        (distinct (s.events.map (·.event))).map (fun event => (event, eventHandlers s event)) ∧
      (Plan.routeNames s.routes).length = s.routes.length ∧ (Plan.routeNames s.routes).Nodup ∧
      (Plan.socketNames s.sockets).length = s.sockets.length ∧
      (Plan.socketNames s.sockets).Nodup ∧
      (Plan.eventNames s.events).length = s.events.length ∧ (Plan.eventNames s.events).Nodup := by
  refine ⟨?_, ?_, ?_, Plan.nodup_uniqueNames _, ?_, Plan.nodup_uniqueNames _, ?_,
    Plan.nodup_uniqueNames _⟩
  · rw [read_routerLines, routeGroups_eq]
  · rw [read_eventsSection, eventGroups_eq]
  · rw [Plan.routeNames, Plan.length_uniqueNames, List.length_map]
  · rw [Plan.socketNames, Plan.length_uniqueNames, List.length_map]
  · rw [Plan.eventNames, Plan.length_uniqueNames, List.length_map]

end ServiceCompiler.Rust
