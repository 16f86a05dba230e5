import Mathlib.Data.List.Forall2
import Mathlib.Data.List.Nodup
import ServiceCompiler.Build.Service
import ServiceCompiler.Plan.Names
import ServiceCompiler.Proofs.Text.Words

/-! # Names of handlers

Names are made unique within the handlers of a kind only. Between kinds they are kept apart by the
text that they start with, but the names of cron jobs start with whatever the job is called, and
routes that answer `WS` start as sockets do. Main statement: the names of all handlers are
identifiers but for the jobs whose name has neither an ASCII letter nor a digit, and they differ but
for those two kinds of meeting. -/

namespace ServiceCompiler.Plan

open ServiceCompiler.Core (Service Route Socket EventBinding QueueBinding CronJob)
open Text (isSnake IsFragment isIdentifier)

/-! ## Numbered names -/

/-- What is written behind a base. -/
def ending : Nat → String
  | 0 => ""
  | n + 1 => s!"_{n + 2}"

theorem candidate_eq (base : String) (n : Nat) : candidate base n = base ++ ending n := by
  cases n with
  | zero => exact String.append_empty.symm
  | succ n => simp [candidate, ending, String.append_assoc, toString]

theorem ending_injective : Function.Injective ending := by
  intro m n h
  cases m with
  | zero =>
    cases n with
    | zero => rfl
    | succ n => simp [ending] at h
  | succ m =>
    cases n with
    | zero => simp [ending] at h
    | succ n =>
      have hRepr : (m + 2).repr = (n + 2).repr := by
        simpa [ending] using h
      have hDigits : Nat.toDigits 10 (m + 2) = Nat.toDigits 10 (n + 2) := by
        rw [← Nat.toList_repr, hRepr, Nat.toList_repr]
      have hSame : m + 2 = n + 2 := by
        rw [← Nat.ofDigitChars_ten_toDigits (n := m + 2), hDigits, Nat.ofDigitChars_ten_toDigits]
      exact Nat.succ.inj hSame

theorem candidate_injective (base : String) : Function.Injective (candidate base) := by
  intro m n h
  rw [candidate_eq, candidate_eq] at h
  have hEnding := congrArg String.toList h
  rw [String.toList_append, String.toList_append, List.append_cancel_left_eq] at hEnding
  exact ending_injective (String.toList_inj.mp hEnding)

theorem isSnake_ending {n : Nat} {c : Char} (hc : c ∈ (ending n).toList) : isSnake c := by
  cases n with
  | zero => cases hc
  | succ n =>
    simp only [ending, String.toList_append, Nat.toString_eq_repr, Nat.toList_repr] at hc
    rcases List.mem_append.mp hc with hc | hc
    · cases List.mem_singleton.mp hc
      rfl
    · have hDigit := Nat.isDigit_of_mem_toDigits (by decide) (by decide) hc
      simp [isSnake, hDigit]

theorem isFragment_ending (n : Nat) : IsFragment (ending n).toList := by
  refine ⟨fun c => isSnake_ending, ?_⟩
  rintro c rest hSame
  cases n with
  | zero => cases hSame
  | succ n =>
    simp only [ending, String.toList_append, Nat.toString_eq_repr, Nat.toList_repr] at hSame
    obtain ⟨rfl, rfl⟩ := List.cons.inj hSame
    cases hDigits : Nat.toDigits 10 (n + 2) with
    | nil => exact absurd hDigits Nat.toDigits_ne_nil
    | cons d more =>
      refine .inr ⟨rfl, d, more, rfl, ?_⟩
      exact Nat.isDigit_of_mem_toDigits (by decide) (by decide) (hDigits ▸ List.mem_cons_self)

theorem isFragment_candidate {base : String} (h : IsFragment base.toList) (n : Nat) :
    IsFragment (candidate base n).toList := by
  rw [candidate_eq, String.toList_append]
  by_cases hBase : base.toList = []
  · rw [hBase]
    exact isFragment_ending n
  · exact h.append hBase fun c => isSnake_ending

/-- There are more candidates than names that are taken. -/
theorem exists_candidate (taken : List String) (base : String) :
    ∃ n < taken.length + 1, candidate base n ∉ taken := by
  by_contra hNone
  have hTaken : (List.range (taken.length + 1)).map (candidate base) ⊆ taken := by
    intro name hName
    obtain ⟨n, hn, rfl⟩ := List.mem_map.mp hName
    by_contra hFree
    exact hNone ⟨n, List.mem_range.mp hn, hFree⟩
  have hNodup := (List.nodup_range (n := taken.length + 1)).map (candidate_injective base)
  have hLength := hNodup.length_le_of_subset hTaken
  simp only [List.length_map, List.length_range] at hLength
  omega

/-- The search for a name ends at the candidate `n`. -/
structure FirstFree (taken : List String) (base : String) (n : Nat) : Prop where
  bounded : n ≤ taken.length
  refused : ∀ m < n, candidate base m ∈ taken
  free : candidate base n ∉ taken

theorem exists_firstFree (taken : List String) (base : String) :
    ∃ n, FirstFree taken base n ∧ freeName taken base = candidate base n := by
  unfold freeName
  rw [List.find?_map]
  cases hFound : (List.range (taken.length + 1)).find? ((!taken.contains ·) ∘ candidate base) with
  | none =>
    obtain ⟨n, hn, hFree⟩ := exists_candidate taken base
    have hTaken := List.find?_eq_none.mp hFound n (List.mem_range.mpr hn)
    simp [hFree] at hTaken
  | some n =>
    obtain ⟨hFree, hRange, hEarlier⟩ := List.find?_range_eq_some.mp hFound
    refine ⟨n, ⟨?_, ?_, by simpa using hFree⟩, rfl⟩
    · have hn := List.mem_range.mp hRange
      omega
    · intro m hm
      simpa using hEarlier m hm

theorem freeName_spec (taken : List String) (base : String) :
    freeName taken base ∉ taken ∧ ∃ n, freeName taken base = candidate base n := by
  obtain ⟨n, hFirst, hName⟩ := exists_firstFree taken base
  exact ⟨hName ▸ hFirst.free, n, hName⟩

theorem freeName_of_not_mem {taken : List String} {base : String} (h : base ∉ taken) :
    freeName taken base = base := by
  rw [freeName, List.range_succ_eq_map, List.map_cons, List.find?_cons_of_pos]
  · rfl
  · simpa [candidate] using h

/-! ## Names without repetitions -/

theorem not_mem_of_mem_uniqueFrom {bases taken : List String} {name : String}
    (h : name ∈ uniqueFrom taken bases) : name ∉ taken := by
  induction bases generalizing taken with
  | nil => cases h
  | cons base bases ih =>
    rcases List.mem_cons.mp h with rfl | h
    · exact (freeName_spec taken base).1
    · exact fun hTaken => ih h (List.mem_cons_of_mem _ hTaken)

theorem nodup_uniqueFrom (taken bases : List String) : (uniqueFrom taken bases).Nodup := by
  induction bases generalizing taken with
  | nil => exact List.nodup_nil
  | cons base bases ih =>
    refine List.nodup_cons.mpr ⟨fun hAgain => ?_, ih _⟩
    exact not_mem_of_mem_uniqueFrom hAgain List.mem_cons_self

theorem forall₂_uniqueFrom (taken bases : List String) :
    List.Forall₂ (fun base name => ∃ n, name = candidate base n) bases
      (uniqueFrom taken bases) := by
  induction bases generalizing taken with
  | nil => exact .nil
  | cons base bases ih => exact .cons (freeName_spec taken base).2 (ih _)

theorem mem_uniqueFrom_of_mem {bases taken : List String} {base : String} (h : base ∈ bases) :
    base ∈ taken ∨ base ∈ uniqueFrom taken bases := by
  induction bases generalizing taken with
  | nil => cases h
  | cons first bases ih =>
    by_cases hTaken : base ∈ taken
    · exact .inl hTaken
    · right
      rcases List.mem_cons.mp h with rfl | h
      · exact List.mem_cons.mpr (.inl (freeName_of_not_mem hTaken).symm)
      · rcases @ih (freeName taken first :: taken) h with hAgain | hLater
        · exact List.mem_cons.mpr (.inl ((List.mem_cons.mp hAgain).resolve_right hTaken))
        · exact List.mem_cons_of_mem _ hLater

theorem nodup_uniqueNames (bases : List String) : (uniqueNames bases).Nodup :=
  nodup_uniqueFrom [] bases

/-- Every base is the name of the first element that has it. -/
theorem subset_uniqueNames (bases : List String) : bases ⊆ uniqueNames bases := fun _ h =>
  (mem_uniqueFrom_of_mem h).resolve_left List.not_mem_nil

variable {α : Type} {f : α → String} {xs : List α}

theorem candidate_of_mem_zip {x : α} {name : String}
    (h : (x, name) ∈ xs.zip (uniqueNames (xs.map f))) : ∃ n, name = candidate (f x) n :=
  (List.forall₂_iff_zip.mp (List.forall₂_map_left_iff.mp (forall₂_uniqueFrom [] (xs.map f)))).2 h

theorem exists_mem_zip {name : String} (h : name ∈ uniqueNames (xs.map f)) :
    ∃ x, (x, name) ∈ xs.zip (uniqueNames (xs.map f)) := by
  have hLength := (forall₂_uniqueFrom [] (xs.map f)).length_eq
  rw [List.length_map] at hLength
  have hNames : (xs.zip (uniqueNames (xs.map f))).map Prod.snd = uniqueNames (xs.map f) :=
    List.map_snd_zip hLength.ge
  rw [← hNames] at h
  obtain ⟨⟨x, _⟩, hZip, rfl⟩ := List.mem_map.mp h
  exact ⟨x, hZip⟩

theorem exists_name_of_mem {x : α} (h : x ∈ xs) :
    ∃ name, (x, name) ∈ xs.zip (uniqueNames (xs.map f)) := by
  have hLength := (forall₂_uniqueFrom [] (xs.map f)).length_eq
  rw [List.length_map] at hLength
  have hElements : (xs.zip (uniqueNames (xs.map f))).map Prod.fst = xs :=
    List.map_fst_zip hLength.le
  rw [← hElements] at h
  obtain ⟨⟨_, name⟩, hZip, rfl⟩ := List.mem_map.mp h
  exact ⟨name, hZip⟩

/-! ## Kinds of handlers -/

/-- The handlers whose names start alike; cron jobs are of no kind. -/
inductive HandlerKind
  | route (method : HttpMethod)
  | socket
  | event
  | queue
  deriving DecidableEq

namespace HandlerKind

def all : List HandlerKind := HttpMethod.all.map route ++ [socket, event, queue]

/-- The text that the names of a kind start with. -/
def lead : HandlerKind → String
  | route method => String.ofList (method.name.toList.map Char.toLower) ++ "_"
  | socket => "ws_"
  | event => "handle_"
  | queue => "worker_"

theorem mem_all (k : HandlerKind) : k ∈ all := by
  cases k with
  | route method => cases method <;> decide
  | _ => decide

theorem isSnake_lead : ∀ k ∈ all, k.lead.toList.all isSnake := by decide

theorem lead_starts : ∀ k ∈ all, k.lead.toList.head?.any Char.isLower := by decide

/-- No lead continues another. -/
theorem eq_of_lead_prefix_lead :
    ∀ k ∈ all, ∀ l ∈ all, k.lead.toList <+: l.lead.toList → k.lead = l.lead := by decide

end HandlerKind

/-- A snake-case name that starts as the names of a kind do. -/
structure Led (k : HandlerKind) (name : String) : Prop where
  start : k.lead.toList <+: name.toList
  snake : ∀ c ∈ name.toList, isSnake c

namespace Led

variable {k l : HandlerKind} {name : String}

theorem of_append {tail : String} (h : ∀ c ∈ tail.toList, isSnake c) : Led k (k.lead ++ tail) where
  start := by
    rw [String.toList_append]
    exact List.prefix_append _ _
  snake c hc := by
    rw [String.toList_append] at hc
    rcases List.mem_append.mp hc with hc | hc
    · exact List.all_eq_true.mp (HandlerKind.isSnake_lead k k.mem_all) c hc
    · exact h c hc

theorem candidate (h : Led k name) (n : Nat) : Led k (candidate name n) := by
  rw [candidate_eq]
  constructor
  · rw [String.toList_append]
    exact h.start.trans (List.prefix_append _ _)
  · intro c hc
    rw [String.toList_append] at hc
    rcases List.mem_append.mp hc with hc | hc
    · exact h.snake c hc
    · exact isSnake_ending hc

theorem lead_eq (hk : Led k name) (hl : Led l name) : k.lead = l.lead := by
  rcases List.prefix_or_prefix_of_prefix hk.start hl.start with hPrefix | hPrefix
  · exact HandlerKind.eq_of_lead_prefix_lead k k.mem_all l l.mem_all hPrefix
  · exact (HandlerKind.eq_of_lead_prefix_lead l l.mem_all k k.mem_all hPrefix).symm

theorem isFragment (h : Led k name) : IsFragment name.toList ∧ name.toList ≠ [] := by
  have hStart := HandlerKind.lead_starts k k.mem_all
  obtain ⟨tail, hTail⟩ := h.start
  cases hLead : k.lead.toList with
  | nil => simp [hLead] at hStart
  | cons c rest =>
    have hName : name.toList = c :: (rest ++ tail) := by rw [← hTail, hLead, List.cons_append]
    refine ⟨⟨h.snake, fun d more hSame => ?_⟩, hName ▸ List.cons_ne_nil _ _⟩
    obtain ⟨rfl, -⟩ := List.cons.inj (hName.symm.trans hSame)
    exact .inl (by simpa [hLead] using hStart)

theorem isIdentifier (h : Led k name) : isIdentifier name :=
  h.isFragment.1.isIdentifierChars h.isFragment.2

end Led

theorem led_root (k : HandlerKind) : Led k (k.lead ++ "root") := by
  have hRoot : "root".toList.all isSnake := by decide
  exact .of_append (List.all_eq_true.mp hRoot)

theorem led_of_mem {k : HandlerKind} (hBase : ∀ x, Led k (f x)) {name : String}
    (h : name ∈ uniqueNames (xs.map f)) : Led k name := by
  obtain ⟨x, hZip⟩ := exists_mem_zip h
  obtain ⟨n, rfl⟩ := candidate_of_mem_zip hZip
  exact (hBase x).candidate n

theorem isSnake_identifierFragment {s : String} {c : Char}
    (hc : c ∈ (Text.identifierFragment s).toList) : isSnake c := by
  rw [Text.identifierFragment, String.toList_ofList] at hc
  exact (Text.isFragment_identifierFragmentChars _).snake c hc

theorem led_event {es : List EventBinding} {name : String} (h : name ∈ eventNames es) :
    Led .event name :=
  led_of_mem (fun _ => .of_append fun _ => isSnake_identifierFragment) h

theorem led_queue {qs : List QueueBinding} {name : String} (h : name ∈ queueNames qs) :
    Led .queue name :=
  led_of_mem (fun _ => .of_append fun _ => isSnake_identifierFragment) h

theorem led_socket {ss : List Socket} {name : String} (h : name ∈ socketNames ss) :
    Led .socket name := by
  refine led_of_mem (fun s => ?_) h
  dsimp only
  split
  · exact led_root .socket
  · exact .of_append fun _ => isSnake_identifierFragment

theorem led_routeBase (r : Route) : Led (.route r.method) (routeBase r) := by
  unfold routeBase
  dsimp only
  split
  · have hRoot := led_root (.route r.method)
    simpa [HandlerKind.lead, String.append_assoc, toString] using hRoot
  · refine .of_append fun c hc => ?_
    rw [Text.join, String.toList_ofList] at hc
    rcases Text.mem_joinChars hc with hSep | ⟨piece, hPiece, hc⟩
    · cases List.mem_singleton.mp hSep
      rfl
    · simp only [List.map_map, List.mem_map, List.mem_filter] at hPiece
      obtain ⟨_, ⟨⟨segment, -, rfl⟩, -⟩, rfl⟩ := hPiece
      rw [Function.comp, String.toList_ofList] at hc
      exact (Text.isFragment_identifierFragmentChars _).snake c hc

theorem led_route {rs : List Route} {r : Route} {name : String}
    (h : (r, name) ∈ rs.zip (routeNames rs)) : Led (.route r.method) name := by
  obtain ⟨n, rfl⟩ := candidate_of_mem_zip h
  exact (led_routeBase r).candidate n

theorem exists_led_route {rs : List Route} {name : String} (h : name ∈ routeNames rs) :
    ∃ method, Led (.route method) name := by
  obtain ⟨r, hZip⟩ := exists_mem_zip h
  exact ⟨r.method, led_route hZip⟩

/-! ## Cron jobs -/

theorem isFragment_of_mem_cronNames {js : List CronJob} {name : String} (h : name ∈ cronNames js) :
    IsFragment name.toList := by
  obtain ⟨j, hZip⟩ := exists_mem_zip h
  obtain ⟨n, rfl⟩ := candidate_of_mem_zip hZip
  refine isFragment_candidate ?_ n
  rw [Text.identifierFragment, String.toList_ofList]
  exact Text.isFragment_identifierFragmentChars _

theorem isIdentifier_of_mem_cronNames {js : List CronJob}
    (h : ∀ j ∈ js, ∃ c ∈ j.name.toList, c.isAlphanum) {name : String}
    (hName : name ∈ cronNames js) : isIdentifier name := by
  refine (isFragment_of_mem_cronNames hName).isIdentifierChars fun hEmpty => ?_
  obtain ⟨j, hZip⟩ := exists_mem_zip hName
  obtain ⟨n, rfl⟩ := candidate_of_mem_zip hZip
  obtain ⟨a, ha, hAlphanum⟩ := h j (List.of_mem_zip hZip).1
  rw [candidate_eq, String.toList_append, List.append_eq_nil_iff, Text.identifierFragment,
    String.toList_ofList] at hEmpty
  exact Text.identifierFragmentChars_eq_nil.mp hEmpty.1 a ha hAlphanum

/-- The first job without ASCII letters and digits in its name has no name at all. -/
theorem empty_mem_cronNames {js : List CronJob} {j : CronJob} (hj : j ∈ js)
    (h : ∀ c ∈ j.name.toList, ¬ c.isAlphanum) : "" ∈ cronNames js := by
  have hName := subset_uniqueNames _
    (List.mem_map_of_mem (f := fun j : CronJob => Text.identifierFragment j.name) hj)
  rwa [Text.identifierFragment, Text.identifierFragmentChars_eq_nil.mpr h] at hName

theorem isIdentifier_cronNames {js : List CronJob} :
    (∀ name ∈ cronNames js, isIdentifier name) ↔ ∀ j ∈ js, ∃ c ∈ j.name.toList, c.isAlphanum := by
  constructor
  · intro hAll j hj
    by_contra hNone
    have hEmpty := empty_mem_cronNames hj fun c hc hAlphanum => hNone ⟨c, hc, hAlphanum⟩
    exact absurd (hAll "" hEmpty) (by decide)
  · exact fun h name => isIdentifier_of_mem_cronNames h

/-! ## All handlers -/

/-- The names of the functions that handle what a service binds. -/
def handlerNames (s : Service) : List String :=
  routeNames s.routes ++ socketNames s.sockets ++ cronNames s.cronJobs ++ eventNames s.events ++
    queueNames s.queues

theorem disjoint_of_led {l : HandlerKind} {as bs : List String}
    (hAs : ∀ a ∈ as, ∃ k, Led k a ∧ k.lead ≠ l.lead) (hBs : ∀ b ∈ bs, Led l b) :
    as.Disjoint bs := by
  intro name hA hB
  obtain ⟨k, hLed, hLead⟩ := hAs name hA
  exact hLead (hLed.lead_eq (hBs name hB))

/-- Routes meet sockets in the names of routes that answer `WS` only. -/
theorem disjoint_routes_sockets {rs : List Route} {ss : List Socket} :
    (routeNames rs).Disjoint (socketNames ss) ↔ ∀ r name, (r, name) ∈ rs.zip (routeNames rs) →
      r.method = .webSocket → name ∉ socketNames ss := by
  constructor
  · intro hDisjoint r name hZip _ hSocket
    exact hDisjoint (List.of_mem_zip hZip).2 hSocket
  · intro hApart name hRoute hSocket
    obtain ⟨r, hZip⟩ := exists_mem_zip hRoute
    have hLead := (led_route hZip).lead_eq (led_socket hSocket)
    refine hApart r name hZip ?_ hSocket
    revert hLead
    cases r.method <;> decide

/-- Only cron jobs, and sockets with routes that answer `WS`, meet the handlers of another kind. -/
theorem nodup_handlerNames {s : Service} : (handlerNames s).Nodup ↔
    (cronNames s.cronJobs).Disjoint (routeNames s.routes ++ socketNames s.sockets ++
        eventNames s.events ++ queueNames s.queues) ∧
      (routeNames s.routes).Disjoint (socketNames s.sockets) := by
  have hEvent : ∀ name ∈ eventNames s.events, Led .event name := fun _ => led_event
  have hQueue : ∀ name ∈ queueNames s.queues, Led .queue name := fun _ => led_queue
  -- two kinds whose names start with different words never share one
  have hRouteEvent : (routeNames s.routes).Disjoint (eventNames s.events) := by
    refine disjoint_of_led (fun name hName => ?_) hEvent
    obtain ⟨method, hLed⟩ := exists_led_route hName
    exact ⟨_, hLed, by cases method <;> decide⟩
  have hRouteQueue : (routeNames s.routes).Disjoint (queueNames s.queues) := by
    refine disjoint_of_led (fun name hName => ?_) hQueue
    obtain ⟨method, hLed⟩ := exists_led_route hName
    exact ⟨_, hLed, by cases method <;> decide⟩
  have hSocketEvent : (socketNames s.sockets).Disjoint (eventNames s.events) :=
    disjoint_of_led (fun _ hName => ⟨_, led_socket hName, by decide⟩) hEvent
  have hSocketQueue : (socketNames s.sockets).Disjoint (queueNames s.queues) :=
    disjoint_of_led (fun _ hName => ⟨_, led_socket hName, by decide⟩) hQueue
  have hEventQueue : (eventNames s.events).Disjoint (queueNames s.queues) :=
    disjoint_of_led (fun _ hName => ⟨_, led_event hName, by decide⟩) hQueue
  -- within one kind the names are numbered apart
  have hRoutes : (routeNames s.routes).Nodup := nodup_uniqueNames _
  have hSockets : (socketNames s.sockets).Nodup := nodup_uniqueNames _
  have hJobs : (cronNames s.cronJobs).Nodup := nodup_uniqueNames _
  have hEvents : (eventNames s.events).Nodup := nodup_uniqueNames _
  have hQueues : (queueNames s.queues).Nodup := nodup_uniqueNames _
  simp only [handlerNames, List.nodup_append', List.disjoint_append_left,
    List.disjoint_append_right, hRoutes, hSockets, hJobs, hEvents, hQueues, hRouteEvent,
    hRouteQueue, hSocketEvent, hSocketQueue, hEventQueue, true_and, and_true]
  constructor
  · rintro ⟨⟨⟨hRouteSocket, hRouteJob, hSocketJob⟩, hJobEvent⟩, hJobQueue⟩
    exact ⟨⟨⟨⟨List.disjoint_comm.mp hRouteJob, List.disjoint_comm.mp hSocketJob⟩, hJobEvent⟩,
      hJobQueue⟩, hRouteSocket⟩
  · rintro ⟨⟨⟨⟨hJobRoute, hJobSocket⟩, hJobEvent⟩, hJobQueue⟩, hRouteSocket⟩
    exact ⟨⟨⟨hRouteSocket, List.disjoint_comm.mp hJobRoute, List.disjoint_comm.mp hJobSocket⟩,
      hJobEvent⟩, hJobQueue⟩

theorem isIdentifier_handlerNames {s : Service} :
    (∀ name ∈ handlerNames s, isIdentifier name) ↔
      ∀ name ∈ cronNames s.cronJobs, isIdentifier name := by
  constructor
  · intro hAll name hName
    refine hAll name ?_
    simp [handlerNames, hName]
  · intro hCron name hName
    simp only [handlerNames, List.mem_append] at hName
    rcases hName with (((hRoute | hSocket) | hJob) | hEvent) | hQueue
    · obtain ⟨_, hLed⟩ := exists_led_route hRoute
      exact hLed.isIdentifier
    · exact (led_socket hSocket).isIdentifier
    · exact hCron name hJob
    · exact (led_event hEvent).isIdentifier
    · exact (led_queue hQueue).isIdentifier

/-- The names of handlers are identifiers but for jobs without ASCII letters and digits in their
name, and differ but where jobs, or routes that answer `WS`, meet another kind. -/
theorem handlerNames_apart (s : Service) :
    ((∀ name ∈ handlerNames s, isIdentifier name) ↔
      ∀ j ∈ s.cronJobs, ∃ c ∈ j.name.toList, c.isAlphanum) ∧
    ((handlerNames s).Nodup ↔
      (∀ name ∈ cronNames s.cronJobs, name ∉ routeNames s.routes ++ socketNames s.sockets ++
        eventNames s.events ++ queueNames s.queues) ∧
      ∀ r name, (r, name) ∈ s.routes.zip (routeNames s.routes) → r.method = .webSocket →
        name ∉ socketNames s.sockets) := by
  refine ⟨isIdentifier_handlerNames.trans isIdentifier_cronNames, ?_⟩
  rw [nodup_handlerNames, disjoint_routes_sockets]
  rfl

/-- A job named as a route is, a job without letters, and a route that answers `WS` where a socket
is. -/
def office : Surface.Program where
  items := [
    .route ⟨.get, "/users", none, none, none, none, [], [], [], []⟩,
    .route ⟨.webSocket, "/chat", none, none, none, none, [], [], [], []⟩,
    .socket ⟨"/chat", []⟩,
    .cron ⟨"get users", "0 0 * * *", none, 0, [], []⟩,
    .cron ⟨"!!!", "0 6 * * *", none, 0, [], []⟩]

theorem handlerNames_meet_office : ∃ b, Build.build office = .ok b ∧
    handlerNames b.service = ["get_users", "ws_chat", "ws_chat", "get_users", ""] ∧
    ¬ (∀ name ∈ handlerNames b.service, isIdentifier name) ∧ ¬ (handlerNames b.service).Nodup := by
  obtain ⟨b, hBuild⟩ : ∃ b, Build.build office = .ok b := ⟨_, rfl⟩
  have hNames : handlerNames b.service = ["get_users", "ws_chat", "ws_chat", "get_users", ""] := by
    cases hBuild
    decide
  refine ⟨b, hBuild, hNames, ?_, ?_⟩ <;> rw [hNames] <;> decide

end ServiceCompiler.Plan
