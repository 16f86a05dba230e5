import ServiceCompiler.Proofs.Plan.HandlerNames
import ServiceCompiler.Proofs.Text.Camel
import ServiceCompiler.Target.TypeScriptRecord

/-! # Handler names in camel case

Names are made unique in snake case and turned into camel case afterwards. Main statement: the names
of the handlers of a kind stay distinct in camel case exactly if they are distinct without the `_`
that no letter follows. -/

namespace ServiceCompiler.TypeScript

open ServiceCompiler.Core (Service)
open Text (IsFragment lettered raised lowered)

/-- What the camel-case name of a handler tells of its name. -/
def trace (name : String) : String :=
  if name.isEmpty then "handler" else String.ofList (lettered name.toList)

variable {name : String}

theorem handlerName_eq (h : IsFragment name.toList) :
    handlerName name = String.ofList (raised false (trace name).toList) := by
  by_cases hEmpty : name = ""
  · subst hEmpty
    decide
  · have hCamel := Text.lowerCamelCase_of_isFragment h
    rw [String.ofList_toList] at hCamel
    have hRaised : raised false name.toList ≠ [] :=
      Text.raised_ne_nil h fun hNil => hEmpty (String.toList_eq_nil_iff.mp hNil)
    rw [handlerName, hCamel, if_neg (by simpa using hRaised), trace, if_neg (by simpa using hEmpty),
      String.toList_ofList, Text.raised_lettered h.snake]

theorem lowered_trace (h : IsFragment name.toList) :
    lowered (raised false (trace name).toList) = (trace name).toList := by
  unfold trace
  split
  · decide
  · rw [String.toList_ofList]
    exact Text.lowered_raised h.snake

theorem handlerName_eq_iff {other : String} (hName : IsFragment name.toList)
    (hOther : IsFragment other.toList) :
    handlerName name = handlerName other ↔ trace name = trace other := by
  rw [handlerName_eq hName, handlerName_eq hOther]
  constructor
  · intro hSame
    have hRaised := congrArg lowered (String.ofList_inj.mp hSame)
    rw [lowered_trace hName, lowered_trace hOther] at hRaised
    exact String.toList_inj.mp hRaised
  · intro hSame
    rw [hSame]

theorem nodup_map_iff_trace {names : List String} (h : ∀ name ∈ names, IsFragment name.toList) :
    (names.map handlerName).Nodup ↔ (names.map trace).Nodup := by
  unfold List.Nodup
  rw [List.pairwise_map, List.pairwise_map]
  apply List.Pairwise.iff_of_mem
  intro name other hName hOther
  exact not_congr (handlerName_eq_iff (h name hName) (h other hOther))

/-- The names of the handlers of a kind are distinct in camel case exactly if they are distinct
without the `_` that no letter follows. -/
theorem nodup_map_handlerName (s : Service) :
    (((Plan.eventNames s.events).map handlerName).Nodup ↔
      ((Plan.eventNames s.events).map trace).Nodup) ∧
    (((Plan.queueNames s.queues).map handlerName).Nodup ↔
      ((Plan.queueNames s.queues).map trace).Nodup) ∧
    (((Plan.cronNames s.cronJobs).map handlerName).Nodup ↔
      ((Plan.cronNames s.cronJobs).map trace).Nodup) ∧
    (((Plan.socketNames s.sockets).map handlerName).Nodup ↔
      ((Plan.socketNames s.sockets).map trace).Nodup) := by
  refine ⟨nodup_map_iff_trace ?_, nodup_map_iff_trace ?_, nodup_map_iff_trace ?_,
    nodup_map_iff_trace ?_⟩
  · intro name hName
    exact (Plan.led_event hName).isFragment.1
  · intro name hName
    exact (Plan.led_queue hName).isFragment.1
  · intro name hName
    exact Plan.isFragment_of_mem_cronNames hName
  · intro name hName
    exact (Plan.led_socket hName).isFragment.1

/-- Handlers of every kind whose names differ in a `_` in front of a digit only, and a job without a
name next to one that is called as such jobs are. -/
def errands : Surface.Program where
  items := [
    .event ⟨"a1", false, [], []⟩, .event ⟨"a_1", false, [], []⟩,
    .queue ⟨"a1", 0, 0, 0, [], []⟩, .queue ⟨"a_1", 0, 0, 0, [], []⟩,
    .cron ⟨"!!!", "0 0 * * *", none, 0, [], []⟩, .cron ⟨"handler", "0 6 * * *", none, 0, [], []⟩,
    .socket ⟨"/a1", []⟩, .socket ⟨"/a_1", []⟩]

theorem handlerName_repeats_errands : ∃ b, Build.build errands = .ok b ∧
    ∀ names ∈ [Plan.eventNames b.service.events, Plan.queueNames b.service.queues,
      Plan.cronNames b.service.cronJobs, Plan.socketNames b.service.sockets],
    ¬ (names.map handlerName).Nodup := by
  obtain ⟨b, hBuild⟩ : ∃ b, Build.build errands = .ok b := ⟨_, rfl⟩
  refine ⟨b, hBuild, ?_⟩
  cases hBuild
  decide

end ServiceCompiler.TypeScript
