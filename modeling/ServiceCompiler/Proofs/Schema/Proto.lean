import ServiceCompiler.Schema.Proto

/-! # Closed protobuf files

The messages of a file come from the records and from the methods of remote services, and a name
that is taken is not defined again. Main statement: the names that are defined are distinct and
include every name that a method or a field refers to, and the fields of a message are numbered from
1 on. -/

namespace ServiceCompiler.Schema

open ServiceCompiler.Core (Ty Service RpcService)
open Plan (RpcPlan rpcPlans)

def ProtoEntry.message? : ProtoEntry → Option ProtoMessage
  | .message m => some m
  | .service _ => none

def ProtoEntry.service? : ProtoEntry → Option ProtoService
  | .message _ => none
  | .service d => some d

def protoMessages (es : List ProtoEntry) : List ProtoMessage := es.filterMap ProtoEntry.message?

def protoServices (es : List ProtoEntry) : List ProtoService := es.filterMap ProtoEntry.service?

def messageNames (es : List ProtoEntry) : List String := (protoMessages es).map (·.name)

/-- The types of fields that are not messages of the file. -/
def protoScalars : List String := ["int64", "double", "string", "bool", "google.protobuf.Value"]

structure ClosedFile (es : List ProtoEntry) : Prop where
  names : (messageNames es).Nodup
  methods : ∀ d ∈ protoServices es, ∀ m ∈ d.methods,
    m.input ∈ messageNames es ∧ m.output ∈ messageNames es
  types : ∀ m ∈ protoMessages es, ∀ f ∈ m.fields,
    f.type ∈ protoScalars ∨ f.type ∈ messageNames es
  numbers : ∀ m ∈ protoMessages es, m.fields.map (·.number) = List.range' 1 m.fields.length

/-! ## Dropping repeated messages -/

section FirstMessages

variable (defined : List String) (es : List ProtoEntry)

theorem firstMessages_sublist : (firstMessages defined es).Sublist es := by
  induction es generalizing defined with
  | nil => exact .slnil
  | cons e es ih =>
    cases e with
    | service d => exact (ih defined).cons_cons _
    | message m =>
      rw [firstMessages]
      split
      · exact (ih defined).cons _
      · exact (ih (m.name :: defined)).cons_cons _

theorem protoServices_firstMessages :
    protoServices (firstMessages defined es) = protoServices es := by
  induction es generalizing defined with
  | nil => rfl
  | cons e es ih =>
    cases e with
    | service d => exact congrArg (d :: ·) (ih defined)
    | message m =>
      rw [firstMessages]
      split
      · exact ih defined
      · exact ih (m.name :: defined)

theorem mem_messageNames_firstMessages {name : String} :
    name ∈ messageNames (firstMessages defined es) ↔ name ∉ defined ∧ name ∈ messageNames es := by
  induction es generalizing defined with
  | nil => simp [firstMessages, messageNames, protoMessages]
  | cons e es ih =>
    cases e with
    | service d => exact ih defined
    | message m =>
      have hCons (es : List ProtoEntry) :
          messageNames (.message m :: es) = m.name :: messageNames es := rfl
      rw [firstMessages, hCons, List.mem_cons]
      split
      -- a repeated message is left out, under a name that is defined
      · rename_i hDefined
        rw [ih, and_congr_right_iff]
        intro hNew
        refine ⟨.inr, fun hMem => hMem.resolve_left ?_⟩
        rintro rfl
        exact hNew (List.contains_iff_mem.mp hDefined)
      · rename_i hDefined
        rw [List.contains_iff_mem] at hDefined
        rw [hCons, List.mem_cons, ih, List.mem_cons]
        by_cases hName : name = m.name
        · subst hName
          simp [hDefined]
        · simp [hName]

theorem nodup_messageNames_firstMessages :
    (messageNames (firstMessages defined es)).Nodup := by
  induction es generalizing defined with
  | nil => exact .nil
  | cons e es ih =>
    cases e with
    | service d => exact ih defined
    | message m =>
      rw [firstMessages]
      split
      · exact ih defined
      · refine List.nodup_cons.mpr ⟨fun hMem => ?_, ih (m.name :: defined)⟩
        have hNew := ((mem_messageNames_firstMessages _ _).mp hMem).1
        exact hNew List.mem_cons_self

end FirstMessages

/-! ## The fields of a message -/

variable (s : Service)

theorem isDeclared_iff {name : String} :
    isDeclared s name = true ↔ name ∈ s.records.map (·.name) := by
  simp [isDeclared]

def Referable (type : String) : Prop := type ∈ protoScalars ∨ type ∈ s.records.map (·.name)

theorem referable_protoType (t : Ty) : Referable s (protoType s t) := by
  cases t with
  | optional inner => exact referable_protoType inner
  | named name =>
    rw [protoType]
    split
    · rename_i hDeclared
      exact .inr ((isDeclared_iff s).mp hDeclared)
    · exact .inl (by decide)
  | _ => exact .inl (by simp [protoType, protoScalars])

theorem referable_protoField (name : String) (t : Ty) (number : Nat) :
    Referable s (protoField s name t number).type := by
  unfold protoField
  split <;> exact referable_protoType s _

theorem number_protoField (name : String) (t : Ty) (number : Nat) :
    (protoField s name t number).number = number := by
  unfold protoField
  split <;> rfl

theorem referable_protoFields {fs : List Core.Field} {f : ProtoField} (hf : f ∈ protoFields s fs) :
    Referable s f.type := by
  obtain ⟨i, hi, rfl⟩ := List.mem_mapIdx.mp hf
  exact referable_protoField s _ _ _

theorem numbers_protoFields (fs : List Core.Field) :
    (protoFields s fs).map (·.number) = List.range' 1 (protoFields s fs).length := by
  apply List.ext_getElem
  · simp
  · intro i hLeft hRight
    simp only [protoFields, List.getElem_map, List.getElem_mapIdx, number_protoField,
      List.getElem_range']
    omega

/-! ## All candidates -/

/-- A message whose fields refer to what exists, and are numbered. -/
structure SoundMessage (m : ProtoMessage) : Prop where
  types : ∀ f ∈ m.fields, Referable s f.type
  numbers : m.fields.map (·.number) = List.range' 1 m.fields.length

theorem sound_protoFields (name : String) (fs : List Core.Field) :
    SoundMessage s ⟨name, protoFields s fs⟩ :=
  ⟨fun _ hf => referable_protoFields s hf, numbers_protoFields s fs⟩

theorem sound_methodMessages {service : RpcService} {p : RpcPlan} {m : ProtoMessage}
    (hm : m ∈ methodMessages s service p) : SoundMessage s m := by
  rcases List.mem_append.mp hm with hRequest | hResponse
  · split at hRequest
    · cases hRequest
    · obtain rfl := List.mem_singleton.mp hRequest
      cases p.handler with
      | none => exact ⟨fun _ hf => absurd hf List.not_mem_nil, rfl⟩
      | some h => exact sound_protoFields s _ h.params
  · split at hResponse
    · cases hResponse
    · obtain rfl := List.mem_singleton.mp hResponse
      refine ⟨fun f hf => ?_, ?_⟩
      · obtain rfl := List.mem_singleton.mp hf
        exact referable_protoField s _ _ _
      · simp [number_protoField]

def recordMessage (r : Core.Record) : ProtoMessage := ⟨r.name, protoFields s r.fields⟩

/-- The messages that the methods of remote services need. -/
def remoteMessages : List ProtoMessage :=
  s.rpc.flatMap fun service => (rpcPlans service).flatMap (methodMessages s service)

theorem protoCandidates_eq :
    protoCandidates s = (s.records.map (recordMessage s)).map .message ++
      s.rpc.flatMap fun service =>
        ((rpcPlans service).flatMap (methodMessages s service)).map .message ++
          [.service (protoService s service)] := by
  rw [List.map_map]
  rfl

theorem protoMessages_candidates :
    protoMessages (protoCandidates s) = s.records.map (recordMessage s) ++ remoteMessages s := by
  have hMap (ms : List ProtoMessage) :
      (ms.map ProtoEntry.message).filterMap ProtoEntry.message? = ms := by
    rw [List.filterMap_map]
    exact List.filterMap_some
  have hLast (d : ProtoService) : [ProtoEntry.service d].filterMap ProtoEntry.message? = [] := rfl
  rw [protoCandidates_eq, protoMessages, List.filterMap_append, hMap, List.filterMap_flatMap]
  simp only [List.filterMap_append, hMap, hLast, List.append_nil, remoteMessages]

theorem protoServices_candidates :
    protoServices (protoCandidates s) = s.rpc.map (protoService s) := by
  have hMap (ms : List ProtoMessage) :
      (ms.map ProtoEntry.message).filterMap ProtoEntry.service? = [] := by
    rw [List.filterMap_map, List.filterMap_eq_nil_iff]
    exact fun _ _ => rfl
  have hLast (d : ProtoService) : [ProtoEntry.service d].filterMap ProtoEntry.service? = [d] := rfl
  rw [protoCandidates_eq, protoServices, List.filterMap_append, hMap, List.nil_append,
    List.filterMap_flatMap]
  simp only [List.filterMap_append, hMap, hLast, List.nil_append]
  exact List.map_eq_flatMap.symm

theorem sound_candidates {m : ProtoMessage} (hm : m ∈ protoMessages (protoCandidates s)) :
    SoundMessage s m := by
  rw [protoMessages_candidates] at hm
  rcases List.mem_append.mp hm with hRecord | hMethod
  · obtain ⟨r, -, rfl⟩ := List.mem_map.mp hRecord
    exact sound_protoFields s r.name r.fields
  · obtain ⟨service, -, hMethod⟩ := List.mem_flatMap.mp hMethod
    obtain ⟨p, -, hMethod⟩ := List.mem_flatMap.mp hMethod
    exact sound_methodMessages s hMethod

theorem record_mem_candidates {name : String} (hName : name ∈ s.records.map (·.name)) :
    name ∈ messageNames (protoCandidates s) := by
  obtain ⟨r, hr, rfl⟩ := List.mem_map.mp hName
  rw [messageNames, protoMessages_candidates, List.map_append, List.map_map]
  exact List.mem_append_left _ (List.mem_map_of_mem hr)

theorem method_mem_candidates {service : RpcService} (hService : service ∈ s.rpc) {p : RpcPlan}
    (hp : p ∈ rpcPlans service) {m : ProtoMessage} (hm : m ∈ methodMessages s service p) :
    m.name ∈ messageNames (protoCandidates s) := by
  rw [messageNames, protoMessages_candidates, List.map_append]
  refine List.mem_append_right _ (List.mem_map_of_mem ?_)
  exact List.mem_flatMap.mpr ⟨service, hService, List.mem_flatMap.mpr ⟨p, hp, hm⟩⟩

theorem recordMessage?_eq_some {t : Ty} {name : String} (h : recordMessage? s t = some name) :
    name ∈ s.records.map (·.name) := by
  unfold recordMessage? at h
  split at h
  · split at h
    · rename_i hDeclared
      obtain rfl := Option.some.inj h
      exact (isDeclared_iff s).mp hDeclared
    · cases h
  · cases h

/-- A method refers to the message of a record, or else to the message made for it. -/
theorem requestName_mem_candidates {service : RpcService} (hService : service ∈ s.rpc)
    {p : RpcPlan} (hp : p ∈ rpcPlans service) :
    requestName s service p ∈ messageNames (protoCandidates s) := by
  unfold requestName
  cases hInput : recordMessage? s p.input with
  | some name => exact record_mem_candidates s (recordMessage?_eq_some s hInput)
  | none =>
    have hMade : ⟨generatedName service p.name "Request",
        (p.handler.map fun h => protoFields s h.params).getD []⟩ ∈ methodMessages s service p := by
      simp [methodMessages, hInput]
    exact method_mem_candidates s hService hp hMade

theorem responseName_mem_candidates {service : RpcService} (hService : service ∈ s.rpc)
    {p : RpcPlan} (hp : p ∈ rpcPlans service) :
    responseName s service p ∈ messageNames (protoCandidates s) := by
  unfold responseName
  cases hResult : recordMessage? s p.result with
  | some name => exact record_mem_candidates s (recordMessage?_eq_some s hResult)
  | none =>
    have hMade : ⟨generatedName service p.name "Response", [protoField s "value" p.result 1]⟩ ∈
        methodMessages s service p := by
      simp [methodMessages, hResult]
    exact method_mem_candidates s hService hp hMade

/-! ## The file -/

theorem mem_messageNames_protoEntries {name : String} :
    name ∈ messageNames (protoEntries s) ↔ name ∈ messageNames (protoCandidates s) := by
  simp [protoEntries, mem_messageNames_firstMessages]

theorem protoServices_protoEntries :
    protoServices (protoEntries s) = s.rpc.map (protoService s) :=
  (protoServices_firstMessages [] _).trans (protoServices_candidates s)

theorem sound_protoEntries {m : ProtoMessage} (hm : m ∈ protoMessages (protoEntries s)) :
    SoundMessage s m := by
  apply sound_candidates
  exact ((firstMessages_sublist [] (protoCandidates s)).filterMap _).subset hm

/-- The definition file of a service consists of entries that define what they refer to: all remote
services, and messages that include those of all records. -/
theorem closedFile_proto (s : Service) :
    proto s = Text.join "\n" (["syntax = \"proto3\";", "",
      "import \"google/protobuf/struct.proto\";"] ++ (protoEntries s).flatMap ProtoEntry.lines) ++
        "\n" ∧
      ClosedFile (protoEntries s) ∧
      protoServices (protoEntries s) = s.rpc.map (protoService s) ∧
      ∀ r ∈ s.records, r.name ∈ messageNames (protoEntries s) := by
  have hRecord {name : String} (hName : name ∈ s.records.map (·.name)) :
      name ∈ messageNames (protoEntries s) :=
    (mem_messageNames_protoEntries s).mpr (record_mem_candidates s hName)
  refine ⟨rfl, ⟨nodup_messageNames_firstMessages [] _, ?_, ?_, ?_⟩, protoServices_protoEntries s,
    fun r hr => hRecord (List.mem_map_of_mem hr)⟩
  · intro d hd m hm
    rw [protoServices_protoEntries] at hd
    obtain ⟨service, hService, rfl⟩ := List.mem_map.mp hd
    obtain ⟨p, hp, rfl⟩ := List.mem_map.mp hm
    constructor
    · exact (mem_messageNames_protoEntries s).mpr (requestName_mem_candidates s hService hp)
    · exact (mem_messageNames_protoEntries s).mpr (responseName_mem_candidates s hService hp)
  · intro m hm f hf
    exact ((sound_protoEntries s hm).types f hf).imp_right hRecord
  · intro m hm
    exact (sound_protoEntries s hm).numbers

end ServiceCompiler.Schema
