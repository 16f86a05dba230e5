import ServiceCompiler.Proofs.Json.Document
import ServiceCompiler.Surface.Encode

/-! # Content that fits its layout

Content fits a shape if it has the form that the shape asks for, down to the last field. Such
content is read back from its document, and its document is legible if its floats are. -/

namespace ServiceCompiler.Surface

open ServiceCompiler.Outcome

theorem kindOf_tag (family : Family) :
    ∀ kind ∈ family.kinds, family.kindOf (.name kind.tag) = kind := by
  cases family <;> decide

theorem nodup_recordFields (r : Record) : (r.layout.fields.map (·.name)).Nodup := by
  cases r <;> decide

/-- No two fields of a node have the same name, and none is named like the tag. -/
theorem nodup_kindFields (k : Kind) : ("kind" :: k.layout.fields.map (·.name)).Nodup := by
  rcases k with k | k | k | k | k <;> cases k <;> decide

/-- The word belongs to the vocabulary. -/
inductive ChoiceFits : Choice → Datum → Prop
  | method (m : HttpMethod) : ChoiceFits .method (.method m)
  | stream (m : StreamMode) : ChoiceFits .stream (.stream m)
  | operation (o : Operation) : ChoiceFits .operation (.operation o)
  | event (e : SocketEvent) : ChoiceFits .event (.event e)
  | binary (op : BinaryOp) : ChoiceFits .binary (.binary op)
  | unary (op : UnaryOp) : ChoiceFits .unary (.unary op)

attribute [simp] ChoiceFits.method ChoiceFits.stream ChoiceFits.operation ChoiceFits.event
  ChoiceFits.binary ChoiceFits.unary

/-- The literal is no float, or a float with the property. -/
def LiteralFits (ok : Float → Prop) : Literal → Prop
  | .float x => ok x
  | .int _ | .string _ | .bool _ | .null => True

mutual

/-- The content has the given shape, and its floats have the given property. -/
def Fits (ok : Float → Prop) : Shape → Datum → Prop
  | .text, .text _ => True
  | .flag, .flag _ => True
  | .count, .count _ => True
  | .choice choice, d => ChoiceFits choice d
  | .literal, .literal l => LiteralFits ok l
  | .list shape, .list ds => FitAll ok shape ds
  | .record r, .record s ds => r = s ∧ FitFields ok s.layout.fields ds
  | .node family, .node kind ds => kind ∈ family.kinds ∧ FitFields ok kind.layout.fields ds
  | _, _ => False

def FitAll (ok : Float → Prop) (shape : Shape) : List Datum → Prop
  | [] => True
  | d :: ds => Fits ok shape d ∧ FitAll ok shape ds

/-- A field that may be absent is absent or has its shape; the other fields have theirs. -/
def FitFields (ok : Float → Prop) : List FieldSpec → List Datum → Prop
  | [], [] => True
  | spec :: specs, d :: ds =>
    (spec.allowsNull = true ∧ d = .absent ∨ Fits ok spec.shape d) ∧ FitFields ok specs ds
  | _, _ => False

end

variable {ok : Float → Prop}

theorem conformLiteral_literalJson (l : Literal) : conformLiteral (literalJson l) = .ok l := by
  cases l with
  | int n =>
    have hLow := n.le_toInt
    have hHigh := n.toInt_lt
    have hRange : -0x8000000000000000 ≤ n.toInt ∧ n.toInt < 0x8000000000000000 := by omega
    have hContent : literalContent .int (.number (.integer n.toInt)) = .ok (.int n) := by
      rw [literalContent, if_pos hRange, Int64.ofInt_toInt]
    change (literalContent .int (.number (.integer n.toInt)) >>= fun l => .ok l) = _
    rw [hContent]
    rfl
  | float x => rfl
  | string s => rfl
  | bool b => rfl
  | null => rfl

theorem conformChoice_toJson {choice : Choice} {d : Datum} (h : ChoiceFits choice d) :
    conformChoice choice d.toJson = .ok d := by
  cases h with
  | method m => cases m <;> rfl
  | stream m => cases m <;> rfl
  | operation o => cases o <;> rfl
  | event e => cases e <;> rfl
  | binary op => cases op <;> rfl
  | unary op => cases op <;> rfl

theorem conformCount_toNat (n : UInt32) :
    conformCount (.number (.integer n.toNat)) = .ok (.count n) := by
  have hLimit := n.toNat_lt
  have hRange : (0 : Int) ≤ n.toNat ∧ (n.toNat : Int) < 0x100000000 := by omega
  rw [conformCount, if_pos hRange]
  simp

theorem not_fits_absent (shape : Shape) : ¬ Fits ok shape .absent := by
  cases shape with
  | choice choice => rintro ⟨⟩
  | _ => exact id

/-- Content that fits is never written as `null`. -/
theorem isNull_toJson {shape : Shape} {d : Datum} (h : Fits ok shape d) :
    d.toJson.isNull = false := by
  cases d with
  | absent => exact absurd h (not_fits_absent shape)
  | literal l => cases l <;> rfl
  | _ => simp [Datum.toJson, Json.isNull]

theorem find?_field {fields before after : List FieldSpec} {spec : FieldSpec}
    (hFields : fields = before ++ spec :: after) (hNodup : (fields.map (·.name)).Nodup) :
    fields.find? (·.name == spec.name) = some spec := by
  subst hFields
  have hBefore : before.find? (·.name == spec.name) = none := by
    rw [List.find?_eq_none]
    intro other hOther hName
    rw [List.map_append, List.map_cons] at hNodup
    refine (List.nodup_append.mp hNodup).2.2 other.name (List.mem_map_of_mem hOther) spec.name
      List.mem_cons_self ?_
    simpa using hName
  rw [List.find?_append, hBefore]
  simp

theorem lookup_of_mem {α : Type} {found : List (String × α)} (hNodup : (found.map (·.1)).Nodup)
    {name : String} {d : α} (h : (name, d) ∈ found) : found.lookup name = some d := by
  obtain ⟨before, after, rfl⟩ := List.append_of_mem h
  refine List.lookup_eq_some_iff.mpr ⟨before, after, rfl, ?_⟩
  intro other hOther
  rw [List.map_append, List.map_cons] at hNodup
  have hNe := (List.nodup_append.mp hNodup).2.2 other.1 (List.mem_map_of_mem hOther) name
    List.mem_cons_self
  exact bne_iff_ne.mpr hNe.symm

/-- The fields under their names, as `conformMembers` finds them. -/
theorem arrange_zip {found : List (String × Datum)} {fields : List FieldSpec} {ds : List Datum}
    (hFound : ∀ m ∈ (fields.map (·.name)).zip ds, found.lookup m.1 = some m.2)
    (hLength : ds.length = fields.length) : arrange found fields = .ok ds := by
  unfold arrange
  induction fields generalizing ds with
  | nil =>
    rw [List.eq_nil_of_length_eq_zero hLength]
    rfl
  | cons spec fields ih =>
    cases ds with
    | nil => cases hLength
    | cons d ds =>
      have hHead := hFound (spec.name, d) List.mem_cons_self
      have hTail := ih (fun m hm => hFound m (List.mem_cons_of_mem _ hm)) (Nat.succ.inj hLength)
      rw [List.mapM_cons, hTail]
      simp only at hHead
      simp only [hHead, ok_bind, pure_eq_ok]

theorem FitFields.length_eq {fields : List FieldSpec} {ds : List Datum}
    (h : FitFields ok fields ds) : ds.length = fields.length := by
  induction fields generalizing ds with
  | nil =>
    cases ds with
    | nil => rfl
    | cons d ds => exact h.elim
  | cons spec fields ih =>
    cases ds with
    | nil => exact h.elim
    | cons d ds => rw [List.length_cons, List.length_cons, ih h.2]

/-- The found members are the fields in reverse order, in front of those found before. -/
def foundAfter (fields : List FieldSpec) (ds : List Datum) (found : List (String × Datum)) :
    List (String × Datum) :=
  ((fields.map (·.name)).zip ds).reverse ++ found

theorem map_fst_foundAfter {fields : List FieldSpec} {ds : List Datum}
    (hLength : ds.length = fields.length) :
    (foundAfter fields ds []).map (·.1) = (fields.map (·.name)).reverse := by
  rw [foundAfter, List.append_nil, List.map_reverse, List.map_fst_zip (by simp [hLength])]

/-- Once all members have been read, the fields are arranged as they were. -/
theorem arrange_foundAfter {fields : List FieldSpec} {ds : List Datum}
    (hNodup : (fields.map (·.name)).Nodup) (hLength : ds.length = fields.length) :
    arrange (foundAfter fields ds []) fields = .ok ds := by
  apply arrange_zip _ hLength
  intro m hm
  apply lookup_of_mem
  · rw [map_fst_foundAfter hLength]
    exact List.pairwise_reverse.mpr (hNodup.imp Ne.symm)
  · rw [foundAfter, List.append_nil, List.mem_reverse]
    exact hm

theorem tagOf_node {kind : Kind} {ms : List (String × Json)} (h : ∀ m ∈ ms, m.1 ≠ "kind") :
    tagOf (("kind", .string kind.tag) :: ms) = .ok (.name kind.tag) := by
  have hFilter : ms.filter (·.1 == "kind") = [] := by
    rw [List.filter_eq_nil_iff]
    intro m hm
    simpa using h m hm
  simp only [tagOf, List.filter_cons, beq_self_eq_true, if_true, hFilter]
  rfl

theorem fst_mem_of_mem_memberJson {names : List String} {ds : List Datum} {m : String × Json}
    (h : m ∈ Datum.memberJson names ds) : m.1 ∈ names := by
  induction names generalizing ds with
  | nil =>
    rw [Datum.memberJson.eq_def] at h
    cases h
  | cons name names ih =>
    cases ds with
    | nil =>
      rw [Datum.memberJson.eq_def] at h
      cases h
    | cons d ds =>
      rw [Datum.memberJson] at h
      rcases List.mem_cons.mp h with rfl | h
      · exact List.mem_cons_self
      · exact List.mem_cons_of_mem _ (ih h)

theorem conformMembers_tag (k : Kind) (tag : Json) (ms : List (String × Json)) :
    conformMembers k.layout.fields [] (("kind", tag) :: ms) =
      conformMembers k.layout.fields [] ms := by
  have hNone : k.layout.fields.find? (·.name == "kind") = none := by
    rw [List.find?_eq_none]
    intro spec hSpec hName
    have hKind := (List.nodup_cons.mp (nodup_kindFields k)).1
    exact hKind (List.mem_map.mpr ⟨spec, hSpec, by simpa using hName⟩)
  rw [conformMembers, hNone]

mutual

/-- Content that fits its shape is read back from its document. -/
theorem conform_toJson (shape : Shape) (d : Datum) (h : Fits ok shape d) :
    conform shape d.toJson = .ok d := by
  cases shape with
  | text =>
    cases d with
    | text s => simp [Datum.toJson, conform]
    | _ => exact h.elim
  | flag =>
    cases d with
    | flag b => simp [Datum.toJson, conform]
    | _ => exact h.elim
  | count =>
    cases d with
    | count n => simp only [Datum.toJson, conform, conformCount_toNat]
    | _ => exact h.elim
  | choice choice =>
    rw [Fits] at h
    rw [conform, conformChoice_toJson h]
  | literal =>
    cases d with
    | literal l =>
      simp only [Datum.toJson, conform, conformLiteral_literalJson, ok_bind, pure_eq_ok]
    | _ => exact h.elim
  | list shape =>
    cases d with
    | list ds =>
      simp only [Datum.toJson, conform, conformAll_listJson shape ds h, ok_bind, pure_eq_ok]
    | _ => exact h.elim
  | record r =>
    cases d with
    | record s ds =>
      obtain ⟨rfl, hFields⟩ := h
      have hNodup := nodup_recordFields r
      have hMembers := conformMembers_memberJson r.layout.fields [] r.layout.fields ds [] rfl hNodup
        rfl hFields
      simp only [Datum.toJson, conform, hMembers, ok_bind,
        arrange_foundAfter hNodup hFields.length_eq, pure_eq_ok]
    | _ => exact h.elim
  | node family =>
    cases d with
    | node kind ds =>
      obtain ⟨hKind, hFields⟩ := h
      obtain ⟨hTag, hNodup⟩ := List.nodup_cons.mp (nodup_kindFields kind)
      have hMembers := conformMembers_memberJson kind.layout.fields [] kind.layout.fields ds [] rfl
        hNodup rfl hFields
      have hNames : ∀ m ∈ Datum.memberJson (kind.layout.fields.map (·.name)) ds, m.1 ≠ "kind" := by
        intro m hm hEq
        exact hTag (hEq ▸ fst_mem_of_mem_memberJson hm)
      simp only [Datum.toJson, conform, tagOf_node hNames, ok_bind, kindOf_tag family kind hKind,
        conformMembers_tag, hMembers, arrange_foundAfter hNodup hFields.length_eq, pure_eq_ok]
    | _ => exact h.elim

theorem conformAll_listJson (shape : Shape) (ds : List Datum) (h : FitAll ok shape ds) :
    conformAll shape (Datum.listJson ds) = .ok ds := by
  cases ds with
  | nil => simp [Datum.listJson, conformAll]
  | cons d ds =>
    simp only [Datum.listJson, conformAll, conform_toJson shape d h.1, ok_bind,
      conformAll_listJson shape ds h.2, pure_eq_ok]

/-- The members of an object are found one by one; `before` are the fields found already. -/
theorem conformMembers_memberJson (all before fields : List FieldSpec) (ds : List Datum)
    (found : List (String × Datum)) (hAll : all = before ++ fields)
    (hNodup : (all.map (·.name)).Nodup)
    (hFound : found.map (·.1) = (before.map (·.name)).reverse) (h : FitFields ok fields ds) :
    conformMembers all found (Datum.memberJson (fields.map (·.name)) ds) =
      .ok (foundAfter fields ds found) := by
  cases ds with
  | nil =>
    cases fields with
    | nil => simp [Datum.memberJson, conformMembers, foundAfter]
    | cons spec fields => exact h.elim
  | cons d ds =>
    cases fields with
    | nil => exact h.elim
    | cons spec fields =>
      -- what was found belongs to the fields before this one, and names are distinct
      have hNew : found.any (·.1 == spec.name) = false := by
        rw [List.any_eq_false]
        intro m hm hName
        have hBefore : spec.name ∈ before.map (·.name) := by
          rw [← List.mem_reverse, ← hFound]
          exact List.mem_map.mpr ⟨m, hm, by simpa using hName⟩
        rw [hAll, List.map_append, List.map_cons] at hNodup
        exact (List.nodup_append.mp hNodup).2.2 _ hBefore _ List.mem_cons_self rfl
      have hRest := conformMembers_memberJson all (before ++ [spec]) fields ds
        ((spec.name, d) :: found) (by rw [hAll, List.append_assoc]; rfl) hNodup
        (by simp [hFound]) h.2
      have hAfter : foundAfter (spec :: fields) (d :: ds) found =
          foundAfter fields ds ((spec.name, d) :: found) := by simp [foundAfter]
      rw [List.map_cons, Datum.memberJson, conformMembers, find?_field hAll hNodup, hAfter, ← hRest]
      simp only [hNew]
      -- an absent field is written as null
      rcases h.1 with ⟨hNull, rfl⟩ | hFits
      · simp [hNull, Datum.toJson, Json.isNull]
      · simp [isNull_toJson hFits, conform_toJson spec.shape d hFits]

end

/-- The fields of a node are read back from the members of its document. -/
theorem arrange_conformMembers (k : Kind) {ds : List Datum} (h : FitFields ok k.layout.fields ds) :
    (conformMembers k.layout.fields [] (Datum.memberJson (k.layout.fields.map (·.name)) ds) >>=
      fun found => arrange found k.layout.fields) = .ok ds := by
  have hNodup := (List.nodup_cons.mp (nodup_kindFields k)).2
  rw [conformMembers_memberJson k.layout.fields [] k.layout.fields ds [] rfl hNodup rfl h]
  exact arrange_foundAfter hNodup h.length_eq

/-- The float is read back from its text. -/
def FloatReadsBack (x : Float) : Prop :=
  Json.numeral (Json.writeNumber (.real x)) = .ok (.real x, [])

theorem legible_literalJson {l : Literal} (h : LiteralFits FloatReadsBack l) :
    (literalJson l).Legible := by
  cases l with
  | int n =>
    have hLow := n.le_toInt
    have hHigh := n.toInt_lt
    exact ⟨trivial, Json.numeral_integer (by omega) (by omega), trivial⟩
  | float x => exact ⟨trivial, h, trivial⟩
  | string s => exact ⟨trivial, trivial, trivial⟩
  | bool b => exact ⟨trivial, trivial, trivial⟩
  | null => exact ⟨trivial, trivial⟩

mutual

theorem legible_toJson (shape : Shape) (d : Datum) (h : Fits FloatReadsBack shape d) :
    d.toJson.Legible := by
  cases d with
  | text s => trivial
  | flag b => trivial
  | count n =>
    have hLimit := n.toNat_lt
    rw [Datum.toJson, Json.Legible]
    exact Json.numeral_integer (by omega) (by omega)
  | literal l =>
    cases shape with
    | literal => exact legible_literalJson h
    | choice choice => cases h
    | _ => exact h.elim
  | list ds =>
    cases shape with
    | list shape => exact legible_listJson shape ds h
    | choice choice => cases h
    | _ => exact h.elim
  | record r ds =>
    cases shape with
    | record s => exact legible_memberJson r.layout.fields ds h.2
    | choice choice => cases h
    | _ => exact h.elim
  | node kind ds =>
    cases shape with
    | node family => exact ⟨trivial, legible_memberJson kind.layout.fields ds h.2⟩
    | choice choice => cases h
    | _ => exact h.elim
  | _ => trivial

theorem legible_listJson (shape : Shape) (ds : List Datum) (h : FitAll FloatReadsBack shape ds) :
    Json.LegibleAll (Datum.listJson ds) := by
  cases ds with
  | nil => trivial
  | cons d ds => exact ⟨legible_toJson shape d h.1, legible_listJson shape ds h.2⟩

theorem legible_memberJson (fields : List FieldSpec) (ds : List Datum)
    (h : FitFields FloatReadsBack fields ds) :
    Json.LegibleMembers (Datum.memberJson (fields.map (·.name)) ds) := by
  cases ds with
  | nil =>
    rw [Datum.memberJson.eq_def]
    cases fields <;> trivial
  | cons d ds =>
    cases fields with
    | nil => exact h.elim
    | cons spec fields =>
      refine ⟨?_, legible_memberJson fields ds h.2⟩
      rcases h.1 with ⟨_, rfl⟩ | hFits
      · trivial
      · exact legible_toJson spec.shape d hFits

end

end ServiceCompiler.Surface
