import Mathlib.Data.List.Forall2
import ServiceCompiler.Proofs.Core.Flow
import ServiceCompiler.Proofs.Plan.Spelling
import ServiceCompiler.Proofs.Source.Emission
import ServiceCompiler.Target.TypeScriptBody

/-! # Responses in TypeScript bodies

Which lines of an emitted body hold the text of a response on the wire. A call can spell that text
by its receiver and its name, so what a body calls counts, beside its names and quoted strings. Main
statement: the lines with a response are the returns and the validations of a route. -/

namespace ServiceCompiler.TypeScript

open ServiceCompiler.Core (Expr Stmt MatchCase SwitchCase ObjectField LambdaBody Node Ty)
open Plan (BodyContext Case Access Check)
open Source (Emit Line nested Additive Mentioning mentioning)
open Source.Emit (Yields line nest capture write fresh each braces only yields_pure
  yields_fresh yields_each yields_write)
open Text (Avoids Mentions Phrase join singleQuoted)
open Text.Phrase (Segment Filled spell clear_template)

def jsonCall : Phrase := ⟨"res.json(", _, rfl, none, by decide⟩

def statusCall : Phrase := ⟨"res.status(", _, rfl, none, by decide⟩

def phrases : List Phrase := [jsonCall, statusCall]

/-- The texts of a response on the wire. -/
def wireTexts : List String := phrases.map (·.text)

/-- What follows the point in them. -/
def members : List Phrase :=
  [⟨"json(", _, rfl, none, by decide⟩, ⟨"status(", _, rfl, none, by decide⟩]

/-- No response is in the text. -/
def Silent (t : String) : Prop := ∀ p ∈ phrases, p.Clear t

instance (t : String) : Decidable (Silent t) := inferInstanceAs (Decidable (∀ p ∈ phrases, _))

/-- A name that cannot complete a response behind a point. -/
def Harmless (name : String) : Prop := ∀ m ∈ members, ¬ Mentions m.text name

instance (name : String) : Decidable (Harmless name) := inferInstanceAs (Decidable (∀ m ∈ members, _))

/-- No name and no quoted string at a node is a response or completes one, and no call spells one. -/
structure Spelled (n : Node) : Prop where
  names : ∀ x ∈ n.names, Harmless x
  strings : ∀ s ∈ n.strings, Silent (singleQuoted s)
  calls : ∀ c ∈ n.expr?.bind Plan.calledPath?, Silent (c ++ "(")

instance : DecidablePred Spelled := fun _ =>
  decidable_of_iff (_ ∧ _ ∧ _) ⟨fun h => ⟨h.1, h.2.1, h.2.2⟩, fun h => ⟨h.names, h.strings, h.calls⟩⟩

/-! ## Texts -/

theorem silent_template (pieces : List Segment)
    (hFits : (phrases.all fun q => q.fits true pieces) = true) (hFilled : Filled Silent pieces) :
    Silent (spell pieces) :=
  fun _ hp => clear_template hp pieces hFits (hFilled.mono fun _ h => h _ hp)

theorem silent_fixed {cs : List Char}
    (hFits : (phrases.all fun q => q.fits true [.lit cs]) = true) : Silent (String.ofList cs) :=
  silent_template [.lit cs] hFits trivial

theorem Silent.not_mentions {t : String} (h : Silent t) : ∀ w ∈ wireTexts, ¬ Mentions w t := by
  intro w hw
  obtain ⟨p, hp, rfl⟩ := List.mem_map.mp hw
  exact (h p hp).not_mentions

theorem silent_nat (n : Nat) : Silent (toString n) := fun p hp =>
  Text.Phrase.clear_nat ((by decide : ∀ q ∈ phrases, q.Wordy) p hp) n

theorem silent_int (n : Int) : Silent (toString n) := fun p hp =>
  Text.Phrase.clear_int ((by decide : ∀ q ∈ phrases, q.Wordy) p hp) n

theorem silent_join {sep : String} (hSep : ∀ q ∈ phrases, q.Separates sep) {ts : List String}
    (h : ∀ t ∈ ts, Silent t) : Silent (join sep ts) := fun p hp =>
  Text.Phrase.clear_join (hSep p hp) fun t ht => h t ht p hp

theorem silent_list {ts : List String} (h : ∀ t ∈ ts, Silent t) : Silent (join ", " ts) :=
  silent_join (by decide) h

theorem closer_of_mem {p : Phrase} (hp : p ∈ phrases) : p.closer = none :=
  (by decide : ∀ q ∈ phrases, q.closer = none) p hp

theorem clear_iff_free {p : Phrase} (hp : p ∈ phrases) {t : String} :
    p.Clear t ↔ p.Free t.toList := by
  rw [Text.Phrase.clear_iff_not_mentions (closer_of_mem hp), Text.Phrase.free_iff_not_mentions]

theorem Harmless.silent {name : String} (h : Harmless name) : Silent name := by
  intro p hp
  obtain ⟨m, hm, hPart⟩ :=
    (by decide : ∀ q ∈ phrases, ∃ m ∈ members, m.chars <:+: q.chars) p hp
  rw [clear_iff_free hp]
  exact fun hInfix => Text.Phrase.free_iff_not_mentions.mpr (h m hm) (hPart.trans hInfix)

theorem Silent.member {t name : String} (ht : Silent t) (hName : Harmless name) :
    Silent (t ++ "." ++ name) := by
  intro p hp
  have hText := ht p hp
  have hMember := hName.silent p hp
  rw [clear_iff_free hp] at hText hMember ⊢
  rw [String.toList_append, String.toList_append, List.append_assoc]
  refine Text.Phrase.free_append hText (fun hInfix => ?_) fun s hs _ hBehind => ?_
  · rcases List.infix_cons_iff.mp hInfix with h | h
    · have hFirst := Text.Phrase.head?_of_begins h
      exact (by decide : ∀ q ∈ phrases, q.chars.head? ≠ some '.') p hp hFirst
    · exact hMember h
  · -- behind the point comes all of the member that completes the phrase
    obtain ⟨-, -, hBack⟩ := Text.Phrase.mem_splits_iff.mp hs
    obtain ⟨c, v, hV⟩ := List.exists_cons_of_ne_nil hBack
    rw [hV] at hBehind
    obtain ⟨rfl, hPrefix⟩ := List.cons_prefix_cons.mp hBehind
    obtain ⟨m, hm, hRest⟩ := (by decide : ∀ q ∈ phrases, ∀ s ∈ q.splits, s.2.head? = some '.' →
      ∃ m ∈ members, m.chars = s.2.tail) p hp s hs (by rw [hV]; rfl)
    refine hName m hm ?_
    rw [Mentions, Text.Phrase.toList_text, hRest, hV]
    exact hPrefix.isInfix

/-- How the text of an expression ends if it is a variable or a field. -/
def Ends (e : Expr) (t : String) : Prop :=
  ∀ r ∈ Plan.lastName? e, t = r ∨ ∃ front, t = front ++ "." ++ r

/-- The text of an expression. -/
structure Spells (e : Expr) (t : String) : Prop where
  silent : Silent t
  ends : Ends e t

theorem silent_called {callee inner : String} (hCallee : Silent (callee ++ "("))
    (hInner : Silent inner) : Silent (callee ++ "(" ++ inner ++ ")") := fun p hp =>
  Text.Phrase.clear_called ((by decide : ∀ q ∈ phrases, q.Opens) p hp)
    ((by decide : ∀ q ∈ phrases, q.fits false [.lit [')']] = true) p hp) (hCallee p hp) (hInner p hp)

/-- A method of a receiver, known by its last name alone. -/
theorem silent_method {receiver : Expr} {t r name : String} (hReceiver : Spells receiver t)
    (hLast : Plan.lastName? receiver = some r) (hPath : Silent (r ++ "." ++ name ++ "(")) :
    Silent (t ++ "." ++ name ++ "(") := by
  rcases hReceiver.ends r hLast with rfl | ⟨front, rfl⟩
  · exact hPath
  · intro p hp
    have hFirst := hReceiver.silent p hp
    have hSecond := hPath p hp
    rw [clear_iff_free hp] at hFirst hSecond ⊢
    simp only [String.toList_append, List.append_assoc] at hFirst hSecond ⊢
    rw [← List.append_assoc front.toList] at hFirst ⊢
    refine Text.Phrase.free_overlap hFirst hSecond fun u v hU hV hEnd hBegin hText => ?_
    -- the phrase would have a point on both sides of the shared name
    have hBefore : '.' ∈ u := by
      obtain ⟨w, hW⟩ := hEnd
      have hLast := congrArg List.getLast? hW
      rw [List.getLast?_append_of_ne_nil _ hU, List.getLast?_append_of_ne_nil _ (by decide)] at hLast
      exact List.mem_of_getLast? hLast
    have hBehind : '.' ∈ v := by
      obtain ⟨c, w, rfl⟩ := List.exists_cons_of_ne_nil hV
      obtain ⟨rfl, -⟩ := List.cons_prefix_cons.mp hBegin
      exact List.mem_cons_self
    have hOnce := (by decide : ∀ q ∈ phrases, q.chars.count '.' ≤ 1) p hp
    rw [hText, List.count_append, List.count_append] at hOnce
    have hU' := List.count_pos_iff.mpr hBefore
    have hV' := List.count_pos_iff.mpr hBehind
    omega

theorem silent_texts {es : List Expr} {ts : List String} (h : List.Forall₂ Spells es ts) :
    ∀ t ∈ ts, Silent t := by
  induction h with
  | nil => nofun
  | cons hFirst _ ih => exact List.forall_mem_cons.mpr ⟨hFirst.silent, ih⟩

theorem silent_callText {name : String} (typeArgs : List Ty) {args : List Expr}
    {texts : List String} (hArgs : List.Forall₂ Spells args texts)
    (hPath : ∀ c ∈ Plan.calledPath? (.call name typeArgs args), Silent (c ++ "(")) :
    Silent (callText name args texts) := by
  have hTexts := silent_texts hArgs
  cases hShape : Plan.classify name args with
  | method receiver method rest =>
    obtain ⟨rfl, rfl, r, hLast⟩ := Plan.classify_eq_method hShape
    obtain ⟨t, ts, hReceiver, hRest, rfl⟩ := List.forall₂_cons_left_iff.mp hArgs
    simp only [callText, hShape]
    refine silent_called (silent_method hReceiver hLast (hPath _ ?_))
      (silent_list (List.forall_mem_cons.mp hTexts).2)
    simp [Plan.calledPath?, hShape, hLast]
  | function called all =>
    obtain ⟨rfl, rfl⟩ := Plan.classify_eq_function hShape
    simp only [callText, hShape]
    exact silent_called (hPath _ (by simp [Plan.calledPath?, hShape])) (silent_list hTexts)

/-! ## Literals, keys and types -/

theorem silent_singleQuoted {name : String} (h : Harmless name) : Silent (singleQuoted name) := by
  -- a quotation holds no member, so it holds no response
  refine Harmless.silent fun m hm => ?_
  have hQuotable := (by decide : ∀ q ∈ members, q.Quotable '\'') m hm
  exact (Text.Phrase.clear_quote hQuotable (h m hm)).not_mentions

theorem silent_floatText (x : Float) : Silent (floatText x) := by
  unfold floatText
  split
  · exact silent_fixed rfl
  · split <;> exact silent_fixed rfl
  · exact fun p hp => Text.Phrase.clear_render ((by decide : ∀ q ∈ phrases, q.Wordy) p hp) _ x

theorem silent_boolText (b : Bool) : Silent (toString b) := by
  cases b <;> exact silent_fixed rfl

theorem silent_literalText (value : Literal) (h : ∀ s ∈ value.strings, Silent (singleQuoted s)) :
    Silent (literalText value) := by
  cases value with
  | int n => exact silent_int n.toInt
  | float x => exact silent_floatText x
  | string s => exact h s List.mem_cons_self
  | bool b => exact silent_boolText b
  | null => exact silent_fixed rfl

theorem silent_binaryText (op : BinaryOp) : Silent (binaryText op) := by
  cases op <;> exact silent_fixed rfl

theorem silent_keyText {key : String} (h : Harmless key) : Silent (keyText key) := by
  unfold keyText
  split
  · exact h.silent
  · exact silent_singleQuoted h

theorem silent_objectText {ts : List String} (h : ∀ t ∈ ts, Silent t) : Silent (objectText ts) := by
  unfold objectText
  split
  · exact silent_fixed rfl
  · exact silent_template [.lit _, .arg (join ", " ts), .lit _] rfl
      ⟨silent_list h, trivial⟩

theorem subjectAt_snoc (path : List Access) (step : Access) :
    subjectAt (path ++ [step]) = subjectAt path ++ accessText step := by
  simp [subjectAt, String.append_assoc]

theorem silent_subjectAt {path : List Access} (h : ∀ x ∈ Plan.pathNames path, Harmless x) :
    Silent (subjectAt path) := by
  induction path using List.reverseRecOn with
  | nil => exact silent_template [.lit _, .lit _] rfl trivial
  | append_singleton path step ih =>
    simp only [Plan.pathNames, List.flatMap_append, List.flatMap_singleton,
      List.forall_mem_append] at h
    have hPath := ih h.1
    have hAccess (pieces : List Segment)
        (hFits : (phrases.all fun q => q.fits false pieces) = true)
        (hFilled : Filled Silent pieces) : Silent (subjectAt path ++ spell pieces) := fun p hp =>
      (hPath p hp).append_spell pieces (List.all_eq_true.mp hFits p hp)
        (hFilled.mono fun _ ht => ht p hp)
    rw [subjectAt_snoc]
    cases step with
    | key name =>
      have hName := silent_singleQuoted (h.2 name List.mem_cons_self)
      exact hAccess [.lit _, .arg (singleQuoted name), .lit _] rfl ⟨hName, trivial⟩
    | index i => exact hAccess [.lit _, .arg (toString i), .lit _] rfl ⟨silent_nat i, trivial⟩
    | restFrom i =>
      exact hAccess [.lit _, .arg (toString i), .lit _] rfl ⟨silent_nat i, trivial⟩

theorem silent_checkText {c : Check} (hNames : ∀ x ∈ c.names, Harmless x)
    (hStrings : ∀ s ∈ c.strings, Silent (singleQuoted s)) : Silent (checkText c) := by
  cases c with
  | isObject path =>
    have hPath := silent_subjectAt hNames
    exact silent_template [.lit _, .arg (subjectAt path), .lit _,
      .arg (subjectAt path), .lit _, .arg (subjectAt path), .lit _]
      rfl ⟨hPath, hPath, hPath, trivial⟩
  | hasKey path key =>
    obtain ⟨hKey, hPath⟩ := List.forall_mem_cons.mp hNames
    exact silent_template [.arg (singleQuoted key), .lit _, .arg (subjectAt path)] rfl
      ⟨silent_singleQuoted hKey, silent_subjectAt hPath, trivial⟩
  | arrayLength path length exact =>
    have hPath := silent_subjectAt hNames
    have hOp : Silent (if exact then "===" else ">=") := by split <;> exact silent_fixed rfl
    exact silent_template [.lit _, .arg (subjectAt path), .lit _,
      .arg (subjectAt path), .lit _, .arg (if exact then "===" else ">="), .lit _,
      .arg (toString length)] rfl ⟨hPath, hPath, hOp, silent_nat length, trivial⟩
  | equals path value =>
    exact silent_template [.arg (subjectAt path), .lit _, .arg (literalText value)] rfl
      ⟨silent_subjectAt hNames, silent_literalText value hStrings, trivial⟩

theorem silent_unaryText (op : UnaryOp) {t : String} (ht : Silent t) : Silent (unaryText op t) := by
  unfold unaryText
  split <;> cases op
  · exact silent_template [.lit _, .lit _, .arg t, .lit _] rfl ⟨ht, trivial⟩
  · exact silent_template [.lit _, .lit _, .arg t, .lit _] rfl ⟨ht, trivial⟩
  · exact silent_template [.lit _, .arg t] rfl ⟨ht, trivial⟩
  · exact silent_template [.lit _, .arg t] rfl ⟨ht, trivial⟩

theorem silent_arrayText (element : Ty) {t : String} (ht : Silent t) :
    Silent (arrayText element t) := by
  unfold arrayText
  split
  · exact silent_template [.lit _, .arg t, .lit _] rfl ⟨ht, trivial⟩
  · exact silent_template [.arg t, .lit _] rfl ⟨ht, trivial⟩

theorem silent_genericText {name : String} (hName : Silent name) (args : List Ty)
    {ts : List String} (h : ∀ t ∈ ts, Silent t) : Silent (genericText name args ts) := by
  have hRecord {key value : String} (hPair : ∀ t ∈ [key, value], Silent t) :
      Silent s!"Record<{key}, {value}>" :=
    silent_template [.lit _, .arg key, .lit _, .arg value, .lit _] rfl
      ⟨hPair key (by simp), hPair value (by simp), trivial⟩
  unfold genericText
  split
  · exact silent_arrayText _ (h _ List.mem_cons_self)
  · exact silent_arrayText _ (h _ List.mem_cons_self)
  · exact hRecord h
  · exact hRecord h
  · exact hRecord h
  · exact hName
  · exact silent_template [.arg name, .lit _, .arg (join ", " ts), .lit _] rfl
      ⟨hName, silent_list h, trivial⟩

theorem silent_numberedParams {ts : List String} (h : ∀ t ∈ ts, Silent t) (n : Nat) :
    ∀ t ∈ numberedParams n ts, Silent t := by
  induction ts generalizing n with
  | nil => nofun
  | cons t ts ih =>
    obtain ⟨hFirst, hRest⟩ := List.forall_mem_cons.mp h
    refine List.forall_mem_cons.mpr ⟨?_, ih hRest (n + 1)⟩
    exact silent_template [.lit _, .arg (toString n), .lit _, .arg t] rfl
      ⟨silent_nat n, hFirst, trivial⟩

mutual

theorem silent_typeText (t : Ty) (h : (Node.ty t).Throughout Spelled) : Silent (typeText t) := by
  match t with
  | .int | .float | .string | .bool | .any => rw [typeText]; exact silent_fixed rfl
  | .array element =>
    rw [typeText]
    exact silent_arrayText element (silent_typeText element (h.part (by simp [Ty.parts])))
  | .optional inner =>
    have hInner := silent_typeText inner (h.part (by simp [Ty.parts]))
    rw [typeText]
    exact silent_template [.arg (typeText inner), .lit _] rfl ⟨hInner, trivial⟩
  | .future result =>
    have hResult := silent_typeText result (h.part (by simp [Ty.parts]))
    rw [typeText]
    exact silent_template [.lit _, .arg (typeText result), .lit _] rfl ⟨hResult, trivial⟩
  | .union [] => rw [typeText]; exact silent_fixed rfl
  | .union (t :: ts) =>
    have hMembers := silent_typeTexts (t :: ts) fun u hu => h.part (by simpa [Ty.parts] using hu)
    rw [typeText]
    exact silent_join (by decide) hMembers
  | .generic name args =>
    have hArgs := silent_typeTexts args fun u hu => h.part (by simp [Ty.parts, hu])
    rw [typeText]
    exact silent_genericText (h.here.names name List.mem_cons_self).silent args hArgs
  | .named name => rw [typeText]; exact (h.here.names name List.mem_cons_self).silent
  | .provider name => rw [typeText]; exact (h.here.names name List.mem_cons_self).silent
  | .function params result =>
    have hParams := silent_typeTexts params fun u hu => h.part (by simp [Ty.parts, hu])
    have hResult := silent_typeText result (h.part (by simp [Ty.parts]))
    rw [typeText]
    exact silent_template [.lit _, .arg _, .lit _, .arg (typeText result)] rfl
      ⟨silent_list (silent_numberedParams hParams 0), hResult, trivial⟩

theorem silent_typeTexts (ts : List Ty) (h : ∀ t ∈ ts, (Node.ty t).Throughout Spelled) :
    ∀ t ∈ typeTexts ts, Silent t := by
  match ts with
  | [] => rw [typeTexts]; nofun
  | t :: ts =>
    obtain ⟨hFirst, hRest⟩ := List.forall_mem_cons.mp h
    rw [typeTexts]
    exact List.forall_mem_cons.mpr ⟨silent_typeText t hFirst, silent_typeTexts ts hRest⟩

end

theorem silent_paramsText {params : List Core.Field}
    (h : ∀ f ∈ params, (Node.field f).Throughout Spelled) : Silent (paramsText params) := by
  refine silent_list fun t ht => ?_
  obtain ⟨f, hf, rfl⟩ := List.mem_map.mp ht
  have hType := silent_typeText f.type ((h f hf).part List.mem_cons_self)
  exact silent_template [.arg f.name, .lit _, .arg (typeText f.type)] rfl
    ⟨((h f hf).here.names f.name List.mem_cons_self).silent, hType, trivial⟩

/-! ## Lines and matches -/

theorem additive_wire : Additive (Mentioning wireTexts) := Source.additive_mentioning wireTexts

theorem yields_line {text : String} (h : Silent text) :
    (line text).Yields (fun _ => True) (Mentioning wireTexts 0) :=
  Source.Emit.yields_line h.not_mentions

theorem yields_braces {α : Type} {m : Emit α} {V : α → Prop} {k : Nat} {opening : String}
    {tail : List Char} (hOpening : Silent (opening ++ " \x7b"))
    (hTail : (phrases.all fun q => q.fits true [.lit ['\x7d'], .lit tail]) = true)
    (h : m.Yields V (Mentioning wireTexts k)) :
    (braces opening m (String.ofList tail)).Yields V (Mentioning wireTexts k) :=
  h.enclosed hOpening.not_mentions (silent_template _ hTail trivial).not_mentions

/-- A text without a point is part of no path. -/
theorem silent_of_avoids {t : String} (h : Avoids '.' t) : Silent t := by
  intro p hp
  refine Text.Phrase.clear_of_not_mem ((by decide : ∀ q ∈ phrases, '.' ∈ q.chars) p hp) h ?_
  rw [closer_of_mem hp]
  nofun

theorem yields_freshName (kind : String) (hKind : Avoids '.' ("__" ++ kind ++ "_")) :
    (fresh kind).Yields (Avoids '.') (Mentioning wireTexts 0) :=
  yields_fresh additive_wire fun n => Text.avoids_numbered (by decide) hKind n

/-- The pattern of a case is harmless, and its parts are silent. -/
structure Fit (c : Case (Emit String)) : Prop where
  names : ∀ x ∈ c.pattern.names, Harmless x
  strings : ∀ s ∈ c.pattern.strings, Silent (singleQuoted s)
  guard : ∀ g ∈ c.guard, Yields g Silent (Mentioning wireTexts 0)
  body : Yields c.body Silent (Mentioning wireTexts 0)

variable {c : Case (Emit String)}

theorem yields_answer {m : Emit String} (h : m.Yields Silent (Mentioning wireTexts 0)) :
    Yields (do line s!"return {← m};") (fun _ => True) (Mentioning wireTexts 0) := by
  refine h.andThen additive_wire fun t ht => yields_line ?_
  exact silent_template [.lit _, .arg t, .lit _] rfl ⟨ht, trivial⟩

theorem yields_armBody (hFit : Fit c) :
    (armBody c.arm).Yields (fun _ => True) (Mentioning wireTexts 0) := by
  have hRoot : ∀ x ∈ Plan.pathNames [], Harmless x := nofun
  have hBounds := Plan.spelling_patternBounds hRoot c.pattern hFit.names
  refine (yields_each additive_wire fun b hb => yields_line ?_).andThen additive_wire fun _ _ => ?_
  · obtain ⟨hName, hPath⟩ := List.forall_mem_cons.mp (hBounds b hb)
    exact silent_template [.lit _, .arg b.name, .lit _, .arg (subjectAt b.path), .lit _]
      rfl ⟨hName.silent, silent_subjectAt hPath, trivial⟩
  · cases hGuard : c.arm.guard with
    | none => exact yields_answer hFit.body
    | some guard =>
      refine (hFit.guard guard hGuard).andThen additive_wire fun t ht => ?_
      refine yields_braces ?_ rfl (yields_answer hFit.body)
      exact silent_template [.lit _, .arg t, .lit _, .lit _] rfl ⟨ht, trivial⟩

theorem yields_armLines (hFit : Fit c) :
    (armLines c.arm).Yields (fun _ => True) (Mentioning wireTexts 0) := by
  have hRoot : ∀ x ∈ Plan.pathNames [], Harmless x := nofun
  have hChecks := Plan.spelling_patternChecks hRoot c.pattern hFit.names hFit.strings
  have hOpening : Silent (if c.arm.checks.isEmpty then "\x7b"
      else "if (" ++ join " && " (c.arm.checks.map checkText) ++ ") \x7b") := by
    split
    · exact silent_fixed rfl
    · refine silent_template [.lit _, .arg _, .lit _] rfl ⟨?_, trivial⟩
      refine silent_join (by decide) fun t ht => ?_
      obtain ⟨check, hCheck, rfl⟩ := List.mem_map.mp ht
      exact silent_checkText (hChecks check hCheck).1 (hChecks check hCheck).2
  refine (yields_line hOpening).andThen additive_wire fun _ _ => ?_
  refine (yields_armBody hFit).nest.andThen additive_wire fun _ _ => ?_
  exact yields_line (silent_fixed rfl)

theorem yields_planLines {cs : List (Case (Emit String))} (hFit : ∀ c ∈ cs, Fit c) :
    (planLines (Plan.planMatch cs)).Yields (fun _ => True) (Mentioning wireTexts 0) := by
  rw [Plan.planMatch_eq]
  refine (yields_each additive_wire fun arm hArm => ?_).andThen additive_wire fun _ _ => ?_
  · obtain ⟨c, hMem, rfl⟩ := List.mem_map.mp hArm
    exact yields_armLines (hFit c (List.mem_of_mem_eraseP hMem))
  · cases hDefault : cs.find? Case.isCatchAll with
    | none => exact yields_line (silent_fixed rfl)
    | some c => exact yields_armBody (hFit c (List.mem_of_find?_eq_some hDefault))

/-! ## Expressions and statements -/

/-- The statements that give a line with a response. -/
def due (ctx : BodyContext) (s : Stmt) : Bool :=
  ctx.status?.isSome && (s.isReturn || s.isValidation)

theorem countP_due_closure (flow : List Stmt) : flow.countP (due .closure) = 0 := by
  simp [due, BodyContext.status?]

theorem countP_due_cons {s : Stmt} (hReturn : s.isReturn = false) (hCheck : s.isValidation = false)
    (ctx : BodyContext) (flow : List Stmt) :
    (s :: flow).countP (due ctx) = flow.countP (due ctx) :=
  List.countP_cons_of_neg (by simp [due, hReturn, hCheck])

theorem yields_return (ctx : BodyContext) (value : Expr) {t : String} (ht : Silent t) :
    (Source.Emit.lines (returnTexts ctx t)).Yields (fun _ => True)
      (Mentioning wireTexts ([Stmt.ret value].countP (due ctx))) := by
  have hRoute (status : Nat) : [Stmt.ret value].countP (due (.route status)) = 1 := by
    simp [due, BodyContext.status?, Stmt.isReturn]
  have hOther (ctx : BodyContext) (hStatus : ctx.status? = none) :
      [Stmt.ret value].countP (due ctx) = 0 := by
    simp [due, hStatus]
  unfold returnTexts
  split
  · rw [hRoute]
    exact Source.Emit.yields_hit (List.mem_map_of_mem (by simp [phrases] : statusCall ∈ phrases))
      (Text.Phrase.mentions_spell [.lit _, .arg t, .lit _] rfl)
  · rw [hRoute]
    exact Source.Emit.yields_hit (List.mem_map_of_mem (by simp [phrases] : jsonCall ∈ phrases))
      (Text.Phrase.mentions_spell [.lit _, .arg t, .lit _] rfl)
  · rw [hOther _ rfl]
    refine Source.Emit.yields_lines (List.forall_mem_cons.mpr
      ⟨Silent.not_mentions ?_, List.forall_mem_singleton.mpr (Silent.not_mentions ?_)⟩)
    · exact silent_template [.lit _, .arg t, .lit _] rfl ⟨ht, trivial⟩
    · exact silent_fixed rfl
  · rw [hOther _ rfl]
    refine yields_line ?_
    exact silent_template [.lit _, .arg t, .lit _] rfl ⟨ht, trivial⟩
  · rename_i hNotCreated hNotRoute _ _
    rw [hOther ctx (by cases ctx <;> first | rfl | exact absurd rfl (hNotRoute _))]
    refine yields_line ?_
    exact silent_template [.lit _, .arg t, .lit _] rfl ⟨ht, trivial⟩

theorem yields_validation (ctx : BodyContext) (call : Expr) :
    (line (validationText ctx)).Yields (fun _ => True)
      (Mentioning wireTexts ([Stmt.validate call].countP (due ctx))) := by
  cases hStatus : ctx.status? with
  | none =>
    have hCount : [Stmt.validate call].countP (due ctx) = 0 := by simp [due, hStatus]
    rw [hCount, validationText, hStatus]
    exact yields_line (silent_fixed (by decide +kernel))
  | some status =>
    have hCount : [Stmt.validate call].countP (due ctx) = 1 := by
      simp [due, hStatus, Stmt.isValidation]
    rw [hCount, validationText, hStatus]
    dsimp only
    exact Source.Emit.yields_hit (List.mem_map_of_mem (by simp [phrases] : statusCall ∈ phrases))
      (by decide +kernel)

theorem yields_pipe (bare : Bool) {left right : Expr}
    (hCalls : (Node.expr (.pipe left right)).Throughout Spelled)
    (hLeft : (expr false left).Yields (Spells left) (Mentioning wireTexts 0))
    (hRight : (expr false right).Yields (Spells right) (Mentioning wireTexts 0))
    (hArgs : ∀ name typeArgs args, right = .call name typeArgs args →
      (exprs args).Yields (List.Forall₂ Spells args) (Mentioning wireTexts 0)) :
    (expr bare (.pipe left right)).Yields Silent (Mentioning wireTexts 0) := by
  have hL := additive_wire
  have hCalled := hCalls.here.calls
  by_cases hCall : ∃ name typeArgs args, right = .call name typeArgs args
  · obtain ⟨name, typeArgs, args, rfl⟩ := hCall
    rw [expr]
    refine hLeft.andThen hL fun l hl => (hArgs _ _ _ rfl).andThen hL fun ts hts => ?_
    refine yields_pure hL (silent_called (hCalled name rfl) (silent_list ?_))
    exact List.forall_mem_cons.mpr ⟨hl.silent, silent_texts hts⟩
  · rw [expr]
    · cases hDotted : Plan.dottedName right with
      | some name =>
        have hName : name ∈ Plan.calledPath? (.pipe left right) :=
          Plan.calledName?_of_dottedName hDotted
        refine hLeft.andThen hL fun l hl => yields_pure hL ?_
        exact silent_called (hCalled name hName) hl.silent
      | none =>
        refine hRight.andThen hL fun r hr => hLeft.andThen hL fun l hl => yields_pure hL ?_
        exact silent_template [.lit _, .arg r, .lit _, .arg l, .lit _] rfl
          ⟨hr.silent, hl.silent, trivial⟩
    · rintro name typeArgs args rfl
      exact hCall ⟨name, typeArgs, args, rfl⟩

/-- A closure around lines that were captured before, and its last lines. -/
theorem yields_captured {text answer name : String} {inner : List Line} (hText : Silent text)
    (hInner : Mentioning wireTexts 0 inner) (hAnswer : Silent answer) {V : String → Prop}
    (hName : V name) :
    Yields (do line text; write inner; nest (line answer); line "\x7d;"; return name) V
      (Mentioning wireTexts 0) := by
  have hL := additive_wire
  refine (yields_line hText).andThen hL fun _ _ => (yields_write hInner).andThen hL fun _ _ => ?_
  refine (yields_line hAnswer).nest.andThen hL fun _ _ => ?_
  exact (yields_line (silent_fixed rfl)).andThen hL fun _ _ => yields_pure hL hName

theorem silent_start (awaits : Bool) {params : String} (hParams : Silent params) :
    Silent s!"{asyncText awaits}({params}) =>" := by
  cases awaits
  · exact silent_template [.lit _, .lit _, .arg params, .lit _] rfl ⟨hParams, trivial⟩
  · exact silent_template [.lit _, .lit _, .arg params, .lit _] rfl ⟨hParams, trivial⟩

/-- A call of a closure that was written ahead, as it is or awaited. -/
theorem silent_ahead {name t : String} (hName : Avoids '.' name) (ht : Silent t) :
    Silent (name ++ "(" ++ t ++ ")") ∧ Silent ("(await " ++ name ++ "(" ++ t ++ "))") := by
  have hCall : Silent (name ++ "(" ++ t ++ ")") :=
    silent_called (silent_of_avoids (hName.append (by decide))) ht
  refine ⟨hCall, ?_⟩
  have hSame : "(await " ++ name ++ "(" ++ t ++ "))" =
      spell [.lit "(await ".toList, .arg (name ++ "(" ++ t ++ ")"), .lit [')']] := by
    apply String.toList_injective
    simp [spell, Segment.text]
  rw [hSame]
  exact silent_template _ rfl ⟨hCall, trivial⟩

theorem spells_of_silent {e : Expr} (hPlain : Plan.lastName? e = none) {m : Emit String} {k : Nat}
    (h : m.Yields Silent (Mentioning wireTexts k)) : m.Yields (Spells e) (Mentioning wireTexts k) :=
  h.mono fun t ht => ⟨ht, by rw [Ends, hPlain]; nofun⟩

theorem stmt_cond (sc : Scope) (condition : Expr) (thenBody elseBody : List Stmt) :
    stmt sc (.cond condition thenBody elseBody) = (do
      line s!"if ({← expr true condition}) \x7b"
      nest (block sc thenBody)
      match elseBody with
      | [] => line "\x7d"
      | s :: ss =>
        line "\x7d else \x7b"
        nest (block sc (s :: ss))
        line "\x7d") :=
  stmt.eq_def _ _

theorem stmt_switch (sc : Scope) (value : Expr) (cases : List SwitchCase)
    (otherwise : List Stmt) :
    stmt sc (.switch value cases otherwise) = (do
      let value ← expr true value
      let labels ← caseLabels cases
      line s!"switch ({value}) \x7b"
      nest (caseLines sc cases labels)
      match otherwise with
      | [] => pure ()
      | s :: ss => nest (braces "default:" (block sc (s :: ss)) "")
      line "\x7d") :=
  stmt.eq_def _ _

mutual

theorem yields_expr (bare : Bool) (e : Expr) (h : (Node.expr e).Throughout Spelled) :
    (expr bare e).Yields (Spells e) (Mentioning wireTexts 0) := by
  have hL := additive_wire
  match e with
  | .int n =>
    rw [expr]
    exact spells_of_silent rfl (yields_pure hL (silent_int n.toInt))
  | .float x =>
    rw [expr]
    exact spells_of_silent rfl (yields_pure hL (silent_floatText x))
  | .string s =>
    rw [expr]
    exact spells_of_silent rfl (yields_pure hL (h.here.strings s List.mem_cons_self))
  | .bool b =>
    rw [expr]
    exact spells_of_silent rfl (yields_pure hL (silent_boolText b))
  | .null =>
    rw [expr]
    exact spells_of_silent rfl (yields_pure hL (silent_fixed rfl))
  | .var name =>
    rw [expr]
    refine yields_pure hL ⟨(h.here.names name List.mem_cons_self).silent, ?_⟩
    rintro _ ⟨⟩
    exact .inl rfl
  | .binary op left right =>
    have hLeft := yields_expr false left (h.part (by simp))
    have hRight := yields_expr false right (h.part (by simp))
    rw [expr]
    refine spells_of_silent rfl (hLeft.andThen hL fun l hl => hRight.andThen hL fun r hr => ?_)
    exact yields_pure hL (silent_template [.lit _, .arg l, .lit _, .arg (binaryText op),
      .lit _, .arg r, .lit _] rfl ⟨hl.silent, silent_binaryText op, hr.silent, trivial⟩)
  | .unary op operand =>
    have hOperand := yields_expr false operand (h.part (by simp))
    rw [expr]
    refine spells_of_silent rfl (hOperand.andThen hL fun t ht => yields_pure hL ?_)
    exact silent_unaryText op ht.silent
  | .field target name =>
    have hTarget := yields_expr false target (h.part (by simp))
    rw [expr]
    refine hTarget.andThen hL fun t ht => yields_pure hL ⟨?_, ?_⟩
    · exact ht.silent.member (h.here.names name List.mem_cons_self)
    · rintro _ ⟨⟩
      exact .inr ⟨t, rfl⟩
  | .index target position =>
    have hTarget := yields_expr false target (h.part (by simp))
    have hPosition := yields_expr false position (h.part (by simp))
    rw [expr]
    refine spells_of_silent rfl (hTarget.andThen hL fun t ht => hPosition.andThen hL fun i hi => ?_)
    exact yields_pure hL (silent_template [.arg t, .lit _, .arg i, .lit _] rfl
      ⟨ht.silent, hi.silent, trivial⟩)
  | .call name typeArgs args =>
    have hArgs := yields_exprs args fun a ha => h.part (by simp [ha])
    rw [expr]
    refine spells_of_silent rfl (hArgs.andThen hL fun ts hts => yields_pure hL ?_)
    exact silent_callText typeArgs hts (h.here.calls)
  | .object fields =>
    have hFields := yields_objectFields fields (fun f hf => h.part (List.mem_map_of_mem hf))
      fun f hf => h.here.names f.key (List.mem_map_of_mem hf)
    rw [expr]
    exact spells_of_silent rfl (hFields.andThen hL fun ts hts =>
      yields_pure hL (silent_objectText hts))
  | .array elements =>
    have hElements := yields_exprs elements fun a ha => h.part (by simp [ha])
    rw [expr]
    refine spells_of_silent rfl (hElements.andThen hL fun ts hts => yields_pure hL ?_)
    exact silent_template [.lit _, .arg (join ", " ts), .lit _] rfl
      ⟨silent_list (silent_texts hts), trivial⟩
  | .lambda params (.expr body) =>
    have hBody := yields_expr false body (h.part (by simp))
    have hParams : Silent (paramsText params) := silent_paramsText fun f hf => h.part (by simp [hf])
    have hStart := silent_start body.awaits hParams
    rw [expr]
    refine spells_of_silent rfl ((hBody.nest.capture hL).andThen hL ?_)
    rintro ⟨t, ahead⟩ ⟨ht, hAhead⟩
    dsimp only
    split
    · exact yields_pure hL (silent_template [.lit _, .arg _, .lit _, .arg t, .lit _] rfl
        ⟨hStart, ht.silent, trivial⟩)
    · refine (yields_freshName "lambda" (by decide)).andThen hL fun name hName => ?_
      have hSilent := silent_of_avoids hName
      refine yields_captured ?_ hAhead ?_ hSilent
      · exact silent_template [.lit _, .arg name, .lit _, .arg _, .lit _] rfl
          ⟨hSilent, hStart, trivial⟩
      · exact silent_template [.lit _, .arg t, .lit _] rfl ⟨ht.silent, trivial⟩
  | .lambda params (.block body) =>
    have hBody := yields_block (.of .closure body) body fun s hs => h.part (by simp [hs])
    have hParams : Silent (paramsText params) := silent_paramsText fun f hf => h.part (by simp [hf])
    rw [expr]
    refine spells_of_silent rfl ?_
    refine (yields_freshName "lambda" (by decide)).andThen hL fun name hName => ?_
    have hSilent := silent_of_avoids hName
    refine (yields_braces ?_ rfl (hBody.measure (countP_due_closure _))).andThen hL
      fun _ _ => yields_pure hL hSilent
    cases Stmt.bodyAwaits body
    · exact silent_template [.lit _, .arg name, .lit _, .lit _, .lit _, .arg _,
        .lit _, .lit _] rfl ⟨hSilent, hParams, trivial⟩
    · exact silent_template [.lit _, .arg name, .lit _, .lit _, .lit _, .arg _,
        .lit _, .lit _] rfl ⟨hSilent, hParams, trivial⟩
  | .pipe left right =>
    exact spells_of_silent rfl (yields_pipe bare h (yields_expr false left (h.part (by simp)))
      (yields_expr false right (h.part (by simp))) (yields_callArgs right (h.part (by simp))))
  | .matchOn value cases =>
    have hValue := yields_expr false value (h.part (by simp))
    have hCases := fit_matchCases cases (fun m hm => h.part (List.mem_cons_of_mem _ hm))
      h.here.names h.here.strings
    rw [expr]
    refine spells_of_silent rfl (hValue.andThen hL fun v hv => ?_)
    refine (yields_freshName "match" (by decide)).andThen hL fun name hName => ?_
    have hSilent := silent_of_avoids hName
    refine (yields_braces ?_ rfl (yields_planLines hCases)).andThen hL fun _ _ =>
      yields_pure hL ?_
    · cases Expr.casesAwait cases
      · exact silent_template [.lit _, .arg name, .lit _, .lit _,
          .lit _, .lit _] rfl ⟨hSilent, trivial⟩
      · exact silent_template [.lit _, .arg name, .lit _, .lit _,
          .lit _, .lit _] rfl ⟨hSilent, trivial⟩
    · split
      · exact (silent_ahead hName hv.silent).2
      · exact (silent_ahead hName hv.silent).1
  | .async body =>
    have hBody := yields_block (.of .closure body) body fun s hs => h.part (by simp [hs])
    rw [expr]
    refine spells_of_silent rfl ?_
    refine (yields_freshName "async" (by decide)).andThen hL fun name hName => ?_
    refine (yields_braces ?_ rfl (hBody.measure (countP_due_closure _))).andThen hL
      fun _ _ => yields_pure hL (silent_of_avoids (hName.append (by decide)))
    exact silent_template [.lit _, .arg name, .lit _,
      .lit _] rfl ⟨silent_of_avoids hName, trivial⟩
  | .await inner =>
    have hInner := yields_expr false inner (h.part (by simp))
    rw [expr]
    refine spells_of_silent rfl (hInner.andThen hL fun t ht => yields_pure hL ?_)
    split
    · exact silent_template [.lit _, .arg t] rfl ⟨ht.silent, trivial⟩
    · exact silent_template [.lit _, .arg t, .lit _] rfl ⟨ht.silent, trivial⟩

/-- The arguments of a call that stands on the right of a pipe. -/
theorem yields_callArgs (e : Expr) (h : (Node.expr e).Throughout Spelled) :
    ∀ name typeArgs args, e = .call name typeArgs args →
      (exprs args).Yields (List.Forall₂ Spells args) (Mentioning wireTexts 0) := by
  match e with
  | .call _ _ args =>
    rintro _ _ _ ⟨⟩
    exact yields_exprs args fun a ha => h.part (by simp [ha])
  | .int _ | .float _ | .string _ | .bool _ | .null | .var _ | .binary _ _ _ | .unary _ _
  | .field _ _ | .index _ _ | .object _ | .array _ | .lambda _ _ | .pipe _ _ | .matchOn _ _
  | .async _ | .await _ => nofun

theorem yields_exprs (es : List Expr) (h : ∀ e ∈ es, (Node.expr e).Throughout Spelled) :
    (exprs es).Yields (List.Forall₂ Spells es) (Mentioning wireTexts 0) := by
  have hL := additive_wire
  match es with
  | [] =>
    rw [exprs]
    exact yields_pure hL .nil
  | e :: es =>
    obtain ⟨hFirst, hRest⟩ := List.forall_mem_cons.mp h
    rw [exprs]
    refine (yields_expr false e hFirst).andThen hL fun t ht => ?_
    exact (yields_exprs es hRest).andThen hL fun ts hts => yields_pure hL (.cons ht hts)

theorem yields_objectFields (fs : List ObjectField)
    (h : ∀ f ∈ fs, (Node.expr f.value).Throughout Spelled) (hKeys : ∀ f ∈ fs, Harmless f.key) :
    (objectFields fs).Yields (fun ts => ∀ t ∈ ts, Silent t) (Mentioning wireTexts 0) := by
  have hL := additive_wire
  match fs with
  | [] =>
    rw [objectFields]
    exact yields_pure hL nofun
  | ⟨key, value⟩ :: fs =>
    obtain ⟨hFirst, hRest⟩ := List.forall_mem_cons.mp h
    obtain ⟨hKey, hMore⟩ := List.forall_mem_cons.mp hKeys
    rw [objectFields]
    refine (yields_expr false value hFirst).andThen hL fun t ht => ?_
    refine (yields_objectFields fs hRest hMore).andThen hL fun ts hts => ?_
    refine yields_pure hL (List.forall_mem_cons.mpr ⟨?_, hts⟩)
    exact silent_template [.arg (keyText key), .lit _, .arg t] rfl
      ⟨silent_keyText hKey, ht.silent, trivial⟩

theorem fit_matchCases (cs : List MatchCase)
    (h : ∀ m ∈ cs.flatMap MatchCase.parts, m.Throughout Spelled)
    (hNames : ∀ x ∈ cs.flatMap (·.pattern.names), Harmless x)
    (hStrings : ∀ s ∈ cs.flatMap (·.pattern.strings), Silent (singleQuoted s)) :
    ∀ c ∈ matchCases cs, Fit c := by
  match cs with
  | [] => rw [matchCases]; nofun
  | ⟨pattern, none, body⟩ :: cs =>
    rw [List.flatMap_cons, List.forall_mem_append] at h hNames hStrings
    have hBody := yields_expr true body (h.1 _ (by simp))
    rw [matchCases, List.forall_mem_cons]
    refine ⟨⟨hNames.1, hStrings.1, nofun, hBody.mono fun _ ht => ht.silent⟩, ?_⟩
    exact fit_matchCases cs h.2 hNames.2 hStrings.2
  | ⟨pattern, some guard, body⟩ :: cs =>
    rw [List.flatMap_cons, List.forall_mem_append] at h hNames hStrings
    have hGuard := yields_expr false guard (h.1 _ (by simp))
    have hBody := yields_expr true body (h.1 _ (by simp))
    rw [matchCases, List.forall_mem_cons]
    refine ⟨⟨hNames.1, hStrings.1, ?_, hBody.mono fun _ ht => ht.silent⟩, ?_⟩
    · rintro _ ⟨⟩
      exact hGuard.mono fun _ ht => ht.silent
    · exact fit_matchCases cs h.2 hNames.2 hStrings.2

theorem yields_stmt (sc : Scope) (s : Stmt) (h : (Node.stmt s).Throughout Spelled) :
    (stmt sc s).Yields (fun _ => True) (Mentioning wireTexts (s.flow.countP (due sc.context))) := by
  have hL := additive_wire
  have hDeclare (name : String) : Silent (sc.declare name) := by
    unfold Scope.declare
    split <;> exact silent_fixed rfl
  match s with
  | .assign target value =>
    have hValue := yields_expr true value (h.part (by simp))
    have hTarget := (h.here.names target List.mem_cons_self).silent
    rw [stmt, Stmt.flow, countP_due_cons rfl rfl]
    refine hValue.andThen hL fun t ht => yields_line ?_
    exact silent_template [.arg (sc.declare target), .lit _, .arg target, .lit _, .arg t,
      .lit _] rfl ⟨hDeclare target, hTarget, ht.silent, trivial⟩
  | .reassign target value =>
    have hValue := yields_expr true value (h.part (by simp))
    have hTarget := (h.here.names target List.mem_cons_self).silent
    rw [stmt, Stmt.flow, countP_due_cons rfl rfl]
    refine hValue.andThen hL fun t ht => yields_line ?_
    exact silent_template [.arg target, .lit _, .arg t, .lit _] rfl
      ⟨hTarget, ht.silent, trivial⟩
  | .ret value =>
    have hValue := yields_expr true value (h.part (by simp))
    rw [stmt, Stmt.flow]
    exact hValue.andThen hL fun t ht => yields_return sc.context value ht.silent
  | .cond condition thenBody elseBody =>
    have hCondition := yields_expr true condition (h.part (by simp))
    have hThen := yields_block sc thenBody fun s hs => h.part (by simp [hs])
    have hElse := yields_block sc elseBody fun s hs => h.part (by simp [hs])
    rw [stmt_cond, Stmt.flow, countP_due_cons rfl rfl, List.countP_append]
    refine hCondition.andThen hL fun t ht => (yields_line ?_).andThen hL fun _ _ => ?_
    · exact silent_template [.lit _, .arg t, .lit _] rfl ⟨ht.silent, trivial⟩
    refine hThen.nest.bind hL fun _ _ => ?_
    cases elseBody with
    | nil => exact yields_line (silent_fixed rfl)
    | cons s ss =>
      refine (yields_line (silent_fixed rfl)).andThen hL fun _ _ => ?_
      exact hElse.nest.andLast hL fun _ _ => yields_line (silent_fixed rfl)
  | .forEach key value iterable body =>
    have hIterable := yields_expr false iterable (h.part (by simp))
    have hBody := yields_block sc body fun s hs => h.part (by simp [hs])
    have hValue := (h.here.names value (by simp [Node.names])).silent
    rw [stmt, Stmt.flow, countP_due_cons rfl rfl]
    refine hIterable.andThen hL fun t ht => yields_braces ?_ rfl hBody
    cases key with
    | some key =>
      have hKey := (h.here.names key (by simp [Node.names])).silent
      exact silent_template [.lit _, .arg (sc.declare value), .lit _, .arg key, .lit _,
        .arg value, .lit _, .arg t, .lit _, .lit _] rfl
        ⟨hDeclare value, hKey, hValue, ht.silent, trivial⟩
    | none =>
      exact silent_template [.lit _, .arg (sc.declare value), .lit _, .arg value,
        .lit _, .arg t, .lit _, .lit _] rfl
        ⟨hDeclare value, hValue, ht.silent, trivial⟩
  | .whileLoop condition body =>
    have hCondition := yields_expr true condition (h.part (by simp))
    have hBody := yields_block sc body fun s hs => h.part (by simp [hs])
    rw [stmt, Stmt.flow, countP_due_cons rfl rfl]
    refine hCondition.andThen hL fun t ht => yields_braces ?_ rfl hBody
    exact silent_template [.lit _, .arg t, .lit _, .lit _] rfl ⟨ht.silent, trivial⟩
  | .switch value cases otherwise =>
    have hValue := yields_expr true value (h.part (by simp))
    have hParts : ∀ m ∈ cases.flatMap SwitchCase.parts, m.Throughout Spelled :=
      fun m hm => h.part (List.mem_cons_of_mem _ (List.mem_append_left _ hm))
    have hOther := yields_block sc otherwise fun s hs => h.part (by simp [hs])
    rw [stmt_switch, Stmt.flow, countP_due_cons rfl rfl, List.countP_append]
    refine hValue.andThen hL fun t ht => ?_
    refine (yields_caseLabels cases hParts).andThen hL fun labels hLabels => ?_
    refine (yields_line ?_).andThen hL fun _ _ => ?_
    · exact silent_template [.lit _, .arg t, .lit _] rfl ⟨ht.silent, trivial⟩
    refine (yields_caseLines sc cases hParts hLabels.1 hLabels.2).nest.bind hL fun _ _ => ?_
    cases otherwise with
    | nil => exact yields_line (silent_fixed rfl)
    | cons s ss =>
      refine (yields_braces ?_ rfl hOther).nest.andLast hL fun _ _ => yields_line (silent_fixed rfl)
      exact silent_template [.lit _, .lit _] rfl trivial
  | .expr value =>
    have hValue := yields_expr true value (h.part (by simp))
    rw [Stmt.flow, countP_due_cons rfl rfl]
    by_cases hNull : value = .null
    · rw [hNull, stmt]
      exact yields_line (silent_fixed rfl)
    · rw [stmt]
      · refine hValue.andThen hL fun t ht => yields_line ?_
        exact silent_template [.arg t, .lit _] rfl ⟨ht.silent, trivial⟩
      · exact hNull
  | .validate call =>
    have hCall := yields_expr false call (h.part (by simp))
    rw [stmt, Stmt.flow]
    refine hCall.andThen hL fun t ht =>
      yields_braces ?_ rfl (yields_validation sc.context call)
    exact silent_template [.lit _, .arg t, .lit _, .lit _] rfl ⟨ht.silent, trivial⟩
  | .breakLoop =>
    rw [stmt, Stmt.flow, countP_due_cons rfl rfl]
    exact yields_line (silent_fixed rfl)
  | .continueLoop =>
    rw [stmt, Stmt.flow, countP_due_cons rfl rfl]
    exact yields_line (silent_fixed rfl)

theorem yields_block (sc : Scope) (ss : List Stmt) (h : ∀ s ∈ ss, (Node.stmt s).Throughout Spelled) :
    (block sc ss).Yields (fun _ => True)
      (Mentioning wireTexts ((Stmt.bodyFlow ss).countP (due sc.context))) := by
  match ss with
  | [] =>
    rw [block, Stmt.bodyFlow]
    exact yields_line (silent_fixed rfl)
  | s :: ss =>
    obtain ⟨hFirst, hRest⟩ := List.forall_mem_cons.mp h
    rw [block, Stmt.bodyFlow, List.countP_append]
    exact (yields_stmt sc s hFirst).bind additive_wire fun _ _ => yields_stmts sc ss hRest

theorem yields_stmts (sc : Scope) (ss : List Stmt) (h : ∀ s ∈ ss, (Node.stmt s).Throughout Spelled) :
    (stmts sc ss).Yields (fun _ => True)
      (Mentioning wireTexts ((Stmt.bodyFlow ss).countP (due sc.context))) := by
  match ss with
  | [] =>
    rw [stmts, Stmt.bodyFlow]
    exact yields_pure additive_wire trivial
  | s :: ss =>
    obtain ⟨hFirst, hRest⟩ := List.forall_mem_cons.mp h
    rw [stmts, Stmt.bodyFlow, List.countP_append]
    exact (yields_stmt sc s hFirst).bind additive_wire fun _ _ => yields_stmts sc ss hRest

theorem yields_caseBlock (sc : Scope) (ss : List Stmt)
    (h : ∀ s ∈ ss, (Node.stmt s).Throughout Spelled) :
    (caseBlock sc ss).Yields (fun _ => True)
      (Mentioning wireTexts ((Stmt.bodyFlow ss).countP (due sc.context))) := by
  match ss with
  | [] =>
    rw [caseBlock, Stmt.bodyFlow]
    exact yields_line (silent_fixed rfl)
  | s :: ss =>
    obtain ⟨hFirst, hRest⟩ := List.forall_mem_cons.mp h
    have hStmt := yields_stmt sc s hFirst
    have hStmts := yields_caseStmts sc ss hRest
    rw [Stmt.bodyFlow, List.countP_append]
    by_cases hBreak : s = .breakLoop ∧ ss = []
    · rw [hBreak.1, hBreak.2, caseBlock, Stmt.flow, countP_due_cons rfl rfl]
      exact yields_line (silent_fixed rfl)
    · rw [caseBlock]
      · exact hStmt.bind additive_wire fun _ _ => hStmts
      · exact fun hs hss => hBreak ⟨hs, hss⟩

theorem yields_caseStmts (sc : Scope) (ss : List Stmt)
    (h : ∀ s ∈ ss, (Node.stmt s).Throughout Spelled) :
    (caseStmts sc ss).Yields (fun _ => True)
      (Mentioning wireTexts ((Stmt.bodyFlow ss).countP (due sc.context))) := by
  match ss with
  | [] =>
    rw [caseStmts, Stmt.bodyFlow]
    exact yields_pure additive_wire trivial
  | s :: ss =>
    obtain ⟨hFirst, hRest⟩ := List.forall_mem_cons.mp h
    have hStmt := yields_stmt sc s hFirst
    have hStmts := yields_caseStmts sc ss hRest
    rw [Stmt.bodyFlow, List.countP_append]
    by_cases hBreak : s = .breakLoop ∧ ss = []
    · rw [hBreak.1, hBreak.2, caseStmts, Stmt.flow, countP_due_cons rfl rfl]
      exact yields_pure additive_wire trivial
    · rw [caseStmts]
      · exact hStmt.bind additive_wire fun _ _ => hStmts
      · exact fun hs hss => hBreak ⟨hs, hss⟩

theorem yields_caseLabels (cs : List SwitchCase)
    (h : ∀ m ∈ cs.flatMap SwitchCase.parts, m.Throughout Spelled) :
    (caseLabels cs).Yields (fun labels => labels.length = cs.length ∧ ∀ t ∈ labels, Silent t)
      (Mentioning wireTexts 0) := by
  have hL := additive_wire
  match cs with
  | [] =>
    rw [caseLabels]
    exact yields_pure hL ⟨rfl, nofun⟩
  | ⟨value, body⟩ :: cs =>
    rw [List.flatMap_cons, List.forall_mem_append] at h
    have hValue := yields_expr false value (h.1 _ (by simp))
    rw [caseLabels]
    refine hValue.andThen hL fun t ht => (yields_caseLabels cs h.2).andThen hL fun labels hTexts => ?_
    exact yields_pure hL
      ⟨congrArg (· + 1) hTexts.1, List.forall_mem_cons.mpr ⟨ht.silent, hTexts.2⟩⟩

theorem yields_caseLines (sc : Scope) (cs : List SwitchCase)
    (h : ∀ m ∈ cs.flatMap SwitchCase.parts, m.Throughout Spelled) {labels : List String}
    (hLength : labels.length = cs.length) (hLabels : ∀ t ∈ labels, Silent t) :
    (caseLines sc cs labels).Yields (fun _ => True)
      (Mentioning wireTexts ((Stmt.casesFlow cs).countP (due sc.context))) := by
  have hL := additive_wire
  match cs, labels with
  | [], _ =>
    rw [caseLines, Stmt.casesFlow]
    · exact yields_pure hL trivial
    · nofun
  | ⟨value, body⟩ :: cs, label :: labels =>
    rw [List.flatMap_cons, List.forall_mem_append] at h
    obtain ⟨hLabel, hMore⟩ := List.forall_mem_cons.mp hLabels
    have hBody := yields_caseBlock sc body fun s hs => h.1 _ (by simp [hs])
    have hLater := yields_caseLines sc cs h.2 (Nat.succ.inj hLength) hMore
    rw [caseLines, Stmt.casesFlow, List.countP_append]
    refine (yields_line ?_).andThen hL fun _ _ => hBody.nest.bind hL fun _ _ => ?_
    · exact silent_template [.lit _, .arg label, .lit _] rfl ⟨hLabel, trivial⟩
    refine (Source.Emit.yields_only hL (yields_line (silent_fixed rfl)).nest).andThen hL fun _ _ => ?_
    exact (yields_line (silent_fixed rfl)).andThen hL fun _ _ => hLater

end

/-- Where returning is a response on the wire, the lines of a body with such a response are as many
as its returns and validations; elsewhere there is none. -/
theorem mentioning_wire_body (ctx : BodyContext) (ss : List Stmt)
    (h : ∀ s ∈ ss, (Node.stmt s).Throughout Spelled) (n : Nat) :
    mentioning wireTexts (body ctx ss n).lines =
      if ctx.status?.isSome then Stmt.returns ss + Stmt.validations ss else 0 := by
  have hBody : mentioning wireTexts (body ctx ss n).lines = (Stmt.bodyFlow ss).countP (due ctx) :=
    (yields_block (.of ctx ss) ss h n).2
  rw [hBody]
  unfold due Stmt.returns Stmt.validations
  cases ctx.status? with
  | none => simp
  | some status => simpa using Stmt.countP_return_or_validation (Stmt.bodyFlow ss)

end ServiceCompiler.TypeScript
