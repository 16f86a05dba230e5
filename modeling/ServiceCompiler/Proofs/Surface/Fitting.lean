import ServiceCompiler.Proofs.Surface.Content

/-! # The content of programs fits the layouts

The float literals of a tree are listed in reading order. Content fits with every property that all
of them have. -/

namespace ServiceCompiler.Surface

def literalFloats : Literal → List Float
  | .float x => [x]
  | .int _ | .string _ | .bool _ | .null => []

mutual

def Pattern.floats : Pattern → List Float
  | .literal value => literalFloats value
  | .variable _ | .wildcard | .unsupported => []
  | .object fields => Pattern.fieldFloats fields
  | .array elements _ => Pattern.listFloats elements

def Pattern.listFloats : List Pattern → List Float
  | [] => []
  | p :: ps => p.floats ++ Pattern.listFloats ps

def Pattern.fieldFloats : List PatternField → List Float
  | [] => []
  | ⟨_, none⟩ :: fs => Pattern.fieldFloats fs
  | ⟨_, some p⟩ :: fs => p.floats ++ Pattern.fieldFloats fs

end

def Decorator.floats (d : Decorator) : List Float := d.params.flatMap literalFloats

mutual

def Expr.floats : Expr → List Float
  | .literal value => literalFloats value
  | .var _ | .unsupported => []
  | .binary _ left right => left.floats ++ right.floats
  | .unary _ operand => operand.floats
  | .field object _ => object.floats
  | .index object index => object.floats ++ index.floats
  | .call _ _ args => Expr.listFloats args
  | .object fields => Expr.fieldFloats fields
  | .array elements => Expr.listFloats elements
  | .lambda params body block =>
    Field.listFloats params ++ (Expr.floats? body ++ Stmt.listFloats block)
  | .pipe left right => left.floats ++ right.floats
  | .matchOn value cases => value.floats ++ Expr.caseFloats cases
  | .async body => Stmt.listFloats body
  | .await expr => expr.floats
  | .quote body => Stmt.listFloats body
  | .unquote expr => expr.floats

def Expr.listFloats : List Expr → List Float
  | [] => []
  | e :: es => e.floats ++ Expr.listFloats es

def Expr.floats? : Option Expr → List Float
  | none => []
  | some e => e.floats

def Expr.fieldFloats : List ObjectField → List Float
  | [] => []
  | ⟨_, value⟩ :: fs => value.floats ++ Expr.fieldFloats fs

def Expr.caseFloats : List MatchCase → List Float
  | [] => []
  | ⟨pattern, guard, body⟩ :: cs =>
    pattern.floats ++ (Expr.floats? guard ++ (body.floats ++ Expr.caseFloats cs))

def Field.listFloats : List Field → List Float
  | [] => []
  | ⟨_, _, _, default, decorators⟩ :: fs =>
    Expr.floats? default ++ (decorators.flatMap Decorator.floats ++ Field.listFloats fs)

def Stmt.floats : Stmt → List Float
  | .assign _ value | .reassign _ value => value.floats
  | .ret value => Expr.floats? value
  | .cond condition thenBlock elseBlock =>
    condition.floats ++ (Stmt.listFloats thenBlock ++ Stmt.listFloats elseBlock)
  | .forEach _ _ iterable body => iterable.floats ++ Stmt.listFloats body
  | .whileLoop condition body => condition.floats ++ Stmt.listFloats body
  | .switch value cases otherwise =>
    value.floats ++ (Stmt.caseFloats cases ++ Stmt.listFloats otherwise)
  | .expr expr => expr.floats
  | .validate call => call.floats
  | .breakLoop | .continueLoop | .unsupported => []
  | .dbQuery _ params => Expr.listFloats params
  | .wsSend client message => client.floats ++ message.floats
  | .wsBroadcast message room => message.floats ++ Expr.floats? room
  | .wsClose reason => Expr.floats? reason
  | .macroInvocation _ args => Expr.listFloats args

def Stmt.listFloats : List Stmt → List Float
  | [] => []
  | s :: ss => s.floats ++ Stmt.listFloats ss

def Stmt.caseFloats : List SwitchCase → List Float
  | [] => []
  | ⟨value, body⟩ :: cs => value.floats ++ (Stmt.listFloats body ++ Stmt.caseFloats cs)

end

def Item.floats : Item → List Float
  | .typeDecl d =>
    Field.listFloats d.fields ++
      d.methods.flatMap fun m => Field.listFloats m.params ++ Stmt.listFloats m.body
  | .route r =>
    (r.middleware.flatMap fun m => Expr.listFloats m.args) ++
      ((r.query.flatMap fun q => Expr.floats? q.default) ++ Stmt.listFloats r.body)
  | .function f => Field.listFloats f.params ++ Stmt.listFloats f.body
  | .cron j => Stmt.listFloats j.body
  | .event h => Stmt.listFloats h.body
  | .queue w => Stmt.listFloats w.body
  | .command c => (c.params.flatMap fun p => Expr.floats? p.default) ++ Stmt.listFloats c.body
  | .rpcHandler h => Field.listFloats h.params ++ Stmt.listFloats h.body
  | .resolver r => Field.listFloats r.params ++ Stmt.listFloats r.body
  | .socket r => r.handlers.flatMap fun h => Stmt.listFloats h.body
  | .constant c => Expr.floats? c.value
  | .contract c => c.methods.flatMap fun m => Field.listFloats m.params
  | .test _ body => Stmt.listFloats body
  | .macroDecl _ _ body => Stmt.listFloats body
  | .traitDecl _ methods => methods.flatMap fun m => Field.listFloats m.params
  | .moduleName _ | .importing _ _ | .rpcService _ | .staticRoute _ _ | .unsupported => []

def Program.floats (p : Program) : List Float := p.items.flatMap Item.floats

variable {ok : Float → Prop}

theorem fitAll_map {α : Type} {shape : Shape} {f : α → Datum} {as : List α}
    (h : ∀ a ∈ as, Fits ok shape (f a)) : FitAll ok shape (as.map f) := by
  induction as with
  | nil => trivial
  | cons a as ih =>
    exact ⟨h a List.mem_cons_self, ih fun b hb => h b (List.mem_cons_of_mem _ hb)⟩

theorem literalFits {l : Literal} (h : ∀ x ∈ literalFloats l, ok x) : LiteralFits ok l := by
  cases l with
  | float x => exact h x List.mem_cons_self
  | _ => trivial

/-- What fits a field: content of its shape, or nothing if the field is optional. -/
def FitsField (ok : Float → Prop) (optional : Bool) (shape : Shape) (d : Datum) : Prop :=
  optional = true ∧ d = .absent ∨ Fits ok shape d

theorem fitsOptional_optionDatum {α : Type} {shape : Shape} {f : α → Datum} {a : Option α}
    (h : ∀ b, a = some b → Fits ok shape (f b)) : FitsField ok true shape (optionDatum f a) := by
  cases a with
  | none => exact .inl ⟨rfl, rfl⟩
  | some a => exact .inr (h a rfl)

theorem fitsOptional_textDatum (s : Option String) : FitsField ok true .text (textDatum s) :=
  fitsOptional_optionDatum fun _ _ => trivial

theorem fits_textsDatum (ss : List String) : Fits ok (.list .text) (textsDatum ss) := by
  rw [textsDatum, Fits]
  exact fitAll_map fun _ _ => trivial

mutual

theorem Ty.fits : ∀ t : Ty, Fits ok (.node .ty) t.toDatum
  | .int | .float | .string | .bool | .database | .redis | .mongoDb | .llm | .unsupported =>
    ⟨by decide, trivial⟩
  | .named _ | .typeParam _ => ⟨by decide, .inr trivial, trivial⟩
  | .array t | .optional t | .future t => ⟨by decide, .inr (Ty.fits t), trivial⟩
  | .union ts => ⟨by decide, .inr (Ty.fitAll ts), trivial⟩
  | .generic base args => ⟨by decide, .inr (Ty.fits base), .inr (Ty.fitAll args), trivial⟩
  | .function params result =>
    ⟨by decide, .inr (Ty.fitAll params), Ty.fitsOptional result, trivial⟩

theorem Ty.fitAll : ∀ ts : List Ty, FitAll ok (.node .ty) (Ty.listDatum ts)
  | [] => trivial
  | t :: ts => ⟨Ty.fits t, Ty.fitAll ts⟩

theorem Ty.fitsOptional : ∀ t : Option Ty, FitsField ok true (.node .ty) (Ty.optionDatum t)
  | none => .inl ⟨rfl, rfl⟩
  | some t => .inr (Ty.fits t)

end

mutual

theorem Pattern.fits : ∀ p : Pattern, (∀ x ∈ p.floats, ok x) → Fits ok (.node .pattern) p.toDatum
  | .literal _, h => ⟨by decide, .inr (literalFits h), trivial⟩
  | .variable _, _ => ⟨by decide, .inr trivial, trivial⟩
  | .wildcard, _ | .unsupported, _ => ⟨by decide, trivial⟩
  | .object fields, h => ⟨by decide, .inr (Pattern.fitFieldList fields h), trivial⟩
  | .array elements rest, h =>
    ⟨by decide, .inr (Pattern.fitAll elements h), fitsOptional_textDatum rest, trivial⟩

theorem Pattern.fitAll : ∀ ps : List Pattern, (∀ x ∈ Pattern.listFloats ps, ok x) →
    FitAll ok (.node .pattern) (Pattern.listDatum ps)
  | [], _ => trivial
  | p :: ps, h =>
    have h := List.forall_mem_append.mp h
    ⟨Pattern.fits p h.1, Pattern.fitAll ps h.2⟩

theorem Pattern.fitFieldList : ∀ fs : List PatternField, (∀ x ∈ Pattern.fieldFloats fs, ok x) →
    FitAll ok (.record .patternField) (Pattern.fieldsDatum fs)
  | [], _ => trivial
  | ⟨_, none⟩ :: fs, h =>
    ⟨⟨rfl, .inr trivial, .inl ⟨rfl, rfl⟩, trivial⟩, Pattern.fitFieldList fs h⟩
  | ⟨_, some p⟩ :: fs, h =>
    have h := List.forall_mem_append.mp h
    ⟨⟨rfl, .inr trivial, .inr (Pattern.fits p h.1), trivial⟩, Pattern.fitFieldList fs h.2⟩

end

theorem Decorator.fits (d : Decorator) (h : ∀ x ∈ d.floats, ok x) :
    Fits ok (.record .decorator) d.toDatum := by
  refine ⟨rfl, .inr trivial, .inr (fitAll_map ?_), trivial⟩
  intro l hl
  exact literalFits fun x hx => h x (List.mem_flatMap.mpr ⟨l, hl, hx⟩)

mutual

theorem Expr.fits : ∀ e : Expr, (∀ x ∈ e.floats, ok x) → Fits ok (.node .expr) e.toDatum
  | .literal _, h => ⟨by decide, .inr (literalFits h), trivial⟩
  | .var _, _ => ⟨by decide, .inr trivial, trivial⟩
  | .binary op left right, h =>
    have h := List.forall_mem_append.mp h
    ⟨by decide, .inr (.binary op), .inr (Expr.fits left h.1), .inr (Expr.fits right h.2), trivial⟩
  | .unary op operand, h => ⟨by decide, .inr (.unary op), .inr (Expr.fits operand h), trivial⟩
  | .field object _, h => ⟨by decide, .inr (Expr.fits object h), .inr trivial, trivial⟩
  | .index left right, h | .pipe left right, h =>
    have h := List.forall_mem_append.mp h
    ⟨by decide, .inr (Expr.fits left h.1), .inr (Expr.fits right h.2), trivial⟩
  | .call _ typeArgs args, h =>
    ⟨by decide, .inr trivial, .inr (Ty.fitAll typeArgs), .inr (Expr.fitAll args h), trivial⟩
  | .object fields, h => ⟨by decide, .inr (Expr.fitFieldList fields h), trivial⟩
  | .array elements, h => ⟨by decide, .inr (Expr.fitAll elements h), trivial⟩
  | .lambda params body block, h =>
    have ⟨hParams, h⟩ := List.forall_mem_append.mp h
    have ⟨hBody, hBlock⟩ := List.forall_mem_append.mp h
    ⟨by decide, .inr (Field.fitAll params hParams), Expr.fitsOptional body hBody,
      .inr (Stmt.fitAll block hBlock), trivial⟩
  | .matchOn value cases, h =>
    have h := List.forall_mem_append.mp h
    ⟨by decide, .inr (Expr.fits value h.1), .inr (Expr.fitCases cases h.2), trivial⟩
  | .async body, h | .quote body, h => ⟨by decide, .inr (Stmt.fitAll body h), trivial⟩
  | .await e, h | .unquote e, h => ⟨by decide, .inr (Expr.fits e h), trivial⟩
  | .unsupported, _ => ⟨by decide, trivial⟩

theorem Expr.fitAll : ∀ es : List Expr, (∀ x ∈ Expr.listFloats es, ok x) →
    FitAll ok (.node .expr) (Expr.listDatum es)
  | [], _ => trivial
  | e :: es, h =>
    have h := List.forall_mem_append.mp h
    ⟨Expr.fits e h.1, Expr.fitAll es h.2⟩

theorem Expr.fitsOptional : ∀ e : Option Expr, (∀ x ∈ Expr.floats? e, ok x) →
    FitsField ok true (.node .expr) (Expr.optionDatum e)
  | none, _ => .inl ⟨rfl, rfl⟩
  | some e, h => .inr (Expr.fits e h)

theorem Expr.fitFieldList : ∀ fs : List ObjectField, (∀ x ∈ Expr.fieldFloats fs, ok x) →
    FitAll ok (.record .objectField) (Expr.fieldsDatum fs)
  | [], _ => trivial
  | ⟨_, value⟩ :: fs, h =>
    have h := List.forall_mem_append.mp h
    ⟨⟨rfl, .inr trivial, .inr (Expr.fits value h.1), trivial⟩, Expr.fitFieldList fs h.2⟩

theorem Expr.fitCases : ∀ cs : List MatchCase, (∀ x ∈ Expr.caseFloats cs, ok x) →
    FitAll ok (.record .matchCase) (Expr.casesDatum cs)
  | [], _ => trivial
  | ⟨pattern, guard, body⟩ :: cs, h =>
    have ⟨hPattern, h⟩ := List.forall_mem_append.mp h
    have ⟨hGuard, h⟩ := List.forall_mem_append.mp h
    have ⟨hBody, hCases⟩ := List.forall_mem_append.mp h
    ⟨⟨rfl, .inr (Pattern.fits pattern hPattern), Expr.fitsOptional guard hGuard,
      .inr (Expr.fits body hBody), trivial⟩, Expr.fitCases cs hCases⟩

theorem Field.fitAll : ∀ fs : List Field, (∀ x ∈ Field.listFloats fs, ok x) →
    FitAll ok (.record .field) (Field.listDatum fs)
  | [], _ => trivial
  | ⟨_, type, _, default, decorators⟩ :: fs, h =>
    have ⟨hDefault, h⟩ := List.forall_mem_append.mp h
    have ⟨hDecorators, hFields⟩ := List.forall_mem_append.mp h
    have hDecorator : ∀ d ∈ decorators, Fits ok (.record .decorator) d.toDatum := fun d hd =>
      d.fits fun x hx => hDecorators x (List.mem_flatMap.mpr ⟨d, hd, hx⟩)
    ⟨⟨rfl, .inr trivial, Ty.fitsOptional type, .inr trivial, Expr.fitsOptional default hDefault,
      .inr (fitAll_map hDecorator), trivial⟩, Field.fitAll fs hFields⟩

theorem Stmt.fits : ∀ s : Stmt, (∀ x ∈ s.floats, ok x) → Fits ok (.node .stmt) s.toDatum
  | .assign _ value, h | .reassign _ value, h =>
    ⟨by decide, .inr trivial, .inr (Expr.fits value h), trivial⟩
  | .ret value, h => ⟨by decide, Expr.fitsOptional value h, trivial⟩
  | .cond condition thenBlock elseBlock, h =>
    have ⟨hCondition, h⟩ := List.forall_mem_append.mp h
    have ⟨hThen, hElse⟩ := List.forall_mem_append.mp h
    ⟨by decide, .inr (Expr.fits condition hCondition), .inr (Stmt.fitAll thenBlock hThen),
      .inr (Stmt.fitAll elseBlock hElse), trivial⟩
  | .forEach key _ iterable body, h =>
    have h := List.forall_mem_append.mp h
    ⟨by decide, fitsOptional_textDatum key, .inr trivial, .inr (Expr.fits iterable h.1),
      .inr (Stmt.fitAll body h.2), trivial⟩
  | .whileLoop condition body, h =>
    have h := List.forall_mem_append.mp h
    ⟨by decide, .inr (Expr.fits condition h.1), .inr (Stmt.fitAll body h.2), trivial⟩
  | .switch value cases otherwise, h =>
    have ⟨hValue, h⟩ := List.forall_mem_append.mp h
    have ⟨hCases, hOtherwise⟩ := List.forall_mem_append.mp h
    ⟨by decide, .inr (Expr.fits value hValue), .inr (Stmt.fitCases cases hCases),
      .inr (Stmt.fitAll otherwise hOtherwise), trivial⟩
  | .expr e, h | .validate e, h => ⟨by decide, .inr (Expr.fits e h), trivial⟩
  | .breakLoop, _ | .continueLoop, _ | .unsupported, _ => ⟨by decide, trivial⟩
  | .dbQuery _ es, h | .macroInvocation _ es, h =>
    ⟨by decide, .inr trivial, .inr (Expr.fitAll es h), trivial⟩
  | .wsSend client message, h =>
    have h := List.forall_mem_append.mp h
    ⟨by decide, .inr (Expr.fits client h.1), .inr (Expr.fits message h.2), trivial⟩
  | .wsBroadcast message room, h =>
    have h := List.forall_mem_append.mp h
    ⟨by decide, .inr (Expr.fits message h.1), Expr.fitsOptional room h.2, trivial⟩
  | .wsClose reason, h => ⟨by decide, Expr.fitsOptional reason h, trivial⟩

theorem Stmt.fitAll : ∀ ss : List Stmt, (∀ x ∈ Stmt.listFloats ss, ok x) →
    FitAll ok (.node .stmt) (Stmt.listDatum ss)
  | [], _ => trivial
  | s :: ss, h =>
    have h := List.forall_mem_append.mp h
    ⟨Stmt.fits s h.1, Stmt.fitAll ss h.2⟩

theorem Stmt.fitCases : ∀ cs : List SwitchCase, (∀ x ∈ Stmt.caseFloats cs, ok x) →
    FitAll ok (.record .switchCase) (Stmt.casesDatum cs)
  | [], _ => trivial
  | ⟨value, body⟩ :: cs, h =>
    have ⟨hValue, h⟩ := List.forall_mem_append.mp h
    have ⟨hBody, hCases⟩ := List.forall_mem_append.mp h
    ⟨⟨rfl, .inr (Expr.fits value hValue), .inr (Stmt.fitAll body hBody), trivial⟩,
      Stmt.fitCases cs hCases⟩

end

theorem fits_fieldsDatum {fs : List Field} (h : ∀ x ∈ Field.listFloats fs, ok x) :
    Fits ok (.list (.record .field)) (fieldsDatum fs) :=
  Field.fitAll fs h

theorem fits_bodyDatum {ss : List Stmt} (h : ∀ x ∈ Stmt.listFloats ss, ok x) :
    Fits ok (.list (.node .stmt)) (bodyDatum ss) :=
  Stmt.fitAll ss h

theorem fits_injectionsDatum (is : List Injection) :
    Fits ok (.list (.record .injection)) (injectionsDatum is) :=
  fitAll_map fun i _ => ⟨rfl, .inr trivial, Ty.fitsOptional i.type, trivial⟩

theorem fitsOptional_authDatum (a : Option Auth) :
    FitsField ok true (.record .auth) (optionDatum Auth.toDatum a) :=
  fitsOptional_optionDatum fun a _ =>
    ⟨rfl, .inr trivial, .inr trivial, .inr (fits_textsDatum a.roles), trivial⟩

theorem fitsOptional_rateLimitDatum (r : Option RateLimit) :
    FitsField ok true (.record .rateLimit) (optionDatum RateLimit.toDatum r) :=
  fitsOptional_optionDatum fun _ _ => ⟨rfl, .inr trivial, .inr trivial, trivial⟩

/-- The records of a list fit if each of them does with its own floats. -/
theorem fits_recordList {α : Type} {r : Record} {f : α → Datum} {floats : α → List Float}
    {as : List α} (hFits : ∀ a, (∀ x ∈ floats a, ok x) → Fits ok (.record r) (f a))
    (h : ∀ x ∈ as.flatMap floats, ok x) : Fits ok (.list (.record r)) (.list (as.map f)) :=
  fitAll_map fun a ha => hFits a fun x hx => h x (List.mem_flatMap.mpr ⟨a, ha, hx⟩)

theorem ContractMethod.fits (m : ContractMethod) (h : ∀ x ∈ Field.listFloats m.params, ok x) :
    Fits ok (.record .contractMethod) m.toDatum :=
  ⟨rfl, .inr trivial, .inr (fits_fieldsDatum h), Ty.fitsOptional m.result, trivial⟩

/-- The content of a declaration fits if its float literals have the property. -/
theorem Item.fits (item : Item) (h : ∀ x ∈ item.floats, ok x) :
    Fits ok (.node .item) item.toDatum := by
  cases item with
  | moduleName name => exact ⟨by decide, .inr trivial, trivial⟩
  | importing path shortName =>
    exact ⟨by decide, .inr trivial, fitsOptional_textDatum shortName, trivial⟩
  | typeDecl d =>
    obtain ⟨hFields, hMethods⟩ := List.forall_mem_append.mp h
    refine ⟨by decide, .inr trivial, .inr (fits_textsDatum _), .inr (fits_textsDatum _),
      .inr (fits_fieldsDatum hFields), .inr (fits_recordList ?_ hMethods), trivial⟩
    intro m hm
    obtain ⟨hParams, hBody⟩ := List.forall_mem_append.mp hm
    exact ⟨rfl, .inr trivial, .inr (fits_fieldsDatum hParams), Ty.fitsOptional m.result,
      .inr (fits_bodyDatum hBody), trivial⟩
  | route r =>
    obtain ⟨hMiddleware, h⟩ := List.forall_mem_append.mp h
    obtain ⟨hQuery, hBody⟩ := List.forall_mem_append.mp h
    refine ⟨by decide, .inr (.method r.method), .inr trivial, Ty.fitsOptional r.input,
      Ty.fitsOptional r.result, fitsOptional_authDatum r.auth,
      fitsOptional_rateLimitDatum r.rateLimit, .inr (fits_recordList ?_ hMiddleware),
      .inr (fits_injectionsDatum r.injections), .inr (fits_recordList ?_ hQuery),
      .inr (fits_bodyDatum hBody), trivial⟩
    · intro m hm
      exact ⟨rfl, .inr trivial, .inr (Expr.fitAll m.args hm), trivial⟩
    · intro q hq
      exact ⟨rfl, .inr trivial, Ty.fitsOptional q.type, .inr trivial,
        Expr.fitsOptional q.default hq, .inr trivial, trivial⟩
  | function f =>
    obtain ⟨hParams, hBody⟩ := List.forall_mem_append.mp h
    exact ⟨by decide, .inr trivial, .inr (fits_textsDatum _), .inr (fits_fieldsDatum hParams),
      Ty.fitsOptional f.result, .inr (fits_bodyDatum hBody), trivial⟩
  | cron j =>
    exact ⟨by decide, .inr trivial, .inr trivial, fitsOptional_textDatum j.timezone, .inr trivial,
      .inr (fits_injectionsDatum j.injections), .inr (fits_bodyDatum h), trivial⟩
  | event e =>
    exact ⟨by decide, .inr trivial, .inr trivial, .inr (fits_injectionsDatum e.injections),
      .inr (fits_bodyDatum h), trivial⟩
  | queue w =>
    exact ⟨by decide, .inr trivial, .inr trivial, .inr trivial, .inr trivial,
      .inr (fits_injectionsDatum w.injections), .inr (fits_bodyDatum h), trivial⟩
  | command c =>
    obtain ⟨hParams, hBody⟩ := List.forall_mem_append.mp h
    refine ⟨by decide, .inr trivial, .inr trivial, .inr (fits_recordList ?_ hParams),
      Ty.fitsOptional c.result, .inr (fits_bodyDatum hBody), trivial⟩
    intro p hp
    exact ⟨rfl, .inr trivial, Ty.fitsOptional p.type, .inr trivial,
      Expr.fitsOptional p.default hp, .inr trivial, trivial⟩
  | rpcService s =>
    refine ⟨by decide, .inr trivial, .inr (fitAll_map ?_), trivial⟩
    intro m _
    exact ⟨rfl, .inr trivial, Ty.fitsOptional m.input, Ty.fitsOptional m.result,
      .inr (.stream m.stream), trivial⟩
  | rpcHandler r =>
    obtain ⟨hParams, hBody⟩ := List.forall_mem_append.mp h
    exact ⟨by decide, .inr trivial, .inr trivial, .inr (fits_fieldsDatum hParams),
      Ty.fitsOptional r.result, .inr (.stream r.stream), fitsOptional_authDatum r.auth,
      .inr (fits_injectionsDatum r.injections), .inr (fits_bodyDatum hBody), trivial⟩
  | resolver r =>
    obtain ⟨hParams, hBody⟩ := List.forall_mem_append.mp h
    exact ⟨by decide, .inr (.operation r.operation), .inr trivial, .inr (fits_fieldsDatum hParams),
      Ty.fitsOptional r.result, fitsOptional_authDatum r.auth,
      .inr (fits_injectionsDatum r.injections), .inr (fits_bodyDatum hBody), trivial⟩
  | socket r =>
    refine ⟨by decide, .inr trivial, .inr (fits_recordList ?_ h), trivial⟩
    intro s hs
    exact ⟨rfl, .inr (.event s.event), .inr (fits_bodyDatum hs), trivial⟩
  | constant c =>
    exact ⟨by decide, .inr trivial, Ty.fitsOptional c.type, Expr.fitsOptional c.value h, trivial⟩
  | contract c =>
    exact ⟨by decide, .inr trivial, .inr (fits_recordList ContractMethod.fits h), trivial⟩
  | test name body => exact ⟨by decide, .inr trivial, .inr (fits_bodyDatum h), trivial⟩
  | macroDecl name params body =>
    exact ⟨by decide, .inr trivial, .inr (fits_textsDatum params), .inr (fits_bodyDatum h), trivial⟩
  | traitDecl name methods =>
    exact ⟨by decide, .inr trivial, .inr (fits_recordList ContractMethod.fits h), trivial⟩
  | staticRoute path dir => exact ⟨by decide, .inr trivial, .inr trivial, trivial⟩
  | unsupported => exact ⟨by decide, trivial⟩

end ServiceCompiler.Surface
