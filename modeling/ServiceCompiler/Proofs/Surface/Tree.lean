import ServiceCompiler.Proofs.Surface.Content
import ServiceCompiler.Surface.Decode

/-! # Programs and their content

Every tree is taken back from its content, one constructor at a time and, from the parts up, for
types, patterns, expressions, statements and declarations. -/

namespace ServiceCompiler.Surface

theorem Ty.toDatum_ne_absent (t : Ty) : t.toDatum ≠ .absent := by
  cases t <;> simp [Ty.toDatum]

theorem Pattern.toDatum_ne_absent (p : Pattern) : p.toDatum ≠ .absent := by
  cases p <;> simp [Pattern.toDatum]

theorem Expr.toDatum_ne_absent (e : Expr) : e.toDatum ≠ .absent := by
  cases e <;> simp [Expr.toDatum]

@[simp] theorem toText?_textDatum (s : Option String) : (textDatum s).toText? = s := by
  cases s <;> rfl

@[simp] theorem toTexts_textsDatum (ss : List String) : (textsDatum ss).toTexts = ss := by
  simp only [textsDatum, Datum.toTexts, Datum.toList, List.map_map]
  exact List.map_id ss

theorem toList_map {α : Type} {f : α → Datum} {g : Datum → α} (h : ∀ a, g (f a) = a) (as : List α) :
    Datum.toList g (.list (as.map f)) = as := by
  rw [Datum.toList, List.map_map]
  exact (List.map_congr_left fun a _ => h a).trans (List.map_id as)

mutual

@[simp] theorem Ty.ofDatum_toDatum : ∀ t : Ty, Ty.ofDatum t.toDatum = t
  | .int | .float | .string | .bool | .database | .redis | .mongoDb | .llm | .unsupported => by
    simp [Ty.toDatum, Ty.ofDatum]
  | .named name | .typeParam name => by simp [Ty.toDatum, Ty.ofDatum, Datum.toText]
  | .array t | .optional t | .future t => by
    simp [Ty.toDatum, Ty.ofDatum, Ty.ofDatum_toDatum t]
  | .union ts => by simp [Ty.toDatum, Ty.ofDatum, Ty.ofList_listDatum ts]
  | .generic base args => by
    simp [Ty.toDatum, Ty.ofDatum, Ty.ofDatum_toDatum base, Ty.ofList_listDatum args]
  | .function params none => by
    simp [Ty.toDatum, Ty.optionDatum, Ty.ofDatum, Ty.ofList_listDatum params]
  | .function params (some result) => by
    simp [Ty.toDatum, Ty.optionDatum, Ty.ofDatum, Ty.toDatum_ne_absent,
      Ty.ofList_listDatum params, Ty.ofDatum_toDatum result]

@[simp] theorem Ty.ofList_listDatum : ∀ ts : List Ty, Ty.ofList (Ty.listDatum ts) = ts
  | [] => by simp [Ty.listDatum, Ty.ofList]
  | t :: ts => by
    simp [Ty.listDatum, Ty.ofList, Ty.ofDatum_toDatum t, Ty.ofList_listDatum ts]

end

@[simp] theorem toOption_optionDatum (t : Option Ty) :
    Datum.toOption Ty.ofDatum (Ty.optionDatum t) = t := by
  cases t with
  | none => rfl
  | some t => simp [Ty.optionDatum, Datum.toOption, Ty.toDatum_ne_absent]

mutual

@[simp] theorem Pattern.ofDatum_toDatum : ∀ p : Pattern, Pattern.ofDatum p.toDatum = p
  | .literal _ => by simp [Pattern.toDatum, Pattern.ofDatum, Datum.toLiteral]
  | .variable _ => by simp [Pattern.toDatum, Pattern.ofDatum, Datum.toText]
  | .wildcard | .unsupported => by simp [Pattern.toDatum, Pattern.ofDatum]
  | .object fields => by
    simp [Pattern.toDatum, Pattern.ofDatum, Pattern.fieldsOf_fieldsDatum fields]
  | .array elements rest => by
    simp [Pattern.toDatum, Pattern.ofDatum, Pattern.ofList_listDatum elements]

theorem Pattern.ofList_listDatum : ∀ ps : List Pattern, Pattern.ofList (Pattern.listDatum ps) = ps
  | [] => by simp [Pattern.listDatum, Pattern.ofList]
  | p :: ps => by
    simp [Pattern.listDatum, Pattern.ofList, Pattern.ofDatum_toDatum p, Pattern.ofList_listDatum ps]

theorem Pattern.fieldsOf_fieldsDatum :
    ∀ fs : List PatternField, Pattern.fieldsOf (Pattern.fieldsDatum fs) = fs
  | [] => by simp [Pattern.fieldsDatum, Pattern.fieldsOf]
  | ⟨key, none⟩ :: fs => by
    simp [Pattern.fieldsDatum, Pattern.optionDatum, Pattern.fieldsOf, Datum.toText,
      Pattern.fieldsOf_fieldsDatum fs]
  | ⟨key, some p⟩ :: fs => by
    simp [Pattern.fieldsDatum, Pattern.optionDatum, Pattern.fieldsOf, Datum.toText,
      Pattern.toDatum_ne_absent, Pattern.ofDatum_toDatum p, Pattern.fieldsOf_fieldsDatum fs]

end

@[simp] theorem Decorator.ofDatum_toDatum (d : Decorator) : Decorator.ofDatum d.toDatum = d := by
  simp only [Decorator.toDatum, Decorator.ofDatum, Datum.toText]
  rw [toList_map fun l => by simp [Datum.toLiteral]]

mutual

@[simp] theorem Expr.ofDatum_toDatum : ∀ e : Expr, Expr.ofDatum e.toDatum = e
  | .literal _ => by simp [Expr.toDatum, Expr.ofDatum, Datum.toLiteral]
  | .var _ => by simp [Expr.toDatum, Expr.ofDatum, Datum.toText]
  | .binary _ left right => by
    simp [Expr.toDatum, Expr.ofDatum, Expr.ofDatum_toDatum left, Expr.ofDatum_toDatum right]
  | .unary _ operand => by simp [Expr.toDatum, Expr.ofDatum, Expr.ofDatum_toDatum operand]
  | .field object _ => by
    simp [Expr.toDatum, Expr.ofDatum, Datum.toText, Expr.ofDatum_toDatum object]
  | .index object index => by
    simp [Expr.toDatum, Expr.ofDatum, Expr.ofDatum_toDatum object, Expr.ofDatum_toDatum index]
  | .call _ typeArgs args => by
    simp [Expr.toDatum, Expr.ofDatum, Datum.toText, Expr.ofList_listDatum args]
  | .object fields => by simp [Expr.toDatum, Expr.ofDatum, Expr.fieldsOf_fieldsDatum fields]
  | .array elements => by simp [Expr.toDatum, Expr.ofDatum, Expr.ofList_listDatum elements]
  | .lambda params none block => by
    simp [Expr.toDatum, Expr.optionDatum, Expr.ofDatum, Field.ofList_listDatum params,
      Stmt.ofList_listDatum block]
  | .lambda params (some body) block => by
    simp [Expr.toDatum, Expr.optionDatum, Expr.ofDatum, Expr.toDatum_ne_absent,
      Field.ofList_listDatum params, Expr.ofDatum_toDatum body, Stmt.ofList_listDatum block]
  | .pipe left right => by
    simp [Expr.toDatum, Expr.ofDatum, Expr.ofDatum_toDatum left, Expr.ofDatum_toDatum right]
  | .matchOn value cases => by
    simp [Expr.toDatum, Expr.ofDatum, Expr.ofDatum_toDatum value, Expr.casesOf_casesDatum cases]
  | .async body | .quote body => by
    simp [Expr.toDatum, Expr.ofDatum, Stmt.ofList_listDatum body]
  | .await e | .unquote e => by simp [Expr.toDatum, Expr.ofDatum, Expr.ofDatum_toDatum e]
  | .unsupported => by simp [Expr.toDatum, Expr.ofDatum]

@[simp] theorem Expr.ofList_listDatum : ∀ es : List Expr, Expr.ofList (Expr.listDatum es) = es
  | [] => by simp [Expr.listDatum, Expr.ofList]
  | e :: es => by
    simp [Expr.listDatum, Expr.ofList, Expr.ofDatum_toDatum e, Expr.ofList_listDatum es]

theorem Expr.fieldsOf_fieldsDatum :
    ∀ fs : List ObjectField, Expr.fieldsOf (Expr.fieldsDatum fs) = fs
  | [] => by simp [Expr.fieldsDatum, Expr.fieldsOf]
  | ⟨key, value⟩ :: fs => by
    simp [Expr.fieldsDatum, Expr.fieldsOf, Datum.toText, Expr.ofDatum_toDatum value,
      Expr.fieldsOf_fieldsDatum fs]

theorem Expr.casesOf_casesDatum : ∀ cs : List MatchCase, Expr.casesOf (Expr.casesDatum cs) = cs
  | [] => by simp [Expr.casesDatum, Expr.casesOf]
  | ⟨pattern, none, body⟩ :: cs => by
    simp [Expr.casesDatum, Expr.optionDatum, Expr.casesOf, Expr.ofDatum_toDatum body,
      Expr.casesOf_casesDatum cs]
  | ⟨pattern, some guard, body⟩ :: cs => by
    simp [Expr.casesDatum, Expr.optionDatum, Expr.casesOf, Expr.toDatum_ne_absent,
      Expr.ofDatum_toDatum guard, Expr.ofDatum_toDatum body, Expr.casesOf_casesDatum cs]

@[simp] theorem Field.ofList_listDatum : ∀ fs : List Field, Field.ofList (Field.listDatum fs) = fs
  | [] => by simp [Field.listDatum, Field.ofList]
  | ⟨name, type, required, none, decorators⟩ :: fs => by
    simp [Field.listDatum, Expr.optionDatum, Field.ofList, Datum.toText, Datum.toFlag,
      toList_map Decorator.ofDatum_toDatum decorators, Field.ofList_listDatum fs]
  | ⟨name, type, required, some default, decorators⟩ :: fs => by
    simp [Field.listDatum, Expr.optionDatum, Field.ofList, Datum.toText, Datum.toFlag,
      Expr.toDatum_ne_absent, toList_map Decorator.ofDatum_toDatum decorators,
      Expr.ofDatum_toDatum default, Field.ofList_listDatum fs]

theorem Stmt.ofDatum_toDatum : ∀ s : Stmt, Stmt.ofDatum s.toDatum = s
  | .assign _ value | .reassign _ value => by
    simp [Stmt.toDatum, Stmt.ofDatum, Datum.toText, Expr.ofDatum_toDatum value]
  | .ret none => by simp [Stmt.toDatum, Expr.optionDatum, Stmt.ofDatum]
  | .ret (some value) => by
    simp [Stmt.toDatum, Expr.optionDatum, Stmt.ofDatum, Expr.toDatum_ne_absent,
      Expr.ofDatum_toDatum value]
  | .cond condition thenBlock elseBlock => by
    simp [Stmt.toDatum, Stmt.ofDatum, Expr.ofDatum_toDatum condition,
      Stmt.ofList_listDatum thenBlock, Stmt.ofList_listDatum elseBlock]
  | .forEach _ _ iterable body => by
    simp [Stmt.toDatum, Stmt.ofDatum, Datum.toText, Expr.ofDatum_toDatum iterable,
      Stmt.ofList_listDatum body]
  | .whileLoop condition body => by
    simp [Stmt.toDatum, Stmt.ofDatum, Expr.ofDatum_toDatum condition, Stmt.ofList_listDatum body]
  | .switch value cases otherwise => by
    simp [Stmt.toDatum, Stmt.ofDatum, Expr.ofDatum_toDatum value, Stmt.casesOf_casesDatum cases,
      Stmt.ofList_listDatum otherwise]
  | .expr e | .validate e => by simp [Stmt.toDatum, Stmt.ofDatum, Expr.ofDatum_toDatum e]
  | .breakLoop | .continueLoop | .unsupported => by simp [Stmt.toDatum, Stmt.ofDatum]
  | .dbQuery _ es | .macroInvocation _ es => by
    simp [Stmt.toDatum, Stmt.ofDatum, Datum.toText, Expr.ofList_listDatum es]
  | .wsSend client message => by
    simp [Stmt.toDatum, Stmt.ofDatum, Expr.ofDatum_toDatum client, Expr.ofDatum_toDatum message]
  | .wsBroadcast message none => by
    simp [Stmt.toDatum, Expr.optionDatum, Stmt.ofDatum, Expr.ofDatum_toDatum message]
  | .wsBroadcast message (some room) => by
    simp [Stmt.toDatum, Expr.optionDatum, Stmt.ofDatum, Expr.toDatum_ne_absent,
      Expr.ofDatum_toDatum message, Expr.ofDatum_toDatum room]
  | .wsClose none => by simp [Stmt.toDatum, Expr.optionDatum, Stmt.ofDatum]
  | .wsClose (some reason) => by
    simp [Stmt.toDatum, Expr.optionDatum, Stmt.ofDatum, Expr.toDatum_ne_absent,
      Expr.ofDatum_toDatum reason]

@[simp] theorem Stmt.ofList_listDatum : ∀ ss : List Stmt, Stmt.ofList (Stmt.listDatum ss) = ss
  | [] => by simp [Stmt.listDatum, Stmt.ofList]
  | s :: ss => by
    simp [Stmt.listDatum, Stmt.ofList, Stmt.ofDatum_toDatum s, Stmt.ofList_listDatum ss]

theorem Stmt.casesOf_casesDatum : ∀ cs : List SwitchCase, Stmt.casesOf (Stmt.casesDatum cs) = cs
  | [] => by simp [Stmt.casesDatum, Stmt.casesOf]
  | ⟨value, body⟩ :: cs => by
    simp [Stmt.casesDatum, Stmt.casesOf, Expr.ofDatum_toDatum value, Stmt.ofList_listDatum body,
      Stmt.casesOf_casesDatum cs]

end

@[simp] theorem toTy?_optionDatum (t : Option Ty) : (Ty.optionDatum t).toTy? = t :=
  toOption_optionDatum t

@[simp] theorem toExpr?_optionDatum (e : Option Expr) : (Expr.optionDatum e).toExpr? = e := by
  cases e with
  | none => simp [Expr.optionDatum, Datum.toExpr?, Datum.toOption]
  | some e => simp [Expr.optionDatum, Datum.toExpr?, Datum.toOption, Expr.toDatum_ne_absent]

@[simp] theorem toFields_fieldsDatum (fs : List Field) : (fieldsDatum fs).toFields = fs :=
  Field.ofList_listDatum fs

@[simp] theorem toBody_bodyDatum (ss : List Stmt) : (bodyDatum ss).toBody = ss :=
  Stmt.ofList_listDatum ss

@[simp] theorem toList_listDatum (es : List Expr) :
    Datum.toList Expr.ofDatum (.list (Expr.listDatum es)) = es := by
  induction es with
  | nil => simp [Expr.listDatum, Datum.toList]
  | cons e es ih =>
    rw [Datum.toList] at ih
    simp [Expr.listDatum, Datum.toList, ih]

theorem toOption_record {α : Type} {f : α → Datum} {g : Datum → α} (h : ∀ a, g (f a) = a)
    (hRecord : ∀ a, f a ≠ .absent) (a : Option α) : Datum.toOption g (optionDatum f a) = a := by
  cases a with
  | none => rfl
  | some a => simp [optionDatum, Datum.toOption, hRecord, h]

theorem Method.ofDatum_toDatum (m : Method) : Method.ofDatum m.toDatum = m := by
  simp [Method.toDatum, Method.ofDatum, Datum.toText]

theorem Auth.ofDatum_toDatum (a : Auth) : Auth.ofDatum a.toDatum = a := by
  simp [Auth.toDatum, Auth.ofDatum, Datum.toText, Datum.toFlag]

theorem RateLimit.ofDatum_toDatum (r : RateLimit) : RateLimit.ofDatum r.toDatum = r := by
  simp [RateLimit.toDatum, RateLimit.ofDatum, Datum.toText, Datum.toCount]

theorem Middleware.ofDatum_toDatum (m : Middleware) : Middleware.ofDatum m.toDatum = m := by
  simp [Middleware.toDatum, Middleware.ofDatum, Datum.toText]

theorem Injection.ofDatum_toDatum (i : Injection) : Injection.ofDatum i.toDatum = i := by
  simp [Injection.toDatum, Injection.ofDatum, Datum.toText]

theorem QueryParam.ofDatum_toDatum (q : QueryParam) : QueryParam.ofDatum q.toDatum = q := by
  simp [QueryParam.toDatum, QueryParam.ofDatum, Datum.toText, Datum.toFlag]

theorem CommandParam.ofDatum_toDatum (p : CommandParam) : CommandParam.ofDatum p.toDatum = p := by
  simp [CommandParam.toDatum, CommandParam.ofDatum, Datum.toText, Datum.toFlag]

theorem RpcMethod.ofDatum_toDatum (m : RpcMethod) : RpcMethod.ofDatum m.toDatum = m := by
  simp [RpcMethod.toDatum, RpcMethod.ofDatum, Datum.toText, Datum.toStream]

theorem SocketHandler.ofDatum_toDatum (h : SocketHandler) :
    SocketHandler.ofDatum h.toDatum = h := by
  simp [SocketHandler.toDatum, SocketHandler.ofDatum, Datum.toEvent]

theorem ContractMethod.ofDatum_toDatum (m : ContractMethod) :
    ContractMethod.ofDatum m.toDatum = m := by
  simp [ContractMethod.toDatum, ContractMethod.ofDatum, Datum.toText]

@[simp] theorem toList_injectionsDatum (is : List Injection) :
    Datum.toList Injection.ofDatum (injectionsDatum is) = is :=
  toList_map Injection.ofDatum_toDatum is

@[simp] theorem toOption_authDatum (a : Option Auth) :
    Datum.toOption Auth.ofDatum (optionDatum Auth.toDatum a) = a :=
  toOption_record Auth.ofDatum_toDatum (fun _ => by simp [Auth.toDatum]) a

@[simp] theorem toOption_rateLimitDatum (r : Option RateLimit) :
    Datum.toOption RateLimit.ofDatum (optionDatum RateLimit.toDatum r) = r :=
  toOption_record RateLimit.ofDatum_toDatum (fun _ => by simp [RateLimit.toDatum]) r

/-- A declaration is taken back from its content. -/
theorem Item.ofDatum_toDatum (item : Item) : Item.ofDatum item.toDatum = item := by
  cases item with
  | typeDecl d => simp [Item.toDatum, Item.ofDatum, Datum.toText, toList_map Method.ofDatum_toDatum]
  | route r =>
    simp [Item.toDatum, Item.ofDatum, Datum.toText, Datum.toMethod,
      toList_map Middleware.ofDatum_toDatum, toList_map QueryParam.ofDatum_toDatum]
  | command c =>
    simp [Item.toDatum, Item.ofDatum, Datum.toText, toList_map CommandParam.ofDatum_toDatum]
  | rpcService s =>
    simp [Item.toDatum, Item.ofDatum, Datum.toText, toList_map RpcMethod.ofDatum_toDatum]
  | socket r =>
    simp [Item.toDatum, Item.ofDatum, Datum.toText, toList_map SocketHandler.ofDatum_toDatum]
  | contract c =>
    simp [Item.toDatum, Item.ofDatum, Datum.toText, toList_map ContractMethod.ofDatum_toDatum]
  | traitDecl name methods =>
    simp [Item.toDatum, Item.ofDatum, Datum.toText, toList_map ContractMethod.ofDatum_toDatum]
  | rpcHandler h => simp [Item.toDatum, Item.ofDatum, Datum.toText, Datum.toStream]
  | resolver r => simp [Item.toDatum, Item.ofDatum, Datum.toText, Datum.toOperation]
  | cron j => simp [Item.toDatum, Item.ofDatum, Datum.toText, Datum.toCount]
  | queue w => simp [Item.toDatum, Item.ofDatum, Datum.toText, Datum.toCount]
  | event h => simp [Item.toDatum, Item.ofDatum, Datum.toText, Datum.toFlag]
  | _ => simp [Item.toDatum, Item.ofDatum, Datum.toText]

end ServiceCompiler.Surface
