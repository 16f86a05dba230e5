import ServiceCompiler.Build.Fallback

/-! # Types lowered and warned about in one pass

A type is lowered part by part, from left to right, until a part has no name; every unknown part on
the way is replaced and gives a warning. Main statement: the result of the pass is the lowered type,
and its warnings are those that are read off the marks of the type: the marks up to the first one
of a part without a name. -/

namespace ServiceCompiler.Build

/-- What may fail and warns as it goes. -/
abbrev Noting : Type → Type := ExceptT Cause (StateM (List Fallback))

def note (f : Fallback) : StateM (List Fallback) Unit := modify (· ++ [f])

def noteName (name : String) : Noting Core.Ty :=
  if name.isEmpty then throw .emptyTypeName else return .named name

mutual

def noteTy : Surface.Ty → Noting Core.Ty
  | .int => return .int
  | .float => return .float
  | .string => return .string
  | .bool => return .bool
  | .array element => do return .array (← noteTy element)
  | .optional inner => do return (← noteTy inner).orAbsent
  | .named name => noteName name
  | .typeParam name => noteName name
  | .database => return .provider Core.StandardProvider.database.typeName
  | .redis => return .provider Core.StandardProvider.redis.typeName
  | .mongoDb => return .provider Core.StandardProvider.mongoDb.typeName
  | .llm => return .provider Core.StandardProvider.llm.typeName
  | .union types => do return .union (← noteTys types)
  | .generic base args => do
    let base ← noteTy base
    return .generic (base.name?.getD base.display) (← noteTys args)
  | .function params result => do
    let params ← noteTys params
    return .function params (← noteResult result)
  | .future result => do return .future (← noteTy result)
  | .unsupported => do
    note .type
    return .any

def noteTys : List Surface.Ty → Noting (List Core.Ty)
  | [] => return []
  | t :: ts => do
    let t ← noteTy t
    return t :: (← noteTys ts)

def noteResult : Option Surface.Ty → Noting Core.Ty
  | none => return .any
  | some t => noteTy t

end

/-- A type in a body: where the pass stops, it says why and goes on with any type. -/
def noteBodyTy (t : Surface.Ty) : StateM (List Fallback) Core.Ty := do
  match ← (noteTy t).run with
  | .ok t => return t
  | .error cause =>
    note ⟨.unsupportedType, s!"{cause.message}; replaced with `any`"⟩
    return .any

/-! ## Marks -/

/-- The warnings about marks up to the first part without a name. -/
def warned (marks : List TyMark) : List Fallback :=
  (marks.takeWhile (· == .unknown)).map fun _ => .type

/-- A result to marks: it is a failure exactly if a name is missing. -/
inductive Ends {α : Type} : Except Cause α → List TyMark → Prop
  | whole {marks : List TyMark} (a : α) (h : .nameless ∉ marks) : Ends (.ok a) marks
  | early {marks : List TyMark} (h : .nameless ∈ marks) : Ends (.error .emptyTypeName) marks

/-- A pass has a result and warns about marks. -/
structure Notes {α : Type} (m : Noting α) (x : Except Cause α) (marks : List TyMark) : Prop where
  run : ∀ log, m.run.run log = (x, log ++ warned marks)
  ends : Ends x marks

variable {α β : Type} {ms ns : List TyMark}

theorem warned_append_of_whole (h : .nameless ∉ ms) :
    warned (ms ++ ns) = warned ms ++ warned ns := by
  induction ms with
  | nil => rfl
  | cons mark ms ih =>
    cases mark with
    | unknown => exact congrArg (.type :: ·) (ih fun hMem => h (List.mem_cons_of_mem _ hMem))
    | nameless => exact absurd List.mem_cons_self h

theorem warned_append_of_early (h : .nameless ∈ ms) : warned (ms ++ ns) = warned ms := by
  induction ms with
  | nil => cases h
  | cons mark ms ih =>
    cases mark with
    | unknown => exact congrArg (.type :: ·) (ih (List.mem_of_ne_of_mem (by decide) h))
    | nameless => rfl

theorem Ends.behind {x : Except Cause α} (h : Ends x ns) (hWhole : .nameless ∉ ms) :
    Ends x (ms ++ ns) := by
  cases h with
  | whole a hRest => exact .whole a (by simp [hWhole, hRest])
  | early hRest => exact .early (List.mem_append_right _ hRest)

theorem notes_pure (a : α) : Notes (pure a) (.ok a) [] where
  run log := by
    rw [show warned [] = [] from rfl, List.append_nil]
    rfl
  ends := .whole a List.not_mem_nil

theorem notes_nameless :
    Notes (throw .emptyTypeName : Noting α) (.error .emptyTypeName) [.nameless] where
  run log := by
    rw [show warned [.nameless] = [] from rfl, List.append_nil]
    rfl
  ends := .early List.mem_cons_self

theorem Notes.bind {m : Noting α} {f : α → Noting β} {x : Except Cause α} {g : α → Except Cause β}
    (h : Notes m x ms) (hf : ∀ a, Notes (f a) (g a) ns) :
    Notes (m >>= f) (x >>= g) (ms ++ ns) := by
  obtain ⟨hRun, hEnds⟩ := h
  cases hEnds with
  | whole a hWhole =>
    constructor
    · intro log
      calc (m >>= f).run.run log = (f a).run.run (log ++ warned ms) := by
            simp only [ExceptT.run_bind, StateT.run_bind, hRun]
            rfl
        _ = (g a, log ++ warned (ms ++ ns)) := by
            rw [(hf a).run, warned_append_of_whole hWhole, List.append_assoc]
    · exact (hf a).ends.behind hWhole
  | early hEarly =>
    constructor
    · intro log
      calc (m >>= f).run.run log = (.error .emptyTypeName, log ++ warned ms) := by
            simp only [ExceptT.run_bind, StateT.run_bind, hRun]
            rfl
        _ = (.error .emptyTypeName, log ++ warned (ms ++ ns)) := by
            rw [warned_append_of_early hEarly]
    · exact .early (List.mem_append_left _ hEarly)

theorem Notes.map {m : Noting α} {x : Except Cause α} (h : Notes m x ms) (f : α → β) :
    Notes (do return f (← m)) (do return f (← x)) ms := by
  have hMapped := h.bind fun a => notes_pure (f a)
  rw [List.append_nil] at hMapped
  exact hMapped

/-! ## Types -/

theorem notes_noteName (name : String) :
    Notes (noteName name) (if name.isEmpty then .error .emptyTypeName else .ok (.named name))
      (nameMarks name) := by
  unfold noteName nameMarks
  split
  · exact notes_nameless
  · exact notes_pure _

mutual

theorem notes_noteTy (t : Surface.Ty) : Notes (noteTy t) (lowerTy t) (tyMarks t) := by
  match t with
  | .int | .float | .string | .bool | .database | .redis | .mongoDb | .llm =>
    rw [noteTy, lowerTy, tyMarks]
    exact notes_pure _
  | .array t | .optional t | .future t =>
    rw [noteTy, lowerTy, tyMarks]
    exact (notes_noteTy t).map _
  | .named name | .typeParam name =>
    rw [noteTy, lowerTy, tyMarks]
    exact notes_noteName name
  | .union ts =>
    rw [noteTy, lowerTy, tyMarks]
    exact (notes_noteTys ts).map _
  | .generic base args =>
    rw [noteTy, lowerTy, tyMarks]
    exact (notes_noteTy base).bind fun _ => (notes_noteTys args).map _
  | .function params result =>
    rw [noteTy, lowerTy, tyMarks]
    exact (notes_noteTys params).bind fun _ => (notes_noteResult result).map _
  | .unsupported =>
    rw [noteTy, lowerTy, tyMarks]
    exact ⟨fun _ => rfl, .whole _ (by decide)⟩

theorem notes_noteTys (ts : List Surface.Ty) : Notes (noteTys ts) (lowerTys ts) (tysMarks ts) := by
  match ts with
  | [] =>
    rw [noteTys, lowerTys, tysMarks]
    exact notes_pure _
  | t :: ts =>
    rw [noteTys, lowerTys, tysMarks]
    exact (notes_noteTy t).bind fun _ => (notes_noteTys ts).map _

theorem notes_noteResult (t : Option Surface.Ty) :
    Notes (noteResult t) (lowerResult t) (resultMarks t) := by
  match t with
  | none =>
    rw [noteResult, lowerResult, resultMarks]
    exact notes_pure _
  | some t =>
    rw [noteResult, lowerResult, resultMarks]
    exact notes_noteTy t

end

/-- In one pass over a type of a signature, the warnings end where the lowering does. -/
theorem run_noteTy (t : Surface.Ty) (log : List Fallback) :
    (noteTy t).run.run log = (lowerTy t, log ++ tyFallbacks t) :=
  (notes_noteTy t).run log

/-- In one pass over a type of a body, a missing name gives the last warning. -/
theorem run_noteBodyTy (t : Surface.Ty) (log : List Fallback) :
    (noteBodyTy t).run log = (lowerBodyTy t, log ++ bodyTyFallbacks t) := by
  have hRun := run_noteTy t log
  have hEnds := (notes_noteTy t).ends
  simp only [noteBodyTy, StateT.run_bind, hRun, lowerBodyTy, bodyTyFallbacks]
  generalize lowerTy t = lowered at hEnds
  cases hEnds with
  | whole a hWhole =>
    rw [if_neg (by simpa using hWhole), List.append_nil]
    rfl
  | early hEarly =>
    rw [if_pos (by simpa using hEarly), ← List.append_assoc]
    rfl

end ServiceCompiler.Build
