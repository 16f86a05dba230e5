/-! # Computations that may fail

A chain of steps succeeds if every step does, and fails with the first step that fails. -/

namespace ServiceCompiler.Outcome

variable {ε ε' α β : Type}

@[simp] theorem pure_eq_ok (a : α) : (pure a : Except ε α) = .ok a := rfl

@[simp] theorem throw_eq_error (e : ε) : (throw e : Except ε α) = .error e := rfl

@[simp] theorem ok_bind (a : α) (f : α → Except ε β) : (Except.ok a >>= f) = f a := rfl

@[simp] theorem error_bind (e : ε) (f : α → Except ε β) : (Except.error e >>= f) = .error e := rfl

@[simp] theorem mapError_ok (a : α) (f : ε → ε') :
    (Except.ok a : Except ε α).mapError f = .ok a := rfl

@[simp] theorem mapError_error (e : ε) (f : ε → ε') :
    (Except.error e : Except ε α).mapError f = .error (f e) := rfl

theorem bind_eq_ok {x : Except ε α} {f : α → Except ε β} {b : β} :
    x >>= f = .ok b ↔ ∃ a, x = .ok a ∧ f a = .ok b := by
  cases x with
  | error e => simp
  | ok a => simp

@[simp] theorem mapError_eq_ok {x : Except ε α} {f : ε → ε'} {a : α} :
    x.mapError f = .ok a ↔ x = .ok a := by
  cases x <;> simp

theorem mapM_cons_eq_ok {f : α → Except ε β} {a : α} {as : List α} {found : List β} :
    (a :: as).mapM f = .ok found ↔
      ∃ b bs, f a = .ok b ∧ as.mapM f = .ok bs ∧ found = b :: bs := by
  simp only [List.mapM_cons, bind_eq_ok, pure_eq_ok, Except.ok.injEq]
  constructor
  · rintro ⟨b, hFirst, bs, hRest, rfl⟩
    exact ⟨b, bs, hFirst, hRest, rfl⟩
  · rintro ⟨b, bs, hFirst, hRest, rfl⟩
    exact ⟨b, hFirst, bs, hRest, rfl⟩

theorem map_of_mapM {γ : Type} {f : α → Except ε β} {g : α → γ} {h : β → γ} {as : List α}
    {bs : List β} (hStep : ∀ a b, f a = .ok b → h b = g a) (hRun : as.mapM f = .ok bs) :
    bs.map h = as.map g := by
  induction as generalizing bs with
  | nil =>
    cases hRun
    rfl
  | cons a as ih =>
    obtain ⟨first, rest, hFirst, hRest, rfl⟩ := mapM_cons_eq_ok.mp hRun
    rw [List.map_cons, List.map_cons, hStep a first hFirst, ih hRest]

theorem exists_of_mem_mapM {f : α → Except ε β} {as : List α} {bs : List β} {b : β}
    (hRun : as.mapM f = .ok bs) (hMem : b ∈ bs) : ∃ a ∈ as, f a = .ok b := by
  induction as generalizing bs with
  | nil =>
    cases hRun
    cases hMem
  | cons a as ih =>
    obtain ⟨first, rest, hFirst, hRest, rfl⟩ := mapM_cons_eq_ok.mp hRun
    rcases List.mem_cons.mp hMem with rfl | hLater
    · exact ⟨a, .head _, hFirst⟩
    · obtain ⟨found, hFound, hOk⟩ := ih hRest hLater
      exact ⟨found, .tail _ hFound, hOk⟩

/-! ## Results without their errors -/

@[simp] theorem toOption_error (e : ε) : (Except.error e : Except ε α).toOption = none := rfl

theorem toOption_bind (x : Except ε α) (f : α → Except ε β) :
    (x >>= f).toOption = x.toOption.bind fun a => (f a).toOption := by
  cases x <;> rfl

theorem toOption_mapM_congr {f g : α → Except ε β} {as : List α}
    (hSame : ∀ a ∈ as, (f a).toOption = (g a).toOption) :
    (as.mapM f).toOption = (as.mapM g).toOption := by
  induction as with
  | nil => rfl
  | cons a as ih =>
    obtain ⟨hFirst, hRest⟩ := List.forall_mem_cons.mp hSame
    simp only [List.mapM_cons, toOption_bind, hFirst, ih hRest]

/-! ## Failure -/

def Fails (x : Except ε α) : Prop := ∃ e, x = .error e

@[simp] theorem fails_ok (a : α) : Fails (.ok a : Except ε α) ↔ False := by
  simp [Fails]

@[simp] theorem fails_error (e : ε) : Fails (.error e : Except ε α) ↔ True := by
  simp [Fails]

theorem fails_iff_ne_ok {x : Except ε α} : Fails x ↔ ∀ a, x ≠ .ok a := by
  cases x <;> simp

/-- Two steps, of which the second fails or not whatever the first has found. -/
theorem fails_bind {x : Except ε α} {f : α → Except ε β} {p q : Prop} (hFirst : Fails x ↔ p)
    (hSecond : ∀ a, Fails (f a) ↔ q) : Fails (x >>= f) ↔ p ∨ q := by
  cases x with
  | error e => simp [← hFirst]
  | ok a => simp [← hFirst, hSecond a]

theorem fails_bind_pure {x : Except ε α} {f : α → β} :
    Fails (x >>= fun a => pure (f a)) ↔ Fails x := by
  cases x <;> simp

theorem fails_mapM {f : α → Except ε β} {as : List α} :
    Fails (as.mapM f) ↔ ∃ a ∈ as, Fails (f a) := by
  induction as with
  | nil => simp
  | cons a as ih =>
    rw [List.mapM_cons, fails_bind Iff.rfl fun _ => fails_bind_pure, ih]
    simp

end ServiceCompiler.Outcome
