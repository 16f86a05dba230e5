/-! # First occurrences

`distinct` keeps the first occurrence of every element of a list, `firsts` the first entry of every
key. -/

namespace ServiceCompiler

variable {α κ : Type}

section Elements

variable [DecidableEq α]

def distinct : List α → List α
  | [] => []
  | a :: as => a :: (distinct as).filter (· ≠ a)

@[simp] theorem mem_distinct {a : α} {as : List α} : a ∈ distinct as ↔ a ∈ as := by
  induction as with
  | nil => simp [distinct]
  | cons b bs ih =>
    by_cases h : a = b <;> simp [distinct, ih, h]

theorem nodup_distinct (as : List α) : (distinct as).Nodup := by
  induction as with
  | nil => simp [distinct]
  | cons b bs ih =>
    refine List.nodup_cons.2 ⟨by simp, ?_⟩
    exact ih.sublist List.filter_sublist

end Elements

section Entries

variable [DecidableEq κ]

/-- Puts an entry at the end, unless there is one with its key already. -/
def addNew (key : α → κ) (kept : List α) (a : α) : List α :=
  if kept.any (key · = key a) then kept else kept ++ [a]

def firsts (key : α → κ) (as : List α) : List α := as.foldl (addNew key) []

end Entries

end ServiceCompiler
