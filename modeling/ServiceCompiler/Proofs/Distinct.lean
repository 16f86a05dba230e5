import Mathlib.Data.List.Basic
import Mathlib.Data.List.Induction
import Mathlib.Data.List.Nodup
import ServiceCompiler.Distinct

/-! # First occurrences along a list

What is left of a list once only first occurrences are kept goes along with a filter and with
entries that come in at the end. The first entries of all keys have the first occurrences of the
keys, and each of them is what a search for its key finds. -/

namespace ServiceCompiler

variable {α κ : Type}

section Elements

variable [DecidableEq α]

theorem distinct_filter (keep : α → Bool) (as : List α) :
    distinct (as.filter keep) = (distinct as).filter keep := by
  induction as with
  | nil => rfl
  | cons a as ih =>
    cases hKeep : keep a with
    | true => simp [distinct, hKeep, ih, Bool.and_comm]
    | false =>
      have hOther : ∀ b ∈ distinct as, keep b = true → b ≠ a := by
        rintro b - hB rfl
        simp [hKeep] at hB
      rw [List.filter_cons_of_neg (by simp [hKeep]), ih, distinct,
        List.filter_cons_of_neg (by simp [hKeep]), List.filter_filter]
      refine List.filter_congr fun b hMem => ?_
      cases hB : keep b with
      | true => simp [hOther b hMem hB]
      | false => rfl

theorem distinct_eq_eraseDups (as : List α) :
    distinct as = as.eraseDups := by
  match as with
  | [] => rfl
  | a :: as =>
    have hShorter := List.length_filter_le (fun b => !b == a) as
    rw [List.eraseDups_cons, ← distinct_eq_eraseDups (as.filter _), distinct_filter, distinct]
    refine congrArg (a :: ·) (List.filter_congr fun b _ => ?_)
    by_cases hSame : b = a <;> simp [hSame]
termination_by as.length
decreasing_by exact Nat.lt_succ_of_le hShorter

theorem distinct_concat (as : List α) (a : α) :
    distinct (as ++ [a]) = if a ∈ as then distinct as else distinct as ++ [a] := by
  rw [distinct_eq_eraseDups, distinct_eq_eraseDups, List.eraseDups_append]
  by_cases hMem : a ∈ as <;> simp [List.removeAll, hMem, List.eraseDups_cons]

end Elements

section Entries

variable [DecidableEq κ] {key : α → κ}

theorem map_addNew (kept : List α) (a : α) :
    (addNew key kept a).map key =
      if key a ∈ kept.map key then kept.map key else kept.map key ++ [key a] := by
  by_cases hMem : key a ∈ kept.map key
  · rw [if_pos hMem, addNew, if_pos (by simpa using hMem)]
  · rw [if_neg hMem, addNew, if_neg (by simpa using hMem), List.map_append, List.map_singleton]

theorem mem_addNew {kept : List α} {a b : α} :
    a ∈ addNew key kept b ↔ a ∈ kept ∨ a = b ∧ key b ∉ kept.map key := by
  by_cases hMem : key b ∈ kept.map key
  · rw [addNew, if_pos (by simpa using hMem)]
    simp only [hMem, not_true_eq_false, and_false, or_false]
  · rw [addNew, if_neg (by simpa using hMem), List.mem_append, List.mem_singleton]
    simp only [hMem, not_false_eq_true, and_true]

theorem firsts_concat (as : List α) (a : α) :
    firsts key (as ++ [a]) = addNew key (firsts key as) a := by
  rw [firsts, List.foldl_append]
  rfl

theorem map_firsts (as : List α) : (firsts key as).map key = distinct (as.map key) := by
  induction as using List.reverseRecOn with
  | nil => rfl
  | append_singleton as a ih =>
    simp only [firsts_concat, map_addNew, ih, mem_distinct, List.map_append, List.map_singleton,
      distinct_concat]

theorem nodup_firsts (as : List α) : (firsts key as).Nodup := by
  apply List.Nodup.of_map key
  rw [map_firsts]
  exact nodup_distinct _

/-- The entry that is kept for a key is the one that a search for the key finds. -/
theorem mem_firsts {a : α} {as : List α} :
    a ∈ firsts key as ↔ as.find? (key · = key a) = some a := by
  induction as using List.reverseRecOn with
  | nil => simp [firsts]
  | append_singleton as b ih =>
    rw [firsts_concat, mem_addNew, map_firsts, mem_distinct, ih, List.find?_append]
    -- a search that ends before the last entry does not get to see it
    cases hFound : as.find? (key · = key a) with
    | some c =>
      have hKey : key a ∈ as.map key := by
        have hSame : key c = key a := by simpa using List.find?_some hFound
        exact hSame ▸ List.mem_map_of_mem (List.mem_of_find?_eq_some hFound)
      rw [Option.some_or, or_iff_left]
      rintro ⟨rfl, hNew⟩
      exact hNew hKey
    | none =>
      have hNew : key a ∉ as.map key := by simpa [List.find?_eq_none] using hFound
      rw [Option.none_or]
      constructor
      · rintro (hNone | ⟨rfl, -⟩)
        · cases hNone
        · simp
      · intro hLast
        obtain rfl : b = a := List.mem_singleton.mp (List.mem_of_find?_eq_some hLast) ▸ rfl
        exact .inr ⟨rfl, hNew⟩

theorem mem_of_mem_firsts {a : α} {as : List α} (h : a ∈ firsts key as) : a ∈ as :=
  List.mem_of_find?_eq_some (mem_firsts.mp h)

/-- Where the key tells all of an entry, every entry is kept. -/
theorem mem_firsts_iff {a : α} {as : List α}
    (hKey : ∀ b ∈ as, ∀ c ∈ as, key b = key c → b = c) : a ∈ firsts key as ↔ a ∈ as := by
  refine ⟨mem_of_mem_firsts, fun hMem => ?_⟩
  have hKept : key a ∈ (firsts key as).map key := by
    rw [map_firsts, mem_distinct]
    exact List.mem_map_of_mem hMem
  obtain ⟨b, hB, hSame⟩ := List.mem_map.mp hKept
  obtain rfl := hKey b (mem_of_mem_firsts hB) a hMem hSame
  exact hB

end Entries

end ServiceCompiler
