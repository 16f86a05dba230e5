import ServiceCompiler.Proofs.Plan.HandlerNames

/-! # Numbered names

Names are given one base after the other, and a base whose name is taken is tried with 2, 3 and so
on behind it. Main statement: the search for a name ends after at most as many refusals as there are
names before it, so that every base gets a name of its own; names that are given stay as they are
when bases follow; and the names of routes, events, queues and sockets are identifiers. -/

namespace ServiceCompiler.Plan

open ServiceCompiler.Core (Route Socket EventBinding QueueBinding)
open Text (isIdentifier)

variable {taken others bases : List String} {base : String} {n : Nat}

theorem FirstFree.perm (h : FirstFree taken base n) (hPerm : taken.Perm others) :
    FirstFree others base n where
  bounded := hPerm.length_eq ▸ h.bounded
  refused m hm := hPerm.mem_iff.mp (h.refused m hm)
  free hTaken := h.free (hPerm.mem_iff.mpr hTaken)

/-! ## One base after the other -/

theorem uniqueFrom_append (taken bases more : List String) :
    uniqueFrom taken (bases ++ more) =
      uniqueFrom taken bases ++ uniqueFrom ((uniqueFrom taken bases).reverse ++ taken) more := by
  induction bases generalizing taken with
  | nil => rfl
  | cons base bases ih =>
    rw [List.cons_append, uniqueFrom, uniqueFrom, ih, List.cons_append, List.reverse_cons,
      List.append_assoc, List.singleton_append]

theorem uniqueNames_append (bases more : List String) :
    uniqueNames (bases ++ more) =
      uniqueNames bases ++ uniqueFrom (uniqueNames bases).reverse more := by
  have hAppend := uniqueFrom_append [] bases more
  rwa [List.append_nil] at hAppend

/-- What one more base does. -/
theorem uniqueNames_concat (bases : List String) (base : String) :
    ∃ n, FirstFree (uniqueNames bases) base n ∧
      uniqueNames (bases ++ [base]) = uniqueNames bases ++ [candidate base n] := by
  obtain ⟨n, hFirst, hName⟩ := exists_firstFree (uniqueNames bases).reverse base
  refine ⟨n, hFirst.perm (List.reverse_perm _), ?_⟩
  rw [uniqueNames_append, uniqueFrom, uniqueFrom, hName]

theorem uniqueFrom_eq_self (hNodup : bases.Nodup) (hFree : ∀ base ∈ bases, base ∉ taken) :
    uniqueFrom taken bases = bases := by
  induction bases generalizing taken with
  | nil => rfl
  | cons base bases ih =>
    obtain ⟨hNew, hRest⟩ := List.nodup_cons.mp hNodup
    obtain ⟨hFirst, hLater⟩ := List.forall_mem_cons.mp hFree
    have hNext : ∀ other ∈ bases, other ∉ base :: taken := by
      intro other hOther hTaken
      rcases List.mem_cons.mp hTaken with rfl | hTaken
      · exact hNew hOther
      · exact hLater other hOther hTaken
    rw [uniqueFrom, freeName_of_not_mem hFirst, ih hRest hNext]

/-! ## Bases and their names -/

theorem candidate_spelled (base : String) (n : Nat) :
    candidate base n = base ∨ ∃ k, 2 ≤ k ∧ candidate base n = s!"{base}_{k}" := by
  cases n with
  | zero => exact .inl rfl
  | succ n => exact .inr ⟨n + 2, by omega, rfl⟩

theorem forall₂_uniqueNames (bases : List String) :
    List.Forall₂ (fun base name => name = base ∨ ∃ n, 2 ≤ n ∧ name = s!"{base}_{n}") bases
      (uniqueNames bases) := by
  refine (forall₂_uniqueFrom [] bases).imp ?_
  rintro base _ ⟨n, rfl⟩
  exact candidate_spelled base n

/-- Every base gets a name of its own, which the bases behind it do not change, and the search for it
ends; routes, events, queues and sockets get identifiers. -/
theorem uniqueNames_given (bases : List String) :
    (uniqueNames bases).length = bases.length ∧
    (uniqueNames bases).Nodup ∧
    List.Forall₂ (fun base name => name = base ∨ ∃ n, 2 ≤ n ∧ name = s!"{base}_{n}") bases
      (uniqueNames bases) ∧
    (bases.Nodup → uniqueNames bases = bases) ∧
    (∀ more, uniqueNames bases <+: uniqueNames (bases ++ more)) ∧
    (∀ base, ∃ n, FirstFree (uniqueNames bases) base n ∧
      uniqueNames (bases ++ [base]) = uniqueNames bases ++ [candidate base n]) ∧
    (∀ (rs : List Route), ∀ name ∈ routeNames rs, isIdentifier name) ∧
    (∀ (es : List EventBinding), ∀ name ∈ eventNames es, isIdentifier name) ∧
    (∀ (qs : List QueueBinding), ∀ name ∈ queueNames qs, isIdentifier name) ∧
    ∀ (ss : List Socket), ∀ name ∈ socketNames ss, isIdentifier name := by
  refine ⟨(forall₂_uniqueNames bases).length_eq.symm, nodup_uniqueNames bases,
    forall₂_uniqueNames bases, ?_, ?_, uniqueNames_concat bases, ?_, ?_, ?_, ?_⟩
  · intro hNodup
    exact uniqueFrom_eq_self hNodup fun _ _ => List.not_mem_nil
  · intro more
    rw [uniqueNames_append]
    exact List.prefix_append _ _
  · intro rs name hName
    obtain ⟨_, hLed⟩ := exists_led_route hName
    exact hLed.isIdentifier
  · intro es name hName
    exact (led_event hName).isIdentifier
  · intro qs name hName
    exact (led_queue hName).isIdentifier
  · intro ss name hName
    exact (led_socket hName).isIdentifier

/-- A numbered name that is a base itself gets a number again; without repetitions nothing is
numbered. -/
theorem uniqueNames_given_copies :
    uniqueNames ["copy", "copy", "copy_2", "copy"] = ["copy", "copy_2", "copy_2_2", "copy_3"] ∧
      ["copy_2", "copy", "copy_3"].Nodup ∧
      uniqueNames ["copy_2", "copy", "copy_3"] = ["copy_2", "copy", "copy_3"] := by
  have hNodup : ["copy_2", "copy", "copy_3"].Nodup := by decide
  exact ⟨by decide, hNodup, (uniqueNames_given _).2.2.2.1 hNodup⟩

end ServiceCompiler.Plan
