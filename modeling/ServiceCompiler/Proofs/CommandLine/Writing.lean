import ServiceCompiler.CommandLine.Disk
import ServiceCompiler.CommandLine.Run
import ServiceCompiler.Proofs.Outcome
import ServiceCompiler.Proofs.Text.Words

/-! # Writing below a directory

A path with proper names leads from a directory to a place below it. What writes to such paths
alone leaves every file outside the directory as it is, whether it succeeds or not. -/

namespace ServiceCompiler.CommandLine

/-! ## Places -/

/-- A name that leads from a directory to an entry of it. -/
abbrev ProperName (name : String) : Prop := name ≠ "" ∧ name ≠ "." ∧ name ≠ ".."

/-- The location that a path names, seen from a working directory. -/
def place (home : Location) (path : String) : Location :=
  (Text.splitAt '/' path).foldl Disk.step (if path.startsWith "/" then [] else home)

theorem step_proper (l : Location) {name : String} (h : ProperName name) :
    Disk.step l name = l ++ [name] := by
  simp [Disk.step, h.1, h.2.1, h.2.2]

theorem foldl_step_proper (l : Location) {names : List String} (h : ∀ name ∈ names, ProperName name) :
    names.foldl Disk.step l = l ++ names := by
  induction names generalizing l with
  | nil => simp
  | cons name names ih =>
    obtain ⟨hFirst, hRest⟩ := List.forall_mem_cons.mp h
    rw [List.foldl_cons, step_proper l hFirst, ih _ hRest, List.append_assoc, List.singleton_append]

theorem splitAt_slash (directory path : String) :
    Text.splitAt '/' (directory ++ "/" ++ path) =
      Text.splitAt '/' directory ++ Text.splitAt '/' path := by
  simp [Text.splitAt, Text.splitChars_append]

theorem endsWith_slash {s : String} (h : s.endsWith "/") : ∃ t, s = t ++ "/" := by
  rw [String.endsWith_eq_endsWith_toSlice, String.Slice.endsWith_string_iff,
    String.copy_toSlice] at h
  obtain ⟨cs, hText⟩ := h
  refine ⟨String.ofList cs, String.toList_inj.mp ?_⟩
  rw [String.toList_append, String.toList_ofList, hText]

theorem startsWith_slash_append {s : String} (hText : s ≠ "") (t : String) :
    (s ++ t).startsWith "/" = s.startsWith "/" := by
  rw [Bool.eq_iff_iff, String.startsWith_string_iff, String.startsWith_string_iff]
  cases hChars : s.toList with
  | nil => exact absurd (String.toList_eq_nil_iff.mp hChars) hText
  | cons c cs => simp [hChars]

theorem below_ne_empty {directory path : String} (hDirectory : directory ≠ "") :
    below directory path ≠ "" := by
  unfold below
  split <;> simp [hDirectory]

theorem place_below (home : Location) {directory path : String} (hDirectory : directory ≠ "")
    (hNames : ∀ name ∈ Text.splitAt '/' path, ProperName name) :
    place home (below directory path) = place home directory ++ Text.splitAt '/' path := by
  unfold below
  split
  · rename_i hSlash
    obtain ⟨dir, rfl⟩ := endsWith_slash hSlash
    -- Behind the last slash stands an empty name, which leads nowhere.
    have hLast : Text.splitAt '/' (dir ++ "/") = Text.splitAt '/' dir ++ [""] := by
      rw [← String.append_empty (s := dir ++ "/"), splitAt_slash]
      rfl
    rw [place, place, splitAt_slash, hLast, startsWith_slash_append hDirectory, List.foldl_append,
      List.foldl_append, foldl_step_proper _ hNames]
    rfl
  · rw [place, place, splitAt_slash, String.append_assoc, startsWith_slash_append hDirectory,
      List.foldl_append, foldl_step_proper _ hNames]

theorem relative_of_proper {path : String}
    (hNames : ∀ name ∈ Text.splitAt '/' path, ProperName name) : path.startsWith "/" = false := by
  rw [Bool.eq_false_iff]
  intro hSlash
  obtain ⟨rest, hChars⟩ := String.startsWith_string_iff.mp hSlash
  have hFirst : "" ∈ Text.splitAt '/' path := by
    rw [Text.splitAt, ← hChars]
    exact List.mem_cons_self
  exact (hNames "" hFirst).1 rfl

/-! ## Disks -/

/-- The second disk has the files of the first except perhaps below a location. -/
structure AgreesOutside (root : Location) (d d' : Disk) : Prop where
  home : d'.workingDirectory = d.workingDirectory
  files : ∀ l, ¬ root <+: l → d'.contents? l = d.contents? l

namespace AgreesOutside

variable {root : Location}

theorem refl (d : Disk) : AgreesOutside root d d := ⟨rfl, fun _ _ => rfl⟩

theorem trans {d₁ d₂ d₃ : Disk} (h₁ : AgreesOutside root d₁ d₂) (h₂ : AgreesOutside root d₂ d₃) :
    AgreesOutside root d₁ d₃ where
  home := h₂.home.trans h₁.home
  files l hl := (h₂.files l hl).trans (h₁.files l hl)

theorem createFrom {d d' : Disk} {l : Location} {names : List String}
    (h : d.createFrom l names = .ok d') : AgreesOutside root d d' := by
  fun_induction Disk.createFrom d l names with
  | case1 =>
    cases h
    exact refl _
  | case2 d l name names next hDirectory ih => exact ih h
  | case3 => cases h
  | case4 d l name names next hMissing hFree ih =>
    have hFirst : AgreesOutside root d { d with directories := d.directories ++ [next] } :=
      ⟨rfl, fun _ _ => rfl⟩
    exact hFirst.trans (ih h)

theorem createDirectories {d d' : Disk} {path : String} (h : d.createDirectories path = .ok d') :
    AgreesOutside root d d' := by
  rw [Disk.createDirectories] at h
  exact createFrom h

end AgreesOutside

theorem resolve_eq_ok {d : Disk} {l found : Location} {names : List String}
    (h : d.resolve l names = .ok found) : found = names.foldl Disk.step l := by
  induction names generalizing l with
  | nil =>
    cases h
    rfl
  | cons name names ih =>
    rw [Disk.resolve] at h
    split at h
    · exact ih h
    · split at h <;> cases h

theorem contents?_write {d : Disk} {l other : Location} (text : String) (hOther : other ≠ l) :
    ({ d with files := d.files.filter (·.1 != l) ++ [(l, text)] } : Disk).contents? other =
      d.contents? other := by
  have hKept : (d.files.filter (·.1 != l)).find? (·.1 == other) =
      d.files.find? (·.1 == other) := by
    rw [List.find?_filter]
    congr 1
    funext entry
    by_cases hSame : entry.1 = other <;> simp [hSame, hOther]
  have hLast : [(l, text)].find? (·.1 == other) = none := by simpa using hOther.symm
  rw [Disk.contents?, List.find?_append, hKept, hLast, Option.or_none]
  rfl

theorem AgreesOutside.write {root : Location} {d d' : Disk} {path text : String}
    (hRoot : root <+: place d.workingDirectory path) (h : d.write path text = .ok d') :
    AgreesOutside root d d' := by
  simp only [Disk.write, Outcome.bind_eq_ok] at h
  obtain ⟨l, hLocate, h⟩ := h
  have hPlace : l = place d.workingDirectory path := resolve_eq_ok hLocate
  split at h
  · cases h
  · cases h
    refine ⟨rfl, fun other hOutside => contents?_write text ?_⟩
    rintro rfl
    exact hOutside (hPlace ▸ hRoot)

/-! ## Runs -/

/-- A task that leaves the files outside a location as they are. -/
def WritesBelow (home root : Location) {α : Type} (x : Task (StateM Session) α) : Prop :=
  ∀ session : Session, session.disk.workingDirectory = home →
    AgreesOutside root session.disk (x.run session).2.disk

namespace WritesBelow

variable {home root : Location} {α β : Type}

theorem pure (a : α) : WritesBelow home root (pure a) := fun session _ => .refl session.disk

theorem bind {x : Task (StateM Session) α} {f : α → Task (StateM Session) β}
    (hx : WritesBelow home root x) (hf : ∀ a, WritesBelow home root (f a)) :
    WritesBelow home root (x >>= f) := by
  intro session hHome
  have hFirst := hx session hHome
  rw [ExceptT.run_bind]
  cases hResult : x.run session with
  | mk result after =>
    rw [hResult] at hFirst
    simp only [Bind.bind, StateT.bind, hResult]
    cases result with
    | error stop => exact hFirst
    | ok a => exact hFirst.trans (hf a after (hFirst.home.trans hHome))

theorem forM {f : α → Task (StateM Session) Unit} {as : List α}
    (hf : ∀ a ∈ as, WritesBelow home root (f a)) : WritesBelow home root (as.forM f) := by
  induction as with
  | nil => exact pure ()
  | cons a as ih =>
    obtain ⟨hFirst, hRest⟩ := List.forall_mem_cons.mp hf
    exact hFirst.bind fun _ => ih hRest

theorem attempt {change : Disk → Except FileError Disk} {stop : FileError → Stop}
    (hChange : ∀ d d', d.workingDirectory = home → change d = .ok d' → AgreesOutside root d d') :
    WritesBelow home root (attempt (Session.change change) stop) := by
  intro session hHome
  have hAfter : ((CommandLine.attempt (Session.change change) stop).run session).2 =
      (Session.change change session).2 := rfl
  rw [hAfter, Session.change]
  cases hResult : change session.disk with
  | ok d => exact hChange session.disk d hHome hResult
  | error e => exact .refl session.disk

end WritesBelow

theorem writesBelow_writeFile {home root : Location} {directory : String} {f : GeneratedFile}
    (hPlace : root <+: place home (below directory f.path)) :
    WritesBelow home root (writeFile Session.host directory f) := by
  unfold writeFile
  dsimp only [Session.host]
  refine WritesBelow.bind (.attempt ?_) fun _ => .attempt ?_
  · intro d d' _ hCreate
    exact .createDirectories hCreate
  · intro d d' hHome hWrite
    exact .write (hHome ▸ hPlace) hWrite

end ServiceCompiler.CommandLine
