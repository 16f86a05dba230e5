import ServiceCompiler.Proofs.Surface.Distinct

/-! # What the places of a document are read as

Main statement: documents agree if they hold the same under the known keys, or are lists that agree
element by element. Nothing else in them is read. -/

namespace ServiceCompiler.Surface

open ServiceCompiler.Json ServiceCompiler.Outcome

/-- What a place in a document is read as. -/
inductive Site
  | program
  | items
  | item
  | shape (shape : Shape)
  | word
  | unread

namespace Site

def ofFields (fields : List FieldSpec) : List (String × Site) :=
  fields.map fun spec => (spec.name, shape spec.shape)

def tagIn : Json → Option Json
  | .object ms => ms.lookup "kind"
  | .array vs => vs.head?
  | _ => none

/-- The tag of a node and its fields; without a proper tag there are none. -/
def ofNode (family : Family) (v : Json) : List (String × Site) :=
  match (tagIn v).bind fun t => (conformTag t).toOption with
  | some tag => ("kind", unread) :: ofFields (family.kindOf tag).layout.fields
  | none => [("kind", unread)]

/-- What an object at the site is known to hold, or a list in its place: the keys with their
sites, tags included. -/
def fields? : Site → Json → Option (List (String × Site))
  | program, _ => some [("items", items)]
  | item, v => some (ofNode .item v)
  | shape (.record r), _ => some (ofFields r.layout.fields)
  | shape (.node family), v => some (ofNode family v)
  | shape .literal, _ => some [("type", word), ("value", unread)]
  | _, _ => none

def member (site : Site) (v : Json) (key : String) : Site :=
  (((site.fields? v).getD []).lookup key).getD unread

def nth (fields : List (String × Site)) (position : Nat) : Site :=
  (fields[position]?.map (·.2)).getD unread

def element : Site → Json → Nat → Site
  | items, _, _ => item
  | shape (.list element), _, _ => shape element
  | site, v, position => nth ((site.fields? v).getD []) position

end Site

/-! ## Agreement -/

namespace Site

/-- Both documents give the same where they stand. -/
def Agree : Site → Json → Json → Prop
  | program, v, w => Program.ofDocument v = Program.ofDocument w
  | items, v, w => itemsOf v = itemsOf w
  | item, v, w => Item.ofDocument v = Item.ofDocument w
  | shape s, v, w => (conform s v).toOption = (conform s w).toOption
  | word, v, w => ∀ names, (chosenName names v).toOption = (chosenName names w).toOption
  | unread, v, w => v = .object [] ↔ w = .object []

theorem Agree.symm {site : Site} {v w : Json} (hAgree : site.Agree v w) : site.Agree w v := by
  cases site with
  | word => exact fun names => (hAgree names).symm
  | unread => exact Iff.symm hAgree
  | _ => exact Eq.symm hAgree

theorem Agree.trans {site : Site} {u v w : Json} (hFirst : site.Agree u v)
    (hSecond : site.Agree v w) : site.Agree u w := by
  cases site with
  | word => exact fun names => (hFirst names).trans (hSecond names)
  | unread => exact Iff.trans hFirst hSecond
  | _ => exact Eq.trans hFirst hSecond

/-- As `Agree`, for documents of the same form. -/
def Same (site : Site) (v w : Json) : Prop := Form.of v = Form.of w ∧ site.Agree v w

end Site

/-- What looks only at the form of a document cannot tell two of the same form apart. -/
theorem eq_of_form {α : Type} {f : Json → α} (hList : ∀ vs ws, f (.array vs) = f (.array ws))
    (hObject : ∀ ms ns, f (.object ms) = f (.object ns)) {v w : Json}
    (hForm : Form.of v = Form.of w) : f v = f w := by
  cases v with
  | array vs =>
    cases w with
    | array ws => exact hList vs ws
    | number n => cases n <;> cases hForm
    | _ => cases hForm
  | object ms =>
    cases w with
    | object ns => exact hObject ms ns
    | number n => cases n <;> cases hForm
    | _ => cases hForm
  | number m =>
    cases w with
    | number n => cases m <;> cases n <;> cases hForm <;> rfl
    | _ => cases m <;> cases hForm
  | _ =>
    cases w with
    | number n => cases n <;> cases hForm
    | _ => cases hForm <;> rfl

theorem isNull_of_form {v w : Json} (hForm : Form.of v = Form.of w) : v.isNull = w.isNull :=
  eq_of_form (fun _ _ => rfl) (fun _ _ => rfl) hForm

theorem toOption_read {spec : FieldSpec} {v w : Json} (hSame : (Site.shape spec.shape).Same v w) :
    (spec.read v).toOption = (spec.read w).toOption := by
  rw [FieldSpec.read, FieldSpec.read, isNull_of_form hSame.1]
  split
  · rfl
  · exact hSame.2

/-- What comes of a value that may be missing is the same for values that are related. -/
theorem eq_of_rel {α β : Type} {r : α → α → Prop} {f : Option α → β} {a b : Option α}
    (hRel : Option.Rel r a b) (hF : ∀ x y, r x y → f (some x) = f (some y)) : f a = f b := by
  cases hRel with
  | none => rfl
  | some h => exact hF _ _ h

theorem toOption_findAll {fields : List FieldSpec} {ms ns : List (String × Json)}
    (hSame : ∀ spec ∈ fields, Option.Rel (Site.shape spec.shape).Same
      (ms.lookup spec.name) (ns.lookup spec.name)) :
    (findAll fields ms).toOption = (findAll fields ns).toOption := by
  refine toOption_mapM_congr fun spec hSpec => ?_
  exact eq_of_rel (f := fun found => (spec.given found).toOption) (hSame spec hSpec)
    fun _ _ => toOption_read

/-! ## Objects -/

/-- Under every known key the objects hold nothing, or else values that give the same. -/
def Tally (fields : List (String × Site)) (ms ns : List (String × Json)) : Prop :=
  ∀ name site, fields.lookup name = some site →
    Option.Rel site.Same (ms.lookup name) (ns.lookup name)

theorem lookup_ofFields {fields : List FieldSpec} (hNames : (fields.map (·.name)).Nodup)
    {spec : FieldSpec} (hSpec : spec ∈ fields) :
    (Site.ofFields fields).lookup spec.name = some (.shape spec.shape) := by
  refine lookup_of_mem ?_ (List.mem_map.mpr ⟨spec, hSpec, rfl⟩)
  rw [Site.ofFields, List.map_map]
  exact hNames

theorem Tally.record {fields : List FieldSpec} (hNames : (fields.map (·.name)).Nodup)
    {ms ns : List (String × Json)} (hTally : Tally (Site.ofFields fields) ms ns) :
    (findAll fields ms).toOption = (findAll fields ns).toOption :=
  toOption_findAll fun _ hSpec => hTally _ _ (lookup_ofFields hNames hSpec)

theorem Tally.tag {family : Family} {ms ns : List (String × Json)}
    (hTally : Tally (Site.ofNode family (.object ms)) ms ns) :
    Option.Rel Site.unread.Same (ms.lookup "kind") (ns.lookup "kind") := by
  refine hTally "kind" .unread ?_
  rw [Site.ofNode]
  split <;> rfl

theorem Tally.node {family : Family} {ms ns : List (String × Json)} {tag : Tag}
    (hTally : Tally (Site.ofNode family (.object ms)) ms ns)
    (hTag : (ms.lookup "kind").bind (fun t => (conformTag t).toOption) = some tag) :
    (findAll (family.kindOf tag).layout.fields ms).toOption =
      (findAll (family.kindOf tag).layout.fields ns).toOption := by
  have hNames := List.nodup_cons.mp (nodup_kindFields (family.kindOf tag))
  refine toOption_findAll fun spec hSpec => hTally _ _ ?_
  -- no field has the name of the tag, which stands in front
  have hName : spec.name ≠ "kind" := by
    intro hName
    exact hNames.1 (List.mem_map.mpr ⟨spec, hSpec, hName⟩)
  rw [Site.ofNode, Site.tagIn, hTag]
  simp only
  rw [lookup_cons_of_ne hName, lookup_ofFields hNames.2 hSpec]

/-- The bound on the depth of a document that holds at its site. -/
def Site.Fits : Site → Nat → Prop
  | program, room => room = depthLimit
  | items, room => room = depthLimit - 1
  | item, room => room = itemDepth + 1
  | shape _, _ | word, _ | unread, _ => True

/-- Nothing stands behind a word. -/
def isUnit : Json → Bool
  | .null => true
  | .object [] => true
  | _ => false

theorem isUnit_iff {v : Json} : isUnit v = true ↔ v.isNull = true ∨ v = .object [] := by
  match v with
  | .null | .bool _ | .number _ | .string _ | .array _ | .object [] | .object (_ :: _) =>
    simp [isUnit, isNull]

theorem isUnit_of_same {v w : Json} (hSame : Site.unread.Same v w) : isUnit v = isUnit w := by
  have hEmpty : v = .object [] ↔ w = .object [] := hSame.2
  rw [Bool.eq_iff_iff, isUnit_iff, isUnit_iff, isNull_of_form hSame.1, hEmpty]

theorem toOption_chosenName_single (names : List String) (key : String) (v : Json) :
    (chosenName names (.object [(key, v)])).toOption =
      if isUnit v && names.contains key then some key else none := by
  simp only [chosenName]
  cases hKey : names.contains key with
  | false => simp
  | true =>
    match v with
    | .null | .bool _ | .number _ | .string _ | .array _ | .object [] | .object (_ :: _) => rfl

/-- As many members in both, and the same one where there is one. -/
structure Alike (ms ns : List (String × Json)) : Prop where
  length : ms.length = ns.length
  single : ∀ m n, ms = [m] → ns = [n] → m.1 = n.1 ∧ Site.unread.Same m.2 n.2

theorem Alike.chosenName {ms ns : List (String × Json)} (hAlike : Alike ms ns)
    (names : List String) :
    (chosenName names (.object ms)).toOption = (chosenName names (.object ns)).toOption := by
  obtain ⟨hLength, hSingle⟩ := hAlike
  match ms, ns with
  | [], [] => rfl
  | [(key, v)], [(other, w)] =>
    obtain ⟨rfl, hSame⟩ := hSingle _ _ rfl rfl
    rw [toOption_chosenName_single, toOption_chosenName_single, isUnit_of_same hSame]
  | _ :: _ :: _, _ :: _ :: _ => rfl
  | [], _ :: _ | [_], [] | [_], _ :: _ :: _ | _ :: _ :: _, [] | _ :: _ :: _, [_] =>
    simp at hLength

section Lists

variable {before after : List Json} {v w : Json}

end Lists

/-! ## Bounds on the depth -/

end ServiceCompiler.Surface
