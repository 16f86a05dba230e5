import ServiceCompiler.Proofs.Surface.Fitting
import ServiceCompiler.Proofs.Surface.Tree
import ServiceCompiler.Surface.Read

/-! # Printed programs are parsed back

A declaration is read member by member: its tag first, and its fields as documents that are judged
afterwards. So the text of a program gives the program back as soon as the documents of its fields
are read back and the fields fit their layouts. -/

namespace ServiceCompiler.Surface

open ServiceCompiler.Json ServiceCompiler.Outcome

theorem plain_ok {α : Type} {reader : Reader Fault α} {cs rest : List Char} {x : α}
    (h : reader cs = .ok (x, rest)) : plain reader cs = .ok (x, rest) := by
  rw [plain, h]
  rfl

theorem Item.toDatum_eq_node (i : Item) : ∃ kind ds, i.toDatum = .node (.item kind) ds := by
  cases i <;> exact ⟨_, _, rfl⟩

def tagEntry (tag : String) : Entry ItemMember := ⟨"kind", writeString tag, .tag tag⟩

def contentEntry (level : Nat) (m : String × Json) : Entry ItemMember :=
  ⟨m.1, prettyChars level m.2, .content m.1 m.2⟩

theorem itemMember_tag (tag : String) (rest : List Char) :
    itemMember [] "kind" (':' :: ' ' :: (writeString tag ++ rest)) = .ok (.tag tag, rest) := by
  have hText : writeString tag ++ rest = '"' :: (tag.toList.flatMap writeChar ++ '"' :: rest) := by
    simp [writeString]
  have hTag : itemTag (' ' :: (writeString tag ++ rest)) = .ok (tag, rest) := by
    rw [hText]
    exact plain_ok (quoted_writeString tag rest)
  simp only [itemMember, plain_ok (colon_cons _), ok_bind, hTag, pure_eq_ok]
  rfl

theorem readsMembers_content (level : Nat) {ms : List (String × Json)}
    (hKeys : ∀ m ∈ ms, m.1 ≠ "kind")
    (h : ∀ m ∈ ms, Reads (value itemDepth) (prettyChars level m.2) m.2) (seen : List String) :
    ReadsMembers itemMember seen (ms.map (contentEntry level)) := by
  induction ms generalizing seen with
  | nil => trivial
  | cons m ms ih =>
    refine ⟨?_, ih (fun n hn => hKeys n (List.mem_cons_of_mem _ hn))
      (fun n hn => h n (List.mem_cons_of_mem _ hn)) _⟩
    intro rest hRest
    have hKey : (m.1 == "kind") = false := beq_false_of_ne (hKeys m List.mem_cons_self)
    have hRead : value itemDepth (' ' :: (prettyChars level m.2 ++ rest)) = .ok (m.2, rest) := by
      rw [value_space]
      exact (h m List.mem_cons_self).reads rest hRest
    simp only [itemMember, contentEntry, hKey, plain_ok (colon_cons _), ok_bind, plain_ok hRead,
      pure_eq_ok]
    rfl

theorem ofMembers_memberJson {kind : ItemKind} {ds : List Datum}
    (h : Fits FloatReadsBack (.node .item) (.node (.item kind) ds)) :
    Item.ofMembers kind.tag (Datum.memberJson (kind.layout.fields.map (·.name)) ds) =
      .ok (Item.ofDatum (.node (.item kind) ds)) := by
  have hKind : Family.item.kindOf (.name kind.tag) = .item kind := kindOf_tag .item (.item kind) h.1
  obtain ⟨found, hFound, hArranged⟩ := bind_eq_ok.mp (arrange_conformMembers (.item kind) h.2)
  have hFound : conformMembers (Kind.item kind).layout.fields []
      (Datum.memberJson (kind.layout.fields.map (·.name)) ds) = .ok found := hFound
  simp only [Item.ofMembers, hKind, hFound, ok_bind, hArranged, pure_eq_ok]

theorem item_brace {cs rest : List Char} {parts : List ItemMember} {tag : String} {i : Item}
    (hMembers : members .fault itemMember cs = .ok (parts, rest))
    (hTag : parts.findSome? ItemMember.tag? = some tag)
    (hItem : Item.ofMembers tag (parts.filterMap ItemMember.content?) = .ok i) :
    item ('{' :: cs) = .ok (i, rest) := by
  rw [item, skipBlanks_cons rfl]
  simp only [hMembers, ok_bind, hTag, hItem]
  rfl

/-- An object with the tag of a declaration in front of its fields is read as the declaration. -/
theorem item_object (level : Nat) {tag : String} {ms : List (String × Json)} {i : Item}
    (hKeys : ∀ m ∈ ms, m.1 ≠ "kind")
    (hValues : ∀ m ∈ ms, Reads (value itemDepth) (prettyChars (level + 1) m.2) m.2)
    (hItem : Item.ofMembers tag ms = .ok i) :
    Reads item (prettyChars level (.object (("kind", .string tag) :: ms))) i := by
  let entries := tagEntry tag :: ms.map (contentEntry (level + 1))
  have hEntries : ReadsMembers itemMember [] entries :=
    ⟨fun rest _ => itemMember_tag tag rest, readsMembers_content (level + 1) hKeys hValues _⟩
  have hLines : ((("kind", .string tag) :: ms).map
      fun m => memberLine m.1 (prettyChars (level + 1) m.2)) = entries.map Entry.line := by
    rw [List.map_cons, List.map_cons, List.map_map]
    simp only [prettyChars]
    rfl
  -- the tag is no content, and every other member is
  have hContents : (entries.map Entry.content).filterMap ItemMember.content? = ms := by
    rw [List.map_cons, List.map_map, List.filterMap_cons, List.filterMap_map]
    exact List.filterMap_some
  rw [prettyChars_object, hLines]
  refine ⟨⟨rfl, by decide⟩, ?_⟩
  intro rest _
  rw [List.cons_append]
  refine item_brace (members_block level hEntries rest) rfl ?_
  rw [hContents, hItem]

theorem item_reads (level : Nat) {i : Item} (hFloats : ∀ x ∈ i.floats, FloatReadsBack x)
    (hDepth : i.toDatum.toJson.depth ≤ itemDepth + 1) :
    Reads item (prettyChars level i.toDatum.toJson) i := by
  have hFits := Item.fits i hFloats
  have hLegible := legible_toJson _ _ hFits
  have hItem := Item.ofDatum_toDatum i
  obtain ⟨kind, ds, hNode⟩ := Item.toDatum_eq_node i
  rw [hNode] at hFits hLegible hItem hDepth ⊢
  rw [Datum.toJson] at hLegible hDepth ⊢
  apply item_object level
  · intro m hm hEq
    have hTag := (List.nodup_cons.mp (nodup_kindFields (.item kind))).1
    exact hTag (hEq ▸ fst_mem_of_mem_memberJson hm)
  · apply value_prettyMembers _ itemDepth (level + 1) _ hLegible.2
    have h := Nat.le_of_succ_le_succ hDepth
    rw [depthMembers, Nat.max_le] at h
    exact h.2
  · rw [← hItem]
    exact ofMembers_memberJson hFits

theorem depth_le_of_mem {v : Json} {vs : List Json} (h : v ∈ vs) : v.depth ≤ depthAll vs := by
  induction vs with
  | nil => cases h
  | cons w vs ih =>
    rw [depthAll]
    rcases List.mem_cons.mp h with rfl | h
    · exact Nat.le_max_left _ _
    · exact Nat.le_trans (ih h) (Nat.le_max_right _ _)

theorem items_reads (level : Nat) {is : List Item}
    (h : ∀ i ∈ is, Reads item (prettyChars (level + 1) i.toDatum.toJson) i) (rest : List Char) :
    items (' ' :: (prettyChars level (.array (is.map fun i => i.toDatum.toJson)) ++ rest)) =
      .ok (is, rest) := by
  rw [prettyChars_array, List.map_map]
  exact elements_block level h rest

def programEntry (p : Program) : Entry (List Item) :=
  ⟨"items", prettyChars 1 (.array (p.items.map fun i => i.toDatum.toJson)), p.items⟩

theorem program_reads {p : Program}
    (h : ∀ i ∈ p.items, Reads item (prettyChars 2 i.toDatum.toJson) i) (rest : List Char) :
    program (prettyChars 0 p.toJson ++ rest) = .ok (p, rest) := by
  have hEntries : ReadsMembers programMember [] [programEntry p] := by
    refine ⟨?_, trivial⟩
    intro rest _
    simp only [programMember, programEntry, plain_ok (colon_cons _), ok_bind,
      items_reads 1 h rest]
    rfl
  have hMembers : members .fault programMember
      (block 0 '}' ([programEntry p].map Entry.line) ++ rest) = .ok ([p.items], rest) :=
    members_block 0 hEntries rest
  rw [Program.toJson, prettyChars_object, List.cons_append, program, skipBlanks_cons rfl]
  have hLines : ([("items", Json.array (p.items.map fun i => i.toDatum.toJson))].map
      fun m => memberLine m.1 (prettyChars (0 + 1) m.2)) = [programEntry p].map Entry.line := rfl
  simp only [hLines, hMembers, ok_bind, pure_eq_ok]
  simp

/-- Printing a program and parsing the text gives the program back, if its float literals are
finite and read back from their texts and its document does not nest deeper than documents may. -/
theorem Program.parse_print (p : Program)
    (hFloats : ∀ x ∈ p.floats, Decimal.isFinite x = true ∧
      Json.numeral (Decimal.document.render x).toList = .ok (.real x, []))
    (hDepth : p.toJson.depth ≤ 127) : Program.parse p.print = .ok p := by
  have hItems : ∀ i ∈ p.items, Reads item (prettyChars 2 i.toDatum.toJson) i := by
    intro i hi
    apply item_reads 2
    · intro x hx
      obtain ⟨hFinite, hRead⟩ := hFloats x (List.mem_flatMap.mpr ⟨i, hi, hx⟩)
      rw [FloatReadsBack, writeNumber, if_pos hFinite]
      exact hRead
    · have hItem := depth_le_of_mem (List.mem_map_of_mem (f := fun i : Item => i.toDatum.toJson) hi)
      simp only [Program.toJson, depth, depthMembers] at hDepth
      change _ ≤ 125
      omega
  have hRead := program_reads hItems []
  rw [List.append_nil] at hRead
  simp only [Program.parse, Program.print, pretty, String.toList_ofList, hRead, ok_bind]
  rfl

/-- A program with floats, absent fields, empty lists and a node of unknown kind in every family. -/
def priceList : Program :=
  ⟨[.moduleName "prices",
    .unsupported,
    .typeDecl
      ⟨"Price", ["T"], [],
        [⟨"amount", some (.optional .float), false, some (.literal (.float 1.5)),
          [⟨"range", [.float (-0.0), .int (-3), .null]⟩]⟩], []⟩,
    .route
      ⟨.post, "/prices/:id", none, some .unsupported, some ⟨"jwt", true, []⟩, none, [],
        [⟨"db", some .database⟩], [],
        [.unsupported,
          .ret (some (.matchOn (.var "x \"y\"\n")
            [⟨.array [.unsupported, .literal (.float 1e22)] (some "rest"), none,
              .unsupported⟩]))]⟩]⟩

theorem Program.parse_print_priceList :
    (∀ x ∈ priceList.floats, Decimal.isFinite x = true ∧
      Json.numeral (Decimal.document.render x).toList = .ok (.real x, [])) ∧
    priceList.toJson.depth ≤ 127 ∧ Program.parse priceList.print = .ok priceList := by
  have hFloats : ∀ x ∈ priceList.floats, Decimal.isFinite x = true ∧
      Json.numeral (Decimal.document.render x).toList = .ok (.real x, []) := by
    have hList : priceList.floats = [1.5, -0.0, 1e22] := rfl
    rw [hList]
    simp only [List.forall_mem_cons]
    exact ⟨⟨by decide, rfl⟩, ⟨by decide, rfl⟩, ⟨by decide, rfl⟩, by simp⟩
  have hDepth : priceList.toJson.depth ≤ 127 := by decide
  exact ⟨hFloats, hDepth, Program.parse_print priceList hFloats hDepth⟩

end ServiceCompiler.Surface
