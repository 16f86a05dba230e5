import ServiceCompiler.Proofs.Json.Passing

/-! # Readers that follow documents

A reader follows documents if what it makes of a text depends only on the document that the text
holds, and it stops where the document ends. Lists and objects are followed by readers whose
readers of elements and members follow theirs; so a document that is deep enough is read with any
smaller bound on its depth that it keeps to, and every document can be passed over. -/

namespace ServiceCompiler.Json

open ServiceCompiler.Outcome

variable {ε α β : Type}

/-- The text is the inside of a list in which the reader finds the given elements. -/
inductive ListText (reader : Reader ε α) : Bool → List Char → List α → List Char → Prop
  | close {first : Bool} {cs rest : List Char} (hClose : skipBlanks cs = ']' :: rest) :
      ListText reader first cs [] rest
  | first {cs ds more rest : List Char} {c : Char} {x : α} {xs : List α}
      (hHead : skipBlanks cs = c :: ds) (hc : c ≠ ']')
      (hElement : reader (c :: ds) = .ok (x, more)) (hMore : ListText reader false more xs rest) :
      ListText reader true cs (x :: xs) rest
  | next {cs ds es more rest : List Char} {c : Char} {x : α} {xs : List α}
      (hComma : skipBlanks cs = ',' :: ds) (hHead : skipBlanks ds = c :: es) (hc : c ≠ ']')
      (hElement : reader (c :: es) = .ok (x, more)) (hMore : ListText reader false more xs rest) :
      ListText reader false cs (x :: xs) rest

/-- The text goes on with a key, a colon and a value that the reader finds. -/
inductive MemberText (reader : Reader Fault α) : List Char → String → α → List Char → Prop
  | intro {cs ds es more : List Char} {key : String} {x : α} (hKey : quoted cs = .ok (key, ds))
      (hColon : colon ds = .ok ((), es)) (hValue : reader es = .ok (x, more)) :
      MemberText reader cs key x more

/-- The text is the inside of an object in which the reader finds the given members. -/
inductive ObjectText (reader : Reader Fault α) :
    Bool → List Char → List (String × α) → List Char → Prop
  | close {first : Bool} {cs rest : List Char} (hClose : skipBlanks cs = '}' :: rest) :
      ObjectText reader first cs [] rest
  | first {cs ds more rest : List Char} {key : String} {x : α} {ms : List (String × α)}
      (hHead : skipBlanks cs = '"' :: ds) (hMember : MemberText reader ds key x more)
      (hMore : ObjectText reader false more ms rest) :
      ObjectText reader true cs ((key, x) :: ms) rest
  | next {cs ds es more rest : List Char} {key : String} {x : α} {ms : List (String × α)}
      (hComma : skipBlanks cs = ',' :: ds) (hHead : skipBlanks ds = '"' :: es)
      (hMember : MemberText reader es key x more) (hMore : ObjectText reader false more ms rest) :
      ObjectText reader false cs ((key, x) :: ms) rest

/-! ## From readings to texts -/

theorem length_colon {cs rest : List Char} (hRead : colon cs = .ok ((), rest)) :
    rest.length < cs.length := by
  have hBlanks := length_skipBlanks_le cs
  unfold colon at hRead
  split at hRead
  · cases hRead
  · rename_i c ds hHead
    split at hRead
    · cases hRead
      rw [hHead, List.length_cons] at hBlanks
      omega
    · cases hRead

theorem length_quoted {cs rest : List Char} {s : String} (hRead : quoted cs = .ok (s, rest)) :
    rest.length < cs.length :=
  length_skipQuoted (skipQuoted_of_quoted hRead)

theorem length_of_skipBlanks {cs ds : List Char} {c : Char} (hHead : skipBlanks cs = c :: ds) :
    ds.length < cs.length := by
  have hBlanks := length_skipBlanks_le cs
  rw [hHead, List.length_cons] at hBlanks
  omega

/-- Whatever the reader finds, it leaves a shorter text. -/
def Shortens (reader : Reader ε α) : Prop :=
  ∀ cs x rest, reader cs = .ok (x, rest) → rest.length < cs.length

theorem MemberText.length {reader : Reader Fault α} (hShortens : Shortens reader)
    {cs more : List Char} {key : String} {x : α} (hText : MemberText reader cs key x more) :
    more.length < cs.length := by
  obtain ⟨hKey, hColon, hValue⟩ := hText
  have hAfterKey := length_quoted hKey
  have hAfterColon := length_colon hColon
  have hAfterValue := hShortens _ _ _ hValue
  omega

/-- The bound on depth and length that a reader of documents keeps to. -/
def Bounded (reader : Reader Fault Json) : Prop :=
  ∀ cs v rest, reader cs = .ok (v, rest) → v.depth + rest.length < cs.length

theorem ListText.bounded {reader : Reader Fault Json} (hBounded : Bounded reader) {first : Bool}
    {cs rest : List Char} {vs : List Json} (hText : ListText reader first cs vs rest) :
    depthAll vs + rest.length < cs.length := by
  induction hText with
  | close hClose =>
    rw [depthAll, Nat.zero_add]
    exact length_of_skipBlanks hClose
  | first hHead _ hElement _ ih =>
    have hFirst := hBounded _ _ _ hElement
    have hText := length_of_skipBlanks hHead
    rw [depthAll]
    rw [List.length_cons] at hFirst
    omega
  | next hComma hHead _ hElement _ ih =>
    have hFirst := hBounded _ _ _ hElement
    have hText := length_of_skipBlanks hHead
    have hBefore := length_of_skipBlanks hComma
    rw [depthAll]
    rw [List.length_cons] at hFirst
    omega

theorem MemberText.bounded {reader : Reader Fault Json} (hBounded : Bounded reader)
    {cs more : List Char} {key : String} {v : Json} (hText : MemberText reader cs key v more) :
    v.depth + more.length < cs.length := by
  obtain ⟨hKey, hColon, hValue⟩ := hText
  have hAfterKey := length_quoted hKey
  have hAfterColon := length_colon hColon
  have hAfterValue := hBounded _ _ _ hValue
  omega

theorem ObjectText.bounded {reader : Reader Fault Json} (hBounded : Bounded reader) {first : Bool}
    {cs rest : List Char} {ms : List (String × Json)} (hText : ObjectText reader first cs ms rest) :
    depthMembers ms + rest.length < cs.length := by
  induction hText with
  | close hClose =>
    rw [depthMembers, Nat.zero_add]
    exact length_of_skipBlanks hClose
  | first hHead hMember _ ih =>
    have hFirst := hMember.bounded hBounded
    have hText := length_of_skipBlanks hHead
    rw [depthMembers]
    omega
  | next hComma hHead hMember _ ih =>
    have hFirst := hMember.bounded hBounded
    have hText := length_of_skipBlanks hHead
    have hBefore := length_of_skipBlanks hComma
    rw [depthMembers]
    omega

/-- On every text that holds a document, the reader makes of it what the function makes of the
document, and fails where the function gives nothing. -/
def Follows (other : Reader ε β) (reader : Reader Fault α) (f : α → Option β) : Prop :=
  ∀ cs x rest, reader cs = .ok (x, rest) →
    (other cs).toOption = (f x).map fun y => (y, rest)

theorem toOption_parts {one : Except ε (β × List Char)}
    {others : List Char → Except ε (List β × List Char)} {y : Option β} {ys : Option (List β)}
    {more rest : List Char} (hOne : one.toOption = y.map fun y => (y, more))
    (hOthers : (others more).toOption = ys.map fun ys => (ys, rest)) :
    (one >>= fun r => others r.2 >>= fun rs => .ok (r.1 :: rs.1, rs.2)).toOption =
      (do return (← y) :: (← ys) : Option (List β)).map fun ys => (ys, rest) := by
  rw [toOption_bind, hOne]
  cases y with
  | none => rfl
  | some y =>
    rw [Option.map_some, Option.bind_some, toOption_bind, hOthers]
    cases ys <;> rfl

theorem elementsFrom_head {raise : Fault → ε} {element : Reader ε α} {steps : Nat} {c : Char}
    {cs ds : List Char} (hHead : skipBlanks cs = c :: ds) (hc : c ≠ ']') :
    elementsFrom raise element (steps + 1) true cs = (element (c :: ds) >>= fun r =>
      elementsFrom raise element steps false r.2 >>= fun rs => .ok (r.1 :: rs.1, rs.2)) := by
  rw [elementsFrom, hHead]
  simp only [if_neg hc, if_true]
  rfl

theorem elementsFrom_comma {raise : Fault → ε} {element : Reader ε α} {steps : Nat} {c : Char}
    {cs ds es : List Char} (hComma : skipBlanks cs = ',' :: ds) (hHead : skipBlanks ds = c :: es)
    (hc : c ≠ ']') :
    elementsFrom raise element (steps + 1) false cs = (element (c :: es) >>= fun r =>
      elementsFrom raise element steps false r.2 >>= fun rs => .ok (r.1 :: rs.1, rs.2)) := by
  rw [elementsFrom, hComma]
  simp only [hHead, if_neg hc]
  rfl

theorem ListText.elementsFrom {reader : Reader Fault α} {other : Reader ε β} {f : α → Option β}
    (hFollows : Follows other reader f) (hShortens : Shortens reader) {raise : Fault → ε}
    {first : Bool} {cs rest : List Char} {xs : List α} (hText : ListText reader first cs xs rest)
    {steps : Nat} (hSteps : cs.length < steps) :
    (elementsFrom raise other steps first cs).toOption =
      (xs.mapM f).map fun ys => (ys, rest) := by
  induction hText generalizing steps with
  | close hClose =>
    obtain ⟨steps, rfl⟩ : ∃ n, steps = n + 1 := ⟨steps - 1, by omega⟩
    rw [elementsFrom_close hClose]
    rfl
  | first hHead hc hElement hMore ih =>
    obtain ⟨steps, rfl⟩ : ∃ n, steps = n + 1 := ⟨steps - 1, by omega⟩
    have hText := length_of_skipBlanks hHead
    have hShorter := hShortens _ _ _ hElement
    rw [List.length_cons] at hShorter
    rw [elementsFrom_head hHead hc, List.mapM_cons]
    exact toOption_parts (hFollows _ _ _ hElement) (ih (show _ < steps by omega))
  | next hComma hHead hc hElement hMore ih =>
    obtain ⟨steps, rfl⟩ : ∃ n, steps = n + 1 := ⟨steps - 1, by omega⟩
    have hBefore := length_of_skipBlanks hComma
    have hText := length_of_skipBlanks hHead
    have hShorter := hShortens _ _ _ hElement
    rw [List.length_cons] at hShorter
    rw [elementsFrom_comma hComma hHead hc, List.mapM_cons]
    exact toOption_parts (hFollows _ _ _ hElement) (ih (show _ < steps by omega))

/-- What is made of the members of an object one by one, each with the keys in front of it. -/
def walk (f : List String → String → α → Option β) :
    List String → List (String × α) → Option (List β)
  | _, [] => some []
  | seen, (key, x) :: ms => do
    let y ← f seen key x
    let ys ← walk f (key :: seen) ms
    return y :: ys

/-- As `Follows`, for a reader of members that starts at the colon. -/
def FollowsMembers (other : List String → String → Reader ε β) (reader : Reader Fault α)
    (f : List String → String → α → Option β) : Prop :=
  ∀ seen key cs ds x rest, colon cs = .ok ((), ds) → reader ds = .ok (x, rest) →
    (other seen key cs).toOption = (f seen key x).map fun y => (y, rest)

/-- What `membersFrom` does after the quote of a key. -/
def memberThen (raise : Fault → ε) (member : List String → String → Reader ε β) (steps : Nat)
    (seen : List String) : Reader ε (List β) := fun cs => do
  let (key, rest) ← (quoted cs).mapError raise
  let (x, rest) ← member seen key rest
  let (xs, rest) ← membersFrom raise member steps false (key :: seen) rest
  return (x :: xs, rest)

theorem membersFrom_head {raise : Fault → ε} {member : List String → String → Reader ε β}
    {steps : Nat} {seen : List String} {cs ds : List Char} (hHead : skipBlanks cs = '"' :: ds) :
    membersFrom raise member (steps + 1) true seen cs = memberThen raise member steps seen ds := by
  rw [membersFrom, hHead]
  rfl

theorem membersFrom_comma {raise : Fault → ε} {member : List String → String → Reader ε β}
    {steps : Nat} {seen : List String} {cs ds es : List Char} (hComma : skipBlanks cs = ',' :: ds)
    (hHead : skipBlanks ds = '"' :: es) :
    membersFrom raise member (steps + 1) false seen cs = memberThen raise member steps seen es := by
  rw [membersFrom, hComma]
  simp only [hHead]
  rfl

theorem MemberText.memberThen {reader : Reader Fault α} {other : List String → String → Reader ε β}
    {f : List String → String → α → Option β} (hFollows : FollowsMembers other reader f)
    {raise : Fault → ε} {steps : Nat} {seen : List String} {cs more rest : List Char} {key : String}
    {x : α} {ys : Option (List β)} (hText : MemberText reader cs key x more)
    (hMore : (membersFrom raise other steps false (key :: seen) more).toOption =
      ys.map fun ys => (ys, rest)) :
    (memberThen raise other steps seen cs).toOption =
      (do return (← f seen key x) :: (← ys) : Option (List β)).map fun ys => (ys, rest) := by
  obtain ⟨hKey, hColon, hValue⟩ := hText
  rw [Json.memberThen, hKey]
  exact toOption_parts (hFollows _ _ _ _ _ _ hColon hValue) hMore

theorem ObjectText.membersFrom {reader : Reader Fault α}
    {other : List String → String → Reader ε β} {f : List String → String → α → Option β}
    (hFollows : FollowsMembers other reader f) (hShortens : Shortens reader) {raise : Fault → ε}
    {first : Bool} {cs rest : List Char} {ms : List (String × α)}
    (hText : ObjectText reader first cs ms rest) {steps : Nat} (hSteps : cs.length < steps)
    (seen : List String) :
    (membersFrom raise other steps first seen cs).toOption =
      (walk f seen ms).map fun ys => (ys, rest) := by
  induction hText generalizing steps seen with
  | close hClose =>
    obtain ⟨steps, rfl⟩ : ∃ n, steps = n + 1 := ⟨steps - 1, by omega⟩
    rw [membersFrom_close hClose]
    rfl
  | first hHead hMember hMore ih =>
    obtain ⟨steps, rfl⟩ : ∃ n, steps = n + 1 := ⟨steps - 1, by omega⟩
    have hText := length_of_skipBlanks hHead
    have hShorter := hMember.length hShortens
    rw [membersFrom_head hHead]
    exact hMember.memberThen hFollows (ih (show _ < steps by omega) _)
  | next hComma hHead hMember hMore ih =>
    obtain ⟨steps, rfl⟩ : ∃ n, steps = n + 1 := ⟨steps - 1, by omega⟩
    have hBefore := length_of_skipBlanks hComma
    have hText := length_of_skipBlanks hHead
    have hShorter := hMember.length hShortens
    rw [membersFrom_comma hComma hHead]
    exact hMember.memberThen hFollows (ih (show _ < steps by omega) _)

/-! ## Documents -/

/-- A document, if it keeps to a bound on its depth. -/
def upTo (depth : Nat) (v : Json) : Option Json := if v.depth ≤ depth then some v else none

theorem skipBlanks_skipBlanks (cs : List Char) : skipBlanks (skipBlanks cs) = skipBlanks cs := by
  induction cs with
  | nil => rfl
  | cons c cs ih =>
    cases hBlank : isBlank c with
    | true => simpa [skipBlanks, hBlank] using ih
    | false => rw [skipBlanks_cons hBlank, skipBlanks_cons hBlank]

theorem skipValue_skipBlanks (depth : Nat) (cs : List Char) :
    skipValue depth (skipBlanks cs) = skipValue depth cs := by
  cases depth with
  | zero => rw [skipValue, skipValue, skipBlanks_skipBlanks]
  | succ depth => rw [skipValue, skipValue, skipBlanks_skipBlanks]

/-- Documents up to a depth are passed over where they are read. -/
def Passes (depth : Nat) (reader : Reader Fault Json) : Prop :=
  ∀ cs v rest, reader cs = .ok (v, rest) → v.depth ≤ depth → skipValue depth cs = .ok ((), rest)

theorem ListText.skipElements {reader : Reader Fault Json} {depth : Nat}
    (hPasses : Passes depth reader) (hShortens : Shortens reader) {first : Bool}
    {cs rest : List Char} {vs : List Json} (hText : ListText reader first cs vs rest)
    (hDepth : depthAll vs ≤ depth) {steps : Nat} (hSteps : cs.length < steps) :
    skipElements (skipValue depth) steps first cs = .ok ((), rest) := by
  induction hText generalizing steps with
  | close hClose =>
    obtain ⟨steps, rfl⟩ : ∃ n, steps = n + 1 := ⟨steps - 1, by omega⟩
    rw [Json.skipElements, hClose]
    rfl
  | first hHead hc hElement hMore ih =>
    obtain ⟨steps, rfl⟩ : ∃ n, steps = n + 1 := ⟨steps - 1, by omega⟩
    rw [depthAll, Nat.max_le] at hDepth
    have hText := length_of_skipBlanks hHead
    have hShorter := hShortens _ _ _ hElement
    rw [List.length_cons] at hShorter
    have hOne := hPasses _ _ _ hElement hDepth.1
    have hRest := ih hDepth.2 (show _ < steps by omega)
    rw [Json.skipElements, hHead]
    simp only [if_neg hc, if_true, hOne, ok_bind, hRest]
  | next hComma hHead hc hElement hMore ih =>
    obtain ⟨steps, rfl⟩ : ∃ n, steps = n + 1 := ⟨steps - 1, by omega⟩
    rw [depthAll, Nat.max_le] at hDepth
    have hBefore := length_of_skipBlanks hComma
    have hText := length_of_skipBlanks hHead
    have hShorter := hShortens _ _ _ hElement
    rw [List.length_cons] at hShorter
    have hOne := hPasses _ _ _ hElement hDepth.1
    rw [← hHead, skipValue_skipBlanks] at hOne
    have hRest := ih hDepth.2 (show _ < steps by omega)
    rw [Json.skipElements, hComma]
    change (skipValue depth _ >>= fun r => Json.skipElements _ _ _ r.2) = _
    rw [hOne, ok_bind, hRest]

/-- What `skipMembers` does with a member, blanks in front of it included. -/
def skipMemberThen (element : Reader Fault Unit) (steps : Nat) : Reader Fault Unit := fun cs => do
  match skipBlanks cs with
  | [] => throw .endInObject
  | c :: rest =>
    if c = '"' then
      let (_, rest) ← skipQuoted rest
      let (_, rest) ← colon rest
      let (_, rest) ← element rest
      skipMembers element steps false rest
    else throw .keyNotString

theorem MemberText.skipMemberThen {reader : Reader Fault Json} {depth steps : Nat}
    (hPasses : Passes depth reader) {cs ds more rest : List Char} {key : String} {v : Json}
    (hHead : skipBlanks cs = '"' :: ds) (hText : MemberText reader ds key v more)
    (hDepth : v.depth ≤ depth)
    (hMore : skipMembers (skipValue depth) steps false more = .ok ((), rest)) :
    skipMemberThen (skipValue depth) steps cs = .ok ((), rest) := by
  obtain ⟨hKey, hColon, hValue⟩ := hText
  have hOne := hPasses _ _ _ hValue hDepth
  simp only [Json.skipMemberThen, hHead, if_true, skipQuoted_of_quoted hKey, ok_bind, hColon, hOne,
    hMore]

theorem ObjectText.skipMembers {reader : Reader Fault Json} {depth : Nat}
    (hPasses : Passes depth reader) (hShortens : Shortens reader) {first : Bool}
    {cs rest : List Char} {ms : List (String × Json)} (hText : ObjectText reader first cs ms rest)
    (hDepth : depthMembers ms ≤ depth) {steps : Nat} (hSteps : cs.length < steps) :
    skipMembers (skipValue depth) steps first cs = .ok ((), rest) := by
  induction hText generalizing steps with
  | close hClose =>
    obtain ⟨steps, rfl⟩ : ∃ n, steps = n + 1 := ⟨steps - 1, by omega⟩
    rw [Json.skipMembers, hClose]
    rfl
  | first hHead hMember hMore ih =>
    obtain ⟨steps, rfl⟩ : ∃ n, steps = n + 1 := ⟨steps - 1, by omega⟩
    rw [depthMembers, Nat.max_le] at hDepth
    have hText := length_of_skipBlanks hHead
    have hShorter := hMember.length hShortens
    have hRest := ih hDepth.2 (show _ < steps by omega)
    rw [Json.skipMembers, hHead]
    exact hMember.skipMemberThen hPasses (skipBlanks_cons rfl _) hDepth.1 hRest
  | next hComma hHead hMember hMore ih =>
    obtain ⟨steps, rfl⟩ : ∃ n, steps = n + 1 := ⟨steps - 1, by omega⟩
    rw [depthMembers, Nat.max_le] at hDepth
    have hBefore := length_of_skipBlanks hComma
    have hText := length_of_skipBlanks hHead
    have hShorter := hMember.length hShortens
    have hRest := ih hDepth.2 (show _ < steps by omega)
    rw [Json.skipMembers, hComma]
    exact hMember.skipMemberThen hPasses hHead hDepth.1 hRest

end ServiceCompiler.Json
