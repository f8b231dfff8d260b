import CalcFields.Proofs.Digest.Bytes
import CalcFields.Proofs.Engine.Selection
import Mathlib.Algebra.Ring.Int.Defs
import Mathlib.Data.List.Chain
import Mathlib.Data.Set.Function

/-!
A signature sees collection, field, formula and place of each definition, and from its bytes these
can be read back. The byte of a line feed ends a definition, though, and also starts some places: in
front of such a place a definition may seem to end, and what follows may pass for others.
-/

namespace CalcFields

namespace Definition

/-- The texts of a definition. -/
def texts (d : Definition) : List String := [d.collection, d.field, d.formula]

/-- What a signature sees of a definition. -/
def signedParts (d : Definition) : String × String × String × Option Int :=
  (d.collection, d.field, d.formula, d.sort)

/-- A published definition of which a signature sees the parts, without a description. -/
def ofSignedParts (parts : String × String × String × Option Int) : Definition :=
  ⟨parts.1, parts.2.1, parts.2.2.1, .published, parts.2.2.2, none⟩

/-- Definitions are separable when their texts have no character zero and their places fit into 64
bits; with a place that starts like a line feed in use, it has to be small and no text empty. -/
structure Separable (definitions : List Definition) : Prop where
  texts : ∀ d ∈ definitions, ∀ text ∈ d.texts, '\x00' ∉ text.toList
  places : ∀ d ∈ definitions, ∀ place ∈ d.sort, minInt64 ≤ place ∧ place ≤ maxInt64
  feeds : ∀ d ∈ definitions, ∀ place ∈ d.sort, place % 256 = 10 →
    (-2 ^ 48 ≤ place ∧ place < 2 ^ 40) ∧ ∀ other ∈ definitions, "" ∉ other.texts

/-- The texts of a definition as a signature sees them. -/
def signedTexts (d : Definition) : List UInt8 :=
  bytesOfText d.collection ++ 0 :: (bytesOfText d.field ++ 0 :: (bytesOfText d.formula ++ [0]))

/-- The bytes of a definition are those of its texts and of its place, and a line feed. -/
theorem signedBytes_append (d : Definition) (rest : List UInt8) :
    d.signedBytes ++ rest = d.signedTexts ++ ((d.sort.map bytesOfPlace).getD [] ++ 10 :: rest) := by
  simp [signedBytes, signedTexts]

/-- The greatest byte does not stand in texts. -/
theorem greatest_not_mem_signedTexts (d : Definition) : 255 ∉ d.signedTexts := by
  simp [signedTexts, greatest_not_mem_bytesOfText]

end Definition

/-- What stands before the first zero byte is told from what stands behind it. -/
theorem inj_of_zero_not_mem {first second rest others : List UInt8} (firstPlain : 0 ∉ first)
    (secondPlain : 0 ∉ second) (same : first ++ 0 :: rest = second ++ 0 :: others) :
    first = second ∧ rest = others := by
  -- Induction on the texts: both end at the first zero.
  induction first generalizing second with
  | nil =>
    cases second with
    | nil => exact ⟨rfl, (List.cons.inj same).2⟩
    | cons byte => exact absurd ((List.cons.inj same).1 ▸ List.mem_cons_self) secondPlain
  | cons byte bytes ih =>
    cases second with
    | nil => exact absurd ((List.cons.inj same).1 ▸ List.mem_cons_self) firstPlain
    | cons other =>
      obtain ⟨rfl, later⟩ := List.cons.inj same
      obtain ⟨rfl, rfl⟩ := ih (List.not_mem_of_not_mem_cons firstPlain)
        (List.not_mem_of_not_mem_cons secondPlain) later
      exact ⟨rfl, rfl⟩

/-- A byte that follows another one without both being zero. -/
def NoZeros (a b : UInt8) : Prop := a ≠ 0 ∨ b ≠ 0

/-- Behind a text and the zero byte that ends it, two zero bytes are in a row only if one starts
what follows. -/
theorem isChain_text {text rest : List UInt8} (plain : 0 ∉ text) (later : rest.IsChain NoZeros)
    (start : rest.head? ≠ some 0) : (text ++ 0 :: rest).IsChain NoZeros := by
  refine List.isChain_append.2 ⟨?_, ?_, ?_⟩
  · -- Within the text no byte is zero, so that no two are.
    refine (List.pairwise_of_forall_mem_list fun a here _ _ => ?_).isChain
    exact .inl (ne_of_mem_of_not_mem here plain)
  · -- The zero behind the text is followed by another byte.
    refine List.isChain_cons.2 ⟨fun byte next => .inr ?_, later⟩
    rintro rfl
    exact start next
  · -- The last byte of the text is none either.
    intro byte last _ _
    exact .inl (ne_of_mem_of_not_mem (List.mem_of_getLast? last) plain)

namespace Definition.Separable

variable {known : List Definition}

/-- The texts of a separable definition have no zero byte. -/
theorem zero_not_mem (separable : Separable known) {d : Definition} (here : d ∈ known) :
    0 ∉ bytesOfText d.collection ∧ 0 ∉ bytesOfText d.field ∧ 0 ∉ bytesOfText d.formula := by
  -- Without a null character in a text there is no zero among its bytes.
  have plain := separable.texts d here
  simp only [Definition.texts, List.forall_mem_cons] at plain
  exact ⟨zero_not_mem_bytesOfText plain.1, zero_not_mem_bytesOfText plain.2.1,
    zero_not_mem_bytesOfText plain.2.2.1⟩

/-- The texts of a separable definition that has none empty take six bytes or more, and two zero
bytes are nowhere in a row there. -/
theorem isChain_signedTexts (separable : Separable known) {d : Definition} (here : d ∈ known)
    (filled : "" ∉ d.texts) : 6 ≤ d.signedTexts.length ∧ d.signedTexts.IsChain NoZeros := by
  simp only [Definition.texts, List.mem_cons, List.not_mem_nil, or_false, not_or] at filled
  obtain ⟨collection, field, formula⟩ := filled
  -- A text without bytes is the blank one.
  have bytes {text : String} (filled : "" ≠ text) : bytesOfText text ≠ [] := by
    intro none
    exact filled (bytesOfText_injective (none.trans (by simp [bytesOfText_eq]))).symm
  constructor
  · -- Three texts have a byte each, and each is followed by a zero.
    have first := List.length_pos_iff.2 (bytes collection)
    have second := List.length_pos_iff.2 (bytes field)
    have third := List.length_pos_iff.2 (bytes formula)
    simp only [signedTexts, List.length_append, List.length_cons, List.length_nil]
    omega
  · -- The first byte of a text is one of its own.
    have start {text : String} (filled : "" ≠ text) (plain : 0 ∉ bytesOfText text)
        (rest : List UInt8) : (bytesOfText text ++ rest).head? ≠ some 0 := by
      rw [List.head?_append_of_ne_nil _ (bytes filled)]
      exact fun first => plain (List.mem_of_head? first)
    obtain ⟨first, second, third⟩ := separable.zero_not_mem here
    have last := isChain_text third .nil (by simp)
    have middle := isChain_text second last (start formula third _)
    exact isChain_text first middle (start field second _)

/-- A place of separable definitions is not taken for the end of its definition with others of them
behind it. -/
theorem bytesOfPlace_ne (separable : Separable known) {d : Definition} (here : d ∈ known)
    {place : Int} (suggested : place ∈ d.sort) (rest : List UInt8) {others : List Definition}
    (within : others ⊆ known) :
    bytesOfPlace place ++ 10 :: rest ≠ 10 :: others.flatMap Definition.signedBytes := by
  intro same
  have bytes : bytesOfPlace place = (List.range 8).map (placeByte place) := rfl
  simp only [bytes, List.range, List.range.loop, List.map_cons, List.map_nil, List.cons_append,
    List.nil_append, List.cons.injEq] at same
  -- The lowest byte of the place would be the line feed.
  obtain ⟨feed, later⟩ := same
  have digit (i : Nat) := toNat_placeByte place i
  have first := digit 0
  rw [feed] at first
  obtain ⟨small, filled⟩ := separable.feeds d here place suggested (by simpa using first.symm)
  cases others with
  | nil => cases later
  | cons e others =>
    -- With nothing behind there are too few bytes; otherwise a definition follows.
    have known := within List.mem_cons_self
    obtain ⟨long, chain⟩ := separable.isChain_signedTexts known (filled e known)
    -- The texts of the next definition start with all but the last of the other bytes.
    have start : [placeByte place 1, placeByte place 2, placeByte place 3, placeByte place 4,
        placeByte place 5, placeByte place 6] <+: e.signedTexts := by
      rw [List.flatMap_cons, signedBytes_append] at later
      refine List.prefix_of_prefix_length_le ⟨placeByte place 7 :: 10 :: rest, later⟩ ?_ long
      exact List.prefix_append _ _
    have fifth := digit 5
    have sixth := digit 6
    obtain negative | nonnegative := lt_or_ge place 0
    · -- Below zero the sixth of them is the greatest byte, which stands in no text.
      have greatest : placeByte place 6 = 255 := UInt8.toNat_inj.1 (by simp; omega)
      refine greatest_not_mem_signedTexts e (start.subset ?_)
      simp [greatest]
    · -- From zero on the last two of them are zero.
      have zero : placeByte place 5 = 0 ∧ placeByte place 6 = 0 :=
        ⟨UInt8.toNat_inj.1 (by simp; omega), UInt8.toNat_inj.1 (by simp; omega)⟩
      have apart := chain.prefix start
      simp [NoZeros, zero] at apart

/-- The places of separable definitions are read back from the bytes that start with theirs. -/
theorem sort_inj (separable : Separable known) {a b : Definition} (here : a ∈ known)
    (there : b ∈ known) {first second : List Definition} (firstWithin : first ⊆ known)
    (secondWithin : second ⊆ known)
    (same : (a.sort.map bytesOfPlace).getD [] ++ 10 :: first.flatMap Definition.signedBytes =
      (b.sort.map bytesOfPlace).getD [] ++ 10 :: second.flatMap Definition.signedBytes) :
    a.sort = b.sort ∧
      first.flatMap Definition.signedBytes = second.flatMap Definition.signedBytes := by
  -- Bytes of a place in one and a line feed in the other are what separable definitions exclude.
  cases suggested : a.sort with
  | none =>
    cases other : b.sort with
    | none =>
      rw [suggested, other] at same
      exact ⟨rfl, (List.cons.inj same).2⟩
    | some place =>
      rw [suggested, other] at same
      exact absurd same.symm (separable.bytesOfPlace_ne there other _ firstWithin)
  | some place =>
    cases other : b.sort with
    | none =>
      rw [suggested, other] at same
      exact absurd same (separable.bytesOfPlace_ne here suggested _ secondWithin)
    | some next =>
      rw [suggested, other] at same
      -- Two places take the same number of bytes.
      obtain ⟨bytes, later⟩ := List.append_inj same rfl
      rw [bytesOfPlace_inj (separable.places a here place suggested)
        (separable.places b there next other) bytes]
      exact ⟨rfl, (List.cons.inj later).2⟩

/-- The parts of a separable definition are read back from the bytes that start with its own. -/
theorem signedBytes_append_inj (separable : Separable known) {a b : Definition} (here : a ∈ known)
    (there : b ∈ known) {first second : List Definition} (firstWithin : first ⊆ known)
    (secondWithin : second ⊆ known)
    (same : a.signedBytes ++ first.flatMap Definition.signedBytes =
      b.signedBytes ++ second.flatMap Definition.signedBytes) :
    a.signedParts = b.signedParts ∧
      first.flatMap Definition.signedBytes = second.flatMap Definition.signedBytes := by
  simp only [signedBytes_append, signedTexts, List.append_assoc, List.cons_append,
    List.nil_append] at same
  -- A zero byte ends each of the three texts, and the place is left.
  obtain ⟨firstCollection, firstField, firstFormula⟩ := separable.zero_not_mem here
  obtain ⟨secondCollection, secondField, secondFormula⟩ := separable.zero_not_mem there
  obtain ⟨collection, same⟩ := inj_of_zero_not_mem firstCollection secondCollection same
  obtain ⟨field, same⟩ := inj_of_zero_not_mem firstField secondField same
  obtain ⟨formula, same⟩ := inj_of_zero_not_mem firstFormula secondFormula same
  obtain ⟨sort, same⟩ := separable.sort_inj here there firstWithin secondWithin same
  rw [signedParts, signedParts, bytesOfText_injective collection, bytesOfText_injective field,
    bytesOfText_injective formula, sort]
  exact ⟨rfl, same⟩

/-- The parts of separable definitions are read back from all their bytes. -/
theorem map_signedParts_inj (separable : Separable known) {first second : List Definition}
    (firstWithin : first ⊆ known) (secondWithin : second ⊆ known)
    (same : first.flatMap Definition.signedBytes = second.flatMap Definition.signedBytes) :
    first.map signedParts = second.map signedParts := by
  -- Induction on the definitions, one of which is read off the bytes at a time.
  induction first generalizing second with
  | nil =>
    cases second with
    | nil => rfl
    | cons b => simp [signedBytes] at same
  | cons a first ih =>
    cases second with
    | nil => simp [signedBytes] at same
    | cons b second =>
      obtain ⟨here, firstWithin⟩ := List.cons_subset.1 firstWithin
      obtain ⟨there, secondWithin⟩ := List.cons_subset.1 secondWithin
      obtain ⟨parts, later⟩ :=
        separable.signedBytes_append_inj here there firstWithin secondWithin same
      rw [List.map_cons, List.map_cons, parts, ih firstWithin secondWithin later]

end Definition.Separable

namespace Definition

/-- The bytes of definitions are those of their parts alone. -/
theorem signedBytes_map_ofSignedParts (definitions : List Definition) :
    CalcFields.signedBytes ((definitions.map signedParts).map ofSignedParts) =
      CalcFields.signedBytes definitions := by
  -- Neither the order nor the bytes of a definition change with its other parts.
  have kept : (sorted definitions).map (ofSignedParts ∘ signedParts) =
      sorted (definitions.map (ofSignedParts ∘ signedParts)) :=
    List.map_mergeSort fun a _ b _ => rfl
  rw [CalcFields.signedBytes, CalcFields.signedBytes, List.map_map, ← kept, List.flatMap_map]
  rfl

/-- Definitions of distinct identities have the same bytes as others with the same parts. -/
theorem signedBytes_eq_of_signedParts {first second : List Definition}
    (firstDistinct : (first.map key).Nodup) (secondDistinct : (second.map key).Nodup)
    (same : ∀ parts, parts ∈ first.map signedParts ↔ parts ∈ second.map signedParts) :
    CalcFields.signedBytes first = CalcFields.signedBytes second := by
  -- The parts tell the key, so distinct keys make the parts distinct, and the same ones are
  -- permuted.
  have keys (definitions : List Definition) : definitions.map key =
      (definitions.map signedParts).map fun parts => (ofSignedParts parts).key := by
    rw [List.map_map]
    rfl
  rw [keys] at firstDistinct secondDistinct
  have moved := (List.perm_ext_iff_of_nodup firstDistinct.of_map secondDistinct.of_map).2 same
  rw [← signedBytes_map_ofSignedParts first, ← signedBytes_map_ofSignedParts second,
    CalcFields.signedBytes, CalcFields.signedBytes, sorted_eq_of_perm ?_ (moved.map ofSignedParts)]
  rwa [List.map_map]

end Definition

/-- If the digest tells their bytes apart, separable definitions of distinct identities have one
signature exactly if they have the same collections, fields, formulas and places. -/
theorem signature_eq_iff {first second : List Definition}
    (firstDistinct : (first.map Definition.key).Nodup)
    (secondDistinct : (second.map Definition.key).Nodup)
    (separable : Definition.Separable (first ++ second))
    (apart : Set.InjOn Blake3.digest {signedBytes first, signedBytes second}) :
    signature first = signature second ↔
      ∀ parts, parts ∈ first.map Definition.signedParts ↔
        parts ∈ second.map Definition.signedParts := by
  constructor
  · intro same parts
    -- The digest tells these bytes apart, and its text shows it.
    have bytes : signedBytes first = signedBytes second :=
      apart (by simp) (by simp) (hexText_injective same)
    have firstMoved := Definition.sorted_perm first
    have secondMoved := Definition.sorted_perm second
    have listed := separable.map_signedParts_inj
      (List.Subset.trans firstMoved.subset (List.subset_append_left _ _))
      (List.Subset.trans secondMoved.subset (List.subset_append_right _ _)) bytes
    rw [← (firstMoved.map _).mem_iff, listed, (secondMoved.map _).mem_iff]
  · intro same
    -- Sorting by key leaves the same bytes, whatever order they came in.
    rw [signature, signature,
      Definition.signedBytes_eq_of_signedParts firstDistinct secondDistinct same]

/-- Two definitions, the first of which has a place. -/
def placed (place : Int) : List Definition :=
  [⟨"orders", "net", "\x7b\x7bprice\x7d\x7d", .published, some place, none⟩,
    ⟨"orders", "total", "\x7b\x7bnet\x7d\x7d", .published, none, none⟩]

/-- Two places are told apart by the signature, the first of which starts like a line feed. -/
theorem signature_eq_iff_placed :
    Definition.Separable (placed 10 ++ placed 20) ∧
      Set.InjOn Blake3.digest {signedBytes (placed 10), signedBytes (placed 20)} ∧
      signature (placed 10) ≠ signature (placed 20) := by
  have separable : Definition.Separable (placed 10 ++ placed 20) :=
    ⟨by decide, by decide, by decide⟩
  have first : Definition.sorted (placed 10) = placed 10 :=
    List.mergeSort_of_pairwise (by decide)
  have second : Definition.sorted (placed 20) = placed 20 :=
    List.mergeSort_of_pairwise (by decide)
  -- The two byte strings have different digests.
  have apart : Set.InjOn Blake3.digest {signedBytes (placed 10), signedBytes (placed 20)} := by
    refine Set.injOn_pair.2 fun same => absurd same ?_
    rw [signedBytes, signedBytes, first, second]
    decide +kernel
  refine ⟨separable, apart, fun same => ?_⟩
  have alike := (signature_eq_iff (by decide) (by decide) separable apart).1 same
  exact absurd (alike ("orders", "net", "\x7b\x7bprice\x7d\x7d", some 10)) (by decide)

/-- A definition with a place that reads as its end and as another definition. -/
def posing : Definition := ⟨"o", "a", "1", .published, some 13564676596068106, none⟩

/-- The two definitions that the one poses as. -/
def posed : List Definition :=
  [⟨"o", "a", "1", .published, none, none⟩, ⟨"o", "b", "10", .published, none, none⟩]

/-- One definition and two others have the same bytes and so one signature. -/
theorem signature_posing :
    ([posing].map Definition.key).Nodup ∧ (posed.map Definition.key).Nodup ∧
      signedBytes [posing] = signedBytes posed ∧ signature [posing] = signature posed ∧
      ¬ ∀ parts, parts ∈ [posing].map Definition.signedParts ↔
        parts ∈ posed.map Definition.signedParts := by
  have sorted : Definition.sorted posed = posed := List.mergeSort_of_pairwise (by decide)
  have bytes : signedBytes [posing] = signedBytes posed := by
    rw [signedBytes, signedBytes, sorted]
    decide +kernel
  -- The second definition is signed in the place of the first one.
  refine ⟨by decide, by decide, bytes, by rw [signature, signature, bytes], fun alike => ?_⟩
  exact absurd (alike ("o", "b", "10", none)) (by decide)

/-- With a zero character in them, two texts are taken for two others. -/
example : signature [⟨"o\x00a", "b", "1", .published, none, none⟩] =
    signature [⟨"o", "a\x00b", "1", .published, none, none⟩] := by
  decide +kernel

end CalcFields
