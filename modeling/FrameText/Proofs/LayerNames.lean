import FrameText.Proofs.Marks
import FrameText.Proofs.Slices

/-!
# Layer names — every text opens at most one layer

A layer starts with the name of its kind, in letters of any case, and an opening parenthesis.  No
name has a parenthesis in it, so the first one tells where the name ends.

1. `Opens` says that a text starts like a layer of a kind; `eq_of_opens` says that the kind is the
   only one.
2. `ofKind?_eq_some_iff` and `ofKinds?_eq_some_iff` say what is read, from any list of kinds.
3. `ofKindBytes?_eq` says that nothing changes if the text is cut at places counted in bytes, which
   may be inside characters.
4. `ofText?_unambiguous` puts this together.
-/

namespace FrameText

open Text

/-! ## Letter case -/

namespace Text

/-- Letters have a single byte in either case. -/
theorem utf8Size_toLower (c : Char) : c.toLower.utf8Size = c.utf8Size := by
  have code := toNat_toLower c
  by_cases capital : 65 ≤ c.toNat ∧ c.toNat ≤ 90
  · rw [if_pos capital] at code
    rw [utf8Size_eq_one_iff.2 (show c.toNat < 128 by omega),
      utf8Size_eq_one_iff.2 (show c.toLower.toNat < 128 by omega)]
  · rw [if_neg capital] at code
    rw [Char.toNat_inj.1 code]

theorem byteLength_lower (s : Text) : byteLength (lower s) = byteLength s := by
  induction s with
  | nil => rfl
  | cons c s ih =>
    rw [lower, List.map_cons, ← lower, byteLength_cons, byteLength_cons, utf8Size_toLower, ih]

/-- No letter is blank. -/
theorem isBlank_toLower (c : Char) : isBlank c.toLower = isBlank c := by
  have code := toNat_toLower c
  by_cases capital : 65 ≤ c.toNat ∧ c.toNat ≤ 90
  · rw [if_pos capital] at code
    have solid : ∀ d : Char, 65 ≤ d.toNat → d.toNat ≤ 122 → isBlank d = false := by
      intro d least most
      simp only [isBlank]
      simp
      omega
    rw [solid c capital.1 (by omega), solid c.toLower (by omega) (by omega)]
  · rw [if_neg capital] at code
    rw [Char.toNat_inj.1 code]

end Text

/-! ## Openings -/

namespace LayerKind

variable {kind other : LayerKind} {text name params : Text}

/-- What a layer of this kind starts with. -/
def opening (kind : LayerKind) : Text :=
  kind.name ++ ['(']

/-- Whether a text starts like a layer of this kind, in letters of any case. -/
def Opens (kind : LayerKind) (text : Text) : Prop :=
  ∃ front behind, text = front ++ behind ∧ sameIgnoringCase front kind.opening = true

/-- Names are made of characters that are neither blank nor parentheses. -/
theorem solid_lower_name (kind : LayerKind) :
    ∀ c ∈ lower kind.name, isBlank c = false ∧ c ≠ '(' := by
  have all : (lower kind.name).all (fun c => !isBlank c && c != '(') = true := by
    cases kind <;> decide
  intro c member
  simpa using List.all_eq_true.1 all c member

theorem ofName?_eq_some_iff : ofName? name = some kind ↔ lower name = lower kind.name := by
  constructor
  · intro found
    have named := List.find?_some found
    exact (sameIgnoringCase_iff.1 named).symm
  · intro same
    -- The case of the letters does not show in the look-up.
    have found := ofName?_name kind
    unfold ofName? sameIgnoringCase at found ⊢
    rw [same, found]

theorem eq_of_lower_name (same : lower kind.name = lower other.name) : kind = other := by
  have found := ofName?_eq_some_iff.2 same
  rw [ofName?_name] at found
  exact Option.some.inj found

/-- Nothing but the parenthesis stands for the parenthesis. -/
theorem sameIgnoringCase_opening_iff {front : Text} :
    sameIgnoringCase front kind.opening = true ↔
      ∃ name, front = name ++ ['('] ∧ sameIgnoringCase name kind.name = true := by
  have only : ∀ c : Char, c.toLower = '(' → c = '(' := by
    intro c same
    have code := toNat_toLower c
    rw [same] at code
    apply Char.toNat_inj.1
    split_ifs at code
    · exact absurd code (by simp; omega)
    · exact code.symm
  simp only [sameIgnoringCase_iff, opening, lower_append]
  constructor
  · intro same
    obtain ⟨name, closing, rfl, named, closed⟩ := List.map_eq_append_iff.1 same
    obtain ⟨c, rest, rfl, first, empty⟩ := List.map_eq_cons_iff.1 closed
    rw [only c first, List.map_eq_nil_iff.1 empty]
    exact ⟨name, rfl, named⟩
  · rintro ⟨name, rfl, named⟩
    rw [lower_append, named]

theorem opens_iff : Opens kind text ↔
    ∃ name behind, text = name ++ '(' :: behind ∧ sameIgnoringCase name kind.name = true := by
  simp only [Opens, sameIgnoringCase_opening_iff]
  constructor
  · rintro ⟨_, behind, rfl, name, rfl, named⟩
    exact ⟨name, behind, List.append_assoc _ _ _, named⟩
  · rintro ⟨name, behind, rfl, named⟩
    exact ⟨name ++ ['('], behind, (List.append_assoc name ['('] behind).symm, name, rfl, named⟩

/-- No text starts like layers of two kinds: both names end at the first parenthesis. -/
theorem eq_of_opens (first : Opens kind text) (second : Opens other text) : kind = other := by
  have cut : ∀ {kind : LayerKind}, Opens kind text →
      ∃ behind, cut? ['('] (lower text) = some (lower kind.name, behind) := by
    intro kind opens
    obtain ⟨name, behind, rfl, named⟩ := opens_iff.1 opens
    refine ⟨lower behind, cut?_singleton_eq_some_iff.2 ⟨?_, ?_⟩⟩
    · rw [lower_append, sameIgnoringCase_iff.1 named]
      rfl
    · exact fun member => (solid_lower_name kind _ member).2 rfl
  obtain ⟨_, found⟩ := cut first
  obtain ⟨_, again⟩ := cut second
  rw [found] at again
  exact eq_of_lower_name (Prod.mk.inj (Option.some.inj again)).1

/-- The texts that are read as a kind and have no blanks at their ends are its names. -/
theorem parse_eq_ok_iff :
    LayerKind.parse name = .ok kind ∧ trim name = name ↔
      sameIgnoringCase name kind.name = true := by
  have read : LayerKind.parse name = .ok kind ↔ lower (trim name) = lower kind.name := by
    rw [← ofName?_eq_some_iff, LayerKind.parse]
    cases ofName? (trim name) <;> simp
  rw [read, sameIgnoringCase_iff]
  constructor
  · rintro ⟨same, trimmed⟩
    rwa [trimmed] at same
  · intro same
    have trimmed : trim name = name := by
      apply trim_of_forall
      intro c member
      rw [← isBlank_toLower]
      exact (solid_lower_name kind _ (same ▸ List.mem_map_of_mem member)).1
    exact ⟨by rw [trimmed, same], trimmed⟩

end LayerKind

/-! ## Tokens -/

namespace LayerToken

variable {kind : LayerKind} {text : Text} {token : LayerToken}

/-- What is read is a name and everything from the parenthesis on. -/
theorem ofKind?_eq_some_iff :
    ofKind? kind text = some token ↔
      token.kind = kind ∧ ∃ name, text = name ++ token.params ∧ token.params.head? = some '(' ∧
        sameIgnoringCase name kind.name = true := by
  obtain ⟨read, params⟩ := token
  simp only [ofKind?, Option.ite_none_right_eq_some, Option.some.injEq, mk.injEq]
  constructor
  · rintro ⟨⟨same, opening⟩, rfl, rfl⟩
    exact ⟨rfl, _, (List.take_append_drop _ _).symm, opening, same⟩
  · rintro ⟨rfl, name, rfl, opening, same⟩
    have length : name.length = read.name.length := by
      simpa [lower] using congrArg List.length (sameIgnoringCase_iff.1 same)
    rw [← length, List.take_left, List.drop_left]
    exact ⟨⟨same, opening⟩, rfl, rfl⟩

theorem opens_of_ofKind? (found : ofKind? kind text = some token) : kind.Opens text := by
  obtain ⟨-, name, whole, opening, named⟩ := ofKind?_eq_some_iff.1 found
  obtain ⟨behind, start⟩ := List.head?_eq_some_iff.1 opening
  exact LayerKind.opens_iff.2 ⟨name, behind, start ▸ whole, named⟩

/-- A layer is read as one of any number of kinds if it is read as one of them, in whatever order
they are tried. -/
theorem ofKinds?_eq_some_iff {kinds : List LayerKind} :
    ofKinds? kinds text = some token ↔ ∃ kind ∈ kinds, ofKind? kind text = some token := by
  constructor
  · exact List.exists_of_findSome?_eq_some
  · rintro ⟨kind, member, found⟩
    cases result : ofKinds? kinds text with
    | none =>
      have unread := List.findSome?_eq_none_iff.1 result kind member
      rw [found] at unread
      cases unread
    | some first =>
      obtain ⟨other, -, foundFirst⟩ := List.exists_of_findSome?_eq_some result
      -- The kind that is tried first is the only one.
      have same := LayerKind.eq_of_opens (opens_of_ofKind? found) (opens_of_ofKind? foundFirst)
      rw [← foundFirst, ← same, found]

/-- Reads the layer as one of this kind, cutting the text at places that are counted in bytes. -/
def ofKindBytes? (kind : LayerKind) (text : Text) : Option LayerToken := do
  let (front, _) ← splitBytes? (byteLength kind.opening) text
  if sameIgnoringCase front kind.opening then
    let (_, params) ← splitBytes? (byteLength kind.opening - 1) text
    return ⟨kind, params⟩
  else
    none

/-- Where a place is inside a character, the text does not start with a name. -/
theorem ofKindBytes?_eq : ofKindBytes? kind text = ofKind? kind text := by
  have place : ∀ {name}, sameIgnoringCase name kind.name = true →
      byteLength name = byteLength kind.opening - 1 := by
    intro name named
    rw [← byteLength_lower, sameIgnoringCase_iff.1 named, byteLength_lower, LayerKind.opening,
      byteLength_append]
    rfl
  refine Option.ext fun token => ?_
  rw [ofKind?_eq_some_iff]
  simp only [ofKindBytes?, Option.bind_eq_bind, Option.bind_eq_some_iff, Prod.exists,
    Option.ite_none_right_eq_some, Option.pure_def, Option.some.injEq, splitBytes?_eq_some_iff,
    LayerKind.sameIgnoringCase_opening_iff]
  constructor
  · rintro ⟨_, behind, ⟨rfl, -⟩, ⟨name, rfl, named⟩, before, params, ⟨whole, length⟩, rfl⟩
    -- Both cuts are at the end of the name.
    have cut := splitBytes?_eq_some_iff.2 ⟨whole, length⟩
    have known := splitBytes?_eq_some_iff.2
      ⟨List.append_assoc name ['('] behind, place named⟩
    obtain ⟨rfl, rfl⟩ := Prod.mk.inj (Option.some.inj (known.symm.trans cut))
    exact ⟨rfl, name, whole, rfl, named⟩
  · rintro ⟨rfl, name, whole, opening, named⟩
    obtain ⟨behind, start⟩ := List.head?_eq_some_iff.1 opening
    have wide : byteLength (name ++ ['(']) = byteLength (token.kind.name ++ ['(']) := by
      rw [byteLength_append, byteLength_append, ← byteLength_lower, sameIgnoringCase_iff.1 named,
        byteLength_lower]
    refine ⟨name ++ ['('], behind, ⟨?_, wide⟩, ⟨name, rfl, named⟩, name, token.params,
      ⟨whole, place named⟩, rfl⟩
    rw [whole, start, List.append_assoc]
    rfl

/-- A text is read as a layer in one way at most.

1. It starts with the opening of one kind at most, in letters of any case.
2. The kinds can be tried in any order.
3. It is read as a kind and parameters exactly if it is a name of the kind and the parameters, which
   start with a parenthesis.
4. The names of a kind are the texts without blanks at their ends that are read as the kind alone.
5. It makes no difference if the text is cut at places that are counted in bytes. -/
theorem ofText?_unambiguous (text : Text) :
    (∀ kind other : LayerKind, kind.Opens text → other.Opens text → kind = other) ∧
    (∀ kinds : List LayerKind, kinds.Perm LayerKind.all → ofKinds? kinds text = ofText? text) ∧
    (∀ kind params, ofText? text = some ⟨kind, params⟩ ↔
      ∃ name, text = name ++ params ∧ params.head? = some '(' ∧
        sameIgnoringCase name kind.name = true) ∧
    (∀ (kind : LayerKind) name, sameIgnoringCase name kind.name = true ↔
      LayerKind.parse name = .ok kind ∧ trim name = name) ∧
    ∀ kinds : List LayerKind, kinds.findSome? (fun kind => ofKindBytes? kind text) =
      ofKinds? kinds text := by
  refine ⟨fun kind other => LayerKind.eq_of_opens, fun kinds perm => Option.ext fun token => ?_,
    fun kind params => ?_, fun kind name => LayerKind.parse_eq_ok_iff.symm, fun kinds => ?_⟩
  · simp only [ofText?, ofKinds?_eq_some_iff, perm.mem_iff]
  · rw [ofText?, ofKinds?_eq_some_iff]
    constructor
    · rintro ⟨_, -, found⟩
      obtain ⟨rfl, read⟩ := ofKind?_eq_some_iff.1 found
      exact read
    · rintro ⟨name, whole, opening, named⟩
      exact ⟨kind, LayerKind.mem_all kind,
        ofKind?_eq_some_iff.2 ⟨rfl, name, whole, opening, named⟩⟩
  · simp only [ofKindBytes?_eq, ofKinds?]

/-- A name in letters of mixed case, with a second parenthesis and a longer character behind it, and
the kinds in the opposite order. -/
theorem ofText?_unambiguous_reversed :
    let text : Text := "dOt1AD((vlan=5) é".toList
    LayerKind.all.reverse.Perm LayerKind.all ∧ LayerKind.dot1ad.Opens text ∧
      ofKinds? LayerKind.all.reverse text = some ⟨.dot1ad, "((vlan=5) é".toList⟩ ∧
      LayerKind.parse "dOt1AD".toList = .ok .dot1ad := by
  intro text
  obtain ⟨-, anyOrder, read, named, -⟩ := ofText?_unambiguous text
  have perm : LayerKind.all.reverse.Perm LayerKind.all := List.reverse_perm _
  have name : sameIgnoringCase "dOt1AD".toList LayerKind.dot1ad.name = true := by decide
  refine ⟨perm, ⟨"dOt1AD(".toList, "(vlan=5) é".toList, by decide, by decide⟩, ?_,
    ((named _ _).1 name).1⟩
  rw [anyOrder _ perm, read]
  exact ⟨"dOt1AD".toList, by decide, by decide, name⟩

end LayerToken

end FrameText
