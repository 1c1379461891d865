import FrameText.Proofs.Parameters
import Mathlib.Control.Monad.Basic
import Mathlib.Data.List.Nodup

/-!
# Orderless — parameters count, not how they are written down

The parameters of a layer are set one after the other.  Still the layer depends only on which values
are given under which keys, if no key is given twice.

1. `effectiveKey` is the key that a parameter counts under, `content` what the parameters of a layer
   say.
2. `Orderless` states what this needs of the function that sets a single parameter, and
   `Orderless.assignAll_of_content` draws the conclusion for all of them.
3. `Gives.orderless` shows it of a layer whose parameters are accepted whatever was set before, by
   the values that are given last, and the `gives` theorems show that of every kind of layer but one.
4. `Layer.orderless_payload` shows it of a payload, which accepts one size only.
-/

namespace FrameText

/-! ## Keys -/

/-- The key that a parameter of a layer of this kind counts under.  Letter case does not matter, and
two keys have a second name. -/
def effectiveKey (kind : LayerKind) (key : Text) : Text :=
  let key := Text.lower key
  if key = "vid".toList then Key.vlan.name
  else if kind = .payload ∧ key = Key.len.name then Key.size.name
  else key

/-- The keys of the parameters that follow from the rest of the frame. -/
def derivedKeys : LayerKind → List Key
  | .ipv4 => [.ver, .ihl, .len, .fragoff, .cksum]
  | .ipv6 => [.vtc, .len]
  | .udp => [.len, .cksum]
  | .tcp => [.dataOff, .cksum, .urp]
  | .vxlan => [.flags]
  | _ => []

/-- What the parameters of a layer say: the values under the keys that they count under, but for
those that follow from the rest of the frame. -/
def content (kind : LayerKind) (pairs : List (Text × Text)) : List (Text × Text) :=
  (pairs.map fun pair => (effectiveKey kind pair.1, pair.2)).filter fun item =>
    item.1 ∉ (derivedKeys kind).map Key.name

/-- The key that a key of a layer of this kind counts as. -/
def Key.counted (kind : LayerKind) (key : Key) : Key :=
  if kind = .payload ∧ key = .len then .size else key

namespace Key

variable {kind : LayerKind} {key : Text} {known : Key}

theorem ofText?_lower (key : Text) : ofText? (Text.lower key) = ofText? key := by
  rw [ofText?, ofText?, Text.lower_lower]

/-- A key that is read is the one whose name it has in small letters, but for the second name. -/
theorem lower_of_ofText? (found : ofText? key = some known) :
    Text.lower key = "vid".toList ∧ known = .vlan ∨ Text.lower key = known.name := by
  unfold ofText? at found
  simp only at found
  split at found
  · rename_i second
    exact .inl ⟨second, (Option.some.inj found).symm⟩
  · have named := List.find?_some found
    exact .inr (by simpa using (beq_iff_eq.1 named).symm)

theorem name_injective {first second : Key} (same : first.name = second.name) : first = second := by
  have found := ofText?_name first
  rw [same, ofText?_name] at found
  exact (Option.some.inj found).symm

theorem name_ne_vid (key : Key) : key.name ≠ "vid".toList := by
  cases key <;> decide

end Key

section Effective

variable {kind : LayerKind} {key : Text} {known : Key}

/-- A key that is read counts under a name. -/
theorem effectiveKey_of_known (found : Key.ofText? key = some known) :
    effectiveKey kind key = (known.counted kind).name := by
  unfold effectiveKey
  simp only
  rcases Key.lower_of_ofText? found with ⟨second, rfl⟩ | named
  · rw [if_pos second, Key.counted, if_neg (by simp)]
  · rw [named, if_neg (Key.name_ne_vid known), Key.counted]
    by_cases sized : kind = .payload ∧ known = .len
    · obtain ⟨rfl, rfl⟩ := sized
      rfl
    · have other : ¬ (kind = .payload ∧ known.name = Key.len.name) := by
        rintro ⟨payload, same⟩
        exact sized ⟨payload, Key.name_injective same⟩
      rw [if_neg sized, if_neg other]

/-- A key that is not read counts as it is, in small letters. -/
theorem effectiveKey_of_unknown (unknown : Key.ofText? key = none) :
    effectiveKey kind key = Text.lower key := by
  have strange : ∀ known : Key, Text.lower key ≠ known.name := by
    intro known same
    rw [← Key.ofText?_lower, same, Key.ofText?_name] at unknown
    cases unknown
  have second : Text.lower key ≠ "vid".toList := by
    intro same
    rw [Key.ofText?, if_pos same] at unknown
    cases unknown
  unfold effectiveKey
  simp only
  rw [if_neg second, if_neg fun sized => strange _ sized.2]

/-- A key is read as what it counts as. -/
theorem ofText?_effectiveKey (kind : LayerKind) (key : Text) :
    Key.ofText? (effectiveKey kind key) = (Key.ofText? key).map (Key.counted kind) := by
  cases found : Key.ofText? key with
  | none => rw [effectiveKey_of_unknown found, Key.ofText?_lower, found, Option.map_none]
  | some known => rw [effectiveKey_of_known found, Key.ofText?_name, Option.map_some]

theorem effectiveKey_effectiveKey (kind : LayerKind) (key : Text) :
    effectiveKey kind (effectiveKey kind key) = effectiveKey kind key := by
  cases found : Key.ofText? key with
  | none =>
    have unknown : Key.ofText? (Text.lower key) = none := (Key.ofText?_lower key).trans found
    rw [effectiveKey_of_unknown found, effectiveKey_of_unknown unknown, Text.lower_lower]
  | some known =>
    have twice : (known.counted kind).counted kind = known.counted kind := by
      unfold Key.counted
      by_cases sized : kind = .payload ∧ known = .len
      · rw [if_pos sized, if_neg (by simp)]
      · rw [if_neg sized, if_neg sized]
    rw [effectiveKey_of_known found, effectiveKey_of_known (Key.ofText?_name _), twice]

/-- Outside a payload every key counts as itself. -/
theorem counted_of_header (header : kind ≠ .payload) (known : Key) : known.counted kind = known :=
  if_neg fun sized => header sized.1

/-- What one parameter more in front says. -/
theorem content_cons (kind : LayerKind) (pair : Text × Text) (rest : List (Text × Text)) :
    content kind (pair :: rest) =
      if effectiveKey kind pair.1 ∈ (derivedKeys kind).map Key.name then content kind rest
      else (effectiveKey kind pair.1, pair.2) :: content kind rest := by
  unfold content
  rw [List.map_cons, List.filter_cons]
  by_cases derived : effectiveKey kind pair.1 ∈ (derivedKeys kind).map Key.name
  · simp only [derived, not_true, decide_false, Bool.false_eq_true, if_false, if_true]
  · simp only [derived, not_false_eq_true, decide_true, if_false, if_true]

end Effective

/-! ## All parameters -/

/-- Whether the parameters of a layer of this kind may be set in any order: `assign` tells keys
apart as they count, leaves alone what follows from the rest of the frame, and sets two parameters
in both orders with the same result. -/
structure Orderless {σ : Type} (kind : LayerKind)
    (assign : σ → Text → Text → Except Error σ) : Prop where
  spelled : ∀ layer key value,
    (assign layer (effectiveKey kind key) value).toOption = (assign layer key value).toOption
  derived : ∀ layer {key known} value, Key.ofText? key = some known →
    known ∈ derivedKeys kind → (assign layer key value).toOption = some layer
  swapped : ∀ layer {key other} value given, effectiveKey kind key ≠ effectiveKey kind other →
    ((assign layer key value).toOption.bind fun changed =>
        (assign changed other given).toOption) =
      (assign layer other given).toOption.bind fun changed => (assign changed key value).toOption

theorem toOption_bind {ε α β : Type} (x : Except ε α) (f : α → Except ε β) :
    (x >>= f).toOption = x.toOption.bind fun a => (f a).toOption := by
  cases x <;> rfl

namespace Orderless

variable {σ : Type} {kind : LayerKind} {assign : σ → Text → Text → Except Error σ}
  {pairs others items : List (Text × Text)}

/-- Setting parameters is setting what they say. -/
theorem toOption_foldlM (orderless : Orderless kind assign) (pairs : List (Text × Text))
    (layer : σ) :
    (pairs.foldlM (fun layer pair => assign layer pair.1 pair.2) layer).toOption =
      (content kind pairs).foldlM (fun layer item => (assign layer item.1 item.2).toOption)
        layer := by
  induction pairs generalizing layer with
  | nil => rfl
  | cons pair rest ih =>
    have behind : ((pair :: rest).foldlM (fun layer pair => assign layer pair.1 pair.2)
          layer).toOption =
        (assign layer pair.1 pair.2).toOption.bind fun changed =>
          (content kind rest).foldlM (fun layer item => (assign layer item.1 item.2).toOption)
            changed := by
      rw [List.foldlM_cons, toOption_bind]
      simp only [ih]
    rw [behind]
    by_cases derived : effectiveKey kind pair.1 ∈ (derivedKeys kind).map Key.name
    · -- A key that counts under the name of a derived key is that key.
      obtain ⟨known, member, named⟩ := List.mem_map.1 derived
      have read : (Key.ofText? pair.1).map (Key.counted kind) = some known := by
        rw [← ofText?_effectiveKey, ← named, Key.ofText?_name]
      obtain ⟨key, found, counted⟩ := Option.map_eq_some_iff.1 read
      have header : kind ≠ .payload := by
        rintro rfl
        cases member
      rw [counted_of_header header] at counted
      rw [orderless.derived layer pair.2 (counted ▸ found) member, content_cons, if_pos derived]
      rfl
    · rw [content_cons, if_neg derived, List.foldlM_cons, orderless.spelled]
      rfl

/-- What is said under different keys can be said in any order. -/
theorem foldlM_of_perm (orderless : Orderless kind assign) (perm : items.Perm others)
    (distinct : (items.map fun item => effectiveKey kind item.1).Nodup) (layer : σ) :
    items.foldlM (fun layer item => (assign layer item.1 item.2).toOption) layer =
      others.foldlM (fun layer item => (assign layer item.1 item.2).toOption) layer := by
  induction perm generalizing layer with
  | nil => rfl
  | cons item _ ih =>
    rw [List.map_cons, List.nodup_cons] at distinct
    rw [List.foldlM_cons, List.foldlM_cons]
    exact congrArg _ (funext fun changed => ih distinct.2 changed)
  | swap first second rest =>
    have different : effectiveKey kind second.1 ≠ effectiveKey kind first.1 := by
      intro same
      simp [same] at distinct
    simp only [List.foldlM_cons, Option.bind_eq_bind, ← Option.bind_assoc]
    rw [orderless.swapped layer second.2 first.2 different]
  | trans front _ ih ih' =>
    exact (ih distinct layer).trans
      (ih' ((front.map _).nodup_iff.1 distinct) layer)

/-- Parameters that say the same make the same layer, or none. -/
theorem assignAll_of_content (orderless : Orderless kind assign) (defaults : σ)
    {params again : Text} (split : assignments params = .ok pairs)
    (splitAgain : assignments again = .ok others)
    (once : ((content kind pairs).map Prod.fst).Nodup)
    (onceAgain : ((content kind others).map Prod.fst).Nodup)
    (same : ∀ item, item ∈ content kind pairs ↔ item ∈ content kind others) :
    (Layer.assignAll assign defaults params).toOption =
      (Layer.assignAll assign defaults again).toOption := by
  have perm : (content kind pairs).Perm (content kind others) :=
    (List.perm_ext_iff_of_nodup once.of_map onceAgain.of_map).2 same
  -- The keys of the contents count under themselves.
  have effective : (content kind pairs).map (fun item => effectiveKey kind item.1) =
      (content kind pairs).map Prod.fst := by
    refine List.map_congr_left fun item member => ?_
    obtain ⟨pair, -, rfl⟩ := List.mem_map.1 (List.mem_filter.1 member).1
    exact effectiveKey_effectiveKey kind pair.1
  rw [Layer.assignAll, Layer.assignAll, split, splitAgain]
  calc
    (pairs.foldlM (fun layer pair => assign layer pair.1 pair.2) defaults).toOption
      = (content kind pairs).foldlM (fun layer item => (assign layer item.1 item.2).toOption)
          defaults := orderless.toOption_foldlM pairs defaults
    _ = (content kind others).foldlM (fun layer item => (assign layer item.1 item.2).toOption)
          defaults := orderless.foldlM_of_perm perm (effective ▸ once) defaults
    _ = (others.foldlM (fun layer pair => assign layer pair.1 pair.2) defaults).toOption :=
        (orderless.toOption_foldlM others defaults).symm

end Orderless

/-! ## Values that are given last -/

/-- Whether the key matters for the errors of a reading only. -/
def KeyBlind {α : Type} (read : Reading α) : Prop :=
  ∀ key other value, (read key value).toOption = (read other value).toOption

/-- Whether the same values are given last, as far as they do not follow from the rest of the
frame. -/
def SameLast (kind : LayerKind) (pairs others : List (Text × Text)) : Prop :=
  ∀ {α : Type} (key : Key) (read : Reading α), key ∉ derivedKeys kind → KeyBlind read →
    lastGiven key read pairs = lastGiven key read others

/-- Whether `assign` accepts the same parameters in every state, ignores those that follow from the
rest of the frame, and leads to what `given` makes of the values that are given last. -/
structure Gives {σ : Type} (kind : LayerKind) (assign : σ → Text → Text → Except Error σ)
    (given : List (Text × Text) → σ → σ) : Prop where
  accepted : ∀ layer again {key other} value, Key.ofText? key = Key.ofText? other →
    (assign layer key value).toOption.isSome = (assign again other value).toOption.isSome
  derived : ∀ layer {key known} value, Key.ofText? key = some known →
    known ∈ derivedKeys kind → assign layer key value = .ok layer
  settled : ∀ {layer key value changed}, assign layer key value = .ok changed →
    given [] changed = changed
  cons : ∀ {layer key value changed} rest, assign layer key value = .ok changed →
    given ((key, value) :: rest) layer = given rest changed
  congr : ∀ {pairs others} layer, SameLast kind pairs others →
    given pairs layer = given others layer

theorem sameLast_of_read {kind : LayerKind} {key other : Text} (value : Text)
    (same : Key.ofText? key = Key.ofText? other) :
    SameLast kind [(key, value)] [(other, value)] := by
  intro α known read _ blind
  simp only [lastGiven, same, blind key other]

theorem sameLast_swap {kind : LayerKind} {key other : Text} (value given : Text)
    (different : ∀ known, Key.ofText? key = some known → Key.ofText? other ≠ some known) :
    SameLast kind [(key, value), (other, given)] [(other, given), (key, value)] := by
  intro α known read _ _
  simp only [lastGiven, Option.none_or]
  by_cases first : Key.ofText? key = some known
  · rw [if_pos first, if_neg (different known first), Option.none_or, Option.or_none]
  · rw [if_neg first, Option.none_or, Option.or_none]

namespace Gives

variable {σ : Type} {kind : LayerKind} {assign : σ → Text → Text → Except Error σ}
  {given : List (Text × Text) → σ → σ} {layer changed : σ} {key value : Text}

/-- A parameter that is set is the value that is given. -/
theorem result (gives : Gives kind assign given) (set : assign layer key value = .ok changed) :
    changed = given [(key, value)] layer :=
  (gives.settled set).symm.trans (gives.cons [] set).symm

/-- A parameter that is refused is refused in every state. -/
theorem refused {e : Error} (gives : Gives kind assign given)
    (fails : assign layer key value = .error e) (again : σ) :
    (assign again key value).toOption = none := by
  have accepted := gives.accepted again layer value (rfl : Key.ofText? key = Key.ofText? key)
  rw [fails] at accepted
  exact Option.not_isSome_iff_eq_none.1 (accepted ▸ Bool.false_ne_true)

/-- A parameter that is accepted is accepted in every state. -/
theorem exists_changed (gives : Gives kind assign given)
    (set : assign layer key value = .ok changed) (again : σ) :
    ∃ final, assign again key value = .ok final := by
  have accepted := gives.accepted again layer value (rfl : Key.ofText? key = Key.ofText? key)
  rw [set] at accepted
  cases answer : assign again key value with
  | error e =>
    rw [answer] at accepted
    cases accepted
  | ok final => exact ⟨final, rfl⟩

/-- Parameters whose effect is told by the values that are given last may be set in any order. -/
theorem orderless (gives : Gives kind assign given) (header : kind ≠ .payload) :
    Orderless kind assign where
  spelled layer key value := by
    have same : Key.ofText? (effectiveKey kind key) = Key.ofText? key := by
      rw [ofText?_effectiveKey, funext (counted_of_header header)]
      exact Option.map_id'
    have accepted := gives.accepted layer layer value same
    cases first : assign layer (effectiveKey kind key) value with
    | error e =>
      rw [first] at accepted
      exact (Option.not_isSome_iff_eq_none.1 (accepted ▸ Bool.false_ne_true)).symm
    | ok changed =>
      cases second : assign layer key value with
      | error e =>
        rw [first, second] at accepted
        cases accepted
      | ok again =>
        have equal : changed = again := by
          rw [gives.result first, gives.result second]
          exact gives.congr layer (sameLast_of_read value same)
        rw [equal]
  derived layer key known value found member := by
    rw [gives.derived layer value found member]
    rfl
  swapped layer key other value late different := by
    have unlike : ∀ known, Key.ofText? key = some known → Key.ofText? other ≠ some known := by
      intro known first second
      exact different ((effectiveKey_of_known first).trans (effectiveKey_of_known second).symm)
    cases first : assign layer key value with
    | error e =>
      cases second : assign layer other late with
      | error e => rfl
      | ok changed => exact (gives.refused first changed).symm
    | ok changed =>
      cases second : assign layer other late with
      | error e => exact gives.refused second changed
      | ok again =>
        obtain ⟨final, set⟩ := gives.exists_changed second changed
        obtain ⟨final', set'⟩ := gives.exists_changed first again
        have equal : final = final' := by
          calc
            final = given [(other, late)] changed := gives.result set
            _ = given [(key, value), (other, late)] layer := (gives.cons _ first).symm
            _ = given [(other, late), (key, value)] layer :=
              gives.congr layer (sameLast_swap value late unlike)
            _ = given [(key, value)] again := gives.cons _ second
            _ = final' := (gives.result set').symm
        simp only [Except.toOption, Option.bind_some, set, set', equal]

end Gives

/-! ## Readings -/

section Readings

variable {α β σ : Type}

theorem toOption_map (x : Except Error α) (f : α → β) :
    (x.map f).toOption = x.toOption.map f := by
  cases x <;> rfl

/-- A parameter is accepted where its value can be read. -/
theorem isSome_read (x : Except Error α) (f : α → σ) :
    (x >>= fun a => pure (f a)).toOption.isSome = x.toOption.isSome := by
  cases x <;> rfl

theorem keyBlind_number (bound : Nat) : KeyBlind (number bound) := by
  intro key other value
  unfold number
  simp only
  split
  · rfl
  · split <;> rfl

/-- What is made of a value depends on the key no more than the value does. -/
theorem KeyBlind.map {read : Reading α} (blind : KeyBlind read) (f : α → β) :
    KeyBlind fun key value => (read key value).map f := by
  intro key other value
  rw [toOption_map, toOption_map, blind key other]

theorem keyBlind_uint8 : KeyBlind uint8 := (keyBlind_number _).map _

theorem keyBlind_uint16 : KeyBlind uint16 := (keyBlind_number _).map _

theorem keyBlind_uint32 : KeyBlind uint32 := (keyBlind_number _).map _

theorem keyBlind_uint64 : KeyBlind uint64 := (keyBlind_number _).map _

theorem keyBlind_address (read? : Text → Option α) : KeyBlind (address read?) := by
  intro key other value
  unfold address
  split <;> rfl

theorem keyBlind_mac : KeyBlind macValue := fun _ _ _ => rfl

theorem keyBlind_protocol : KeyBlind protocolValue := fun _ _ _ => rfl

end Readings

/-! ## The kinds of layer -/

namespace Layer

theorem gives_ether : Gives .ether assignEther givenEther where
  accepted layer again key other value same := by
    unfold assignEther
    rw [same]
    cases Key.ofText? other with
    | none => rfl
    | some known =>
      cases known with
      | dst | src => simp only [isSome_read]
      | _ => rfl
  derived layer key known value found member := by cases member
  settled _ := rfl
  cons rest set := givenEther_cons set
  congr layer same := by
    simp only [givenEther, same .dst macValue (by decide) keyBlind_mac,
      same .src macValue (by decide) keyBlind_mac]

/-- A bit as a value, of which the lowest digit counts. -/
def bitValue : Reading Bool := fun key value =>
  (uint8 key value).map fun number => number.toNat % 2 == 1

theorem keyBlind_bit : KeyBlind bitValue := keyBlind_uint8.map _

/-- A VLAN tag with the parameters that are given. -/
def givenTag (pairs : List (Text × Text)) (header : VlanHeader) : VlanHeader :=
  .ofFields ((lastGiven .vlan uint16 pairs).getD header.vlanId)
    ((lastGiven .prio uint8 pairs).getD header.priority)
    ((lastGiven .cfi bitValue pairs).getD header.dropEligible)

/-- Fields that were cut to their widths are not cut any further. -/
theorem givenTag_ofFields (pairs : List (Text × Text)) (vlanId : UInt16) (priority : UInt8)
    (dropEligible : Bool) :
    givenTag pairs (.ofFields vlanId priority dropEligible) =
      .ofFields ((lastGiven .vlan uint16 pairs).getD vlanId)
        ((lastGiven .prio uint8 pairs).getD priority)
        ((lastGiven .cfi bitValue pairs).getD dropEligible) := by
  have prio : ∀ given : Option UInt8,
      (given.getD (UInt8.ofNat (priority.toNat % 8))).toNat % 8 =
        (given.getD priority).toNat % 8 := by
    intro given
    cases given <;> simp
  have vlan : ∀ given : Option UInt16,
      (given.getD (UInt16.ofNat (vlanId.toNat % 4096))).toNat % 4096 =
        (given.getD vlanId).toNat % 4096 := by
    intro given
    cases given <;> simp
  simp only [givenTag, VlanHeader.ofFields, prio, vlan]

theorem gives_vlan (tag : VlanTag) : Gives tag.kind (assignVlan tag) givenTag where
  accepted layer again key other value same := by
    unfold assignVlan
    rw [same]
    cases Key.ofText? other with
    | none => rfl
    | some known =>
      cases known with
      | vlan => simp only [isSome_read, keyBlind_uint16 key other]
      | prio | cfi => simp only [isSome_read, keyBlind_uint8 key other]
      | _ => rfl
  derived layer key known value found member := by cases tag <;> cases member
  settled {layer key value changed} set := by
    unfold assignVlan at set
    cases found : Key.ofText? key with
    | none =>
      rw [found] at set
      cases set
    | some known =>
      rw [found] at set
      cases known with
      | vlan | prio | cfi =>
        obtain ⟨a, -, done⟩ := bind_eq_ok.1 set
        cases done
        exact givenTag_ofFields [] _ _ _
      | _ => cases set
  cons {layer key value changed} rest set := by
    unfold assignVlan at set
    cases found : Key.ofText? key with
    | none =>
      rw [found] at set
      cases set
    | some known =>
      rw [found] at set
      cases known with
      | vlan | prio | cfi =>
        obtain ⟨a, reads, done⟩ := bind_eq_ok.1 set
        cases done
        rw [givenTag_ofFields]
        simp [givenTag, getD_lastGiven_cons, found, bitValue, reads, Except.toOption, Except.map]
      | _ => cases set
  congr layer same := by
    cases tag <;>
      simp only [givenTag, same .vlan uint16 (by decide) keyBlind_uint16,
        same .prio uint8 (by decide) keyBlind_uint8, same .cfi bitValue (by decide) keyBlind_bit]

theorem gives_ipv4 : Gives .ipv4 assignIPv4 givenIPv4 where
  accepted layer again key other value same := by
    simp only [assignIPv4, same]
    cases Key.ofText? other with
    | none => rfl
    | some known =>
      cases known with
      | dst | src => simp only [isSome_read, keyBlind_address _ key other]
      | tos | ttl => simp only [isSome_read, keyBlind_uint8 key other]
      | id => simp only [isSome_read, keyBlind_uint16 key other]
      | proto => simp only [isSome_read]
      | _ => rfl
  derived layer key known value found member := by
    simp only [derivedKeys, List.mem_cons, List.not_mem_nil, or_false] at member
    simp only [assignIPv4, found]
    rcases member with rfl | rfl | rfl | rfl | rfl <;> rfl
  settled _ := rfl
  cons rest set := givenIPv4_cons set
  congr layer same := by
    simp only [givenIPv4, same .tos uint8 (by decide) keyBlind_uint8,
      same .ttl uint8 (by decide) keyBlind_uint8, same .id uint16 (by decide) keyBlind_uint16,
      same .src (address IPv4Address.ofText?) (by decide) (keyBlind_address _),
      same .dst (address IPv4Address.ofText?) (by decide) (keyBlind_address _),
      same .proto protocolValue (by decide) keyBlind_protocol]

theorem gives_ipv6 : Gives .ipv6 assignIPv6 givenIPv6 where
  accepted layer again key other value same := by
    simp only [assignIPv6, same]
    cases Key.ofText? other with
    | none => rfl
    | some known =>
      cases known with
      | dst | src => simp only [isSome_read, keyBlind_address _ key other]
      | hops => simp only [isSome_read, keyBlind_uint8 key other]
      | proto => simp only [isSome_read]
      | _ => rfl
  derived layer key known value found member := by
    simp only [derivedKeys, List.mem_cons, List.not_mem_nil, or_false] at member
    simp only [assignIPv6, found]
    rcases member with rfl | rfl <;> rfl
  settled _ := rfl
  cons rest set := givenIPv6_cons set
  congr layer same := by
    simp only [givenIPv6, same .hops uint8 (by decide) keyBlind_uint8,
      same .src (address IPv6Address.ofText?) (by decide) (keyBlind_address _),
      same .dst (address IPv6Address.ofText?) (by decide) (keyBlind_address _),
      same .proto protocolValue (by decide) keyBlind_protocol]

theorem gives_udp : Gives .udp assignUdp givenUdp where
  accepted layer again key other value same := by
    unfold assignUdp
    rw [same]
    cases Key.ofText? other with
    | none => rfl
    | some known =>
      cases known with
      | sport | dport => simp only [isSome_read, keyBlind_uint16 key other]
      | _ => rfl
  derived layer key known value found member := by
    simp only [derivedKeys, List.mem_cons, List.not_mem_nil, or_false] at member
    simp only [assignUdp, found]
    rcases member with rfl | rfl <;> rfl
  settled _ := rfl
  cons rest set := givenUdp_cons set
  congr layer same := by
    simp only [givenUdp, same .sport uint16 (by decide) keyBlind_uint16,
      same .dport uint16 (by decide) keyBlind_uint16]

theorem gives_tcp : Gives .tcp assignTcp givenTcp where
  accepted layer again key other value same := by
    unfold assignTcp
    rw [same]
    cases Key.ofText? other with
    | none => rfl
    | some known =>
      cases known with
      | dport | sport | win => simp only [isSome_read, keyBlind_uint16 key other]
      | seq | ack => simp only [isSome_read, keyBlind_uint32 key other]
      | flags => simp only [isSome_read, keyBlind_uint8 key other]
      | _ => rfl
  derived layer key known value found member := by
    simp only [derivedKeys, List.mem_cons, List.not_mem_nil, or_false] at member
    simp only [assignTcp, found]
    rcases member with rfl | rfl | rfl <;> rfl
  settled _ := rfl
  cons rest set := givenTcp_cons set
  congr layer same := by
    simp only [givenTcp, same .sport uint16 (by decide) keyBlind_uint16,
      same .dport uint16 (by decide) keyBlind_uint16, same .seq uint32 (by decide) keyBlind_uint32,
      same .ack uint32 (by decide) keyBlind_uint32, same .flags uint8 (by decide) keyBlind_uint8,
      same .win uint16 (by decide) keyBlind_uint16]

theorem gives_vxlan : Gives .vxlan assignVxlan givenVxlan where
  accepted layer again key other value same := by
    unfold assignVxlan
    rw [same]
    cases Key.ofText? other with
    | none => rfl
    | some known =>
      cases known with
      | vni => simp only [isSome_read, keyBlind_uint32 key other]
      | _ => rfl
  derived layer key known value found member := by
    simp only [derivedKeys, List.mem_cons, List.not_mem_nil, or_false] at member
    simp only [assignVxlan, found]
    rcases member with rfl
    rfl
  settled _ := rfl
  cons rest set := givenVxlan_cons set
  congr layer same := by
    simp only [givenVxlan, same .vni uint32 (by decide) keyBlind_uint32]

theorem gives_tsc : Gives .tsc assignTsc givenTsc where
  accepted layer again key other value same := by
    unfold assignTsc
    rw [same]
    cases Key.ofText? other with
    | none => rfl
    | some known =>
      cases known with
      | val => simp only [isSome_read, keyBlind_uint64 key other]
      | _ => rfl
  derived layer key known value found member := by cases member
  settled _ := rfl
  cons rest set := givenTsc_cons set
  congr layer same := by
    simp only [givenTsc, same .val uint64 (by decide) keyBlind_uint64]

/-- The echo service accepts no parameter. -/
theorem gives_echo : Gives .echo assignEcho fun _ layer => layer where
  accepted _ _ _ _ _ _ := rfl
  derived layer key known value found member := by cases member
  settled _ := rfl
  cons rest set := by cases set
  congr _ _ := rfl

/-! ### Payloads -/

/-- What a parameter of a payload asks for: a size or a fill byte. -/
def wish? (key : Option Key) (value : Text) : Option (PayloadSize ⊕ UInt8) :=
  match key with
  | some .size | some .len =>
    (number Limits.wordBound [] value).toOption.map fun length => .inl (.wire length)
  | some .append =>
    (number Limits.wordBound [] value).toOption.map fun length => .inl (.append length)
  | some .fill => (uint8 [] value).toOption.map .inr
  | _ => none

/-- A payload takes a size if it has none, and any fill byte. -/
def grant (layer : PayloadSize × UInt8) : PayloadSize ⊕ UInt8 → Option (PayloadSize × UInt8)
  | .inl size => if layer.1 = .unchanged then some (size, layer.2) else none
  | .inr byte => some (layer.1, byte)

theorem toOption_assignPayload (layer : PayloadSize × UInt8) (key value : Text) :
    (assignPayload layer key value).toOption =
      (wish? (Key.ofText? key) value).bind (grant layer) := by
  -- Where a payload has a size already, the number is not read.
  have sized : ∀ form : Nat → PayloadSize,
      (if layer.1 = .unchanged then
          number Limits.wordBound key value >>= fun length => pure (form length, layer.2)
        else throw (Error.parse .payloadSizedTwice)).toOption =
        ((number Limits.wordBound [] value).toOption.map fun length =>
          (.inl (form length) : PayloadSize ⊕ UInt8)).bind (grant layer) := by
    intro form
    rw [← keyBlind_number Limits.wordBound key [] value]
    cases number Limits.wordBound key value with
    | error e => split <;> rfl
    | ok length =>
      show _ = if layer.1 = .unchanged then some (form length, layer.2) else none
      split <;> rfl
  simp only [assignPayload]
  cases Key.ofText? key with
  | none => rfl
  | some known =>
    cases known with
    | size | len => exact sized .wire
    | append => exact sized .append
    | fill =>
      simp only [wish?]
      rw [← keyBlind_uint8 key [] value]
      cases uint8 key value <;> rfl
    | _ => rfl

/-- A size that is asked for is one. -/
theorem ne_unchanged_of_wish {key : Option Key} {value : Text} {size : PayloadSize}
    (wish : wish? key value = some (.inl size)) : size ≠ .unchanged := by
  rintro rfl
  unfold wish? at wish
  split at wish <;> simp at wish

theorem eq_fill_of_wish {key : Option Key} {value : Text} {byte : UInt8}
    (wish : wish? key value = some (.inr byte)) : key = some .fill := by
  cases key with
  | none => cases wish
  | some known =>
    cases known with
    | fill => rfl
    | size | len | append => simp [wish?] at wish
    | _ => cases wish

/-- The parameters of a payload may be set in any order: a second size is refused in any case, and
the fill byte has nothing to do with the size. -/
theorem orderless_payload : Orderless .payload assignPayload where
  spelled layer key value := by
    rw [toOption_assignPayload, toOption_assignPayload, ofText?_effectiveKey]
    cases Key.ofText? key with
    | none => rfl
    | some known => cases known <;> rfl
  derived layer key known value found member := by cases member
  swapped layer key other value late different := by
    simp only [toOption_assignPayload]
    cases first : wish? (Key.ofText? key) value with
    | none => simp
    | some wish =>
      cases second : wish? (Key.ofText? other) late with
      | none => simp
      | some wish' =>
        simp only [Option.bind_some]
        cases wish with
        | inl size =>
          have given := ne_unchanged_of_wish first
          cases wish' with
          | inl size' =>
            have given' := ne_unchanged_of_wish second
            by_cases unsized : layer.1 = .unchanged <;> simp [grant, unsized, given, given']
          | inr byte' => by_cases unsized : layer.1 = .unchanged <;> simp [grant, unsized]
        | inr byte =>
          cases wish' with
          | inl size' => by_cases unsized : layer.1 = .unchanged <;> simp [grant, unsized]
          | inr byte' =>
            have fill := eq_fill_of_wish first
            have fill' := eq_fill_of_wish second
            exact absurd ((effectiveKey_of_known fill).trans (effectiveKey_of_known fill').symm)
              different

end Layer

end FrameText
