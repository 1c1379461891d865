import FrameText.Address.Mac
import FrameText.IpProtocol
import FrameText.Proofs.HeaderCodec
import FrameText.Proofs.Numerals

/-!
# Addresses — printed addresses are read back

For hardware addresses, Internet addresses and protocols: what is printed is a word, is not long,
and is read as what it was printed from.

The zero groups of an IPv6 address that `::` stands for are found again by their number
(`eq_of_longestZeroRun`), and the first `::` of the text is the one that was printed (`cut?_join`).
-/

namespace FrameText

open Text

/-- Joined texts are as long as their number and the longest of them allow. -/
theorem Text.length_join_le {mark : Char} {parts : List Text} {longest : Nat}
    (bounded : ∀ part ∈ parts, part.length ≤ longest) :
    (join [mark] parts).length ≤ parts.length * (longest + 1) := by
  induction parts with
  | nil => exact Nat.zero_le _
  | cons part rest ih =>
    have first := bounded part List.mem_cons_self
    have later := ih (fun part member => bounded part (List.mem_cons_of_mem _ member))
    rw [List.length_cons, Nat.succ_mul]
    cases rest with
    | nil =>
      rw [join, List.intercalate_singleton]
      omega
    | cons next others =>
      rw [join, List.intercalate_cons_cons, List.length_append, List.length_append,
        List.length_singleton]
      rw [join] at later
      omega

/-! ## Hardware addresses -/

namespace MacAddress

/-- Printed octets, one after the other. -/
theorem octets_printed : ∀ n < 256,
    IsWord (hexUpper 2 n) ∧ (hexUpper 2 n).length = 2 ∧ byteLength (hexUpper 2 n) = 2 ∧
      unsignedBelow? 16 256 (hexUpper 2 n) = some n ∧
      (hexUpper 2 n).all (fun c => !isSeparator c) = true := by
  decide +kernel

theorem octet?_hexUpper (b : UInt8) : octet? (hexUpper 2 b.toNat) = .ok b := by
  rcases octets_printed b.toNat b.toNat_lt with ⟨word, -, length, value, -⟩
  have shape : ¬ (hexUpper 2 b.toNat = [] ∨ 2 < byteLength (hexUpper 2 b.toNat)) := by
    rintro (empty | long)
    · exact word.1 empty
    · omega
  rw [octet?, if_neg shape, value]
  exact congrArg Except.ok UInt8.ofNat_toNat

theorem isWord_print (mac : MacAddress) : IsWord mac.print := by
  refine IsWord.join (List.cons_ne_nil _ _) (by decide) ?_
  intro part member
  rcases List.mem_map.1 member with ⟨b, -, rfl⟩
  exact (octets_printed b.toNat b.toNat_lt).1

theorem length_print_le (mac : MacAddress) : mac.print.length ≤ 18 := by
  refine @length_join_le ':' _ 2 ?_
  intro part member
  rcases List.mem_map.1 member with ⟨b, -, rfl⟩
  exact Nat.le_of_eq (octets_printed b.toNat b.toNat_lt).2.1

theorem parse_print (mac : MacAddress) : parse mac.print = .ok mac := by
  have parts : mac.print.splitOnP isSeparator =
      mac.octets.map fun b => hexUpper 2 b.toNat := by
    refine splitOnP_join (by decide) (List.cons_ne_nil _ _) ?_
    intro part member
    rcases List.mem_map.1 member with ⟨b, -, rfl⟩
    rcases octets_printed b.toNat b.toNat_lt with ⟨-, -, -, -, solid⟩
    intro c inside
    simpa using List.all_eq_true.1 solid c inside
  rw [parse, mac.isWord_print.trim, parts]
  simp only [octets, List.map_cons, List.map_nil, ofParts, octet?_hexUpper]
  rfl

end MacAddress

/-! ## IPv4 addresses -/

namespace IPv4Address

/-- Printed octets, one after the other. -/
theorem octets_printed : ∀ n < 256,
    (decimal n).length ≤ 3 ∧ octet? (decimal n) = some (UInt8.ofNat n) := by
  decide +kernel

theorem isWord_print (ip : IPv4Address) : IsWord ip.print := by
  refine IsWord.join (List.cons_ne_nil _ _) (by decide) ?_
  intro part member
  rcases List.mem_map.1 member with ⟨b, -, rfl⟩
  exact isWord_decimal b.toNat

theorem length_print_le (ip : IPv4Address) : ip.print.length ≤ 16 := by
  refine @length_join_le '.' _ 3 ?_
  intro part member
  rcases List.mem_map.1 member with ⟨b, -, rfl⟩
  exact (octets_printed b.toNat b.toNat_lt).1

/-- No colon stands in a printed address. -/
theorem colon_not_mem_print (ip : IPv4Address) : ':' ∉ ip.print := by
  intro member
  rcases mem_join member with point | ⟨part, inside, here⟩
  · exact absurd (List.mem_singleton.1 point) (by decide)
  · rcases List.mem_map.1 inside with ⟨b, -, rfl⟩
    exact ((spells_decimal b.toNat).not_mem (by decide)).2.2.2.1 here

theorem ofText?_print (ip : IPv4Address) : ofText? ip.print = some ip := by
  have parts : ip.print.splitOn '.' = ip.octets.map fun b => decimal b.toNat := by
    refine List.splitOn_intercalate '.' ?_ (List.cons_ne_nil _ _)
    intro part member
    rcases List.mem_map.1 member with ⟨b, -, rfl⟩
    exact ((spells_decimal b.toNat).not_mem (by decide)).2.2.2.2
  have octet : ∀ b : UInt8, octet? (decimal b.toNat) = some b := by
    intro b
    rw [(octets_printed b.toNat b.toNat_lt).2, UInt8.ofNat_toNat]
  rw [ofText?, parts]
  simp only [octets, List.map_cons, List.map_nil, octet]
  rfl

end IPv4Address

/-! ## IPv6 addresses -/

namespace IPv6Address

/-! ### Finding the double colon -/

theorem cut?_append {s : Text} (solid : ':' ∉ s) (t : Text) :
    cut? [':', ':'] (s ++ t) = (cut? [':', ':'] t).map fun parts => (s ++ parts.1, parts.2) := by
  induction s with
  | nil =>
    rw [List.nil_append]
    cases cut? [':', ':'] t <;> rfl
  | cons c s ih =>
    have other : ¬ ':' = c := fun same => solid (by rw [same]; exact List.mem_cons_self)
    have later := ih (fun member => solid (List.mem_cons_of_mem _ member))
    rw [List.cons_append, cut?, stripStart?, if_neg other, later, Option.map_map]
    rfl

theorem cut?_colon {c : Char} (other : c ≠ ':') (t : Text) :
    cut? [':', ':'] (':' :: c :: t) =
      (cut? [':', ':'] (c :: t)).map fun parts => (':' :: parts.1, parts.2) := by
  rw [cut?, stripStart?, if_pos rfl, stripStart?, if_neg (Ne.symm other)]

/-- Joined texts have no double colon, so that the first one stands behind them. -/
theorem cut?_join {parts : List Text} (solid : ∀ part ∈ parts, part ≠ [] ∧ ':' ∉ part) (t : Text) :
    cut? [':', ':'] (join [':'] parts ++ t) =
      (cut? [':', ':'] t).map fun found => (join [':'] parts ++ found.1, found.2) := by
  induction parts with
  | nil =>
    show cut? [':', ':'] t = _
    cases cut? [':', ':'] t <;> rfl
  | cons part rest ih =>
    have first := (solid part List.mem_cons_self).2
    have later := ih (fun part member => solid part (List.mem_cons_of_mem _ member))
    cases rest with
    | nil =>
      rw [join, List.intercalate_singleton]
      exact cut?_append first t
    | cons next others =>
      rcases solid next (List.mem_cons_of_mem _ List.mem_cons_self) with ⟨nonempty, noColon⟩
      -- Behind a single colon stands a text that does not start with another one.
      obtain ⟨c, s, opens⟩ : ∃ c s, join [':'] (next :: others) = c :: s ∧ c ≠ ':' := by
        cases next with
        | nil => exact absurd rfl nonempty
        | cons c s =>
          refine ⟨c, s ++ (join [':'] ([] :: others)), ?_, ?_⟩
          · cases others with
            | nil => simp [join]
            | cons more others => simp [join, List.intercalate_cons_cons]
          · intro same
            exact noColon (by rw [same]; exact List.mem_cons_self)
      rcases opens with ⟨shape, other⟩
      have whole : join [':'] (part :: next :: others) =
          part ++ ':' :: join [':'] (next :: others) := by
        rw [join, join, List.intercalate_cons_cons, List.append_assoc]
        rfl
      rw [whole, List.append_assoc, cut?_append first, List.cons_append, shape, List.cons_append,
        cut?_colon other, ← List.cons_append, ← shape, later]
      cases cut? [':', ':'] t with
      | none => rfl
      | some found => simp only [Option.map_some, List.append_assoc, List.cons_append]

/-! ### Groups -/

theorem length_group_le (g : UInt16) : (hex 1 g.toNat).length ≤ 4 :=
  length_hex_le (by decide) g.toNat_lt (by decide)

theorem group?_hex (g : UInt16) : group? (hex 1 g.toNat) = some g := by
  have short : ¬ 4 < (hex 1 g.toNat).length := Nat.not_lt_of_le (length_group_le g)
  rw [group?, if_neg short, (spells_hex 1 g.toNat).digits?_eq]
  exact congrArg some UInt16.ofNat_toNat

theorem solid_groups (gs : List UInt16) :
    ∀ part ∈ gs.map fun g => hex 1 g.toNat, part ≠ [] ∧ ':' ∉ part := by
  intro part member
  rcases List.mem_map.1 member with ⟨g, -, rfl⟩
  have spells := spells_hex 1 g.toNat
  exact ⟨spells.nonempty, (spells.not_mem (Nat.le_refl 16)).2.2.2.1⟩

theorem colonParts_join {parts : List Text} (solid : ∀ part ∈ parts, part ≠ [] ∧ ':' ∉ part) :
    colonParts (join [':'] parts) = parts := by
  cases parts with
  | nil => rfl
  | cons part rest =>
    have nonempty : join [':'] (part :: rest) ≠ [] :=
      join_ne_nil (solid part List.mem_cons_self).1
    rw [colonParts, if_neg nonempty]
    exact List.splitOn_intercalate ':' (fun part member => (solid part member).2)
      (List.cons_ne_nil _ _)

theorem plainGroups?_map (gs : List UInt16) :
    plainGroups? (gs.map fun g => hex 1 g.toNat) = some gs := by
  induction gs with
  | nil => rfl
  | cons g gs ih =>
    rw [List.map_cons, plainGroups?, group?_hex, ih]
    rfl

/-- A group is not an IPv4 address. -/
theorem carried?_hex (g : UInt16) : carried? (hex 1 g.toNat) = none := by
  have point := ((spells_hex 1 g.toNat).not_mem (Nat.le_refl 16)).2.2.2.2
  rw [carried?, IPv4Address.ofText?, List.splitOn_eq_singleton point]
  rfl

theorem mixedGroups?_map (gs : List UInt16) :
    mixedGroups? (gs.map fun g => hex 1 g.toNat) = some gs := by
  induction gs with
  | nil => rfl
  | cons g gs ih =>
    cases gs with
    | nil =>
      rw [List.map_cons, List.map_nil, mixedGroups?, carried?_hex, group?_hex]
      rfl
    | cons next others =>
      rw [List.map_cons] at ih ⊢
      rw [List.map_cons, mixedGroups?, group?_hex, ih]
      · rfl
      · exact List.cons_ne_nil _ _

/-! ### The row of zeros -/

/-- The groups that `longestZeroRun` points at are zero. -/
theorem eq_of_longestZeroRun (gs : List UInt16) :
    gs.take (longestZeroRun gs).1 ++ List.replicate (longestZeroRun gs).2 0 ++
      gs.drop ((longestZeroRun gs).1 + (longestZeroRun gs).2) = gs := by
  induction gs with
  | nil => rfl
  | cons g gs ih =>
    rw [longestZeroRun]
    split
    -- The longest row starts here.
    · have zeros : (g :: gs).takeWhile (· == 0) =
          List.replicate ((g :: gs).takeWhile (· == 0)).length 0 := by
        apply List.eq_replicate_of_mem
        have all := List.all_eq_true.1 (@List.all_takeWhile _ (· == 0) (g :: gs))
        exact fun found member => eq_of_beq (all found member)
      rw [List.take_zero, List.nil_append, Nat.zero_add, ← zeros]
      exact List.prefix_iff_eq_append.1 (List.takeWhile_prefix _)
    · have next : (longestZeroRun gs).1 + 1 + (longestZeroRun gs).2 =
          (longestZeroRun gs).1 + (longestZeroRun gs).2 + 1 := by omega
      simp only [next, List.take_succ_cons, List.drop_succ_cons, List.cons_append, ih]

/-! ### Both directions -/

/-- Groups that are printed without a double colon. -/
theorem ofText?_printGroups (ip : IPv6Address) : ofText? (printGroups ip.groups) = some ip := by
  have cut : cut? [':', ':'] (printGroups ip.groups) = none := by
    have joined := cut?_join (solid_groups ip.groups) []
    rw [List.append_nil] at joined
    exact joined
  have parts : colonParts (printGroups ip.groups) = ip.groups.map fun g => hex 1 g.toNat :=
    colonParts_join (solid_groups ip.groups)
  unfold ofText?
  rw [show "::".toList = [':', ':'] from rfl, cut, parts, mixedGroups?_map]
  rfl

/-- Groups of which a row of zeros is printed as a double colon. -/
theorem ofText?_compressed {ip : IPv6Address} {front back : List UInt16} {count : Nat}
    (several : 0 < count) (groups : front ++ List.replicate count 0 ++ back = ip.groups) :
    ofText? (printGroups front ++ "::".toList ++ printGroups back) = some ip := by
  have cut : cut? [':', ':'] (printGroups front ++ "::".toList ++ printGroups back) =
      some (printGroups front, printGroups back) := by
    rw [List.append_assoc, printGroups, cut?_join (solid_groups front)]
    simp [cut?, stripStart?]
  have frontParts : colonParts (printGroups front) = front.map fun g => hex 1 g.toNat :=
    colonParts_join (solid_groups front)
  have backParts : colonParts (printGroups back) = back.map fun g => hex 1 g.toNat :=
    colonParts_join (solid_groups back)
  -- The number of missing groups is counted from those that are there.
  have eight : front.length + count + back.length = 8 := by
    have length := congrArg List.length groups
    rw [List.length_append, List.length_append, List.length_replicate] at length
    exact length
  have missing : 8 - front.length - back.length = count := by omega
  unfold ofText?
  rw [show "::".toList = [':', ':'] from rfl] at cut ⊢
  rw [cut]
  simp only [frontParts, backParts, plainGroups?_map, mixedGroups?_map, bind, Option.bind,
    if_pos (show front.length + back.length < 8 by omega), missing, groups]
  rfl

/-- An address that carries an IPv4 address. -/
theorem ofText?_mapped (g h : UInt16) :
    ofText? ("::ffff:".toList ++
        (IPv4Address.readAt (octets ⟨0, 0, 0, 0, 0, 0xFFFF, g, h⟩) 12).print) =
      some ⟨0, 0, 0, 0, 0, 0xFFFF, g, h⟩ := by
  generalize whole : (⟨0, 0, 0, 0, 0, 0xFFFF, g, h⟩ : IPv6Address) = ip
  -- The last four bytes are printed as an IPv4 address, and read as two groups again.
  generalize carried : IPv4Address.readAt ip.octets 12 = inner
  have words : [UInt16.ofNat (Bytes.field inner.octets 0 2),
      UInt16.ofNat (Bytes.field inner.octets 2 2)] = [g, h] := by
    have length := ip.length_octets
    have same := @readAt_octets [] ip
    rw [List.append_nil] at same
    rw [← carried, IPv4Address.octets_readAt (by omega), Bytes.field, Bytes.field,
      Bytes.slice_slice (by omega), Bytes.slice_slice (by omega)]
    have last : (readAt ip.octets 0).g = g ∧ (readAt ip.octets 0).h = h := by
      rw [same, ← whole]
      exact ⟨rfl, rfl⟩
    exact List.cons_eq_cons.2 ⟨last.1, List.cons_eq_cons.2 ⟨last.2, rfl⟩⟩
  have noColon := inner.colon_not_mem_print
  have parts : colonParts ("ffff:".toList ++ inner.print) = ["ffff".toList, inner.print] := by
    have solid : ∀ part ∈ ["ffff".toList, inner.print], part ≠ [] ∧ ':' ∉ part := by
      intro part member
      rcases List.mem_cons.1 member with rfl | last
      · decide
      · rw [List.mem_singleton.1 last]
        exact ⟨inner.isWord_print.1, noColon⟩
    have joined := colonParts_join solid
    rw [join, List.intercalate_cons_cons, List.intercalate_singleton] at joined
    exact joined
  have cut : cut? [':', ':'] ("::ffff:".toList ++ inner.print) =
      some ([], "ffff:".toList ++ inner.print) := rfl
  have front : group? "ffff".toList = some 0xFFFF := by decide
  unfold ofText?
  rw [show "::".toList = [':', ':'] from rfl, cut]
  simp only [parts, mixedGroups?, carried?, IPv4Address.ofText?_print, front, Option.map_some,
    words]
  rw [← whole]
  rfl

theorem ofText?_print (ip : IPv6Address) : ofText? ip.print = some ip := by
  unfold print
  cases carries : ip.mapped? with
  | some inner =>
    unfold mapped? at carries
    split at carries
    · rename_i g h groups
      have same : ip = ⟨0, 0, 0, 0, 0, 0xFFFF, g, h⟩ := by
        rcases ip with ⟨a, b, c, d, e, f, g', h'⟩
        simp only [IPv6Address.groups, List.cons.injEq, and_true] at groups
        simpa only [IPv6Address.mk.injEq] using groups
      cases carries
      rw [same]
      exact ofText?_mapped g h
    · cases carries
  | none =>
    simp only
    split
    · rename_i several
      exact ofText?_compressed (Nat.lt_of_succ_lt several) (eq_of_longestZeroRun ip.groups)
    · exact ofText?_printGroups ip

/-- Groups are a word if there are any. -/
theorem isWord_printGroups {gs : List UInt16} (nonempty : gs ≠ []) : IsWord (printGroups gs) := by
  refine IsWord.join (fun empty => nonempty (List.map_eq_nil_iff.1 empty)) (by decide) ?_
  intro part member
  rcases List.mem_map.1 member with ⟨g, -, rfl⟩
  exact (spells_hex 1 g.toNat).isWord (Nat.le_refl 16)

theorem isWord_print (ip : IPv6Address) : IsWord ip.print := by
  unfold print
  split
  · rename_i carried _
    exact IsWord.append (by decide) carried.isWord_print
  · have colons : IsWord "::".toList := by decide
    have around : ∀ front back, IsWord (printGroups front ++ "::".toList ++ printGroups back) := by
      intro front back
      have opened : IsWord (printGroups front ++ "::".toList) := by
        cases front with
        | nil => exact colons
        | cons g gs => exact (isWord_printGroups (List.cons_ne_nil g gs)).append colons
      cases back with
      | nil =>
        rw [show printGroups [] = [] from rfl, List.append_nil]
        exact opened
      | cons g gs => exact opened.append (isWord_printGroups (List.cons_ne_nil g gs))
    simp only
    split
    · exact around _ _
    · exact isWord_printGroups (List.cons_ne_nil _ _)

theorem length_printGroups_le (gs : List UInt16) : (printGroups gs).length ≤ gs.length * 5 := by
  have length := @length_join_le ':' (gs.map fun g => hex 1 g.toNat) 4 (by
    intro part member
    rcases List.mem_map.1 member with ⟨g, -, rfl⟩
    exact length_group_le g)
  rw [List.length_map] at length
  exact length

theorem length_print_le (ip : IPv6Address) : ip.print.length ≤ 42 := by
  unfold print
  split
  · rename_i carried _
    have short := carried.length_print_le
    have mark : "::ffff:".toList.length = 7 := rfl
    rw [List.length_append, mark]
    omega
  · simp only
    have eight : ip.groups.length = 8 := rfl
    split
    · have front := length_printGroups_le (ip.groups.take (longestZeroRun ip.groups).1)
      have back := length_printGroups_le
        (ip.groups.drop ((longestZeroRun ip.groups).1 + (longestZeroRun ip.groups).2))
      have mark : "::".toList.length = 2 := rfl
      rw [List.length_take] at front
      rw [List.length_drop] at back
      rw [List.length_append, List.length_append, mark]
      omega
    · have whole := length_printGroups_le ip.groups
      omega

end IPv6Address

/-! ## Protocols -/

namespace IpProtocol

/-- Printed protocols, one after the other. -/
theorem custom_printed : ∀ n < 256,
    (decimal n).length ≤ 3 ∧ sameIgnoringCase (decimal n) "udp".toList = false ∧
      sameIgnoringCase (decimal n) "tcp".toList = false ∧ number? 256 (decimal n) = some n := by
  decide +kernel

theorem parse_print (protocol : IpProtocol) :
    parse protocol.print = .ok (ofUInt8 protocol.toUInt8) := by
  cases protocol with
  | tcp => rfl
  | udp => rfl
  | custom value =>
    rcases custom_printed value.toNat value.toNat_lt with ⟨-, udp, tcp, number⟩
    simp only [print, parse, (isWord_decimal value.toNat).trim, udp, tcp, number, toUInt8,
      UInt8.ofNat_toNat]
    rfl

theorem isWord_print (protocol : IpProtocol) : IsWord protocol.print := by
  cases protocol with
  | tcp => decide
  | udp => decide
  | custom value => exact isWord_decimal value.toNat

theorem length_print_le (protocol : IpProtocol) : protocol.print.length ≤ 3 := by
  cases protocol with
  | tcp => decide
  | udp => decide
  | custom value => exact (custom_printed value.toNat value.toNat_lt).1

end IpProtocol

end FrameText
