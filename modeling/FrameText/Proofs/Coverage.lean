import FrameText.Proofs.DissectedText
import FrameText.Proofs.StoredFields
import Mathlib.Data.List.Chain

/-!
# Coverage — dissection shows every byte exactly once

1. `Visits` follows the steps of dissection with the number of bytes that were taken, and
   `Visits.inside` says that the cursor stays inside the data.
2. `Located` places the headers of data, and `Located.divides` says that they and the bytes behind
   them are the data.
3. `shownText` spells out the text that shows all of this, and `Located.shownText_eq` says that
   dissection writes that text.
4. `Error.EndsDissection` lists the ways to fail.
5. `decode_covers` says of all data what dissection answers.
-/

namespace FrameText

open Bytes

/-! ## The cursor -/

/-- The readers that dissection gets to, with the number of bytes in front of them and the bytes
that are left. -/
inductive Visits (start : Reader) (data : Bytes) : Reader → Nat → Bytes → Prop where
  | start : Visits start data start 0 data
  | step {reader next cursor rest behind header} :
      Visits start data reader cursor rest → reader.step rest = .ok (some (header, next, behind)) →
      Visits start data next (cursor + header.length) behind

/-- Whether no header that dissection gets to reaches past the end of the data, options included. -/
def NothingCut (start : Reader) (data : Bytes) : Prop :=
  ∀ reader cursor rest header, Visits start data reader cursor rest →
    reader.finds rest = some header → cursor + header.length ≤ data.length

section Cursor

variable {start reader : Reader} {data rest : Bytes} {cursor : Nat}

/-- The cursor never leaves the data, and what is left is what stands behind it. -/
theorem Visits.inside (visits : Visits start data reader cursor rest) :
    cursor ≤ data.length ∧ rest = data.drop cursor := by
  induction visits with
  | start => exact ⟨Nat.zero_le _, rfl⟩
  | step _ found ih =>
    obtain ⟨inside, rfl⟩ := ih
    rcases Reader.step_eq_some_iff.1 found with ⟨-, fits, -, rfl⟩
    rw [List.length_drop] at fits
    exact ⟨by omega, List.drop_drop⟩

end Cursor

/-! ## Places -/

/-- A header with the offset at which it stands. -/
abbrev Place := Nat × FoundHeader

/-- From a reader at an offset, the headers that stand one behind the other, complete and each found
by the reader that the one in front of it chooses, and the offset at which nothing more is found. -/
inductive Located (data : Bytes) : Reader → Nat → List Place → Nat → Prop where
  | stop {reader offset} : offset ≤ data.length → reader.finds (data.drop offset) = none →
      Located data reader offset [] offset
  | step {reader offset header found final} :
      reader.finds (data.drop offset) = some header → offset + header.length ≤ data.length →
      Located data (.behind header (data.drop (offset + header.length))) (offset + header.length)
        found final →
      Located data reader offset ((offset, header) :: found) final

/-- The number of bytes that headers take. -/
def taken : List Place → Nat
  | [] => 0
  | place :: rest => place.2.length + taken rest

/-- Headers at the offsets at which they stand one behind the other, the first at this one. -/
def places : Nat → List FoundHeader → List Place
  | _, [] => []
  | offset, header :: rest => (offset, header) :: places (offset + header.length) rest

/-- Whether headers divide data from an offset on: their offsets start there and increase, each
header has the length that is stored where it stands, and the headers and the bytes behind the last
of them are all of the data. -/
structure Divides (data : Bytes) (offset : Nat) (found : List Place) (final : Nat) : Prop where
  starts : (found.map Prod.fst ++ [final]).head? = some offset
  increases : (found.map Prod.fst ++ [final]).IsChain (· < ·)
  lengths : ∀ place ∈ found, place.2.length = place.2.kind.storedLength (data.drop place.1)
  total : offset + taken found + (data.drop final).length = data.length

section Places

variable {reader start : Reader} {data rest : Bytes} {offset final cursor : Nat}
  {found : List Place} {headers : List FoundHeader}

theorem Located.divides (located : Located data reader offset found final) :
    Divides data offset found final := by
  induction located with
  | @stop reader offset inside _ =>
    refine ⟨rfl, List.isChain_singleton _, by simp, ?_⟩
    rw [List.length_drop, taken]
    omega
  | @step reader offset header found final finds fits _ ih =>
    have positive := header.length_pos
    refine ⟨rfl, List.isChain_cons.2 ⟨?_, ih.increases⟩, ?_, ?_⟩
    · intro next first
      obtain rfl : offset + header.length = next := Option.some.inj (ih.starts.symm.trans first)
      exact Nat.lt_add_of_pos_right positive
    · intro place member
      rcases List.mem_cons.1 member with rfl | behind
      · exact length_of_finds finds (le_length_drop fits)
      · exact ih.lengths place behind
    · have total := ih.total
      rw [Nat.add_assoc offset] at total
      exact total

/-- Headers at their places are the headers of a walk. -/
theorem Located.walk (located : Located data reader offset found final) :
    Walk reader (data.drop offset) (found.map Prod.snd) (data.drop final) := by
  induction located with
  | stop _ nothing => exact .stop nothing
  | @step reader offset header found final finds fits _ ih =>
    rw [← List.drop_drop] at ih
    exact .step finds (le_length_drop fits) ih

/-- The headers of a walk stand one behind the other. -/
theorem Walk.located (walk : Walk reader rest headers tail) (inside : offset ≤ data.length)
    (left : rest = data.drop offset) :
    Located data reader offset (places offset headers)
      (offset + taken (places offset headers)) := by
  induction walk generalizing offset with
  | stop nothing =>
    rw [left] at nothing
    exact .stop inside nothing
  | @step reader rest header headers tail finds fits _ ih =>
    subst left
    rw [List.length_drop] at fits
    have others := @ih (offset + header.length) (by omega) List.drop_drop
    rw [List.drop_drop, Nat.add_assoc] at others
    exact .step finds (by omega) others

end Places

/-! ## The text, spelled out -/

/-- Values behind their keys, with commas between them. -/
def shownValues : List (Key × Text) → Text
  | [] => []
  | [(key, value)] => key.name ++ "=".toList ++ value
  | (key, value) :: next :: rest =>
    key.name ++ "=".toList ++ value ++ ",".toList ++ shownValues (next :: rest)

/-- The layer that shows a header of this kind at the start of some bytes. -/
def shownHeader (kind : LayerKind) (bytes : Bytes) : Text :=
  kind.name ++ "(".toList ++ shownValues (kind.storedFields bytes) ++ ")".toList

/-- A byte in the parameter of a `Raw` layer.  Printable ASCII shows itself, but for the characters
that mean something there; any other byte is shown by its two digits. -/
def shownByte (b : UInt8) : Text :=
  let n := b.toNat
  if 0x20 ≤ n ∧ n < 0x7F ∧ Char.ofNat n ∉ ['/', '\\', '\'', ':'] then
    [Char.ofNat n]
  else
    ['\\', 'x', Nat.digitChar (n / 16), Nat.digitChar (n % 16)]

/-- The parameter of a `Raw` layer that shows bytes. -/
def shownBytes (bytes : Bytes) : Text :=
  "('".toList ++ bytes.flatMap shownByte ++ "')".toList

/-- The text that shows headers at their places, the bytes behind the last of them, and the length
of all with the frame check sequence. -/
def shownText (data : Bytes) (found : List Place) (final : Nat) : Text :=
  (found.flatMap fun place => shownHeader place.2.kind (data.drop place.1) ++ "/".toList) ++
    (if data.drop final = [] then []
      else "Raw".toList ++ shownBytes (data.drop final) ++ "/".toList) ++
    "Payload(len=".toList ++ Text.decimal (data.length + 4) ++ ")".toList

theorem shownValues_eq (values : List (Key × Text)) :
    shownValues values =
      Text.join [','] (values.map fun field => field.1.name ++ '=' :: field.2) := by
  induction values using shownValues.induct with
  | case1 => rfl
  | case2 key value => simp [shownValues, Text.join]
  | case3 key value next rest ih =>
    rw [shownValues, ih, Text.join, Text.join]
    simp [List.intercalate_cons_cons]

theorem shownByte_eq : shownByte = RawText.escapeByte := by
  have same : ∀ n < 256, shownByte (UInt8.ofNat n) = RawText.escapeByte (UInt8.ofNat n) := by
    decide +kernel
  funext b
  rw [← @UInt8.ofNat_toNat b]
  exact same b.toNat b.toNat_lt

theorem shownBytes_eq (bytes : Bytes) :
    shownBytes bytes = '(' :: ('\'' :: RawText.escape bytes ++ ['\'']) ++ [')'] := by
  rw [shownBytes, shownByte_eq, RawText.escape]
  simp

/-- Bytes that are shown are read back. -/
theorem parse_shownBytes (bytes : Bytes) : RawText.parse (shownBytes bytes) = .ok bytes := by
  rw [shownBytes_eq]
  exact RawText.parse_escape bytes

section Shown

variable {reader : Reader} {data rest : Bytes} {offset final : Nat} {found : List Place}
  {headers : List FoundHeader}

theorem shownHeader_eq {header : FoundHeader} (finds : reader.finds data = some header)
    (fits : header.length ≤ data.length) : shownHeader header.kind data = header.fragment.text := by
  rw [shownHeader, ← fields_of_finds finds fits, shownValues_eq]
  simp [FoundHeader.fragment, Fragment.text]

theorem shownLength_eq (length : Nat) :
    "Payload(len=".toList ++ Text.decimal (length + 4) ++ ")".toList =
      (payloadLayer length).text := by
  simp only [payloadLayer, Fragment.text, Text.join, List.map_cons, List.map_nil,
    List.intercalate_singleton, Limits.checkLength]
  rfl

theorem shownRest_eq (bytes : Bytes) : "Raw".toList ++ shownBytes bytes = rawLayer bytes := by
  rw [shownBytes_eq, rawLayer_eq]
  rfl

/-- The text that shows headers at their places is the text of the walk. -/
theorem Located.shownText_eq (located : Located data reader offset found final) :
    shownText data found final =
      decodedText (found.map Prod.snd) data.length (data.drop final) := by
  have layers : (found.flatMap fun place =>
        shownHeader place.2.kind (data.drop place.1) ++ "/".toList) =
      (found.map Prod.snd).flatMap fun header => header.fragment.text ++ ['/'] := by
    induction located with
    | stop _ _ => rfl
    | step finds fits _ ih =>
      rw [List.flatMap_cons, List.map_cons, List.flatMap_cons, ih,
        shownHeader_eq finds (le_length_drop fits)]
      rfl
  rw [shownText, layers, shownRest_eq, decodedText_eq, ← shownLength_eq]
  simp only [List.append_assoc]
  rfl

/-- Data has only one text. -/
theorem Located.shownText_of_walk (located : Located data reader 0 found final)
    (walk : Walk reader data headers rest) :
    shownText data found final = decodedText headers data.length rest := by
  have same : (⟨found.map Prod.snd, .ok (data.drop final)⟩ : Dissection) = ⟨headers, .ok rest⟩ :=
    (Dissection.ofBytes_eq_ok.2 located.walk).symm.trans (Dissection.ofBytes_eq_ok.2 walk)
  injection same with sameHeaders sameRest
  rw [located.shownText_eq, sameHeaders, Except.ok.inj sameRest]

end Shown

/-! ## What is cut -/

section Cut

variable {start reader : Reader} {data rest : Bytes} {cursor final : Nat} {found : List Place}

/-- A step only fails where the header that the reader finds is cut. -/
theorem cut_of_step_eq_error {e : Error} (failed : reader.step data = .error e) :
    ∃ header, reader.finds data = some header ∧ data.length < header.length := by
  cases finds : reader.finds data with
  | none =>
    rw [Reader.step_eq_none_iff.2 finds] at failed
    cases failed
  | some header =>
    refine ⟨header, rfl, Nat.lt_of_not_le fun fits => ?_⟩
    rw [Reader.step_eq_some_iff.2 ⟨finds, fits, rfl, rfl⟩] at failed
    cases failed

/-- Every reader that dissection gets to has the headers behind it at their places. -/
theorem Located.of_visits (located : Located data start 0 found final)
    (visits : Visits start data reader cursor rest) :
    ∃ others, Located data reader cursor others final := by
  induction visits with
  | start => exact ⟨found, located⟩
  | @step reader next cursor rest behind header visits stepped ih =>
    obtain ⟨others, here⟩ := ih
    obtain ⟨inside, rfl⟩ := visits.inside
    rcases Reader.step_eq_some_iff.1 stepped with ⟨finds, fits, rfl, rfl⟩
    rw [List.drop_drop]
    cases here with
    | stop _ nothing =>
      rw [nothing] at finds
      cases finds
    | step finds' _ others =>
      obtain rfl := Option.some.inj (finds'.symm.trans finds)
      exact ⟨_, others⟩

/-- Where nothing is cut, the headers behind every reader that dissection gets to have places. -/
theorem Visits.located (complete : NothingCut start data)
    (visits : Visits start data reader cursor rest) :
    ∃ found final, Located data reader cursor found final := by
  -- Dissection goes on as it does behind any reader: the data gets shorter with each step.
  induction reader, rest using Dissection.ofBytes.induct generalizing cursor with
  | case1 reader rest e failed =>
    obtain ⟨header, finds, cut⟩ := cut_of_step_eq_error failed
    have fits := complete reader cursor rest header visits finds
    obtain ⟨inside, rfl⟩ := visits.inside
    exact absurd (le_length_drop fits) (Nat.not_le_of_lt cut)
  | case2 reader rest stopped =>
    obtain ⟨inside, rfl⟩ := visits.inside
    exact ⟨[], cursor, .stop inside (Reader.step_eq_none_iff.1 stopped)⟩
  | case3 reader rest header next behind stepped ih =>
    obtain ⟨found, final, others⟩ := ih (visits.step stepped)
    obtain ⟨inside, rfl⟩ := visits.inside
    rcases Reader.step_eq_some_iff.1 stepped with ⟨finds, fits, rfl, rfl⟩
    rw [List.length_drop] at fits
    rw [List.drop_drop] at others
    exact ⟨(cursor, header) :: found, final, .step finds (by omega) others⟩

/-- Headers have places exactly if none of them is cut. -/
theorem nothingCut_iff :
    NothingCut start data ↔ ∃ found final, Located data start 0 found final := by
  constructor
  · intro complete
    exact Visits.located complete .start
  · rintro ⟨found, final, located⟩ reader cursor rest header visits finds
    obtain ⟨others, here⟩ := located.of_visits visits
    obtain ⟨-, rfl⟩ := visits.inside
    cases here with
    | stop _ nothing =>
      rw [nothing] at finds
      cases finds
    | step finds' fits _ =>
      obtain rfl := Option.some.inj (finds'.symm.trans finds)
      exact fits

end Cut

/-! ## Faults -/

/-- The ways in which dissection fails. -/
inductive Error.EndsDissection : Error → Prop where
  /-- The data ends inside a header. -/
  | truncated {kind need available} : available < need →
      EndsDissection (.truncated kind need available)
  /-- There is no room for the text and the slack behind it. -/
  | textTooLong {need} : 8192 ≤ need → EndsDissection (.textTooLong need 8192)

/-- Whether an error says that the data ends inside a header. -/
inductive Error.SaysCut : Error → Prop where
  | intro {kind need available} : available < need → SaysCut (.truncated kind need available)

theorem Error.SaysCut.endsDissection {e : Error} (cut : e.SaysCut) : e.EndsDissection := by
  cases cut with
  | intro short => exact .truncated short

namespace Reader

variable {reader : Reader} {data : Bytes} {e : Error}

theorem saysCut_of_read {α : Type} [Header α] (failed : read α data = .error e) : e.SaysCut := by
  unfold read Header.readFrom at failed
  split at failed
  · rename_i short
    cases failed
    exact ⟨short⟩
  · cases failed

theorem saysCut_of_skip {kind : LayerKind} {length : Nat}
    (failed : skip kind length data = .error e) : e.SaysCut := by
  unfold skip at failed
  split at failed
  · rename_i short
    cases failed
    exact ⟨short⟩
  · cases failed

theorem saysCut_of_step (failed : reader.step data = .error e) : e.SaysCut := by
  cases reader with
  | ipv4 | tcp =>
    rcases bind_eq_error.1 failed with unread | ⟨found, -, others⟩
    · exact saysCut_of_read unread
    · rcases bind_eq_error.1 others with unskipped | ⟨rest, -, impossible⟩
      · exact saysCut_of_skip unskipped
      · cases impossible
  | tsc =>
    by_cases marked : Timestamp.startsAt data = true
    · rw [step, if_pos marked] at failed
      rcases bind_eq_error.1 failed with unread | ⟨found, -, impossible⟩
      · exact saysCut_of_read unread
      · cases impossible
    · rw [step, if_neg marked] at failed
      cases failed
  | payload => cases failed
  | _ =>
    rcases bind_eq_error.1 failed with unread | ⟨found, -, impossible⟩
    · exact saysCut_of_read unread
    · cases impossible

end Reader

/-- Readers fail only where a header is cut. -/
theorem saysCut_of_rest {reader : Reader} {data : Bytes} {e : Error}
    (failed : (Dissection.ofBytes reader data).rest = .error e) : e.SaysCut := by
  induction reader, data using Dissection.ofBytes.induct with
  | case1 reader data e' stepped =>
    rw [Dissection.ofBytes_eq, stepped] at failed
    cases failed
    exact Reader.saysCut_of_step stepped
  | case2 reader data stepped =>
    rw [Dissection.ofBytes_eq, stepped] at failed
    cases failed
  | case3 reader data header next behind stepped ih =>
    rw [Dissection.ofBytes_eq, stepped] at failed
    exact ih failed

theorem TextBuffer.endsDissection_of_append {buffer : TextBuffer} {piece : Text} {e : Error}
    (failed : buffer.append piece = .error e) : e.EndsDissection := by
  unfold append at failed
  simp only at failed
  split at failed
  · cases failed
  · split at failed
    · rename_i long
      cases failed
      exact .textTooLong long
    · cases failed

theorem TextBuffer.endsDissection_of_appendAll {buffer : TextBuffer} {pieces : List Text}
    {e : Error} (failed : buffer.appendAll pieces = .error e) : e.EndsDissection := by
  unfold appendAll at failed
  induction pieces generalizing buffer with
  | nil => cases failed
  | cons piece pieces ih =>
    rw [List.foldlM_cons] at failed
    rcases bind_eq_error.1 failed with first | ⟨middle, -, others⟩
    · exact endsDissection_of_append first
    · exact ih others

/-- Dissection fails in no other way. -/
theorem endsDissection_of_decode {context : DecodeContext} {data : Bytes} {start : LayerKind}
    {e : Error} (failed : (context.decode data start).1 = .error e) : e.EndsDissection := by
  rw [decode_result] at failed
  split at failed
  · cases failed
    exact .truncated Nat.one_pos
  · cases written : (Dissection.ofBytes (.ofKind start) data).write data.length {} with
    | ok buffer =>
      rw [written] at failed
      cases failed
    | error fault =>
      rw [written] at failed
      cases failed
      rcases bind_eq_error.1 written with front | ⟨buffer, -, others⟩
      · exact TextBuffer.endsDissection_of_appendAll front
      · rcases bind_eq_error.1 others with cut | ⟨rest, -, closing⟩
        · exact (saysCut_of_rest cut).endsDissection
        · exact TextBuffer.endsDissection_of_appendAll closing

/-! ## All data -/

/-- Dissection of any data, starting with any layer: the cursor stays inside the data; the answer is
a text or says that a header is cut or the text too long; the text shows the headers that stand one
behind the other, then the bytes behind them, which can be read back from it, then the length, so
that every byte is accounted for; and there is a text exactly if there is data, no header is cut,
and the text has at most 8127 bytes. -/
theorem decode_covers (context : DecodeContext) (data : Bytes) (start : LayerKind) :
    (∀ reader cursor rest, Visits (.ofKind start) data reader cursor rest →
      cursor ≤ data.length ∧ rest = data.drop cursor) ∧
    (∀ e, (context.decode data start).1 = .error e → e.EndsDissection) ∧
    (∀ text, (context.decode data start).1 = .ok text →
      ∃ found final, Located data (.ofKind start) 0 found final ∧ Divides data 0 found final ∧
        text = shownText data found final ∧
        RawText.parse (shownBytes (data.drop final)) = .ok (data.drop final)) ∧
    ((∃ text, (context.decode data start).1 = .ok text) ↔
      data ≠ [] ∧ NothingCut (.ofKind start) data ∧
        ∀ found final, Located data (.ofKind start) 0 found final →
          Text.byteLength (shownText data found final) ≤ 8127) := by
  refine ⟨fun reader cursor rest => Visits.inside, fun e => endsDissection_of_decode, ?_, ?_, ?_⟩
  · intro text decoded
    rcases decode_eq_ok.1 decoded with ⟨-, headers, rest, walk, rfl, -⟩
    have located := walk.located (Nat.zero_le _) rfl
    exact ⟨_, _, located, located.divides, (located.shownText_of_walk walk).symm,
      parse_shownBytes _⟩
  · rintro ⟨text, decoded⟩
    rcases decode_eq_ok.1 decoded with ⟨nonempty, headers, rest, walk, rfl, short⟩
    refine ⟨nonempty, nothingCut_iff.2 ⟨_, _, walk.located (Nat.zero_le _) rfl⟩, ?_⟩
    intro found final located
    rw [located.shownText_of_walk walk, isAscii_decodedText.byteLength]
    omega
  · rintro ⟨nonempty, complete, short⟩
    obtain ⟨found, final, located⟩ := nothingCut_iff.1 complete
    have fits := short found final located
    rw [located.shownText_eq, isAscii_decodedText.byteLength] at fits
    exact ⟨_, decode_of_walk nonempty located.walk (by omega)⟩

/-- A frame with a header of every kind: a tunnelled segment behind two tags, with options in the
IPv4 and the TCP header, a marker, and unknown bytes, some of which are escaped. -/
theorem decode_covers_tunnel :
    let data : Bytes :=
      [0xFF, 0xFF, 0xFF, 0xFF, 0xFF, 0xFF, 2, 0, 0, 0, 0, 1, 0x88, 0xA8, 0x30, 0x07, 0x81, 0x00,
        0xE0, 0x05, 0x08, 0x00,
        0x46, 0, 0, 135, 0, 1, 0, 0, 64, 17, 0, 0, 10, 0, 0, 1, 10, 0, 0, 2, 1, 1, 1, 0,
        0, 7, 0x12, 0xB5, 0, 111, 0xAB, 0xCD, 0x08, 0, 0, 3, 0, 3, 0xE8, 0,
        2, 0, 0, 0, 0, 3, 2, 0, 0, 0, 0, 2, 0x86, 0xDD,
        0x60, 0, 0, 0, 0, 41, 6, 64, 0x20, 0x01, 0x0D, 0xB8, 0, 0, 0, 0, 0, 0, 0, 0, 0, 0, 0, 1,
        0x20, 0x01, 0x0D, 0xB8, 0, 0, 0, 0, 0, 0, 0, 0, 0, 0, 0, 2,
        0, 80, 0x1F, 0x90, 0, 0, 0, 1, 0, 0, 0, 2, 0x60, 0x12, 0x10, 0, 0xBE, 0xEF, 0, 0,
        1, 1, 1, 0,
        0x74, 0x73, 0x63, 0x3D, 0, 0, 0, 0, 0, 0, 0, 7, 0x68, 0x69, 0x2F, 0x00, 0x27]
    let found : List Place :=
      [(0, .ether (Header.get data)), (14, .vlan .service (Header.get (data.drop 14))),
        (18, .vlan .customer (Header.get (data.drop 18))),
        (22, .ipv4 (Header.get (data.drop 22))), (46, .udp (Header.get (data.drop 46))),
        (54, .vxlan (Header.get (data.drop 54))), (62, .ether (Header.get (data.drop 62))),
        (76, .ipv6 (Header.get (data.drop 76))), (116, .tcp (Header.get (data.drop 116))),
        (140, .tsc (Header.get (data.drop 140)))]
    let text : Text :=
      "Ether(dst=FF:FF:FF:FF:FF:FF,src=02:00:00:00:00:01)/".toList ++
        "Dot1ad(vlan=7,prio=1,cfi=1)/Dot1q(vlan=5,prio=7,cfi=0)/".toList ++
        "IPv4(ver=4,ihl=6,tos=0x00,len=135,id=1,fragoff=0x0000,ttl=64,cksum=0x0000,".toList ++
        "dst=10.0.0.2,src=10.0.0.1,proto=udp)/".toList ++
        "UDP(dport=4789,sport=7,len=111,cksum=0xabcd)/Vxlan(flags=0x08,vni=1000)/".toList ++
        "Ether(dst=02:00:00:00:00:03,src=02:00:00:00:00:02)/".toList ++
        "IPv6(vtc=0x60000000,len=41,hops=64,dst=2001:db8::2,src=2001:db8::1,proto=tcp)/".toList ++
        "TCP(sport=80,dport=8080,seq=1,ack=2,data_off=6,flags=0x12,win=4096,".toList ++
        "cksum=0xbeef,urp=0)/TSC(val=0x0000000000000007)/".toList ++
        "Raw('hi\\x2f\\x00\\x27')/Payload(len=161)".toList
    Located data .ether 0 found 152 ∧ Divides data 0 found 152 ∧
      (DecodeContext.decode {} data .ether).1 = .ok text ∧ text = shownText data found 152 := by
  intro data found text
  have headers : (Dissection.ofBytes .ether data).headers = found.map Prod.snd := by
    decide +kernel
  have rest : (Dissection.ofBytes .ether data).rest = .ok (data.drop 152) := by decide +kernel
  have placed : places 0 (found.map Prod.snd) = found := by decide +kernel
  have length : taken found = 152 := by decide +kernel
  have shown : shownText data found 152 = text := by decide +kernel
  have walk : Walk .ether data (found.map Prod.snd) (data.drop 152) := by
    rw [← Dissection.ofBytes_eq_ok, ← headers, ← rest]
  have located := walk.located (Nat.zero_le _) rfl
  rw [placed, length, Nat.zero_add] at located
  -- Wherever its headers are said to stand, data has this text.
  have unique : ∀ others last, Located data .ether 0 others last →
      shownText data others last = shownText data found 152 := by
    intro others last again
    rw [again.shownText_of_walk walk, located.shownText_of_walk walk]
  obtain ⟨-, -, shows, succeeds⟩ := decode_covers {} data .ether
  have short : ∀ others last, Located data .ether 0 others last →
      Text.byteLength (shownText data others last) ≤ 8127 := by
    intro others last again
    rw [unique others last again]
    decide +kernel
  obtain ⟨answer, decoded⟩ :=
    succeeds.2 ⟨List.cons_ne_nil _ _, nothingCut_iff.2 ⟨found, 152, located⟩, short⟩
  obtain ⟨others, last, again, -, rfl, -⟩ := shows answer decoded
  rw [unique others last again, shown] at decoded
  exact ⟨located, located.divides, decoded, shown.symm⟩

end FrameText
