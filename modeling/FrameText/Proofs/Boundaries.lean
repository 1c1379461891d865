import FrameText.Proofs.TextLength
import Mathlib.Control.Monad.Basic

/-!
# Boundaries — dissection can start at any header

Captured bytes are dissected from the middle of a frame, with the kind of the first header as a
hint.  This relies on readers that look at nothing in front of their header: not at the bytes there,
nor at how many they are, nor at the text that shows them.

1. `Walk.resume` takes a walk up at any of its headers.
2. `Continues` compares the text of a frame with the text of its last bytes: they differ in what
   stands in front and in the length at the end.
3. `decode_of_boundary` is about the text from the second header on, and from any header on.
-/

namespace FrameText

open Text

/-! ## Walks -/

/-- The number of bytes that headers take, options included. -/
def headersLength : List FoundHeader → Nat
  | [] => 0
  | header :: rest => header.length + headersLength rest

/-- Whether a reader expects a header whatever the data is. -/
def Reader.demands : Reader → Bool
  | .tsc | .payload => false
  | _ => true

section Walks

variable {reader : Reader} {data rest : Bytes} {header : FoundHeader}
  {front back : List FoundHeader}

theorem exists_finds_of_demands (demands : reader.demands = true) :
    ∃ header, reader.finds data = some header := by
  cases reader with
  | tsc | payload => cases demands
  | _ => exact ⟨_, rfl⟩

/-- What stands behind some headers of a walk is a walk again. -/
theorem Walk.resume (walk : Walk reader data (front ++ back) rest) :
    headersLength front ≤ data.length ∧
      ∃ next, Walk next (data.drop (headersLength front)) back rest := by
  induction front generalizing reader data with
  | nil => exact ⟨Nat.zero_le _, reader, walk⟩
  | cons header front ih =>
    cases walk with
    | step _ fits later =>
      obtain ⟨inside, next, resumed⟩ := ih later
      rw [List.length_drop] at inside
      rw [List.drop_drop] at resumed
      exact ⟨by rw [headersLength]; omega, next, resumed⟩

/-- A walk with a header starts with the reader of its kind, on data that is not empty. -/
theorem Walk.of_header (walk : Walk reader data (header :: back) rest) :
    reader = .ofKind header.kind ∧ data ≠ [] := by
  cases walk with
  | step finds fits _ =>
    refine ⟨Reader.eq_of_finds finds, ?_⟩
    rintro rfl
    exact absurd fits (Nat.not_le_of_lt header.length_pos)

end Walks

/-! ## Texts -/

/-- The layer at the end of a text, with this length. -/
def closingText (n : Nat) : Text :=
  LayerKind.payload.name ++ "(len=".toList ++ decimal n ++ [')']

/-- The texts of headers, each with the slash behind it. -/
def headersText (headers : List FoundHeader) : Text :=
  headers.flatMap fun header => header.fragment.text ++ ['/']

/-- Whether the outer text is the inner one with `front` in front of it, and with a length at the
end that is larger by `count`. -/
def Continues (front : Text) (count : Nat) (inner outer : Text) : Prop :=
  ∃ shown n, inner = shown ++ closingText n ∧ outer = front ++ shown ++ closingText (n + count)

section Texts

variable {headers front back : List FoundHeader} {rest : Bytes} {length count : Nat}
  {inner outer text : Text}

theorem Continues.length_le (continues : Continues text count inner outer) :
    inner.length ≤ outer.length := by
  obtain ⟨shown, n, rfl, rfl⟩ := continues
  have digits := length_decimal_mono (Nat.le_add_right n count)
  simp only [closingText, List.length_append]
  omega

theorem text_payloadLayer (length : Nat) :
    (payloadLayer length).text = closingText (length + 4) := by
  simp only [payloadLayer, Fragment.text, closingText, join, List.map_cons, List.map_nil,
    List.intercalate_singleton, Limits.checkLength, List.append_assoc]
  rfl

/-- The length at its end is all that the text of a frame says about what stands in front. -/
theorem continues_decodedText :
    Continues (headersText front) count (decodedText back length rest)
      (decodedText (front ++ back) (length + count) rest) := by
  refine ⟨headersText back ++ if rest = [] then [] else rawLayer rest ++ ['/'], length + 4, ?_, ?_⟩
  · rw [decodedText_eq, text_payloadLayer]
    rfl
  · rw [decodedText_eq, text_payloadLayer, List.flatMap_append, Nat.add_right_comm]
    simp only [headersText, List.append_assoc]

end Texts

/-! ## Dissection from the middle -/

section Middle

variable {data rest : Bytes} {start next : LayerKind} {text : Text}
  {front back : List FoundHeader}

/-- Dissection behind some headers of a walk. -/
theorem decode_of_resumed
    (resumed : Walk (.ofKind next) (data.drop (headersLength front)) back rest)
    (inside : headersLength front ≤ data.length) (given : data.drop (headersLength front) ≠ [])
    (short : (decodedText (front ++ back) data.length rest).length + 64 < 8192) :
    ∃ inner, decode (data.drop (headersLength front)) next = .ok inner ∧
      Continues (headersText front) (headersLength front) inner
        (decodedText (front ++ back) data.length rest) := by
  have length : (data.drop (headersLength front)).length + headersLength front = data.length := by
    rw [List.length_drop]
    omega
  have continues := @continues_decodedText front back rest
    (data.drop (headersLength front)).length (headersLength front)
  rw [length] at continues
  have shorter := continues.length_le
  exact ⟨_, decode_of_walk given resumed (by omega), continues⟩

/-- Whenever data has a text, so has what is left of it at any header, if dissection starts there
with the kind of that header: the headers in front are missing from this text, and the length at its
end is that of what is left.  Nothing else changes.  The first part says so of the second header, in
terms of one step of the first reader, where the next reader expects a header. -/
theorem decode_of_boundary (decoded : decode data start = .ok text) :
    (∀ header next rest,
      (Reader.ofKind start).step data = .ok (some (header, .ofKind next, rest)) →
      (Reader.ofKind next).demands = true →
      rest = data.drop header.length ∧ ∃ inner, decode rest next = .ok inner ∧
        Continues (header.fragment.text ++ ['/']) header.length inner text) ∧
    ∀ front header back,
      (Dissection.ofBytes (.ofKind start) data).headers = front ++ header :: back →
      ∃ inner, decode (data.drop (headersLength front)) header.kind = .ok inner ∧
        Continues (headersText front) (headersLength front) inner text := by
  obtain ⟨-, headers, rest, walk, rfl, short⟩ := decode_eq_ok.1 decoded
  constructor
  · intro header next behind stepped demands
    obtain ⟨finds, fits, chosen, rfl⟩ := Reader.step_eq_some_iff.1 stepped
    refine ⟨rfl, ?_⟩
    cases walk with
    | stop nothing =>
      rw [nothing] at finds
      cases finds
    | @step _ _ found headers _ finds' _ later =>
      obtain rfl : found = header := Option.some.inj (finds'.symm.trans finds)
      rw [← chosen] at later
      -- The next reader expects a header, so that there is data for it.
      have given : data.drop found.length ≠ [] := by
        obtain ⟨second, expected⟩ := @exists_finds_of_demands _ (data.drop found.length) demands
        cases later with
        | stop nothing =>
          rw [nothing] at expected
          cases expected
        | step finds'' fits'' later' => exact (Walk.step finds'' fits'' later').of_header.2
      have one : headersText [found] = found.fragment.text ++ ['/'] := List.flatMap_singleton _ _
      have resumed := @decode_of_resumed data rest next [found] headers later fits given short
      rwa [one] at resumed
  · intro front header back split
    rw [Dissection.ofBytes_eq_ok.2 walk] at split
    obtain rfl : headers = front ++ header :: back := split
    obtain ⟨inside, reader, resumed⟩ := walk.resume
    obtain ⟨rfl, given⟩ := resumed.of_header
    exact decode_of_resumed resumed inside given short

/-- A tagged datagram with an option in its IPv4 header, dissected from its tag, from its IPv4
header and from its UDP header. -/
theorem decode_of_boundary_datagram :
    let data : Bytes :=
      [0x20, 0x05, 0x08, 0x00, 0x46, 0, 0, 35, 0, 1, 0, 0, 64, 17, 0, 0, 192, 10, 0, 1,
        192, 10, 0, 2, 1, 1, 1, 0, 0, 7, 0, 9, 0, 11, 0, 0, 0x68, 0x69, 0x2F]
    let tag : Text := "Dot1ad(vlan=5,prio=1,cfi=0)/".toList
    let ip : Text := "IPv4(ver=4,ihl=6,tos=0x00,len=35,id=1,fragoff=0x0000,ttl=64,".toList ++
      "cksum=0x0000,dst=192.10.0.2,src=192.10.0.1,proto=udp)/".toList
    let text : Text := tag ++ ip ++ "UDP(dport=9,sport=7,len=11,cksum=0x0000)/".toList ++
      "Raw('hi\\x2f')/Payload(len=43)".toList
    decode data .dot1ad = .ok text ∧
      (∃ inner, decode (data.drop 4) .ipv4 = .ok inner ∧ Continues tag 4 inner text) ∧
      ∃ inner, decode (data.drop 28) .udp = .ok inner ∧ Continues (tag ++ ip) 28 inner text := by
  intro data tag ip text
  have decoded : decode data .dot1ad = .ok text := by decide +kernel
  obtain ⟨second, any⟩ := decode_of_boundary decoded
  let outer : FoundHeader := .vlan .service (Header.get data)
  let inner : FoundHeader := .ipv4 (Header.get (data.drop 4))
  refine ⟨decoded, ?_, ?_⟩
  · have stepped : (Reader.ofKind .dot1ad).step data =
        .ok (some (outer, .ofKind .ipv4, data.drop 4)) := by
      decide +kernel
    have shown : outer.fragment.text ++ ['/'] = tag := by decide +kernel
    have continued := (second outer .ipv4 _ stepped rfl).2
    rwa [shown] at continued
  · have split : (Dissection.ofBytes (.ofKind .dot1ad) data).headers =
        [outer, inner] ++ .udp (Header.get (data.drop 28)) :: [] := by
      decide +kernel
    have shown : headersText [outer, inner] = tag ++ ip := by decide +kernel
    have taken : headersLength [outer, inner] = 28 := by decide +kernel
    have continued := any _ _ _ split
    rwa [shown, taken] at continued

end Middle

end FrameText
