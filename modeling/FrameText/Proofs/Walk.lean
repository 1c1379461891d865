import FrameText.Dissection.Context
import FrameText.Proofs.Results

/-!
# Walk — the headers that dissection finds

Dissection as a relation between a reader, the data, the headers that are found and the bytes behind
the last of them.

1. `Reader.finds` is the header at the start of the data, complete or not; `Reader.behind` is the
   reader that a header chooses.
2. `Walk` repeats both as long as the headers are complete.
3. `ofBytes_eq_ok` says that dissection succeeds exactly along a walk.
-/

namespace FrameText

namespace Reader

/-- The header that a reader finds at the start of the data, whether or not it is complete. -/
def finds (reader : Reader) (data : Bytes) : Option FoundHeader :=
  match reader with
  | ether => some (.ether (Header.get data))
  | vlan tag => some (.vlan tag (Header.get data))
  | ipv4 => some (.ipv4 (Header.get data))
  | ipv6 => some (.ipv6 (Header.get data))
  | udp => some (.udp (Header.get data))
  | tcp => some (.tcp (Header.get data))
  | vxlan => some (.vxlan (Header.get data))
  | tsc => if Timestamp.startsAt data then some (.tsc (Header.get data)) else none
  | payload => none

/-- The reader behind a header, in front of these bytes. -/
def behind (header : FoundHeader) (rest : Bytes) : Reader :=
  match header with
  | .ether header => ofEtherType header.etherType
  | .vlan _ header => ofEtherType header.etherType
  | .ipv4 header => ofProtocol header.protocol
  | .ipv6 header => ofProtocol header.nextHeader
  | .udp header => ofDatagram header rest
  | .tcp _ => tsc
  | .vxlan header => ofVxlan header
  | .tsc _ => payload

variable {reader next : Reader} {data rest : Bytes} {header : FoundHeader}

theorem read_eq_ok_iff {α : Type} [Header α] {found : α} :
    read α data = .ok (found, rest) ↔
      Header.size α ≤ data.length ∧ found = Header.get data ∧ rest = data.drop (Header.size α) := by
  unfold read Header.readFrom
  by_cases short : data.length < Header.size α
  · rw [if_pos short]
    constructor
    · intro impossible
      cases impossible
    · rintro ⟨fits, -⟩
      omega
  · rw [if_neg short]
    constructor
    · intro done
      cases done
      exact ⟨by omega, rfl, rfl⟩
    · rintro ⟨-, rfl, rfl⟩
      rfl

theorem skip_eq_ok_iff {kind : LayerKind} {length : Nat} :
    skip kind length data = .ok rest ↔ length ≤ data.length ∧ rest = data.drop length := by
  unfold skip
  by_cases short : data.length < length
  · rw [if_pos short]
    constructor
    · intro impossible
      cases impossible
    · rintro ⟨fits, -⟩
      omega
  · rw [if_neg short]
    constructor
    · intro done
      cases done
      exact ⟨by omega, rfl⟩
    · rintro ⟨-, rfl⟩
      rfl

/-- Reading a header without options. -/
theorem plain_step {α : Type} [Header α] (wrap : α → FoundHeader)
    (length : (wrap (Header.get data)).length = Header.size α) :
    (read α data >>= fun found =>
        pure (some (wrap found.1, behind (wrap found.1) found.2, found.2))) =
        (.ok (some (header, next, rest)) : Except Error _) ↔
      some (wrap (Header.get data)) = some header ∧ header.length ≤ data.length ∧
        next = behind header rest ∧ rest = data.drop header.length := by
  rw [bind_eq_ok, Option.some.injEq]
  constructor
  · rintro ⟨⟨found, others⟩, reads, done⟩
    rcases read_eq_ok_iff.1 reads with ⟨fits, rfl, rfl⟩
    cases done
    rw [length]
    exact ⟨rfl, fits, rfl, rfl⟩
  · rintro ⟨rfl, fits, rfl, rfl⟩
    rw [length] at fits ⊢
    exact ⟨_, read_eq_ok_iff.2 ⟨fits, rfl, rfl⟩, rfl⟩

/-- Reading a header with options, which are skipped. -/
theorem options_step {α : Type} [Header α] (wrap : α → FoundHeader) (kind : LayerKind)
    (options : α → Nat)
    (length : (wrap (Header.get data)).length = Header.size α + options (Header.get data)) :
    (read α data >>= fun found => skip kind (options found.1) found.2 >>= fun others =>
        pure (some (wrap found.1, behind (wrap found.1) others, others))) =
        (.ok (some (header, next, rest)) : Except Error _) ↔
      some (wrap (Header.get data)) = some header ∧ header.length ≤ data.length ∧
        next = behind header rest ∧ rest = data.drop header.length := by
  rw [bind_eq_ok, Option.some.injEq]
  constructor
  · rintro ⟨⟨found, others⟩, reads, done⟩
    rcases read_eq_ok_iff.1 reads with ⟨fits, rfl, rfl⟩
    rcases bind_eq_ok.1 done with ⟨behindOptions, skips, done⟩
    rcases skip_eq_ok_iff.1 skips with ⟨room, rfl⟩
    -- The options are skipped in what is left behind the fixed part.
    have inside : options (Header.get data) ≤ data.length - Header.size α := by
      rw [← List.length_drop]
      exact room
    cases done
    rw [length, List.drop_drop]
    exact ⟨rfl, by omega, rfl, rfl⟩
  · rintro ⟨rfl, fits, rfl, rfl⟩
    rw [length] at fits ⊢
    rw [← List.drop_drop]
    have room : options (Header.get data) ≤ (data.drop (Header.size α)).length := by
      rw [List.length_drop]
      omega
    exact ⟨_, read_eq_ok_iff.2 ⟨by omega, rfl, rfl⟩,
      bind_eq_ok.2 ⟨_, skip_eq_ok_iff.2 ⟨room, rfl⟩, rfl⟩⟩

/-- A step takes the header off the data that the reader finds, if it is complete. -/
theorem step_eq_some_iff :
    reader.step data = .ok (some (header, next, rest)) ↔
      reader.finds data = some header ∧ header.length ≤ data.length ∧
        next = behind header rest ∧ rest = data.drop header.length := by
  cases reader with
  | ether => exact plain_step FoundHeader.ether rfl
  | vlan tag => exact plain_step (FoundHeader.vlan tag) rfl
  | ipv4 => exact options_step FoundHeader.ipv4 .ipv4 IPv4Header.optionsLength rfl
  | ipv6 => exact plain_step FoundHeader.ipv6 rfl
  | udp => exact plain_step FoundHeader.udp rfl
  | tcp => exact options_step FoundHeader.tcp .tcp TcpHeader.optionsLength rfl
  | vxlan => exact plain_step FoundHeader.vxlan rfl
  | tsc =>
    by_cases marked : Timestamp.startsAt data = true
    · rw [step, finds, if_pos marked, if_pos marked]
      exact plain_step FoundHeader.tsc rfl
    · rw [step, finds, if_neg marked, if_neg marked]
      constructor
      · intro impossible
        cases impossible
      · rintro ⟨impossible, -⟩
        cases impossible
  | payload =>
    constructor
    · intro impossible
      cases impossible
    · rintro ⟨impossible, -⟩
      cases impossible

/-- A step stops where the reader finds nothing. -/
theorem step_eq_none_iff : reader.step data = .ok none ↔ reader.finds data = none := by
  constructor
  · intro stopped
    cases reader with
    | tsc =>
      by_cases marked : Timestamp.startsAt data = true
      · rw [step, if_pos marked] at stopped
        rcases bind_eq_ok.1 stopped with ⟨found, -, impossible⟩
        cases impossible
      · rw [finds, if_neg marked]
    | payload => rfl
    | ipv4 | tcp =>
      rcases bind_eq_ok.1 stopped with ⟨found, -, others⟩
      rcases bind_eq_ok.1 others with ⟨rest, -, impossible⟩
      cases impossible
    | _ =>
      rcases bind_eq_ok.1 stopped with ⟨found, -, impossible⟩
      cases impossible
  · intro nothing
    cases reader with
    | tsc =>
      by_cases marked : Timestamp.startsAt data = true
      · rw [finds, if_pos marked] at nothing
        cases nothing
      · rw [step, if_neg marked]
        rfl
    | payload => rfl
    | _ => cases nothing

end Reader

/-! ## Walks -/

/-- From a reader and data, the headers that are found one behind the other, and the bytes behind
the last of them, where nothing more is found. -/
inductive Walk : Reader → Bytes → List FoundHeader → Bytes → Prop where
  | stop {reader data} : reader.finds data = none → Walk reader data [] data
  | step {reader data header headers rest} :
      reader.finds data = some header → header.length ≤ data.length →
      Walk (.behind header (data.drop header.length)) (data.drop header.length) headers rest →
      Walk reader data (header :: headers) rest

namespace Dissection

variable {reader : Reader} {data rest : Bytes} {headers : List FoundHeader}

/-- The three ways in which dissection can go on. -/
theorem ofBytes_eq (reader : Reader) (data : Bytes) :
    ofBytes reader data =
      match reader.step data with
      | .error e => ⟨[], .error e⟩
      | .ok none => ⟨[], .ok data⟩
      | .ok (some (header, next, behind)) =>
        ⟨header :: (ofBytes next behind).headers, (ofBytes next behind).rest⟩ := by
  rw [ofBytes]
  split <;> rename_i found <;> rw [found]

/-- Dissection succeeds exactly along a walk. -/
theorem ofBytes_eq_ok :
    ofBytes reader data = ⟨headers, .ok rest⟩ ↔ Walk reader data headers rest := by
  constructor
  · intro done
    induction headers generalizing reader data with
    | nil =>
      rw [ofBytes_eq] at done
      split at done
      · cases done
      · rename_i stopped
        cases done
        exact .stop (Reader.step_eq_none_iff.1 stopped)
      · cases done
    | cons header headers ih =>
      rw [ofBytes_eq] at done
      split at done
      · cases done
      · cases done
      · rename_i found
        -- One step of the reader is one step of the walk.
        rcases Reader.step_eq_some_iff.1 found with ⟨finds, fits, rfl, rfl⟩
        injection done with same others
        injection same with first later
        subst first
        exact .step finds fits (ih (by rw [← later, ← others]))
  · intro walk
    induction walk with
    | stop nothing => rw [ofBytes_eq, Reader.step_eq_none_iff.2 nothing]
    | step finds fits walk ih =>
      rw [ofBytes_eq, Reader.step_eq_some_iff.2 ⟨finds, fits, rfl, rfl⟩]
      simp only [ih]

end Dissection

end FrameText
