import SimpleDoip.Entity.Chunking
import SimpleDoip.Entity.Gate

/-!
# The entity as its platform sees it

`Service` is an entity in use: every call made to it, in any order, with what the platform got back.
`Service.perform` is one call. `Entity.onTcpRx_fed` says what feeding a chunk is, once, and the
bounds of the reassembly buffer follow: no call panics or loops, whatever the platform's dispatch
reports, and as long as the platform resets the entity after a close, what stays in the buffer is
the front of a frame that still fits.
-/

namespace SimpleDoip

open Framing Transition

/-- What the platform gets from one call: the verdict, if it fed a chunk, and the calls made to it
meanwhile. -/
structure Outcome where
  verdict : Option TcpVerdict
  calls : List PlatformCall
deriving DecidableEq

/-- An entity in use, with the state of its platform and the replies so far, oldest first.
`closing` says that the last chunk was answered with a close and the entity was not reset since. -/
structure Service (π : Type) where
  entity : Entity π
  state : π
  replies : List Outcome
  closing : Bool

section
variable {ι : Type} [WireCodec ι] {π : Type}

namespace Service

/-- An uninitialised entity nobody called, with the platform in a state of its own. -/
def start (state : π) : Service π := { entity := .new, state, replies := [], closing := false }

/-- A reset of the session: nothing is sent, and the connection is a new one. -/
def reset (s : Service π) (entity : Entity π) : Service π :=
  { s with entity, replies := s.replies ++ [⟨none, []⟩], closing := false }

/-- One call, and the reply to it. There is no result where the entity panics, which `perform_total`
excludes. -/
def perform (s : Service π) : EntityCall π → Option (Service π)
  | .init config callbacks => some (s.reset (s.entity.init config callbacks))
  | .deinit => some (s.reset s.entity.deinit)
  | .onUdpRx srcAddr srcPort data => do
    let (entity, p) ← s.entity.onUdpRx srcAddr srcPort data { state := s.state, calls := [] }
    return { s with entity, state := p.state, replies := s.replies ++ [⟨none, p.calls⟩] }
  | .onTcpRx data => do
    let (verdict, entity, p) ← s.entity.onTcpRx data { state := s.state, calls := [] }
    return { entity, state := p.state, replies := s.replies ++ [⟨some verdict, p.calls⟩],
             closing := verdict = .close }
  | .onTcpDisconnect => some (s.reset s.entity.onTcpDisconnect)

theorem perform_onUdpRx {s : Service π} {srcAddr : UInt32} {srcPort : UInt16} {data : List UInt8}
    {e : Entity π} {p : Platform π}
    (h : s.entity.onUdpRx srcAddr srcPort data ⟨s.state, []⟩ = some (e, p)) :
    s.perform (.onUdpRx srcAddr srcPort data) =
      some { s with entity := e, state := p.state, replies := s.replies ++ [⟨none, p.calls⟩] } := by
  rw [perform, h]
  rfl

theorem perform_onTcpRx {s : Service π} {data : List UInt8} {verdict : TcpVerdict} {e : Entity π}
    {p : Platform π} (h : s.entity.onTcpRx data ⟨s.state, []⟩ = some (verdict, e, p)) :
    s.perform (.onTcpRx data) =
      some ⟨e, p.state, s.replies ++ [⟨some verdict, p.calls⟩], verdict = .close⟩ := by
  rw [perform, h]
  rfl

end Service

/-! ## What a chunk does -/

/-- Everything feeding a chunk can come to, with the verdict, the entity and the platform after
it. -/
inductive Entity.Fed (e : Entity π) (data : List UInt8) (p : Platform π) :
    TcpVerdict → Entity π → Platform π → Prop where
  /-- Nobody serves the connection: the entity was not initialised, or stopped serving. -/
  | unserved (hcb : e.callbacks = none) : Fed e data p .close e p
  /-- An empty chunk changes nothing, whatever the entity waits for. -/
  | empty (hdata : data = []) : Fed e data p .keepOpen e p
  /-- A chunk that does not fit closes the connection, with a negative acknowledgement and the
  residue as it was. -/
  | overflow {cb : Callbacks π} (hcb : e.callbacks = some cb)
      (hover : TCP_RX_CAP < e.rxLen + data.length) :
      Fed e data p .close { e with txBuf := txAfter e.txBuf (nackFrame .outOfMemory) }
        (p.sendTcp cb (nackFrame .outOfMemory))
  /-- Any other chunk is drained behind the residue, and what the drain leaves is the new
  residue. -/
  | drained {cb : Callbacks π} {e' : Entity π} (hcb : e.callbacks = some cb)
      (hfit : e.rxLen + data.length ≤ TCP_RX_CAP)
      (hsession : e'.session cb = (conclude (e.drainOf ι cb data p)).2.1)
      (hcb' : e'.callbacks = some cb) (hcap : e'.rxLen ≤ TCP_RX_CAP)
      (hresidue : e'.residue = (e.drainOf ι cb data p).2.2) :
      Fed e data p (conclude (e.drainOf ι cb data p)).1 e'
        (conclude (e.drainOf ι cb data p)).2.2

/-- **Feeding a chunk** never panics, and comes to one of these. Nothing is asked of the
platform. -/
theorem Entity.onTcpRx_fed (e : Entity π) (data : List UInt8) (p : Platform π) :
    ∃ verdict e' p', e.onTcpRx data p = some (verdict, e', p') ∧
      e.Fed (ι := ι) data p verdict e' p' := by
  cases hcb : e.callbacks with
  | none => exact ⟨.close, e, p, by rw [onTcpRx, hcb], .unserved hcb⟩
  | some cb =>
    by_cases hdata : data = []
    · subst hdata
      exact ⟨.keepOpen, e, p, onTcpRx_nil hcb p, .empty rfl⟩
    by_cases hfit : e.rxLen + data.length ≤ TCP_RX_CAP
    · obtain ⟨e', hrx, hsession, hcb', -, hcap, hresidue⟩ :=
        onTcpRx_spec (ι := ι) (p := p) hcb hdata hfit
      exact ⟨_, e', _, hrx, .drained hcb hfit hsession hcb' hcap hresidue⟩
    · exact ⟨_, _, _, onTcpRx_overflow hcb hdata (by omega), .overflow hcb (by omega)⟩

/-! ## The framer stays in its buffer -/

/-- `&xs[a..b]`, which panics out of range. -/
def sliceRange (xs : List UInt8) (a b : Nat) : Option (List UInt8) :=
  if a ≤ b ∧ b ≤ xs.length then some ((xs.take b).drop a) else none

/-- `try_frame` with each slice and the subtraction checked, so that a panic would show. -/
def tryFrameChecked (buf : List UInt8) :
    Option (Except (MessageError ι) (Option (RawFrame × Nat))) :=
  if buf.length < Header.SIZE then
    some (.ok none)
  else do
    let head ← sliceTo buf Header.SIZE
    match Header.decode head with
    | .error e => return .error e
    | .ok (header, _) =>
      let payloadLen := header.payloadLength.toNat
      let available ← checkedSub buf.length Header.SIZE
      if available < payloadLen then
        return .ok none
      else
        let total := Header.SIZE + payloadLen
        let payload ← sliceRange buf Header.SIZE total
        return .ok (some ({ header, payload }, total))

/-- The framer never slices out of its buffer, for any bytes. -/
theorem tryFrameChecked_eq (buf : List UInt8) :
    tryFrameChecked (ι := ι) buf = some (tryFrame buf) := by
  unfold tryFrameChecked tryFrame
  by_cases hs : buf.length < Header.SIZE
  · rw [if_pos hs, if_pos hs]
  · rw [if_neg hs, if_neg hs, sliceTo, if_pos (Nat.le_of_not_lt hs), Option.bind_eq_bind,
      Option.bind_some]
    cases Header.decode (ι := ι) (buf.take Header.SIZE) with
    | error e => rfl
    | ok x =>
      rw [checkedSub, if_pos (Nat.le_of_not_lt hs), ok_bind]
      simp only [Option.bind_eq_bind, Option.bind_some]
      split
      · rfl
      · rw [sliceRange, if_pos (by omega), Option.bind_some]
        rfl

/-! ## What stays in the buffer -/

/-- The residue is the front of a frame that still fits: fewer bytes than a header, or a sound
header and fewer bytes than it declares, which the buffer can hold. -/
def Entity.AwaitsMore (ι : Type) [WireCodec ι] (e : Entity π) : Prop :=
  e.rxLen < Header.SIZE ∨ ∃ header rest,
    Header.decode (ι := ι) e.residue = .ok (header, rest) ∧
    header.payloadLength.toNat ≤ MAX_RX_PAYLOAD ∧
    e.rxLen < Header.SIZE + header.payloadLength.toNat ∧
    Header.SIZE + header.payloadLength.toNat ≤ TCP_RX_CAP

/-- A residue the loop cannot decide waits for more of one frame: its header is incomplete, or
declares more than there is and no more than fits. -/
theorem Entity.awaitsMore_of_more {e : Entity π} (hcap : e.rxLen ≤ TCP_RX_CAP)
    (h : readFrame tcpCheck e.residue = .more) : e.AwaitsMore ι := by
  by_cases hs : e.rxLen < Header.SIZE
  · exact .inl hs
  have hlen := e.length_residue hcap
  have h8 : 8 ≤ e.residue.length := by
    rw [hlen]
    exact Nat.le_of_not_lt hs
  obtain ⟨v, i, t, n, rest, hr⟩ := exists_rawHeader h8
  rw [hr, List.length_append, length_rawHeader] at hlen
  rw [hr, readFrame_raw, tcpCheck_headerOf] at h
  have hmax : Header.SIZE + MAX_RX_PAYLOAD = TCP_RX_CAP := rfl
  have hsize : Header.SIZE = 8 := rfl
  -- a header that fails a check, or a whole frame, would have been decided
  by_cases hi : ~~~v = i
  · by_cases hn : n.toNat > MAX_RX_PAYLOAD
    · simp [hi, hn] at h
    · by_cases hrest : rest.length < n.toNat
      · refine .inr ⟨headerOf v i t n, rest, ?_, Nat.le_of_not_lt hn, ?_, ?_⟩
        · rw [hr, Header.decode_raw, if_pos hi]
        · change e.rxLen < Header.SIZE + n.toNat
          omega
        · change Header.SIZE + n.toNat ≤ _
          omega
      · simp [hi, hn, hrest] at h
  · simp [hi] at h

/-- A full buffer is decided: no frame the entity accepts is longer. -/
theorem readFrame_full {buf : List UInt8} (h : buf.length = TCP_RX_CAP) :
    readFrame tcpCheck buf ≠ .more := by
  have hcap : TCP_RX_CAP = 8 + MAX_RX_PAYLOAD := rfl
  obtain ⟨v, i, t, n, rest, rfl⟩ := exists_rawHeader (show 8 ≤ buf.length by omega)
  rw [List.length_append, length_rawHeader] at h
  rw [readFrame_raw, tcpCheck_headerOf]
  by_cases hi : ~~~v = i
  · by_cases hn : n.toNat > MAX_RX_PAYLOAD
    · simp [hi, hn]
    · have hrest : ¬ rest.length < n.toNat := by omega
      simp [hi, hn, hrest]
  · simp [hi]

namespace Entity.Fed

variable {e e' : Entity π} {data : List UInt8} {p p' : Platform π} {verdict : TcpVerdict}

/-- The buffer is never overrun, whatever a chunk comes to. -/
theorem rxLen_le (h : e.Fed (ι := ι) data p verdict e' p') (hcap : e.rxLen ≤ TCP_RX_CAP) :
    e'.rxLen ≤ TCP_RX_CAP := by
  cases h with
  | unserved | empty | overflow => exact hcap
  | drained _ _ _ _ hcap' => exact hcap'

/-- A connection that stays open waits for more of a frame, if it did before. -/
theorem waits (h : e.Fed (ι := ι) data p .keepOpen e' p')
    (hmore : readFrame tcpCheck e.residue = .more) : readFrame tcpCheck e'.residue = .more := by
  generalize hv : TcpVerdict.keepOpen = verdict at h
  cases h with
  | unserved | overflow => cases hv
  | empty => exact hmore
  | @drained cb _ _ _ _ _ _ hresidue =>
    rw [hresidue]
    generalize hd : e.drainOf ι cb data p = d at hv
    obtain ⟨x, stop, r⟩ := d
    -- only a drain that waits for more keeps the connection open
    cases stop with
    | waiting => exact read_of_drain_waiting hd
    | failed | halted => cases hv

end Entity.Fed

/-! ## Every run -/

namespace Service

/-- What the platform owes the entity: after a close, no chunk before the next reset. -/
def ResetAfterClose (s : Service π) (call : EntityCall π) : Prop :=
  s.closing = true → ∀ data, call ≠ .onTcpRx data

/-- The residue waits for more unless the connection is to be closed. -/
def Waits (s : Service π) : Prop :=
  s.closing = false → readFrame tcpCheck s.entity.residue = .more

/-- Every call succeeds and stays within the buffer, from any state in which the buffer was not
overrun. -/
theorem perform_total {s : Service π} (hcap : s.entity.rxLen ≤ TCP_RX_CAP) (call : EntityCall π) :
    ∃ s', s.perform (ι := ι) call = some s' ∧ s'.entity.rxLen ≤ TCP_RX_CAP := by
  cases call with
  | init | deinit | onTcpDisconnect => exact ⟨_, rfl, Nat.zero_le _⟩
  | onUdpRx srcAddr srcPort data =>
    rcases s.entity.onUdpRx_spec (ι := ι) srcAddr srcPort data ⟨s.state, []⟩
      with hrx | ⟨cb, frame, -, hrx⟩
    · exact ⟨_, perform_onUdpRx hrx, hcap⟩
    · exact ⟨_, perform_onUdpRx hrx, hcap⟩
  | onTcpRx data =>
    obtain ⟨verdict, e', p', hrx, hfed⟩ := s.entity.onTcpRx_fed (ι := ι) data ⟨s.state, []⟩
    exact ⟨_, perform_onTcpRx hrx, hfed.rxLen_le hcap⟩

/-- A session just reset has nothing in its buffer, so that it waits for a header. -/
theorem waits_of_empty {s : Service π} (h : s.entity.rxLen = 0) : s.Waits := by
  intro _
  rw [Entity.residue, h, List.take_zero]
  exact readFrame_short _ (by decide)

/-- A platform that resets after a close keeps the entity waiting for one frame at a time. -/
theorem perform_waits {s s' : Service π} {call : EntityCall π} (hreset : s.ResetAfterClose call)
    (h : s.perform (ι := ι) call = some s') (hw : s.Waits) : s'.Waits := by
  cases call with
  | init | deinit | onTcpDisconnect =>
    cases h
    exact waits_of_empty rfl
  | onUdpRx srcAddr srcPort data =>
    rcases s.entity.onUdpRx_spec (ι := ι) srcAddr srcPort data ⟨s.state, []⟩
      with hrx | ⟨cb, frame, -, hrx⟩ <;>
    · rw [perform_onUdpRx hrx] at h
      cases h
      exact hw
  | onTcpRx data =>
    have hopen : s.closing = false := by
      cases hclosing : s.closing with
      | false => rfl
      | true => exact absurd rfl (hreset hclosing data)
    obtain ⟨verdict, e', p', hrx, hfed⟩ := s.entity.onTcpRx_fed (ι := ι) data ⟨s.state, []⟩
    rw [perform_onTcpRx hrx] at h
    cases h
    intro hkept
    cases verdict with
    | keepOpen => exact hfed.waits (hw hopen)
    | close => cases hkept

end Service

/-- **The reassembly buffer stays in bounds.** Every sequence of calls is served, without a panic or
an endless loop, whatever the platform's dispatch reports; the buffer is never overrun, its length
plus that of any slice fits a `usize` of `w` bits, and the framer slices within its buffer. If the
platform resets the entity after every close, then a chunk that leaves the connection open leaves
the front of one frame that fits the buffer, and a full buffer is always decided. -/
theorem reassembly_stays_in_bounds (state : π) (calls : List (EntityCall π)) :
    (∃ s, run (Service.perform (ι := ι)) (Service.start state) calls = some s ∧
      s.entity.rxLen ≤ TCP_RX_CAP ∧
      ∀ (w : Nat) (data : List UInt8), 16 ≤ w → data.length ≤ 2 ^ (w - 1) - 1 →
        s.entity.rxLen + data.length ≤ 2 ^ w - 1) ∧
    (∀ buf, tryFrameChecked (ι := ι) buf = some (tryFrame buf)) ∧
    ∀ s, Along (Service.perform (ι := ι)) Service.ResetAfterClose (Service.start state) calls →
      run (Service.perform (ι := ι)) (Service.start state) calls = some s → s.closing = false →
      ∀ data e p, s.entity.onTcpRx (ι := ι) data ⟨s.state, []⟩ = some (.keepOpen, e, p) →
        e.AwaitsMore ι ∧ ∀ chunk, e.rxLen + chunk.length = TCP_RX_CAP →
          readFrame tcpCheck (e.residue ++ chunk) ≠ .more := by
  have hstart : (Service.start state).entity.rxLen ≤ TCP_RX_CAP := Nat.zero_le _
  obtain ⟨s, hrun, hcap⟩ := run_total (P := fun s : Service π => s.entity.rxLen ≤ TCP_RX_CAP)
    (fun s call h => s.perform_total (ι := ι) h call) hstart calls
  refine ⟨⟨s, hrun, hcap, ?_⟩, tryFrameChecked_eq, ?_⟩
  · intro w data hw hdata
    have h2048 : TCP_RX_CAP = 2048 := rfl
    have hhalf : 2 ^ w = 2 * 2 ^ (w - 1) := by
      rw [← Nat.pow_succ', Nat.succ_eq_add_one, Nat.sub_add_cancel (by omega : 1 ≤ w)]
    have hlarge : 2 ^ 15 ≤ 2 ^ (w - 1) := Nat.pow_le_pow_right (by omega) (by omega)
    omega
  · intro s' hresets hrun' hopen data e p hrx
    rw [hrun] at hrun'
    cases hrun'
    have hwaits : s.Waits := run_invariant_along (P := Service.Waits)
      (fun _ _ _ hG hstep hw => Service.perform_waits hG hstep hw) hresets hrun
      (Service.waits_of_empty rfl)
    obtain ⟨verdict, e', p', hrx', hfed⟩ := s.entity.onTcpRx_fed (ι := ι) data ⟨s.state, []⟩
    rw [hrx] at hrx'
    cases hrx'
    have hcap' := hfed.rxLen_le hcap
    refine ⟨Entity.awaitsMore_of_more hcap' (hfed.waits (hwaits hopen)), fun chunk hfull => ?_⟩
    refine readFrame_full ?_
    rw [List.length_append, Entity.length_residue hcap', hfull]

end

/-- A broken header closes the connection, the platform resets the entity, and the front of a
diagnostic message arrives on the next one. -/
def closedAndReset : List (EntityCall Unit) :=
  [.init blankConfig silentCallbacks, .onTcpRx [0x02, 0xFC, 0x00, 0x07, 0x00, 0x00, 0x00, 0x00],
    .onTcpDisconnect, .onTcpRx [0x02, 0xFD, 0x80]]

/-- The rest of its header and two bytes of its payload leave the connection open, and the entity
waiting for the other four. -/
theorem reassembly_stays_in_bounds_after_close :
    letI := plainWire
    ∃ s e p, run Service.perform (Service.start ()) closedAndReset = some s ∧
      s.replies.map Outcome.verdict = [none, some .close, none, some .keepOpen] ∧
      s.entity.onTcpRx [0x01, 0x00, 0x00, 0x00, 0x06, 0x0E, 0x00] ⟨s.state, []⟩ =
        some (.keepOpen, e, p) ∧
      Header.SIZE < e.rxLen ∧ e.AwaitsMore Incomplete := by
  let := plainWire
  have h : ∃ s r, run Service.perform (Service.start ()) closedAndReset = some s ∧
      s.entity.onTcpRx [0x01, 0x00, 0x00, 0x00, 0x06, 0x0E, 0x00] ⟨s.state, []⟩ = some r ∧
      s.replies.map Outcome.verdict = [none, some .close, none, some .keepOpen] ∧
      s.closing = false ∧ r.1 = .keepOpen ∧ Header.SIZE < r.2.1.rxLen :=
    exists_of_any_part (fun s : Service Unit =>
      s.entity.onTcpRx [0x01, 0x00, 0x00, 0x00, 0x06, 0x0E, 0x00] ⟨s.state, []⟩)
      (by decide +kernel)
  obtain ⟨s, ⟨verdict, e, p⟩, hrun, hrx, hverdicts, hopen, hkeep, hlength⟩ := h
  cases hkeep
  refine ⟨s, e, p, hrun, hverdicts, hrx, hlength, ?_⟩
  refine ((reassembly_stays_in_bounds () closedAndReset).2.2 s ?_ hrun hopen _ e p hrx).1
  -- a chunk comes only after the initialisation and after the reset
  refine ⟨fun h => (by cases h), fun s₁ h₁ => ?_⟩
  cases h₁
  refine ⟨fun h => (by cases h), fun s₂ _ => ⟨fun _ data h => (by cases h), fun s₃ h₃ => ?_⟩⟩
  cases h₃
  exact ⟨fun h => (by cases h), fun _ _ => trivial⟩

end SimpleDoip
