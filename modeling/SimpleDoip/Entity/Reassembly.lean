import SimpleDoip.Entity.Frames

/-!
# Reassembly

`handle_tcp_bytes` appends a chunk to the reassembly buffer and handles the frames it completes.
What matters of the buffer is the part in use, `TcpState.residue`, and `handleTcpLoop_spec` says
that the loop is a drain of it: nothing of the fixed buffer, its compaction or its stale bytes
shows. Chunk independence and the capacity bound both follow from the laws of the drain.
-/

namespace SimpleDoip

open Framing

section
variable {ι : Type} [WireCodec ι] {π : Type}

/-- The entity's check of a header: its inverse byte, then the length it can reassemble. -/
def tcpCheck (h : Header) : Option NackCode :=
  if h.protocolVersion.inverse ≠ h.inverseProtocolVersion then some .incorrectPatternFormat
  else if h.payloadLength.toNat > MAX_RX_PAYLOAD then some .messageTooLarge
  else none

/-- The bytes waiting in the reassembly buffer: the front of a frame, between calls. -/
def TcpState.residue (st : TcpState π) : List UInt8 := st.rxBuf.toList.take st.rxLen

theorem TcpState.length_residue {st : TcpState π} (h : st.rxLen ≤ TCP_RX_CAP) :
    st.residue.length = st.rxLen := by
  rw [residue, List.length_take, st.rxBuf.toList_length]
  omega

/-- Handling a frame, as a step of the drain: go on while the verdict is to keep the connection
open. -/
def frameStep (x : Session π × Platform π) (frame : RawFrame) :
    Step (Session π × Platform π) Unit :=
  match handleTcpFrame x.1 frame.header frame.payload x.2 with
  | some (.keepOpen, x') => .next x'
  | some (.close, x') => .halt x' ()
  | none => .halt x ()

/-- What the loop returns for a drain that ended: a header that fails its check is answered with
the reason and closes the connection. -/
def conclude : (Session π × Platform π) × Stop NackCode Unit × List UInt8 →
    TcpVerdict × Session π × Platform π
  | (x, .waiting, _) => (.keepOpen, x)
  | (x, .failed code, _) => (.close, transmit (nackFrame code) x)
  | (x, .halted _, _) => (.close, x)

/-- The state after a negative acknowledgement, its reassembly buffer untouched. -/
def TcpState.nacked (st : TcpState π) (code : NackCode) : TcpState π :=
  { st with
    session := (transmit (nackFrame code) (st.session, st.platform)).1
    platform := (transmit (nackFrame code) (st.session, st.platform)).2 }

theorem rejectWith_eq (code : NackCode) (st : TcpState π) :
    rejectWith code st = some (.close, st.nacked code) := by
  rw [rejectWith, sendTcpNack_eq]
  rfl

/-! ## The loop as a drain -/

/-- What the two checks at the top of the loop make of the residue, as a reading: the size is
checked first, then the frame is cut. -/
inductive Front (st : TcpState π) : Reading NackCode RawFrame → Prop where
  | tooLarge (h : declaresTooLarge st = some true) : Front st (.fail .messageTooLarge)
  | incorrect {e : MessageError ι} (h : declaresTooLarge st = some false)
      (ht : tryFrame st.residue = .error e) : Front st (.fail .incorrectPatternFormat)
  | more (h : declaresTooLarge st = some false)
      (ht : tryFrame (ι := ι) st.residue = .ok none) : Front st .more
  | item {frame : RawFrame} {consumed : Nat} (h : declaresTooLarge st = some false)
      (ht : tryFrame (ι := ι) st.residue = .ok (some (frame, consumed))) :
      Front st (.item frame consumed)

theorem tcpCheck_headerOf (v i : UInt8) (t : UInt16) (n : UInt32) :
    tcpCheck (headerOf v i t n) =
      if ~~~v ≠ i then some .incorrectPatternFormat
      else if n.toNat > MAX_RX_PAYLOAD then some .messageTooLarge else none := by
  have hv : (headerOf v i t n).protocolVersion.inverse = ~~~v := ProtocolVersion.inverse_ofU8 v
  rw [tcpCheck, hv]
  rfl

/-- The loop reads the front of its residue as the reader of the drain does. -/
theorem front_of_residue {st : TcpState π} (hlen : st.rxLen ≤ TCP_RX_CAP) :
    Front (ι := ι) st (readFrame tcpCheck st.residue) := by
  have hres := st.length_residue hlen
  have hread := readingOf_tryFrame (ι := ι) st.residue
  by_cases hs : st.residue.length < 8
  · have hd : declaresTooLarge (ι := ι) st = some false := by
      rw [declaresTooLarge, if_neg (by rw [Header.SIZE]; omega)]
    rw [readFrame_short _ hs]
    exact .more hd (by rw [tryFrame, if_pos (by exact hs)])
  obtain ⟨v, i, t, n, rest, hr⟩ := exists_rawHeader (Nat.le_of_not_lt hs)
  have hhead : sliceTo st.rxBuf.toList Header.SIZE = some (rawHeader v i t n ++ []) := by
    have htake : st.rxBuf.toList.take Header.SIZE = st.residue.take Header.SIZE := by
      rw [TcpState.residue, List.take_take, Nat.min_eq_left (by rw [Header.SIZE]; omega)]
    rw [sliceTo, if_pos (by rw [st.rxBuf.toList_length]; decide), htake, hr, List.append_nil,
      Header.SIZE, List.take_left' (length_rawHeader v i t n)]
  have hd : declaresTooLarge (ι := ι) st =
      some (if ~~~v = i then decide (n.toNat > MAX_RX_PAYLOAD) else false) := by
    rw [declaresTooLarge, if_pos (by rw [Header.SIZE]; omega), hhead, Option.bind_eq_bind,
      Option.bind_some, Header.decode_raw]
    by_cases hi : ~~~v = i <;> simp only [hi, if_true, if_false] <;> rfl
  rw [hr, readFrame_raw, inverseCheck_headerOf, ← hr] at hread
  rw [hr, readFrame_raw, tcpCheck_headerOf]
  by_cases hi : ~~~v = i
  · simp only [hi, if_true, ne_eq, not_true_eq_false, if_false] at hd hread ⊢
    by_cases hn : n.toNat > MAX_RX_PAYLOAD
    · simp only [hn, if_true, decide_true] at hd ⊢
      exact .tooLarge hd
    · simp only [hn, if_false, decide_false] at hd ⊢
      split at hread
      · next hlt =>
        rw [if_pos hlt]
        exact .more hd (readingOf_injective hread)
      · next hlt =>
        rw [if_neg hlt]
        exact .item hd (readingOf_injective hread)
  · simp only [hi, if_false, ne_eq, not_false_eq_true, if_true] at hd hread ⊢
    exact .incorrect hd (readingOf_injective hread)

/-! ### Compaction -/

/-- Compaction drops the handled frame from the residue. What lies behind the residue does not
matter. -/
theorem copyWithin_eq {n : Nat} (buf : U8Array n) {consumed len : Nat} (hc : consumed ≤ len)
    (hl : len ≤ n) :
    ∃ buf', copyWithin buf consumed len = some buf' ∧
      buf'.toList.take (len - consumed) = (buf.toList.take len).drop consumed := by
  refine ⟨_, dif_pos ⟨hc, hl⟩, ?_⟩
  change (((buf.toList.take len).drop consumed) ++ _).take (len - consumed) = _
  rw [List.take_left']
  rw [List.length_drop, List.length_take, buf.toList_length, Nat.min_eq_left hl]

/-- Appending a chunk puts it behind the residue. What lies behind both does not matter. -/
theorem copyFromSlice_eq {n : Nat} (buf : U8Array n) {len : Nat} {data : List UInt8}
    (h : len + data.length ≤ n) :
    ∃ buf', copyFromSlice buf len data = some buf' ∧
      buf'.toList.take (len + data.length) = buf.toList.take len ++ data := by
  refine ⟨_, dif_pos h, ?_⟩
  change (buf.toList.take len ++ (data ++ _)).take (len + data.length) = _
  rw [← List.append_assoc, List.take_left']
  rw [List.length_append, List.length_take, buf.toList_length, Nat.min_eq_left (by omega)]

/-- **The receive loop is a drain of the residue.** It ends, and returns what the drain concludes
with, holding the bytes the drain left. -/
theorem handleTcpLoop_spec {fuel : Nat} (st : TcpState π) (hlen : st.rxLen ≤ TCP_RX_CAP)
    (hfuel : st.rxLen < fuel) :
    ∃ st', handleTcpLoop fuel st =
        some ((conclude (drain (frameCutter tcpCheck) frameStep (st.session, st.platform)
          st.residue)).1, st') ∧
      (st'.session, st'.platform) =
        (conclude (drain (frameCutter tcpCheck) frameStep (st.session, st.platform)
          st.residue)).2 ∧
      st'.rxLen ≤ TCP_RX_CAP ∧
      st'.residue =
        (drain (frameCutter tcpCheck) frameStep (st.session, st.platform) st.residue).2.2 := by
  induction fuel generalizing st with
  | zero => omega
  | succ fuel ih =>
    have hslice : sliceTo st.rxBuf.toList st.rxLen = some st.residue := by
      rw [sliceTo, if_pos (by rw [st.rxBuf.toList_length]; exact hlen), TcpState.residue]
    have hfront := front_of_residue (ι := ι) hlen
    generalize hr : readFrame tcpCheck st.residue = reading at hfront
    cases hfront with
    | tooLarge h =>
      rw [drain_fail (c := frameCutter tcpCheck) hr]
      refine ⟨st.nacked _, ?_, rfl, hlen, rfl⟩
      simp only [handleTcpLoop, h, Option.bind_eq_bind, Option.bind_some, if_true]
      exact rejectWith_eq _ st
    | incorrect h ht =>
      rw [drain_fail (c := frameCutter tcpCheck) hr]
      refine ⟨st.nacked _, ?_, rfl, hlen, rfl⟩
      simp only [handleTcpLoop, h, ht, hslice, Option.bind_eq_bind, Option.bind_some,
        Bool.false_eq_true, if_false]
      exact rejectWith_eq _ st
    | more h ht =>
      rw [drain_more (c := frameCutter tcpCheck) hr]
      refine ⟨st, ?_, rfl, hlen, rfl⟩
      simp only [handleTcpLoop, h, ht, hslice, Option.bind_eq_bind, Option.bind_some,
        Bool.false_eq_true, if_false]
      rfl
    | @item frame consumed h ht =>
      obtain ⟨verdict, x, hx, -⟩ :=
        handleTcpFrame_spec (ι := ι) st.session frame.header frame.payload st.platform
      have hcons : consumed ≤ st.rxLen := by
        have := (frameCutter tcpCheck).item_le hr
        rwa [st.length_residue hlen] at this
      have hpos : 0 < consumed := (frameCutter tcpCheck).item_pos hr
      cases verdict with
      | close =>
        have hstep : frameStep (ι := ι) (st.session, st.platform) frame = .halt x () := by
          simp only [frameStep, hx]
        rw [drain_halt (c := frameCutter tcpCheck) hr hstep]
        refine ⟨{ st with session := x.1, platform := x.2 }, ?_, rfl, hlen, rfl⟩
        simp only [handleTcpLoop, h, ht, hx, hslice, Option.bind_eq_bind, Option.bind_some,
          Bool.false_eq_true, if_false]
        rfl
      | keepOpen =>
        have hstep : frameStep (ι := ι) (st.session, st.platform) frame = .next x := by
          simp only [frameStep, hx]
        obtain ⟨buf', hbuf, hres⟩ := copyWithin_eq st.rxBuf hcons hlen
        have hsub : checkedSub st.rxLen consumed = some (st.rxLen - consumed) := if_pos hcons
        obtain ⟨st', hloop, hrest⟩ := ih ⟨x.1, st.rxLen - consumed, buf', x.2⟩
          (by simp only; omega) (by simp only; omega)
        have hres' : TcpState.residue ⟨x.1, st.rxLen - consumed, buf', x.2⟩ =
            st.residue.drop consumed := hres
        rw [hres'] at hloop hrest
        rw [drain_next (c := frameCutter tcpCheck) hr hstep]
        refine ⟨st', ?_, hrest⟩
        simp only [handleTcpLoop, h, ht, hx, hslice, hbuf, hsub, Option.bind_eq_bind,
          Option.bind_some, Bool.false_eq_true, if_false, ne_eq, not_true_eq_false]
        exact hloop

/-! ## What no frame changes -/

/-- Two sessions of one connection: same callbacks, same own address. The tester and the buffers may
have changed. -/
def SameConnection (s s' : Session π) : Prop := s'.cb = s.cb ∧ s'.ownAddress = s.ownAddress

theorem Handled.sameConnection {s : Session π} {p : Platform π} {header : Header}
    {payload : List UInt8} {verdict : TcpVerdict} {x : Session π × Platform π}
    (h : Handled (ι := ι) s p header payload verdict x) : SameConnection s x.1 := by
  cases h with
  | granted | denied | rejected | unserved => exact ⟨rfl, rfl⟩
  | dispatched dm => exact ⟨dispatch_cb _ _ _, dispatch_ownAddress _ _ _⟩

/-- A step of the drain is what handling its frame does: it goes on if the connection stays open,
and halts if not. -/
theorem frameStep_cases (x : Session π × Platform π) (frame : RawFrame) :
    (∃ x', frameStep (ι := ι) x frame = .next x' ∧
      Handled (ι := ι) x.1 x.2 frame.header frame.payload .keepOpen x') ∨
    (∃ x', frameStep (ι := ι) x frame = .halt x' () ∧
      Handled (ι := ι) x.1 x.2 frame.header frame.payload .close x') := by
  obtain ⟨verdict, x', hx, hh⟩ :=
    handleTcpFrame_spec (ι := ι) x.1 frame.header frame.payload x.2
  cases verdict with
  | keepOpen => exact .inl ⟨x', by simp only [frameStep, hx], hh⟩
  | close => exact .inr ⟨x', by simp only [frameStep, hx], hh⟩

/-- A drain keeps every relation between the session, the platform and the bytes left that handling
a frame keeps. A frame that closes the connection stays in front of the bytes left. -/
theorem drain_frames_invariant {P : Session π × Platform π → List UInt8 → Prop}
    (hP : ∀ x x' s frame n verdict, readFrame tcpCheck s = .item frame n →
      Handled (ι := ι) x.1 x.2 frame.header frame.payload verdict x' → P x s →
      P x' s ∧ P x' (s.drop n))
    {x : Session π × Platform π} {s : List UInt8} (hx : P x s) :
    P (drain (frameCutter tcpCheck) (frameStep (ι := ι)) x s).1
      (drain (frameCutter tcpCheck) (frameStep (ι := ι)) x s).2.2 := by
  refine drain_invariant ?_ ?_ hx
  · intro x s frame n x' hr hf hx
    rcases frameStep_cases (ι := ι) x frame with ⟨x'', h, hh⟩ | ⟨x'', h, hh⟩
    · rw [h] at hf
      cases hf
      exact (hP x x' s frame n _ hr hh hx).2
    · rw [h] at hf
      cases hf
  · intro x s frame n x' t hr hf hx
    rcases frameStep_cases (ι := ι) x frame with ⟨x'', h, hh⟩ | ⟨x'', h, hh⟩
    · rw [h] at hf
      cases hf
    · rw [h] at hf
      cases hf
      exact (hP x x' s frame n _ hr hh hx).1

/-- Concluding a drain at most adds a negative acknowledgement to what handling its frames did. -/
theorem conclude_cases (d : (Session π × Platform π) × Stop NackCode Unit × List UInt8) :
    (conclude d).2 = d.1 ∨ ∃ code, (conclude d).2 = transmit (nackFrame code) d.1 := by
  obtain ⟨x, stop, r⟩ := d
  cases stop with
  | waiting => exact .inl rfl
  | failed code => exact .inr ⟨code, rfl⟩
  | halted => exact .inl rfl

theorem sameConnection_conclude_drain (x : Session π × Platform π) (s : List UInt8) :
    SameConnection x.1
      (conclude (drain (frameCutter tcpCheck) (frameStep (ι := ι)) x s)).2.1 := by
  have h : SameConnection x.1 (drain (frameCutter tcpCheck) (frameStep (ι := ι)) x s).1.1 := by
    refine drain_frames_invariant (P := fun y _ => SameConnection x.1 y.1) ?_ ⟨rfl, rfl⟩
    intro y y' s' frame n verdict _ hh hy
    have hy' : SameConnection x.1 y'.1 :=
      ⟨hh.sameConnection.1.trans hy.1, hh.sameConnection.2.trans hy.2⟩
    exact ⟨hy', hy'⟩
  rcases conclude_cases (ι := ι) (drain (frameCutter tcpCheck) (frameStep (ι := ι)) x s)
    with hc | ⟨code, hc⟩ <;> rw [hc] <;> exact h

/-! ## Receiving a chunk -/

namespace Entity

/-- The bytes waiting in the entity's reassembly buffer, between two chunks. -/
def residue (e : Entity π) : List UInt8 := e.rxBuf.toList.take e.rxLen

theorem length_residue {e : Entity π} (h : e.rxLen ≤ TCP_RX_CAP) : e.residue.length = e.rxLen := by
  rw [residue, List.length_take, e.rxBuf.toList_length]
  omega

/-- The drain of a chunk behind the entity's residue, from the session the entity has. -/
def drainOf (ι : Type) [WireCodec ι] (e : Entity π) (cb : Callbacks π) (data : List UInt8)
    (p : Platform π) : (Session π × Platform π) × Stop NackCode Unit × List UInt8 :=
  drain (frameCutter tcpCheck) (frameStep (ι := ι)) (e.session cb, p) (e.residue ++ data)

/-- **Receiving a chunk that fits** is a drain of the residue and the chunk. -/
theorem onTcpRx_spec {e : Entity π} {cb : Callbacks π} {data : List UInt8} {p : Platform π}
    (hcb : e.callbacks = some cb) (hdata : data ≠ [])
    (hfit : e.rxLen + data.length ≤ TCP_RX_CAP) :
    ∃ e', e.onTcpRx data p = some ((conclude (e.drainOf ι cb data p)).1, e',
        (conclude (e.drainOf ι cb data p)).2.2) ∧
      e'.session cb = (conclude (e.drainOf ι cb data p)).2.1 ∧ e'.callbacks = some cb ∧
      e'.logicalAddress = e.logicalAddress ∧ e'.rxLen ≤ TCP_RX_CAP ∧
      e'.residue = (e.drainOf ι cb data p).2.2 := by
  obtain ⟨buf', hbuf, hres⟩ := copyFromSlice_eq e.rxBuf hfit
  have hres' : TcpState.residue ⟨e.session cb, e.rxLen + data.length, buf', p⟩ =
      e.residue ++ data := hres
  obtain ⟨st', hloop, hst, hlen, hleft⟩ := handleTcpLoop_spec (ι := ι)
    ⟨e.session cb, e.rxLen + data.length, buf', p⟩ hfit (Nat.lt_succ_self _)
  rw [hres'] at hloop hst hleft
  have hbytes : handleTcpBytes ⟨e.session cb, e.rxLen, e.rxBuf, p⟩ data =
      some ((conclude (e.drainOf ι cb data p)).1, st') := by
    rw [handleTcpBytes, if_neg (by simp only; omega), hbuf]
    exact hloop
  have hsess : st'.session = (conclude (e.drainOf ι cb data p)).2.1 := congrArg Prod.fst hst
  have hplat : st'.platform = (conclude (e.drainOf ι cb data p)).2.2 := congrArg Prod.snd hst
  have hsame := sameConnection_conclude_drain (ι := ι) (e.session cb, p) (e.residue ++ data)
  refine ⟨{ e with
      activeTester := st'.session.activeTester, txBuf := st'.session.txBuf,
      udsRespBuf := st'.session.udsRespBuf, rxLen := st'.rxLen, rxBuf := st'.rxBuf },
    ?_, ?_, hcb, rfl, hlen, hleft⟩
  · rw [onTcpRx, hcb]
    simp only [List.isEmpty_iff, hdata, if_false, hbytes, Option.bind_eq_bind, Option.bind_some,
      ← hplat]
    rfl
  · have h1 : st'.session.cb = cb := by rw [hsess]; exact hsame.1
    have h2 : st'.session.ownAddress = e.logicalAddress := by rw [hsess]; exact hsame.2
    rw [← hsess, session, ← h1, ← h2]

/-- An empty chunk changes nothing, and keeps the connection open. -/
theorem onTcpRx_nil {e : Entity π} {cb : Callbacks π} (hcb : e.callbacks = some cb)
    (p : Platform π) : e.onTcpRx [] p = some (.keepOpen, e, p) := by
  rw [onTcpRx, hcb]
  rfl

/-- **Receiving a chunk that does not fit** closes the connection for lack of memory and leaves the
reassembly buffer alone. -/
theorem onTcpRx_overflow {e : Entity π} {cb : Callbacks π} {data : List UInt8} {p : Platform π}
    (hcb : e.callbacks = some cb) (hdata : data ≠ [])
    (hover : TCP_RX_CAP < e.rxLen + data.length) :
    e.onTcpRx data p = some (.close, { e with txBuf := txAfter e.txBuf (nackFrame .outOfMemory) },
      p.sendTcp cb (nackFrame .outOfMemory)) := by
  rw [onTcpRx, hcb]
  simp only [List.isEmpty_iff, hdata, if_false, handleTcpBytes, if_pos (show _ > _ from hover),
    rejectWith_eq]
  rfl

end Entity

end

end SimpleDoip
