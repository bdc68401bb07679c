import SimpleDoip.Entity.Service

/-!
# What one part of the entity cannot see of another

Two entities look alike if they agree on everything but the contents of their buffers: what is
staged for transmission, what an earlier response left behind, and what lies behind the residue.
`ServiceAlike.perform` says that a call made to both gets the same reply and keeps them alike, for
callbacks that cannot tell them apart either. Two results are instances of it. Datagrams received in
between change nothing on the TCP side, and nothing of one session is left for the next.
-/

namespace SimpleDoip

open Framing Transition

section
variable {ι : Type} [WireCodec ι] {π : Type}

/-! ## Callbacks that cannot tell two runs apart -/

/-- Callbacks that keep `S`-related platform states related and answer a request alike, given
`B`-related response buffers: they report the same length and leave the same bytes of response. -/
structure Callbacks.Respects (cb : Callbacks π) (S : π → π → Prop)
    (B : U8Array UDS_RESP_CAP → U8Array UDS_RESP_CAP → Prop) : Prop where
  sendUdp : ∀ dstAddr dstPort data {s t}, S s t →
    S (cb.sendUdp dstAddr dstPort data s).2 (cb.sendUdp dstAddr dstPort data t).2
  sendTcp : ∀ data {s t}, S s t → S (cb.sendTcp data s).2 (cb.sendTcp data t).2
  reported : ∀ request {b c s t}, B b c → S s t →
    (cb.onUdsRequest request b s).1 = (cb.onUdsRequest request c t).1
  response : ∀ request {b c s t}, B b c → S s t →
    udsResponse (cb.onUdsRequest request b s).1 (cb.onUdsRequest request b s).2.1 =
      udsResponse (cb.onUdsRequest request c t).1 (cb.onUdsRequest request c t).2.1
  buffer : ∀ request {b c s t}, B b c → S s t →
    B (cb.onUdsRequest request b s).2.1 (cb.onUdsRequest request c t).2.1
  state : ∀ request {b c s t}, B b c → S s t →
    S (cb.onUdsRequest request b s).2.2 (cb.onUdsRequest request c t).2.2

variable {S : π → π → Prop} {B : U8Array UDS_RESP_CAP → U8Array UDS_RESP_CAP → Prop}

/-! ## Frames -/

variable (S B) in
/-- Two sessions and their platforms that differ in what is staged, in `B`-related response buffers
and in `S`-related states only. -/
structure SessionAlike (x y : Session π × Platform π) : Prop where
  cb : x.1.cb = y.1.cb
  ownAddress : x.1.ownAddress = y.1.ownAddress
  activeTester : x.1.activeTester = y.1.activeTester
  udsRespBuf : B x.1.udsRespBuf y.1.udsRespBuf
  state : S x.2.state y.2.state
  calls : x.2.calls = y.2.calls
  respects : x.1.cb.Respects S B

/-- What a session and its platform become when the platform is asked: the response buffer and the
platform's state are new. -/
def asked (request : List UInt8) (x : Session π × Platform π) : Session π × Platform π :=
  ({ x.1 with udsRespBuf := (x.2.onUdsRequest x.1.cb request x.1.udsRespBuf).2.1 },
    (x.2.onUdsRequest x.1.cb request x.1.udsRespBuf).2.2)

/-- The length the platform reports when it is asked, which may be negative. -/
def reportedLength (request : List UInt8) (x : Session π × Platform π) : Int32 :=
  (x.2.onUdsRequest x.1.cb request x.1.udsRespBuf).1

/-- A dispatch acknowledges, asks, and answers if there is a response, in this order. -/
theorem dispatch_eq (tester : UInt16) (request : List UInt8) (x : Session π × Platform π) :
    dispatch tester request x =
      let x₁ := transmit (ackFrame .diagnosticMessagePositiveAcknowledge x.1.ownAddress tester
        .routingConfirmationAck) x
      if (reportedLength request x₁).toInt.toNat > 0 then
        transmit (diagnosticFrame x.1.ownAddress tester
          (udsResponse (reportedLength request x₁) (asked request x₁).1.udsRespBuf))
          (asked request x₁)
      else asked request x₁ :=
  rfl

namespace SessionAlike

variable {x y : Session π × Platform π}

/-- Both send the same frame, and differ behind it in their transmit buffers as before. -/
theorem transmit (h : SessionAlike S B x y) (frame : List UInt8) :
    SessionAlike S B (transmit frame x) (transmit frame y) where
  cb := h.cb
  ownAddress := h.ownAddress
  activeTester := h.activeTester
  udsRespBuf := h.udsRespBuf
  state := by
    change S (x.1.cb.sendTcp frame x.2.state).2 (y.1.cb.sendTcp frame y.2.state).2
    rw [← h.cb]
    exact h.respects.sendTcp frame h.state
  calls := by rw [transmit_calls, transmit_calls, h.calls]
  respects := h.respects

/-- Both register the same tester, which no platform sees. -/
theorem activate (h : SessionAlike S B x y) (activeTester : Option UInt16) :
    SessionAlike S B ({ x.1 with activeTester }, x.2) ({ y.1 with activeTester }, y.2) :=
  { h with activeTester := rfl }

/-- Both platforms are asked the same, and their states and response buffers stay related. -/
theorem ask (h : SessionAlike S B x y) (request : List UInt8) :
    SessionAlike S B (asked request x) (asked request y) where
  cb := h.cb
  ownAddress := h.ownAddress
  activeTester := h.activeTester
  udsRespBuf := by
    change B (x.1.cb.onUdsRequest request x.1.udsRespBuf x.2.state).2.1
      (y.1.cb.onUdsRequest request y.1.udsRespBuf y.2.state).2.1
    rw [← h.cb]
    exact h.respects.buffer request h.udsRespBuf h.state
  state := by
    change S (x.1.cb.onUdsRequest request x.1.udsRespBuf x.2.state).2.2
      (y.1.cb.onUdsRequest request y.1.udsRespBuf y.2.state).2.2
    rw [← h.cb]
    exact h.respects.state request h.udsRespBuf h.state
  calls := congrArg (· ++ [PlatformCall.onUdsRequest request]) h.calls
  respects := h.respects

/-- Both platforms report the same length, so that both respond or neither does. -/
theorem reportedLength_eq (h : SessionAlike S B x y) (request : List UInt8) :
    reportedLength request x = reportedLength request y := by
  change (x.1.cb.onUdsRequest request x.1.udsRespBuf x.2.state).1 =
    (y.1.cb.onUdsRequest request y.1.udsRespBuf y.2.state).1
  rw [← h.cb]
  exact h.respects.reported request h.udsRespBuf h.state

/-- Both platforms leave the same response, as far as its reported length goes. -/
theorem udsResponse_eq (h : SessionAlike S B x y) (request : List UInt8) :
    udsResponse (reportedLength request x) (asked request x).1.udsRespBuf =
      udsResponse (reportedLength request y) (asked request y).1.udsRespBuf := by
  change udsResponse (x.1.cb.onUdsRequest request x.1.udsRespBuf x.2.state).1
      (x.1.cb.onUdsRequest request x.1.udsRespBuf x.2.state).2.1 =
    udsResponse (y.1.cb.onUdsRequest request y.1.udsRespBuf y.2.state).1
      (y.1.cb.onUdsRequest request y.1.udsRespBuf y.2.state).2.1
  rw [← h.cb]
  exact h.respects.response request h.udsRespBuf h.state

/-- Both dispatch the same request, and send the same response or none. -/
theorem dispatch (h : SessionAlike S B x y) (tester : UInt16) (request : List UInt8) :
    SessionAlike S B (dispatch (ι := ι) tester request x)
      (SimpleDoip.dispatch tester request y) := by
  have hack := h.transmit (ackFrame (ι := ι) .diagnosticMessagePositiveAcknowledge x.1.ownAddress
    tester .routingConfirmationAck)
  have hasked := hack.ask request
  rw [dispatch_eq, dispatch_eq, ← h.ownAddress]
  simp only [← hack.udsResponse_eq request]
  simp only [← hack.reportedLength_eq request]
  split
  · exact hasked.transmit _
  · exact hasked

/-- Both carry out the same decision, with the same verdict. -/
theorem carryOut (h : SessionAlike S B x y) (d : Decision) :
    (d.carryOut x).1 = (d.carryOut y).1 ∧ SessionAlike S B (d.carryOut x).2 (d.carryOut y).2 := by
  cases d with
  | answer verdict activeTester frame => exact ⟨rfl, (h.activate activeTester).transmit frame⟩
  | serve tester request => exact ⟨rfl, h.dispatch tester request⟩

/-- Both handle a frame alike: what is decided depends on nothing they differ in. -/
theorem frameStep (h : SessionAlike S B x y) (frame : RawFrame) :
    Step.Alike (SessionAlike S B) (frameStep (ι := ι) x frame) (frameStep y frame) := by
  have hd := h.carryOut (decideFrame (ι := ι) x.1.ownAddress x.1.activeTester frame.header
    frame.payload)
  simp only [SimpleDoip.frameStep, handleTcpFrame_eq, ← h.ownAddress, ← h.activeTester]
  generalize Decision.carryOut x _ = r at hd ⊢
  generalize Decision.carryOut y _ = r' at hd ⊢
  obtain ⟨verdict, x'⟩ := r
  obtain ⟨verdict', y'⟩ := r'
  obtain ⟨rfl, halike⟩ := hd
  cases verdict with
  | keepOpen => exact .next halike
  | close => exact .halt halike ()

/-- Both conclude a drain alike, with the same verdict and the same last frame. -/
theorem conclude (h : SessionAlike S B x y) (stop : Stop NackCode Unit) (r : List UInt8) :
    (conclude (ι := ι) (x, stop, r)).1 = (SimpleDoip.conclude (ι := ι) (y, stop, r)).1 ∧
      SessionAlike S B (SimpleDoip.conclude (ι := ι) (x, stop, r)).2
        (SimpleDoip.conclude (ι := ι) (y, stop, r)).2 := by
  cases stop with
  | waiting => exact ⟨rfl, h⟩
  | failed code => exact ⟨rfl, h.transmit _⟩
  | halted => exact ⟨rfl, h⟩

end SessionAlike

/-! ## Calls -/

namespace Entity

/-- The identity an entity was configured with, without the state of its session. -/
def config (e : Entity π) : EntityConfig where
  vin := e.vin
  eid := e.eid
  gid := e.gid
  logicalAddress := e.logicalAddress

/-- The bytes of the answer to a datagram, if it gets one. The answer depends on the identity and on
whether a tester is active. -/
def udpAnswer (e : Entity π) (data : List UInt8) : Option (List UInt8) :=
  if e.callbacks.isSome ∧ data ≠ [] then (e.udpReply (ι := ι) data).map Message.frame else none

/-- Sending the answer to a datagram, if there is one and somebody to send it. -/
def answerUdp (e : Entity π) (srcAddr : UInt32) (srcPort : UInt16) (p : Platform π) :
    Option (List UInt8) → Entity π × Platform π
  | none => (e, p)
  | some frame =>
    match e.callbacks with
    | none => (e, p)
    | some cb =>
      ({ e with txBuf := txAfter e.txBuf frame }, p.sendUdp cb srcAddr srcPort frame)

theorem answerUdp_some {e : Entity π} {cb : Callbacks π} (hcb : e.callbacks = some cb)
    (srcAddr : UInt32) (srcPort : UInt16) (p : Platform π) (frame : List UInt8) :
    e.answerUdp srcAddr srcPort p (some frame) =
      ({ e with txBuf := txAfter e.txBuf frame }, p.sendUdp cb srcAddr srcPort frame) := by
  simp only [answerUdp, hcb]

/-- **Receiving a datagram** is sending its answer, and does nothing else to the entity. -/
theorem onUdpRx_eq (e : Entity π) (srcAddr : UInt32) (srcPort : UInt16) (data : List UInt8)
    (p : Platform π) :
    e.onUdpRx (ι := ι) srcAddr srcPort data p =
      some (e.answerUdp srcAddr srcPort p (e.udpAnswer (ι := ι) data)) := by
  cases hcb : e.callbacks with
  | none =>
    have hanswer : e.udpAnswer (ι := ι) data = none := by simp [udpAnswer, hcb]
    rw [onUdpRx, hcb, hanswer]
    rfl
  | some cb =>
    by_cases hdata : data = []
    · subst hdata
      have hanswer : e.udpAnswer (ι := ι) [] = none := by simp [udpAnswer]
      rw [onUdpRx, hcb, hanswer]
      rfl
    · have hanswer : e.udpAnswer (ι := ι) data = (e.udpReply data).map Message.frame := by
        simp [udpAnswer, hcb, hdata]
      rw [hanswer]
      cases hreply : e.udpReply (ι := ι) data with
      | none =>
        simp only [onUdpRx, hcb, List.isEmpty_iff, hdata, if_false, hreply]
        rfl
      | some msg =>
        obtain ⟨t, n, payload, rfl, hlen⟩ := udpReply_fits hreply
        rw [Option.map_some, answerUdp_some hcb, frame_eq_entityFrame]
        simp only [onUdpRx, hcb, List.isEmpty_iff, hdata, if_false, hreply,
          sendUdpMsg_eq cb e.txBuf srcAddr srcPort hlen p]
        rfl

/-- The calls a datagram leads to are those that send its answer to where it came from. -/
theorem onUdpRx_calls (e : Entity π) (srcAddr : UInt32) (srcPort : UInt16) (data : List UInt8)
    (p : Platform π) :
    ∃ e' p', e.onUdpRx (ι := ι) srcAddr srcPort data p = some (e', p') ∧
      p'.calls = p.calls ++
        (e.udpAnswer (ι := ι) data).toList.map (.sendUdp srcAddr srcPort) := by
  refine ⟨_, _, e.onUdpRx_eq srcAddr srcPort data p, ?_⟩
  cases hframe : e.udpAnswer (ι := ι) data with
  | none => exact (List.append_nil _).symm
  | some frame =>
    cases hcb : e.callbacks with
    | none => simp [udpAnswer, hcb] at hframe
    | some cb =>
      simp only [Platform.sendUdp]
      rfl

/-- The answer to a datagram depends on the identity, on whether the entity serves, on whether a
tester is active, and on the datagram. -/
theorem udpAnswer_congr {e₁ e₂ : Entity π} (hconfig : e₁.config = e₂.config)
    (hserves : e₁.callbacks.isSome = e₂.callbacks.isSome)
    (hactive : e₁.activeTester.isSome = e₂.activeTester.isSome) (data : List UInt8) :
    e₁.udpAnswer (ι := ι) data = e₂.udpAnswer data := by
  obtain ⟨vin, eid, gid, address, callbacks₁, active₁, _, _, _, _⟩ := e₁
  obtain ⟨vin', eid', gid', address', callbacks₂, active₂, _, _, _, _⟩ := e₂
  cases hconfig
  simp only [udpAnswer, udpReply, vehicleAnnouncement, entityStatus, hserves, hactive]

/-- Nobody serves the connection of an entity without callbacks, and its platform is told to close
it. -/
theorem onTcpRx_unserved {e : Entity π} (hcb : e.callbacks = none) (data : List UInt8)
    (p : Platform π) : e.onTcpRx (ι := ι) data p = some (.close, e, p) := by
  rw [onTcpRx, hcb]

/-- Receiving a chunk changes neither the identity nor the callbacks, so that a session has the same
ones throughout. -/
theorem onTcpRx_config {e e' : Entity π} {data : List UInt8} {p p' : Platform π}
    {verdict : TcpVerdict} (h : e.onTcpRx (ι := ι) data p = some (verdict, e', p')) :
    e'.config = e.config ∧ e'.callbacks = e.callbacks := by
  unfold onTcpRx at h
  split at h
  · cases h
    exact ⟨rfl, rfl⟩
  · split at h
    · cases h
      exact ⟨rfl, rfl⟩
    · obtain ⟨⟨v, st⟩, -, h⟩ := Option.bind_eq_some_iff.mp h
      cases h
      exact ⟨rfl, rfl⟩

end Entity

variable (S B) in
/-- Two services that differ in what their buffers hold besides the residue, and in what their
callbacks cannot see. -/
structure ServiceAlike (s t : Service π) : Prop where
  config : s.entity.config = t.entity.config
  callbacks : s.entity.callbacks = t.entity.callbacks
  activeTester : s.entity.activeTester = t.entity.activeTester
  residue : s.entity.residue = t.entity.residue
  cap : s.entity.rxLen ≤ TCP_RX_CAP ∧ t.entity.rxLen ≤ TCP_RX_CAP
  udsRespBuf : B s.entity.udsRespBuf t.entity.udsRespBuf
  state : S s.state t.state
  respects : ∀ cb, s.entity.callbacks = some cb → cb.Respects S B

namespace ServiceAlike

variable {s t : Service π}

theorem rxLen (h : ServiceAlike S B s t) : s.entity.rxLen = t.entity.rxLen := by
  rw [← Entity.length_residue h.cap.1, h.residue, Entity.length_residue h.cap.2]

/-- Two services after a reset are alike, if nothing but the session changed. -/
theorem reset (h : ServiceAlike S B s t) {e₁ e₂ : Entity π} (hconfig : e₁.config = e₂.config)
    (hcallbacks : e₁.callbacks = e₂.callbacks)
    (hsession : ∀ e ∈ [e₁, e₂], e.activeTester = none ∧ e.rxLen = 0)
    (hbuf₁ : e₁.udsRespBuf = s.entity.udsRespBuf) (hbuf₂ : e₂.udsRespBuf = t.entity.udsRespBuf)
    (hrespects : ∀ cb, e₁.callbacks = some cb → cb.Respects S B) :
    ServiceAlike S B (s.reset e₁) (t.reset e₂) := by
  obtain ⟨hactive₁, hlen₁⟩ := hsession e₁ (.head _)
  obtain ⟨hactive₂, hlen₂⟩ := hsession e₂ (.tail _ (.head _))
  refine ⟨hconfig, hcallbacks, hactive₁.trans hactive₂.symm, ?_, ?_, ?_, h.state, hrespects⟩
  · change e₁.residue = e₂.residue
    rw [Entity.residue, Entity.residue, hlen₁, hlen₂, List.take_zero, List.take_zero]
  · change e₁.rxLen ≤ _ ∧ e₂.rxLen ≤ _
    omega
  · change B e₁.udsRespBuf e₂.udsRespBuf
    rw [hbuf₁, hbuf₂]
    exact h.udsRespBuf

/-- What a call made to both comes to: one reply, and services that are still alike. -/
def Answered (S : π → π → Prop) (B : U8Array UDS_RESP_CAP → U8Array UDS_RESP_CAP → Prop)
    (call : EntityCall π) (s t : Service π) : Prop :=
  ∃ reply s' t', s.perform (ι := ι) call = some s' ∧ t.perform (ι := ι) call = some t' ∧
    s'.replies = s.replies ++ [reply] ∧ t'.replies = t.replies ++ [reply] ∧ ServiceAlike S B s' t'

/-- Both answer a datagram with the same bytes, and both or neither answer it. -/
theorem onUdpRx (h : ServiceAlike S B s t) (srcAddr : UInt32) (srcPort : UInt16)
    (data : List UInt8) : Answered (ι := ι) S B (.onUdpRx srcAddr srcPort data) s t := by
  have hanswer : t.entity.udpAnswer (ι := ι) data = s.entity.udpAnswer data :=
    Entity.udpAnswer_congr h.config.symm (by rw [h.callbacks]) (by rw [h.activeTester]) data
  have hs := s.entity.onUdpRx_eq (ι := ι) srcAddr srcPort data ⟨s.state, []⟩
  have ht := t.entity.onUdpRx_eq (ι := ι) srcAddr srcPort data ⟨t.state, []⟩
  rw [hanswer] at ht
  cases hframe : s.entity.udpAnswer (ι := ι) data with
  | none =>
    rw [hframe] at hs ht
    exact ⟨⟨none, []⟩, _, _, Service.perform_onUdpRx hs, Service.perform_onUdpRx ht, rfl, rfl,
      { h with }⟩
  | some frame =>
    cases hcb : s.entity.callbacks with
    | none => simp [Entity.udpAnswer, hcb] at hframe
    | some cb =>
      have hcb' : t.entity.callbacks = some cb := by rw [← h.callbacks, hcb]
      rw [hframe, Entity.answerUdp_some hcb] at hs
      rw [hframe, Entity.answerUdp_some hcb'] at ht
      refine ⟨⟨none, [.sendUdp srcAddr srcPort frame]⟩, _, _, Service.perform_onUdpRx hs,
        Service.perform_onUdpRx ht, rfl, rfl, ?_⟩
      exact { h with state := (h.respects cb hcb).sendUdp srcAddr srcPort frame h.state }

/-- The sessions of two services, as a chunk finds them, are alike if the services are. -/
theorem session (h : ServiceAlike S B s t) {cb : Callbacks π} (hcb : s.entity.callbacks = some cb) :
    SessionAlike S B (s.entity.session cb, ⟨s.state, []⟩)
      (t.entity.session cb, ⟨t.state, []⟩) where
  cb := rfl
  ownAddress := congrArg EntityConfig.logicalAddress h.config
  activeTester := h.activeTester
  udsRespBuf := h.udsRespBuf
  state := h.state
  calls := rfl
  respects := h.respects cb hcb

/-- Both drain a chunk alike, and leave the same bytes. -/
theorem drainOf (h : ServiceAlike S B s t) {cb : Callbacks π} (hcb : s.entity.callbacks = some cb)
    (data : List UInt8) :
    (conclude (s.entity.drainOf ι cb data ⟨s.state, []⟩)).1 =
        (conclude (t.entity.drainOf ι cb data ⟨t.state, []⟩)).1 ∧
      SessionAlike S B (conclude (s.entity.drainOf ι cb data ⟨s.state, []⟩)).2
        (conclude (t.entity.drainOf ι cb data ⟨t.state, []⟩)).2 ∧
      (s.entity.drainOf ι cb data ⟨s.state, []⟩).2.2 =
        (t.entity.drainOf ι cb data ⟨t.state, []⟩).2.2 := by
  have hdrain := drain_alike (c := frameCutter tcpCheck) (f := frameStep (ι := ι))
    (fun x y frame hxy => hxy.frameStep frame) (h.session hcb) (s.entity.residue ++ data)
  unfold Entity.drainOf
  rw [← h.residue]
  generalize drain _ _ _ _ = d at hdrain ⊢
  generalize drain _ _ _ _ = d' at hdrain ⊢
  obtain ⟨x, stop, r⟩ := d
  obtain ⟨x', stop', r'⟩ := d'
  obtain ⟨halike, ⟨⟩⟩ := hdrain
  obtain ⟨hverdict, hconclude⟩ := halike.conclude stop r
  exact ⟨hverdict, hconclude, rfl⟩

/-- Both receive a chunk with the same verdict, and make the same calls. -/
theorem onTcpRx (h : ServiceAlike S B s t) (data : List UInt8) :
    Answered (ι := ι) S B (.onTcpRx data) s t := by
  cases hcb : s.entity.callbacks with
  | none =>
    have hcb' : t.entity.callbacks = none := by rw [← h.callbacks, hcb]
    exact ⟨_, _, _, Service.perform_onTcpRx (Entity.onTcpRx_unserved hcb data _),
      Service.perform_onTcpRx (Entity.onTcpRx_unserved hcb' data _), rfl, rfl, { h with }⟩
  | some cb =>
    have hcb' : t.entity.callbacks = some cb := by rw [← h.callbacks, hcb]
    by_cases hdata : data = []
    · subst hdata
      exact ⟨_, _, _, Service.perform_onTcpRx (Entity.onTcpRx_nil hcb _),
        Service.perform_onTcpRx (Entity.onTcpRx_nil hcb' _), rfl, rfl, { h with }⟩
    by_cases hfit : s.entity.rxLen + data.length ≤ TCP_RX_CAP
    · obtain ⟨e, hs, hes, -, -, hcap, hres⟩ :=
        Entity.onTcpRx_spec (ι := ι) (p := ⟨s.state, []⟩) hcb hdata hfit
      obtain ⟨e', ht, het, -, -, hcap', hres'⟩ :=
        Entity.onTcpRx_spec (ι := ι) (p := ⟨t.state, []⟩) hcb' hdata (h.rxLen ▸ hfit)
      obtain ⟨hverdict, halike, hleft⟩ := h.drainOf (ι := ι) hcb data
      obtain ⟨hconfig, hcbs⟩ := Entity.onTcpRx_config hs
      obtain ⟨hconfig', hcbs'⟩ := Entity.onTcpRx_config ht
      refine ⟨_, _, _, Service.perform_onTcpRx hs, Service.perform_onTcpRx ht, rfl, ?_, ?_⟩
      · rw [hverdict, halike.calls]
      · exact {
          config := by rw [hconfig, hconfig', h.config]
          callbacks := by rw [hcbs, hcbs', h.callbacks]
          activeTester := by
            change (e.session cb).activeTester = (e'.session cb).activeTester
            rw [hes, het]
            exact halike.activeTester
          residue := by rw [hres, hres', hleft]
          cap := ⟨hcap, hcap'⟩
          udsRespBuf := by
            change B (e.session cb).udsRespBuf (e'.session cb).udsRespBuf
            rw [hes, het]
            exact halike.udsRespBuf
          state := halike.state
          respects := fun c hc => h.respects c (hcbs ▸ hc) }
    · have hover : TCP_RX_CAP < s.entity.rxLen + data.length := Nat.lt_of_not_le hfit
      have hover' : TCP_RX_CAP < t.entity.rxLen + data.length := h.rxLen ▸ hover
      refine ⟨_, _, _, Service.perform_onTcpRx (Entity.onTcpRx_overflow hcb hdata hover),
        Service.perform_onTcpRx (Entity.onTcpRx_overflow hcb' hdata hover'), rfl, rfl, ?_⟩
      exact { h with state := (h.respects cb hcb).sendTcp _ h.state }

/-- **Every call made to both** gets one reply, and keeps them alike. -/
theorem perform (h : ServiceAlike S B s t) (call : EntityCall π)
    (hcall : ∀ config cb, call = .init config cb → cb.Respects S B) :
    Answered (ι := ι) S B call s t := by
  cases call with
  | init config cb =>
    refine ⟨_, _, _, rfl, rfl, rfl, rfl, h.reset rfl rfl ?_ rfl rfl ?_⟩
    · simp [Entity.init, Entity.onTcpDisconnect]
    · intro cb' hcb'
      cases hcb'
      exact hcall config cb rfl
  | deinit =>
    refine ⟨_, _, _, rfl, rfl, rfl, rfl, h.reset h.config rfl ?_ rfl rfl nofun⟩
    simp [Entity.deinit, Entity.onTcpDisconnect]
  | onUdpRx srcAddr srcPort data => exact h.onUdpRx srcAddr srcPort data
  | onTcpRx data => exact h.onTcpRx data
  | onTcpDisconnect =>
    refine ⟨_, _, _, rfl, rfl, rfl, rfl, h.reset h.config h.callbacks ?_ rfl rfl h.respects⟩
    simp [Entity.onTcpDisconnect]

end ServiceAlike

/-! ## Datagrams do not interfere -/

/-- Callbacks whose dispatch depends on nothing but what was `seen`, which sending leaves alone: the
requests so far, or whatever the platform keeps of them. -/
structure Callbacks.DependsOnlyOn {υ : Type} (cb : Callbacks π) (seen : π → υ) : Prop where
  sendUdp : ∀ dstAddr dstPort data s, seen (cb.sendUdp dstAddr dstPort data s).2 = seen s
  sendTcp : ∀ data s, seen (cb.sendTcp data s).2 = seen s
  reported : ∀ request b s t, seen s = seen t →
    (cb.onUdsRequest request b s).1 = (cb.onUdsRequest request b t).1
  responseOut : ∀ request b s t, seen s = seen t →
    (cb.onUdsRequest request b s).2.1 = (cb.onUdsRequest request b t).2.1
  seen : ∀ request b s t, seen s = seen t →
    seen (cb.onUdsRequest request b s).2.2 = seen (cb.onUdsRequest request b t).2.2

theorem Callbacks.DependsOnlyOn.respects {υ : Type} {cb : Callbacks π} {seen : π → υ}
    (h : cb.DependsOnlyOn seen) : cb.Respects (fun s t => seen s = seen t) Eq where
  sendUdp dstAddr dstPort data s t hst := by rw [h.sendUdp, h.sendUdp, hst]
  sendTcp data s t hst := by rw [h.sendTcp, h.sendTcp, hst]
  reported request b c s t hbc hst := hbc ▸ h.reported request b s t hst
  response request b c s t hbc hst := by
    subst hbc
    rw [h.reported request b s t hst, h.responseOut request b s t hst]
  buffer request b c s t hbc hst := hbc ▸ h.responseOut request b s t hst
  state request b c s t hbc hst := hbc ▸ h.seen request b s t hst

/-- A datagram from the discovery socket: the one kind of call that the TCP side should not
notice. -/
def EntityCall.IsDatagram : EntityCall π → Prop
  | .onUdpRx _ _ _ => True
  | _ => False

/-- A call to the TCP side of the platform, which includes the dispatch of a request. -/
def PlatformCall.isTcp : PlatformCall → Bool
  | .sendUdp _ _ _ => false
  | .sendTcp _ | .onUdsRequest _ => true

/-- What went to the TCP side of the platform in a run, in this order. -/
def tcpEvents (replies : List Outcome) : List PlatformCall :=
  replies.flatMap fun reply => reply.calls.filter PlatformCall.isTcp

/-- The verdicts on the chunks of a run, in this order. -/
def verdicts (replies : List Outcome) : List TcpVerdict := replies.filterMap Outcome.verdict

theorem tcpEvents_snoc (replies : List Outcome) (reply : Outcome) :
    tcpEvents (replies ++ [reply]) =
      tcpEvents replies ++ reply.calls.filter PlatformCall.isTcp := by
  simp [tcpEvents]

theorem verdicts_snoc (replies : List Outcome) (reply : Outcome) :
    verdicts (replies ++ [reply]) = verdicts replies ++ reply.verdict.toList := by
  cases h : reply.verdict <;> simp [verdicts, h]

/-- The callbacks of a service are those of some `init`, so that what holds of those holds of the
ones in use. -/
theorem Service.callbacks_of_perform {P : Callbacks π → Prop} {s s' : Service π}
    {call : EntityCall π} (h : s.perform (ι := ι) call = some s')
    (hcall : ∀ config cb, call = .init config cb → P cb)
    (hs : ∀ cb, s.entity.callbacks = some cb → P cb) :
    ∀ cb, s'.entity.callbacks = some cb → P cb := by
  cases call with
  | init config cb =>
    cases h
    intro cb' hcb'
    cases hcb'
    exact hcall config cb rfl
  | deinit =>
    cases h
    exact nofun
  | onTcpDisconnect =>
    cases h
    exact hs
  | onUdpRx srcAddr srcPort data =>
    rcases s.entity.onUdpRx_spec (ι := ι) srcAddr srcPort data ⟨s.state, []⟩
      with hrx | ⟨cb, frame, -, hrx⟩ <;>
    · rw [perform_onUdpRx hrx] at h
      cases h
      exact hs
  | onTcpRx data =>
    obtain ⟨⟨verdict, e, p⟩, hrx, h⟩ := Option.bind_eq_some_iff.mp h
    cases h
    exact fun cb hcb => hs cb ((Entity.onTcpRx_config hrx).2 ▸ hcb)

section
variable {υ : Type} (seen : π → υ)

/-- What a run and the same run with datagrams in between have in common. -/
structure TcpAlike (s t : Service π) : Prop where
  alike : ServiceAlike (fun a b => seen a = seen b) Eq s t
  callbacks : ∀ cb, t.entity.callbacks = some cb → cb.DependsOnlyOn seen
  events : tcpEvents t.replies = tcpEvents s.replies
  verdicts : verdicts t.replies = verdicts s.replies

variable {seen}

theorem TcpAlike.start (state : π) : TcpAlike seen (Service.start state) (Service.start state) where
  alike := ⟨rfl, rfl, rfl, rfl, ⟨Nat.zero_le _, Nat.zero_le _⟩, rfl, rfl, nofun⟩
  callbacks := nofun
  events := rfl
  verdicts := rfl

/-- A call made to both keeps what they have in common, if new callbacks depend only on what is
seen, too. -/
theorem TcpAlike.perform {s t : Service π} (h : TcpAlike seen s t) (call : EntityCall π)
    (hcall : ∀ config cb, call = .init config cb → cb.DependsOnlyOn seen) :
    ∃ s' t', s.perform (ι := ι) call = some s' ∧ t.perform (ι := ι) call = some t' ∧
      TcpAlike seen s' t' := by
  obtain ⟨reply, s', t', hs, ht, hrs, hrt, halike⟩ :=
    h.alike.perform (ι := ι) call fun config cb heq => (hcall config cb heq).respects
  refine ⟨s', t', hs, ht, halike, Service.callbacks_of_perform ht hcall h.callbacks, ?_, ?_⟩
  · rw [hrs, hrt, tcpEvents_snoc, tcpEvents_snoc, h.events]
  · rw [hrs, hrt, verdicts_snoc, verdicts_snoc, h.verdicts]

/-- A datagram received by the second alone keeps what they have in common: it is answered by a
`send_udp`, of which nothing is seen. -/
theorem TcpAlike.datagram {s t : Service π} (h : TcpAlike seen s t) {call : EntityCall π}
    (hcall : call.IsDatagram) :
    ∃ t', t.perform (ι := ι) call = some t' ∧ TcpAlike seen s t' := by
  cases call with
  | onUdpRx srcAddr srcPort data =>
    rcases t.entity.onUdpRx_spec (ι := ι) srcAddr srcPort data ⟨t.state, []⟩
      with hrx | ⟨cb, frame, hcb, hrx⟩
    · refine ⟨_, Service.perform_onUdpRx hrx, { h.alike with }, h.callbacks, ?_, ?_⟩
      · rw [tcpEvents_snoc, h.events]
        exact List.append_nil _
      · rw [verdicts_snoc, h.verdicts]
        exact List.append_nil _
    · refine ⟨_, Service.perform_onUdpRx hrx, ?_, h.callbacks, ?_, ?_⟩
      · exact { h.alike with
          state := h.alike.state.trans ((h.callbacks cb hcb).sendUdp srcAddr srcPort frame _).symm }
      · rw [tcpEvents_snoc, h.events]
        exact List.append_nil _
      · rw [verdicts_snoc, h.verdicts]
        exact List.append_nil _
  | _ => exact hcall.elim

/-- **Datagrams do not interfere with the TCP side.** Putting datagrams anywhere into a sequence of
calls changes neither what goes to the TCP side of the platform, nor the verdicts, nor the active
tester, nor the bytes waiting for reassembly, if the platform's dispatch depends on nothing but the
requests it saw. A datagram makes at most one call, which sends a datagram to where it came from.
What that says depends on the identity, on the datagram, and on whether a tester is active. -/
theorem datagrams_do_not_interfere (state : π) {calls calls' : List (EntityCall π)}
    (hinserted : Inserted EntityCall.IsDatagram calls calls')
    (hinit : ∀ config cb, .init config cb ∈ calls' → cb.DependsOnlyOn seen) :
    (∃ s t, run (Service.perform (ι := ι)) (Service.start state) calls = some s ∧
      run (Service.perform (ι := ι)) (Service.start state) calls' = some t ∧
      tcpEvents t.replies = tcpEvents s.replies ∧ verdicts t.replies = verdicts s.replies ∧
      t.entity.activeTester = s.entity.activeTester ∧ t.entity.residue = s.entity.residue) ∧
    (∀ (e : Entity π) srcAddr srcPort data p, ∃ e' p' sent,
      e.onUdpRx (ι := ι) srcAddr srcPort data p = some (e', p') ∧
      p'.calls = p.calls ++ sent ∧
      (sent = [] ∨ ∃ bytes, sent = [.sendUdp srcAddr srcPort bytes])) ∧
    ∀ e₁ e₂ : Entity π, e₁.config = e₂.config → e₁.callbacks.isSome = e₂.callbacks.isSome →
      e₁.activeTester.isSome = e₂.activeTester.isSome →
      ∀ srcAddr srcPort data p₁ p₂, ∃ e₁' p₁' e₂' p₂' sent,
        e₁.onUdpRx (ι := ι) srcAddr srcPort data p₁ = some (e₁', p₁') ∧
        e₂.onUdpRx (ι := ι) srcAddr srcPort data p₂ = some (e₂', p₂') ∧
        p₁'.calls = p₁.calls ++ sent ∧ p₂'.calls = p₂.calls ++ sent := by
  refine ⟨?_, ?_, ?_⟩
  · have hstep : ∀ (s t : Service π) (call : EntityCall π),
        (∀ config cb, call = .init config cb → cb.DependsOnlyOn seen) → TcpAlike seen s t →
        ∃ s' t', s.perform (ι := ι) call = some s' ∧ t.perform (ι := ι) call = some t' ∧
          TcpAlike seen s' t' := fun s t call hcall h => h.perform call hcall
    obtain ⟨s, t, hs, ht, h⟩ := run_inserted hstep
      (fun s t call _ hdatagram h => h.datagram hdatagram) hinserted
      (fun call hmem config cb heq => hinit config cb (heq ▸ hmem)) (TcpAlike.start state)
    exact ⟨s, t, hs, ht, h.events, h.verdicts, h.alike.activeTester.symm, h.alike.residue.symm⟩
  · intro e srcAddr srcPort data p
    obtain ⟨e', p', hrx, hcalls⟩ := e.onUdpRx_calls (ι := ι) srcAddr srcPort data p
    refine ⟨e', p', _, hrx, hcalls, ?_⟩
    cases e.udpAnswer (ι := ι) data with
    | none => exact .inl rfl
    | some bytes => exact .inr ⟨bytes, rfl⟩
  · intro e₁ e₂ hconfig hserves hactive srcAddr srcPort data p₁ p₂
    obtain ⟨e₁', p₁', hrx₁, hcalls₁⟩ := e₁.onUdpRx_calls (ι := ι) srcAddr srcPort data p₁
    obtain ⟨e₂', p₂', hrx₂, hcalls₂⟩ := e₂.onUdpRx_calls (ι := ι) srcAddr srcPort data p₂
    rw [← Entity.udpAnswer_congr hconfig hserves hactive data] at hcalls₂
    exact ⟨e₁', p₁', e₂', p₂', _, hrx₁, hrx₂, hcalls₁, hcalls₂⟩

end

/-- Callbacks over the number of requests seen and of frames sent, which answer a request with the
number of those before it. -/
def countingCallbacks : Callbacks (Nat × Nat) where
  sendUdp _ _ _ s := (0, s.1, s.2 + 1)
  sendTcp _ s := (0, s.1, s.2 + 1)
  onUdsRequest _ buf s := (1, ⟨UInt8.ofNat s.1 :: buf.toList.drop 1, by
    rw [List.length_cons, List.length_drop, buf.toList_length]
    decide⟩, s.1 + 1, s.2)

/-- What they answer depends on the requests alone, and not on the number of frames sent. -/
theorem countingCallbacks_dependsOnlyOn : countingCallbacks.DependsOnlyOn Prod.fst where
  sendUdp _ _ _ _ := rfl
  sendTcp _ _ := rfl
  reported _ _ _ _ _ := rfl
  responseOut _ b s t h := by
    refine Subtype.ext ?_
    change UInt8.ofNat s.1 :: b.toList.drop 1 = UInt8.ofNat t.1 :: b.toList.drop 1
    rw [h]
  seen _ _ _ _ h := congrArg (· + 1) h

/-- The initialisation of an entity over the counting callbacks. -/
def initCounting : EntityCall (Nat × Nat) := .init blankConfig countingCallbacks

/-- A request for the identity of the vehicle, as a datagram. -/
def identificationRequest : EntityCall (Nat × Nat) :=
  .onUdpRx 0x7F000001 13400 [0x02, 0xFD, 0x00, 0x01, 0x00, 0x00, 0x00, 0x00]

/-- A tester activates routing and makes a request, in two chunks. -/
def activatedRequest : List (EntityCall (Nat × Nat)) :=
  [.onTcpRx [0x02, 0xFD, 0x00, 0x05, 0x00, 0x00, 0x00, 0x07, 0x0E, 0x00, 0x00, 0x00, 0x00, 0x00,
      0x00],
    .onTcpRx [0x02, 0xFD, 0x80, 0x01, 0x00, 0x00, 0x00, 0x06, 0x0E, 0x00, 0x10, 0x00, 0x3E, 0x00]]

/-- Requests for the identity before and after each chunk are answered, and leave no trace on the
TCP side. -/
theorem datagrams_do_not_interfere_counting :
    letI := plainWire
    ∃ s t, run Service.perform (Service.start (0, 0)) (initCounting :: activatedRequest) = some s ∧
      run Service.perform (Service.start (0, 0))
        ([initCounting, identificationRequest] ++
          activatedRequest.flatMap fun call => [call, identificationRequest]) = some t ∧
      t.replies.map (fun reply => reply.calls.length) = [0, 1, 1, 1, 3, 1] ∧
      tcpEvents t.replies = tcpEvents s.replies ∧ verdicts t.replies = verdicts s.replies := by
  let := plainWire
  have hinserted : Inserted EntityCall.IsDatagram (initCounting :: activatedRequest)
      ([initCounting, identificationRequest] ++
        activatedRequest.flatMap fun call => [call, identificationRequest]) :=
    .keep _ (.insert trivial (.keep _ (.insert trivial (.keep _ (.insert trivial .nil)))))
  have hinit : ∀ config cb,
      EntityCall.init config cb ∈ ([initCounting, identificationRequest] ++
        activatedRequest.flatMap fun call => [call, identificationRequest]) →
      cb.DependsOnlyOn Prod.fst := by
    intro config cb hmem
    simp [initCounting, identificationRequest, activatedRequest] at hmem
    rw [hmem.2]
    exact countingCallbacks_dependsOnlyOn
  obtain ⟨s, t, hs, ht, hevents, hverdicts, -, -⟩ :=
    (datagrams_do_not_interfere (0, 0) hinserted hinit).1
  have hcalls : ∃ t, run Service.perform (Service.start (0, 0))
      ([initCounting, identificationRequest] ++
        activatedRequest.flatMap fun call => [call, identificationRequest]) = some t ∧
      t.replies.map (fun reply => reply.calls.length) = [0, 1, 1, 1, 3, 1] :=
    exists_of_any_run (by decide +kernel)
  obtain ⟨t', ht', hcalls⟩ := hcalls
  cases ht.symm.trans ht'
  exact ⟨s, t, hs, ht, hcalls, hevents, hverdicts⟩

/-! ## Nothing leaks into the next session -/

/-- **Nothing leaks from one session into the next.** Two entities with one identity and one set of
callbacks, whatever they went through and whatever their buffers hold, answer every sequence of
calls after a lost connection alike, with the same verdicts and the same calls to the platform,
byte for byte. The callbacks must not tell the two platform states apart, and a dispatch must
overwrite the response it reports and not look at what the buffer held. -/
theorem nothing_leaks_between_sessions {S : π → π → Prop} {e₁ e₂ : Entity π} {state₁ state₂ : π}
    (hconfig : e₁.config = e₂.config) (hcallbacks : e₁.callbacks = e₂.callbacks)
    (hstate : S state₁ state₂) (calls : List (EntityCall π))
    (hserves : ∀ cb, e₁.callbacks = some cb → cb.Respects S fun _ _ => True)
    (hinit : ∀ config cb, .init config cb ∈ calls → cb.Respects S fun _ _ => True) :
    ∃ s t, run (Service.perform (ι := ι)) ⟨e₁.onTcpDisconnect, state₁, [], false⟩ calls = some s ∧
      run (Service.perform (ι := ι)) ⟨e₂.onTcpDisconnect, state₂, [], false⟩ calls = some t ∧
      s.replies = t.replies := by
  have hstart : ServiceAlike S (fun _ _ => True) ⟨e₁.onTcpDisconnect, state₁, [], false⟩
      ⟨e₂.onTcpDisconnect, state₂, [], false⟩ :=
    ⟨hconfig, hcallbacks, rfl, rfl, ⟨Nat.zero_le _, Nat.zero_le _⟩, trivial, hstate, hserves⟩
  have hstep : ∀ (s t : Service π) (call : EntityCall π),
      (∀ config cb, call = .init config cb → cb.Respects S fun _ _ => True) →
      (ServiceAlike S (fun _ _ => True) s t ∧ s.replies = t.replies) →
      ∃ s' t', s.perform (ι := ι) call = some s' ∧ t.perform (ι := ι) call = some t' ∧
        ServiceAlike S (fun _ _ => True) s' t' ∧ s'.replies = t'.replies := by
    rintro s t call hcall ⟨halike, hreplies⟩
    obtain ⟨reply, s', t', hs, ht, hrs, hrt, halike'⟩ := halike.perform (ι := ι) call hcall
    exact ⟨s', t', hs, ht, halike', by rw [hrs, hrt, hreplies]⟩
  obtain ⟨s, t, hs, ht, -, hreplies⟩ := run_related hstep
    (fun call hmem config cb heq => hinit config cb (heq ▸ hmem)) ⟨hstart, rfl⟩
  exact ⟨s, t, hs, ht, hreplies⟩

end

/-- The counting callbacks do not look at the response buffer, and overwrite what they report. -/
theorem countingCallbacks_respects :
    countingCallbacks.Respects (fun s t => s.1 = t.1) fun _ _ => True where
  sendUdp _ _ _ _ _ h := h
  sendTcp _ _ _ h := h
  reported _ _ _ _ _ _ _ := rfl
  response _ b c s t _ h := by
    change [UInt8.ofNat s.1] = [UInt8.ofNat t.1]
    rw [h]
  buffer _ _ _ _ _ _ _ := trivial
  state _ _ _ _ _ _ h := congrArg (· + 1) h

/-- An entity fresh from its initialisation, with the counting callbacks. -/
def countingEntity : Entity (Nat × Nat) := Entity.init .new blankConfig countingCallbacks

/-- The same entity with its buffers full of an earlier session, and the tester of that session
still active. -/
def usedEntity : Entity (Nat × Nat) :=
  { countingEntity with
    activeTester := some 0x0E00, rxLen := 5, rxBuf := filledArray TCP_RX_CAP 0xAA,
    txBuf := filledArray TX_CAP 0xBB, udsRespBuf := filledArray UDS_RESP_CAP 0xCC }

/-- Neither the buffers nor the number of frames sent shows after a lost connection. The routing
activation is answered with one frame; the request is acknowledged, dispatched and answered. -/
theorem nothing_leaks_between_sessions_counting :
    letI := plainWire
    ∃ s t, run Service.perform ⟨countingEntity.onTcpDisconnect, (3, 0), [], false⟩
        activatedRequest = some s ∧
      run Service.perform ⟨usedEntity.onTcpDisconnect, (3, 7), [], false⟩ activatedRequest =
        some t ∧
      s.replies.map (fun reply => reply.calls.length) = [1, 3] ∧ s.replies = t.replies := by
  let := plainWire
  have hconfig : countingEntity.config = usedEntity.config := rfl
  have hcallbacks : countingEntity.callbacks = usedEntity.callbacks := rfl
  have hserves : ∀ cb, countingEntity.callbacks = some cb →
      cb.Respects (fun s t => s.1 = t.1) fun _ _ => True := by
    rintro cb ⟨⟩
    exact countingCallbacks_respects
  have hstate : (fun s t : Nat × Nat => s.1 = t.1) (3, 0) (3, 7) := rfl
  have hinit : ∀ config cb, EntityCall.init config cb ∈ activatedRequest →
      cb.Respects (fun s t : Nat × Nat => s.1 = t.1) fun _ _ => True := by
    intro config cb hmem
    simp [activatedRequest] at hmem
  obtain ⟨s, t, hs, ht, hreplies⟩ := nothing_leaks_between_sessions hconfig hcallbacks hstate
    activatedRequest hserves hinit
  have hcalls : ∃ s, run Service.perform ⟨countingEntity.onTcpDisconnect, (3, 0), [], false⟩
      activatedRequest = some s ∧
      s.replies.map (fun reply => reply.calls.length) = [1, 3] :=
    exists_of_any_run (by decide +kernel)
  obtain ⟨s', hs', hcalls⟩ := hcalls
  cases hs.symm.trans hs'
  exact ⟨s, t, hs, ht, hcalls, hreplies⟩

end SimpleDoip
