import SimpleDoip.Entity.Datagrams
import SimpleDoip.Entity.Reassembly
import SimpleDoip.Lib.Transition

/-!
# The routing activation gate

What the entity did is written down call by call: the chunks that went into the reassembly buffer
and the calls to the platform, in order. A reset (`init`, `deinit` or a lost connection) closes one
era of the record and starts the next. `Gate` is the invariant of an era: the active tester is the
one tester whose activation was confirmed in it, the bytes waiting are what is left of the bytes
received in it, and every dispatch passed the check. Every call keeps it, whatever the bytes, so
`routing_activation_gate` holds of every run.
-/

namespace SimpleDoip

open Framing Transition

/-! ## Runs and their record -/

/-- A call of the platform to the entity, with its arguments. The platform may make any of them at
any time. -/
inductive EntityCall (π : Type) where
  | init (config : EntityConfig) (callbacks : Callbacks π)
  | deinit
  | onUdpRx (srcAddr : UInt32) (srcPort : UInt16) (data : List UInt8)
  | onTcpRx (data : List UInt8)
  | onTcpDisconnect

/-- What the record notes: a chunk went into the reassembly buffer, or the entity called its
platform. -/
inductive Event where
  | received (chunk : List UInt8)
  | made (call : PlatformCall)
deriving DecidableEq

/-- What happened between two resets, and the logical address the entity had. -/
structure Era where
  logicalAddress : UInt16
  events : List Event

/-- A running entity with the state of its platform, the closed eras, oldest first, and the events
since the last reset. -/
structure Record (π : Type) where
  entity : Entity π
  state : π
  past : List Era
  events : List Event

section
variable {ι : Type} [WireCodec ι] {π : Type}

namespace Record

/-- An uninitialised entity to which nothing happened, at the start of its first era. -/
def start (state : π) : Record π := { entity := .new, state, past := [], events := [] }

/-- The era since the last reset, which may still go on. -/
def current (r : Record π) : Era :=
  { logicalAddress := r.entity.logicalAddress, events := r.events }

/-- All eras, oldest first and the current one last. -/
def eras (r : Record π) : List Era := r.past ++ [r.current]

/-- Close the current era, and start the next one with the entity as it is after the reset. -/
def reset (r : Record π) (entity : Entity π) : Record π :=
  { r with entity, past := r.eras, events := [] }

/-- The chunk, if `handle_tcp_bytes` takes it into the buffer. A chunk that is refused as a whole
was not received. -/
def taken (e : Entity π) (data : List UInt8) : List Event :=
  if e.callbacks.isSome ∧ data ≠ [] ∧ e.rxLen + data.length ≤ TCP_RX_CAP then [.received data]
  else []

/-- One call, written down with the chunk it received and the calls it made to the platform. -/
def perform (r : Record π) : EntityCall π → Option (Record π)
  | .init config callbacks => some (r.reset (r.entity.init config callbacks))
  | .deinit => some (r.reset r.entity.deinit)
  | .onUdpRx srcAddr srcPort data => do
    let (entity, p) ← r.entity.onUdpRx srcAddr srcPort data { state := r.state, calls := [] }
    return { r with entity, state := p.state, events := r.events ++ p.calls.map .made }
  | .onTcpRx data => do
    let (_, entity, p) ← r.entity.onTcpRx data { state := r.state, calls := [] }
    return { r with
      entity, state := p.state, events := r.events ++ (taken r.entity data ++ p.calls.map .made) }
  | .onTcpDisconnect => some (r.reset r.entity.onTcpDisconnect)

end Record

/-! ## The gate -/

/-- The bytes that went into the reassembly buffer, in a row. Frames are cut out of these, whatever
chunks they came in. -/
def receivedBytes : List Event → List UInt8
  | [] => []
  | .received chunk :: rest => chunk ++ receivedBytes rest
  | .made _ :: rest => receivedBytes rest

/-- The activation of `sa` was confirmed: a response with code 0x10 went out. -/
def Confirmed (own sa : UInt16) (events : List Event) : Prop :=
  .made (.sendTcp (activationFrame sa own .routingSuccessfullyActivated)) ∈ events

/-- What the gate asks of a dispatch of `data` after `before`: `sa` is a tester's address whose
activation was confirmed, and `data` is what a diagnostic message from `sa` to `own` carried, one of
the frames the received bytes are cut into. -/
structure Authorised (own sa : UInt16) (before : List Event) (data : List UInt8) : Prop where
  range : 0x0E00 ≤ sa ∧ sa ≤ 0x0FFF
  confirmed : Confirmed own sa before
  received : ∃ frame ∈ items (frameCutter tcpCheck) (receivedBytes before), ∃ dm,
    Payload.decode frame.payload frame.header.payloadType = .ok (.diagnosticMessage dm) ∧
      dm.sourceAddress.value = sa ∧ dm.targetAddress.value = own ∧ dm.userData = data

/-- The invariant of an era, over the active tester and the bytes waiting for reassembly. -/
structure Gate (own : UInt16) (active : Option UInt16) (residue : List UInt8)
    (events : List Event) : Prop where
  aligned : ∀ t, items (frameCutter tcpCheck) (residue ++ t) ⊆
    items (frameCutter tcpCheck) (receivedBytes events ++ t)
  confirmed : ∀ sa, active = some sa ↔ Confirmed own sa events
  range : ∀ sa, active = some sa → 0x0E00 ≤ sa ∧ sa ≤ 0x0FFF
  dispatched : ∀ before data after, events = before ++ .made (.onUdsRequest data) :: after →
    ∃ sa, active = some sa ∧ Authorised own sa before data

/-! ## What each event does to it -/

theorem receivedBytes_append (xs ys : List Event) :
    receivedBytes (xs ++ ys) = receivedBytes xs ++ receivedBytes ys := by
  induction xs with
  | nil => rfl
  | cons e xs ih =>
    cases e with
    | received chunk => simp only [List.cons_append, receivedBytes, ih, List.append_assoc]
    | made call => exact ih

/-- Calls to the platform receive nothing, so that they leave the received bytes as they are. -/
theorem receivedBytes_made (call : PlatformCall) : receivedBytes [.made call] = [] := rfl

/-- A confirmation is an old one or the new event, so that only one kind of event can add one. -/
theorem confirmed_snoc {own sa : UInt16} {events : List Event} {e : Event} :
    Confirmed own sa (events ++ [e]) ↔ Confirmed own sa events ∨
      e = .made (.sendTcp (activationFrame sa own .routingSuccessfullyActivated)) := by
  rw [Confirmed, List.mem_append, List.mem_singleton, eq_comm]
  rfl

namespace Gate

variable {own : UInt16} {active : Option UInt16} {residue : List UInt8} {events : List Event}

/-- An era starts with nobody active and nothing received, which satisfies the gate. -/
theorem start : Gate own none [] [] where
  aligned _ _ h := h
  confirmed _ := ⟨nofun, nofun⟩
  range _ := nofun
  dispatched before data after h := by simp at h

/-- A chunk goes behind the residue as it goes behind the received bytes, so that both are still cut
alike. -/
theorem receive (h : Gate own active residue events) (chunk : List UInt8) :
    Gate own active (residue ++ chunk) (events ++ [.received chunk]) where
  aligned t := by
    have hbytes : receivedBytes [.received chunk] = chunk := List.append_nil chunk
    rw [receivedBytes_append, hbytes, List.append_assoc, List.append_assoc]
    exact h.aligned (chunk ++ t)
  confirmed sa := by
    rw [h.confirmed sa, confirmed_snoc]
    exact ⟨.inl, fun hc => hc.resolve_right nofun⟩
  range := h.range
  dispatched before data after heq := by
    rcases split_snoc heq with ⟨-, heq⟩ | ⟨after', heq⟩
    · cases heq
    · exact h.dispatched before data after' heq

/-- A call that neither confirms an activation nor dispatches a request changes nothing. -/
theorem quiet (h : Gate own active residue events) {call : PlatformCall}
    (hconfirm : ∀ sa, call ≠ .sendTcp (activationFrame sa own .routingSuccessfullyActivated))
    (hdispatch : ∀ data, call ≠ .onUdsRequest data) :
    Gate own active residue (events ++ [.made call]) where
  aligned t := by
    rw [receivedBytes_append, receivedBytes_made, List.append_nil]
    exact h.aligned t
  confirmed sa := by
    rw [h.confirmed sa, confirmed_snoc]
    exact ⟨.inl, fun hc => hc.resolve_right fun heq => hconfirm sa (Event.made.inj heq)⟩
  range := h.range
  dispatched before data after heq := by
    rcases split_snoc heq with ⟨-, heq⟩ | ⟨after', heq⟩
    · exact absurd (Event.made.inj heq) (hdispatch data)
    · exact h.dispatched before data after' heq

/-- A confirmed activation makes its tester the active one, if nobody else is. -/
theorem confirm (h : Gate own active residue events) {sa : UInt16}
    (hrange : 0x0E00 ≤ sa ∧ sa ≤ 0x0FFF) (hactive : active = none ∨ active = some sa) :
    Gate own (some sa) residue (events ++
      [.made (.sendTcp (activationFrame sa own .routingSuccessfullyActivated))]) where
  aligned t := by
    rw [receivedBytes_append, receivedBytes_made, List.append_nil]
    exact h.aligned t
  confirmed sa' := by
    rw [confirmed_snoc]
    constructor
    · rintro ⟨⟩
      exact .inr rfl
    · rintro (hmem | heq)
      · -- an earlier confirmation is of the tester that is active already
        have hold := (h.confirmed sa').mpr hmem
        rcases hactive with ha | ha
        · rw [ha] at hold
          cases hold
        · rw [← ha, hold]
      · have hframe := PlatformCall.sendTcp.inj (Event.made.inj heq)
        rw [(activationFrame_inj hframe).1]
  range sa' := by
    rintro ⟨⟩
    exact hrange
  dispatched before data after heq := by
    rcases split_snoc heq with ⟨-, heq⟩ | ⟨after', heq⟩
    · cases heq
    · obtain ⟨sa', ha, hauth⟩ := h.dispatched before data after' heq
      rcases hactive with ha' | ha'
      · rw [ha'] at ha
        cases ha
      · exact ⟨sa', by rw [← ha, ha'], hauth⟩

/-- A request of the active tester is dispatched: its frame is among the received ones, and its
tester was confirmed. -/
theorem dispatch (h : Gate own active residue events) {frame : RawFrame} {n : Nat}
    (hread : readFrame tcpCheck residue = .item frame n) {dm : DiagnosticMessage}
    (hdecode : Payload.decode frame.payload frame.header.payloadType = .ok (.diagnosticMessage dm))
    (hactive : active = some dm.sourceAddress.value) (htarget : dm.targetAddress.value = own) :
    Gate own active residue (events ++ [.made (.onUdsRequest dm.userData)]) where
  aligned t := by
    rw [receivedBytes_append, receivedBytes_made, List.append_nil]
    exact h.aligned t
  confirmed sa := by
    rw [h.confirmed sa, confirmed_snoc]
    exact ⟨.inl, fun hc => hc.resolve_right nofun⟩
  range := h.range
  dispatched before data after heq := by
    rcases split_snoc heq with ⟨rfl, hnew⟩ | ⟨after', heq⟩
    · cases hnew
      refine ⟨dm.sourceAddress.value, hactive, h.range _ hactive, (h.confirmed _).mp hactive,
        frame, ?_, dm, hdecode, rfl, htarget, rfl⟩
      have hmem := h.aligned [] (by
        rw [List.append_nil, items_of_read (c := frameCutter tcpCheck) hread]
        exact List.mem_cons_self)
      rwa [List.append_nil] at hmem
    · exact h.dispatched before data after' heq

/-- A frame taken off the residue is one of the frames received, so that what remains is still
aligned with them. -/
theorem dropFrame (h : Gate own active residue events) {frame : RawFrame} {n : Nat}
    (hread : readFrame tcpCheck residue = .item frame n) :
    Gate own active (residue.drop n) events where
  aligned t := by
    have hread' := (frameCutter tcpCheck).item_append hread t
    have hcut := items_of_read hread'
    rw [List.drop_append_of_le_length ((frameCutter tcpCheck).item_le hread)] at hcut
    intro f hf
    refine h.aligned t ?_
    rw [hcut]
    exact List.mem_cons_of_mem _ hf
  confirmed := h.confirmed
  range := h.range
  dispatched := h.dispatched

end Gate

/-! ## Every frame and every call keeps it -/

theorem isValidClientAddress_iff {a : LogicalAddress} :
    a.isValidClientAddress = true ↔ 0x0E00 ≤ a.value ∧ a.value ≤ 0x0FFF := by
  rw [LogicalAddress.isValidClientAddress, Bool.and_eq_true, decide_eq_true_iff, decide_eq_true_iff]
  exact Iff.rfl

/-- One more call to the platform is one more event, written behind the others. -/
theorem made_snoc (base : List Event) (calls : List PlatformCall) (call : PlatformCall) :
    base ++ (calls ++ [call]).map .made = (base ++ calls.map .made) ++ [.made call] := by
  rw [List.map_append, List.append_assoc]
  rfl

section
variable {own : UInt16} {active : Option UInt16} {residue : List UInt8} {events base : List Event}

/-- A frame that is no activation response is quiet: it confirms nobody and dispatches nothing. -/
theorem Gate.sent (h : Gate own active residue events) (t : PayloadType) (payload : Payload)
    (ht : t.toU16 ≠ PayloadType.routingActivationResponse.toU16) :
    Gate own active residue (events ++ [.made (.sendTcp (entityFrame t payload))]) :=
  h.quiet (fun _ heq => ht (toU16_eq_of_entityFrame (PlatformCall.sendTcp.inj heq))) nofun

/-- **Handling a frame keeps the gate**, case by case of what it can come to. -/
theorem Handled.gate {s : Session π} {p : Platform π} {header : Header} {payload : List UInt8}
    {verdict : TcpVerdict} {x : Session π × Platform π} {n : Nat}
    (hh : Handled (ι := ι) s p header payload verdict x)
    (hread : readFrame tcpCheck residue = .item ⟨header, payload⟩ n)
    (h : Gate s.ownAddress s.activeTester residue (base ++ p.calls.map .made)) :
    Gate s.ownAddress x.1.activeTester residue (base ++ x.2.calls.map .made) := by
  cases hh with
  | granted req hdecode hgrant =>
    rw [transmit_calls, made_snoc]
    exact h.confirm (isValidClientAddress_iff.mp hgrant.1) hgrant.2.2
  | denied tester code hcode =>
    rw [transmit_calls, made_snoc]
    refine h.quiet (fun sa heq => hcode ?_) nofun
    exact (activationFrame_inj (PlatformCall.sendTcp.inj heq)).2
  | dispatched dm hdecode hactive htarget =>
    obtain ⟨responses, hone, hcalls⟩ :=
      dispatch_calls (ι := ι) dm.sourceAddress.value dm.userData (s, p)
    rw [dispatch_activeTester, hcalls]
    have hack := h.sent .diagnosticMessagePositiveAcknowledge (.diagnosticMessageAck
      ⟨⟨s.ownAddress⟩, dm.sourceAddress, .routingConfirmationAck, []⟩) (by decide)
    have hdispatch := hack.dispatch hread hdecode hactive htarget
    match responses, hone with
    | [], _ => simpa [ackFrame] using hdispatch
    | [data], _ =>
      have hresponse := hdispatch.sent .diagnosticMessage
        (.diagnosticMessage ⟨⟨s.ownAddress⟩, dm.sourceAddress, data⟩) (by decide)
      simpa [ackFrame, diagnosticFrame] using hresponse
  | rejected verdict tester code =>
    rw [transmit_calls, made_snoc]
    exact h.sent _ _ (by decide)
  | unserved =>
    rw [transmit_calls, made_snoc]
    exact h.sent _ _ (by decide)

/-- A drain of the residue keeps the gate, and so does the acknowledgement it may conclude with. -/
theorem gate_conclude_drain (base : List Event) {x : Session π × Platform π}
    (h : Gate x.1.ownAddress x.1.activeTester residue (base ++ x.2.calls.map .made)) :
    Gate x.1.ownAddress
      (conclude (drain (frameCutter tcpCheck) (frameStep (ι := ι)) x residue)).2.1.activeTester
      (drain (frameCutter tcpCheck) (frameStep (ι := ι)) x residue).2.2
      (base ++
        (conclude (drain (frameCutter tcpCheck) (frameStep (ι := ι)) x residue)).2.2.calls.map
          .made) := by
  have hinv := drain_frames_invariant (ι := ι) (x := x) (s := residue)
    (P := fun y r => y.1.ownAddress = x.1.ownAddress ∧
      Gate x.1.ownAddress y.1.activeTester r (base ++ y.2.calls.map .made))
    (by
      intro y y' r frame n verdict hread hh hy
      have hown : y'.1.ownAddress = x.1.ownAddress := hh.sameConnection.2.trans hy.1
      have hgate := hh.gate hread (hy.1 ▸ hy.2)
      rw [hy.1] at hgate
      exact ⟨⟨hown, hgate⟩, hown, hgate.dropFrame hread⟩)
    ⟨rfl, h⟩
  rcases conclude_cases (ι := ι) (drain (frameCutter tcpCheck) (frameStep (ι := ι)) x residue)
    with hc | ⟨code, hc⟩
  · rw [hc]
    exact hinv.2
  · rw [hc, transmit_calls, made_snoc]
    exact hinv.2.sent _ _ (by decide)

end

/-- The invariant of a run: the gate of the current era holds of the entity as it is, and each
closed era was closed with its gate. -/
structure Record.Gated (r : Record π) : Prop where
  cap : r.entity.rxLen ≤ TCP_RX_CAP
  gate : Gate r.entity.logicalAddress r.entity.activeTester r.entity.residue r.events
  past : ∀ era ∈ r.past, ∃ active residue, Gate era.logicalAddress active residue era.events

namespace Record

theorem start_gated (state : π) : (start state).Gated where
  cap := Nat.zero_le _
  gate := Gate.start
  past _ h := nomatch h

/-- A reset closes the era and starts one with nobody active, also if the last one ended within a
frame. -/
theorem Gated.reset {r : Record π} (h : r.Gated) {e : Entity π} (hactive : e.activeTester = none)
    (hlen : e.rxLen = 0) : (r.reset e).Gated where
  cap := by
    change e.rxLen ≤ _
    omega
  gate := by
    have hres : e.residue = [] := by rw [Entity.residue, hlen, List.take_zero]
    change Gate e.logicalAddress e.activeTester e.residue []
    rw [hactive, hres]
    exact Gate.start
  past era hera := by
    rcases List.mem_append.mp hera with hera | hera
    · exact h.past era hera
    · cases List.mem_singleton.mp hera
      exact ⟨_, _, h.gate⟩

/-- A datagram is answered on UDP, which the gate does not see. -/
theorem Gated.onUdpRx {r : Record π} (h : r.Gated) (srcAddr : UInt32) (srcPort : UInt16)
    (data : List UInt8) : ∃ r', r.perform (.onUdpRx srcAddr srcPort data) = some r' ∧ r'.Gated := by
  rcases r.entity.onUdpRx_spec srcAddr srcPort data { state := r.state, calls := [] }
    with hrx | ⟨cb, frame, -, hrx⟩
  · refine ⟨{ r with events := r.events ++ [] }, by rw [perform, hrx]; rfl, h.cap, ?_, h.past⟩
    rw [List.append_nil]
    exact h.gate
  · refine ⟨{ r with
        entity := { r.entity with txBuf := txAfter r.entity.txBuf frame }
        state := (cb.sendUdp srcAddr srcPort frame r.state).2
        events := r.events ++ [.made (.sendUdp srcAddr srcPort frame)] },
      by rw [perform, hrx]; rfl, h.cap, ?_, h.past⟩
    exact h.gate.quiet (fun _ => nofun) (fun _ => nofun)

/-- A chunk is handled frame by frame, or refused as a whole. -/
theorem Gated.onTcpRx {r : Record π} (h : r.Gated) (data : List UInt8) :
    ∃ r', r.perform (.onTcpRx data) = some r' ∧ r'.Gated := by
  cases hcb : r.entity.callbacks with
  | none =>
    have hrx : r.entity.onTcpRx data ⟨r.state, []⟩ = some (.close, r.entity, ⟨r.state, []⟩) := by
      rw [Entity.onTcpRx, hcb]
    have htaken : taken r.entity data = [] := by simp [taken, hcb]
    refine ⟨{ r with events := r.events ++ [] }, by rw [perform, hrx, htaken]; rfl, h.cap, ?_,
      h.past⟩
    rw [List.append_nil]
    exact h.gate
  | some cb =>
    by_cases hdata : data = []
    · subst hdata
      have htaken : taken r.entity [] = [] := by simp [taken]
      refine ⟨{ r with events := r.events ++ [] },
        by rw [perform, Entity.onTcpRx_nil hcb, htaken]; rfl, h.cap, ?_, h.past⟩
      rw [List.append_nil]
      exact h.gate
    by_cases hfit : r.entity.rxLen + data.length ≤ TCP_RX_CAP
    · obtain ⟨e', hrx, hsess, -, hown, hcap, hres⟩ :=
        Entity.onTcpRx_spec (ι := ι) (p := ⟨r.state, []⟩) hcb hdata hfit
      have htaken : taken r.entity data = [.received data] := by simp [taken, hcb, hdata, hfit]
      refine ⟨{ r with entity := e', state := _, events := _ },
        by rw [perform, hrx]; rfl, hcap, ?_, h.past⟩
      have hgate := gate_conclude_drain (ι := ι) (r.events ++ [.received data])
        (x := (r.entity.session cb, ⟨r.state, []⟩))
        (by rw [List.map_nil, List.append_nil]; exact h.gate.receive data)
      change Gate e'.logicalAddress (e'.session cb).activeTester e'.residue _
      rw [hown, hsess, hres, htaken, ← List.append_assoc]
      exact hgate
    · have htaken : taken r.entity data = [] := by simp [taken, hfit]
      refine ⟨{ r with
          entity := { r.entity with txBuf := txAfter r.entity.txBuf (nackFrame .outOfMemory) }
          state := (cb.sendTcp (nackFrame .outOfMemory) r.state).2
          events := r.events ++ [.made (.sendTcp (nackFrame .outOfMemory))] },
        by rw [perform, Entity.onTcpRx_overflow hcb hdata (by omega), htaken]; rfl, h.cap, ?_,
        h.past⟩
      exact h.gate.sent _ _ (by decide)

/-- Every call keeps the invariant, and none of them panics. -/
theorem Gated.perform {r : Record π} (h : r.Gated) (call : EntityCall π) :
    ∃ r', r.perform call = some r' ∧ r'.Gated := by
  cases call with
  | init config callbacks => exact ⟨_, rfl, h.reset rfl rfl⟩
  | deinit => exact ⟨_, rfl, h.reset rfl rfl⟩
  | onUdpRx srcAddr srcPort data => exact h.onUdpRx srcAddr srcPort data
  | onTcpRx data => exact h.onTcpRx data
  | onTcpDisconnect => exact ⟨_, rfl, h.reset rfl rfl⟩

end Record

/-! ## Every run -/

/-- All dispatches of an era are the requests of one tester, the one that is active at its end. -/
theorem Gate.one_tester {own : UInt16} {active : Option UInt16} {residue : List UInt8}
    {events : List Event} (h : Gate own active residue events) :
    ∃ sa, ∀ before data after, events = before ++ .made (.onUdsRequest data) :: after →
      Authorised own sa before data := by
  cases hactive : active with
  | none =>
    refine ⟨0, fun before data after heq => ?_⟩
    obtain ⟨sa, hsa, -⟩ := h.dispatched before data after heq
    rw [hactive] at hsa
    cases hsa
  | some sa =>
    refine ⟨sa, fun before data after heq => ?_⟩
    obtain ⟨sa', hsa, hauth⟩ := h.dispatched before data after heq
    rw [hactive] at hsa
    cases hsa
    exact hauth

/-- An era confirms one tester at most: once it has, every other request is denied until the next
reset. -/
theorem Gate.confirmed_unique {own : UInt16} {active : Option UInt16} {residue : List UInt8}
    {events : List Event} (h : Gate own active residue events) {sa sa' : UInt16}
    (hsa : Confirmed own sa events) (hsa' : Confirmed own sa' events) : sa = sa' := by
  have heq := ((h.confirmed sa).mpr hsa).symm.trans ((h.confirmed sa').mpr hsa')
  exact Option.some.inj heq

theorem Record.Gated.eras {r : Record π} (h : r.Gated) {era : Era} (hera : era ∈ r.eras) :
    ∃ active residue, Gate era.logicalAddress active residue era.events := by
  rcases List.mem_append.mp hera with hera | hera
  · exact h.past era hera
  · cases List.mem_singleton.mp hera
    exact ⟨_, _, h.gate⟩

/-- What a frame can do to the active tester: nothing, or register a tester where there was none,
by answering with one confirmation of its activation. -/
def TesterStep (s : Session π) (p : Platform π) (s' : Session π) (p' : Platform π) : Prop :=
  s'.activeTester = s.activeTester ∨
    s.activeTester = none ∧ ∃ sa, s'.activeTester = some sa ∧ p'.calls = p.calls ++
      [.sendTcp (activationFrame sa s.ownAddress .routingSuccessfullyActivated)]

theorem Handled.testerStep {s : Session π} {p : Platform π} {header : Header}
    {payload : List UInt8} {verdict : TcpVerdict} {x : Session π × Platform π}
    (hh : Handled (ι := ι) s p header payload verdict x) : TesterStep s p x.1 x.2 := by
  cases hh with
  | granted req hdecode hgrant =>
    rcases hgrant.2.2 with hnone | hsame
    · exact .inr ⟨hnone, req.sourceAddress.value, rfl, rfl⟩
    · exact .inl hsame.symm
  | denied | rejected | unserved => exact .inl rfl
  | dispatched dm => exact .inl (dispatch_activeTester _ _ _)

/-- **The routing activation gate.** Every sequence of calls is served without a panic. In each era
between two resets, one tester's address accounts for every dispatch: its activation was confirmed
earlier in that era, and the request is what a diagnostic message received in that era carried, from
that tester to the entity's own address. An era confirms one tester only, and the active tester is
the one confirmed since the last reset, if any; a frame changes it only from nobody to a tester it
confirms. -/
theorem routing_activation_gate (state : π) (calls : List (EntityCall π)) :
    ∃ r, run Record.perform (Record.start state) calls = some r ∧
      (∀ era ∈ r.eras, ∃ sa, ∀ before data after,
        era.events = before ++ .made (.onUdsRequest data) :: after →
          Authorised era.logicalAddress sa before data) ∧
      (∀ era ∈ r.eras, ∀ sa sa', Confirmed era.logicalAddress sa era.events →
        Confirmed era.logicalAddress sa' era.events → sa = sa') ∧
      (∀ sa, r.entity.activeTester = some sa ↔ Confirmed r.entity.logicalAddress sa r.events) ∧
      ∀ (s : Session π) header payload p, ∃ verdict s' p',
        handleTcpFrame s header payload p = some (verdict, s', p') ∧ TesterStep s p s' p' := by
  obtain ⟨r, hrun, hr⟩ := run_total (P := Record.Gated) (fun r call h => h.perform call)
    (Record.start_gated state) calls
  refine ⟨r, hrun, ?_, ?_, hr.gate.confirmed, ?_⟩
  · intro era hera
    obtain ⟨active, residue, hgate⟩ := hr.eras hera
    exact hgate.one_tester
  · intro era hera sa sa' hsa hsa'
    obtain ⟨active, residue, hgate⟩ := hr.eras hera
    exact hgate.confirmed_unique hsa hsa'
  · intro s header payload p
    obtain ⟨verdict, x, hx, hh⟩ := handleTcpFrame_spec (ι := ι) s header payload p
    exact ⟨verdict, x.1, x.2, hx, hh.testerStep⟩

end

end SimpleDoip
