import SimpleDoip.Entity.Reassembly

/-!
# The TCP stream, chunk by chunk

A platform feeds the diagnostic connection in chunks until it is told to close. `referenceTcp`
works on the stream as a whole: it cuts the stream into frames and folds the frame handler over
them. As long as no chunk overruns the reassembly buffer the two cannot be told apart
(`tcp_stream_refines_reference`), and `keepOpen_iff_chunksFit` says when a chunk does.
-/

namespace SimpleDoip

open Framing

section
variable {ι : Type} [WireCodec ι] {π : Type}

/-! ## Runs -/

/-- Feed the chunks in order, stopping at the first verdict to close, as a platform that closes the
connection then. -/
def feedTcp (e : Entity π) (p : Platform π) :
    List (List UInt8) → Option (TcpVerdict × Entity π × Platform π)
  | [] => some (.keepOpen, e, p)
  | chunk :: rest =>
    match e.onTcpRx chunk p with
    | none => none
    | some (.close, e', p') => some (.close, e', p')
    | some (.keepOpen, e', p') => feedTcp e' p' rest

/-- No call of the run finds more bytes than the reassembly buffer can take. -/
def NoOverflow (e : Entity π) (p : Platform π) : List (List UInt8) → Prop
  | [] => True
  | chunk :: rest =>
    e.rxLen + chunk.length ≤ TCP_RX_CAP ∧
      ∀ e' p', e.onTcpRx chunk p = some (.keepOpen, e', p') → NoOverflow e' p' rest

/-- An initialised entity just after `init` or `on_tcp_disconnect`: what it had before does not
matter. -/
inductive Entity.Fresh (cb : Callbacks π) : Entity π → Prop where
  | init (e : Entity π) (config : EntityConfig) : Fresh cb (e.init config cb)
  | disconnected (e : Entity π) (h : e.callbacks = some cb) : Fresh cb e.onTcpDisconnect

namespace Entity.Fresh
variable {e : Entity π} {cb : Callbacks π}

theorem callbacks (h : e.Fresh cb) : e.callbacks = some cb := by
  cases h with
  | init => rfl
  | disconnected e h => exact h

theorem rxLen (h : e.Fresh cb) : e.rxLen = 0 := by cases h <;> rfl

theorem activeTester (h : e.Fresh cb) : e.activeTester = none := by cases h <;> rfl

theorem residue (h : e.Fresh cb) : e.residue = [] := by
  rw [Entity.residue, h.rxLen, List.take_zero]

end Entity.Fresh

/-! ## The reference -/

/-- Fold the frame handler over the frames of a stream, stopping at the first verdict to close, and
answer the header that ends the stream if there is one. -/
def referenceFrames (s : Session π) (p : Platform π) :
    List RawFrame → Option NackCode → Option (TcpVerdict × Session π × Platform π)
  | [], none => some (.keepOpen, s, p)
  | [], some code => do
    let (txBuf, p) ← sendTcpNack s.cb s.txBuf code p
    return (.close, { s with txBuf }, p)
  | frame :: frames, e => do
    let (verdict, s, p) ← handleTcpFrame s frame.header frame.payload p
    if verdict = .keepOpen then referenceFrames s p frames e else return (verdict, s, p)

/-- Cut the whole stream into frames, up to the first header with a wrong inverse byte or too large
a payload, and handle them. -/
def referenceTcp (s : Session π) (p : Platform π) (stream : List UInt8) :
    Option (TcpVerdict × Session π × Platform π) :=
  let (items, e, _) := cut (frameCutter tcpCheck) stream
  referenceFrames s p (items.map Prod.fst) e

/-- The reference is the conclusion of a drain, over the whole stream at once. -/
theorem referenceTcp_eq (s : Session π) (p : Platform π) (stream : List UInt8) :
    referenceTcp s p stream =
      some (conclude (drain (frameCutter tcpCheck) (frameStep (ι := ι)) (s, p) stream)) := by
  rw [drain_eq_walk, referenceTcp]
  obtain ⟨items, e, r⟩ := cut (frameCutter tcpCheck) stream
  dsimp only
  induction items generalizing s p with
  | nil =>
    cases e with
    | none =>
      rw [List.map_nil, referenceFrames, walk]
      rfl
    | some code =>
      rw [List.map_nil, referenceFrames, sendTcpNack_eq, walk]
      rfl
  | cons item items ih =>
    obtain ⟨frame, stream'⟩ := item
    obtain ⟨verdict, x, hx, -⟩ :=
      handleTcpFrame_spec (ι := ι) s frame.header frame.payload p
    rw [List.map_cons, referenceFrames, hx, walk]
    cases verdict with
    | keepOpen =>
      have hstep : frameStep (ι := ι) (s, p) frame = .next x := by simp only [frameStep, hx]
      rw [hstep]
      exact ih x.1 x.2
    | close =>
      have hstep : frameStep (ι := ι) (s, p) frame = .halt x () := by simp only [frameStep, hx]
      rw [hstep]
      rfl

/-! ## Chunk independence -/

/-- A chunk that leaves the connection open, empty or not, leaves a residue that needs more. -/
theorem onTcpRx_chunk {e : Entity π} {cb : Callbacks π} {p : Platform π} {chunk : List UInt8}
    (hcb : e.callbacks = some cb) (hfit : e.rxLen + chunk.length ≤ TCP_RX_CAP)
    (hmore : (frameCutter tcpCheck).read e.residue = .more) :
    ∃ e', e.onTcpRx chunk p = some ((conclude (e.drainOf ι cb chunk p)).1, e',
        (conclude (e.drainOf ι cb chunk p)).2.2) ∧
      e'.session cb = (conclude (e.drainOf ι cb chunk p)).2.1 ∧ e'.callbacks = some cb ∧
      e'.logicalAddress = e.logicalAddress ∧ e'.rxLen ≤ TCP_RX_CAP ∧
      e'.residue = (e.drainOf ι cb chunk p).2.2 := by
  by_cases hd : chunk = []
  · subst hd
    have hdrain : e.drainOf ι cb [] p = ((e.session cb, p), .waiting, e.residue) := by
      rw [Entity.drainOf, List.append_nil, drain_more hmore]
    rw [hdrain]
    exact ⟨e, Entity.onTcpRx_nil hcb p, rfl, hcb, rfl, by simpa using hfit, rfl⟩
  · exact Entity.onTcpRx_spec hcb hd hfit

/-- Feeding chunks to the entity is feeding them to the drain, as long as none of them overruns the
buffer. -/
theorem feedTcp_spec {e : Entity π} {cb : Callbacks π} {p : Platform π}
    {chunks : List (List UInt8)} (hcb : e.callbacks = some cb)
    (hmore : (frameCutter tcpCheck).read e.residue = .more) (hno : NoOverflow (ι := ι) e p chunks) :
    ∃ e', feedTcp e p chunks =
        some ((conclude (drain (frameCutter tcpCheck) (frameStep (ι := ι)) (e.session cb, p)
          (e.residue ++ chunks.flatten))).1, e',
          (conclude (drain (frameCutter tcpCheck) (frameStep (ι := ι)) (e.session cb, p)
            (e.residue ++ chunks.flatten))).2.2) ∧
      e'.session cb = (conclude (drain (frameCutter tcpCheck) (frameStep (ι := ι))
        (e.session cb, p) (e.residue ++ chunks.flatten))).2.1 := by
  induction chunks generalizing e p with
  | nil =>
    rw [List.flatten_nil, List.append_nil, drain_more hmore]
    exact ⟨e, rfl, rfl⟩
  | cons chunk rest ih =>
    obtain ⟨hfit, hrest⟩ := hno
    obtain ⟨e₁, hrx, hsess, hcb₁, -, -, hres⟩ := onTcpRx_chunk (ι := ι) (p := p) hcb hfit hmore
    rw [List.flatten_cons, ← List.append_assoc, drain_append, feedTcp, hrx]
    rw [Entity.drainOf] at hrx hsess hres ⊢
    rcases hd : drain (frameCutter tcpCheck) (frameStep (ι := ι)) (e.session cb, p)
      (e.residue ++ chunk) with ⟨x, stop, r⟩
    rw [hd] at hrx hsess hres
    cases stop with
    | failed code => exact ⟨e₁, rfl, hsess⟩
    | halted u => exact ⟨e₁, rfl, hsess⟩
    | waiting =>
      have hx : (e₁.session cb, x.2) = x := by rw [hsess]; rfl
      have hmore₁ : (frameCutter tcpCheck).read e₁.residue = .more := by
        rw [hres]
        exact read_of_drain_waiting hd
      obtain ⟨e', hfeed, hs'⟩ := ih hcb₁ hmore₁ (hrest e₁ x.2 hrx)
      rw [hx, hres] at hfeed hs'
      exact ⟨e', hfeed, hs'⟩

/-- A stream shorter than the buffer never overruns it, however it is cut into chunks. -/
theorem noOverflow_of_length {e : Entity π} {cb : Callbacks π} {p : Platform π}
    {chunks : List (List UInt8)} (hcb : e.callbacks = some cb)
    (hmore : (frameCutter tcpCheck).read e.residue = .more)
    (hlen : e.rxLen + chunks.flatten.length ≤ TCP_RX_CAP) : NoOverflow (ι := ι) e p chunks := by
  induction chunks generalizing e p with
  | nil => exact trivial
  | cons chunk rest ih =>
    rw [List.flatten_cons, List.length_append] at hlen
    have hfit : e.rxLen + chunk.length ≤ TCP_RX_CAP := by omega
    refine ⟨hfit, fun e' p' hrx => ?_⟩
    obtain ⟨e₁, hrx₁, -, hcb₁, -, hcap, hres⟩ := onTcpRx_chunk (ι := ι) (p := p) hcb hfit hmore
    rw [hrx] at hrx₁
    obtain ⟨hv, rfl, -⟩ : _ = _ ∧ _ = _ ∧ _ = _ := by simpa using hrx₁
    rw [Entity.drainOf] at hv hres
    rcases hd : drain (frameCutter tcpCheck) (frameStep (ι := ι)) (e.session cb, p)
      (e.residue ++ chunk) with ⟨x, stop, r⟩
    have hsuffix := (drain_suffix (c := frameCutter tcpCheck) (f := frameStep (ι := ι))
      (e.session cb, p) (e.residue ++ chunk)).length_le
    rw [hd] at hv hres hsuffix
    have hr := e'.length_residue hcap
    have hr₀ := e.length_residue (by omega)
    rw [hres] at hr
    simp only [List.length_append] at hsuffix hr
    cases stop with
    | failed code => cases hv
    | halted u => cases hv
    | waiting =>
      refine ih hcb₁ ?_ (by omega)
      rw [hres]
      exact read_of_drain_waiting hd

/-- **Reassembly refines the stream reference.** From a fresh entity, chunks that never overrun the
buffer lead to the callback calls, the verdict and the active tester of the reference on the whole
stream; so no two such chunkings of one stream can be told apart. -/
theorem tcp_stream_refines_reference {e : Entity π} {cb : Callbacks π} (hfresh : e.Fresh cb)
    (p : Platform π) :
    (∀ chunks, NoOverflow (ι := ι) e p chunks →
      ∃ verdict e' s' p', feedTcp (ι := ι) e p chunks = some (verdict, e', p') ∧
        referenceTcp (ι := ι) (e.session cb) p chunks.flatten = some (verdict, s', p') ∧
        e'.activeTester = s'.activeTester) ∧
    (∀ chunks₁ chunks₂, chunks₁.flatten = chunks₂.flatten →
      NoOverflow (ι := ι) e p chunks₁ → NoOverflow (ι := ι) e p chunks₂ →
      ∃ verdict e₁ e₂ p', feedTcp (ι := ι) e p chunks₁ = some (verdict, e₁, p') ∧
        feedTcp (ι := ι) e p chunks₂ = some (verdict, e₂, p') ∧
        e₁.activeTester = e₂.activeTester) := by
  have hmore : (frameCutter tcpCheck).read e.residue = .more := by
    rw [hfresh.residue]
    rfl
  have key : ∀ chunks, NoOverflow (ι := ι) e p chunks →
      ∃ verdict e' s' p', feedTcp (ι := ι) e p chunks = some (verdict, e', p') ∧
        referenceTcp (ι := ι) (e.session cb) p chunks.flatten = some (verdict, s', p') ∧
        e'.activeTester = s'.activeTester := by
    intro chunks hno
    obtain ⟨e', hfeed, hsess⟩ := feedTcp_spec hfresh.callbacks hmore hno
    rw [hfresh.residue, List.nil_append] at hfeed hsess
    exact ⟨_, e', _, _, hfeed, referenceTcp_eq _ _ _, congrArg Session.activeTester hsess⟩
  refine ⟨key, fun chunks₁ chunks₂ hflat h₁ h₂ => ?_⟩
  obtain ⟨v₁, e₁, s₁, p₁, hf₁, hr₁, ha₁⟩ := key chunks₁ h₁
  obtain ⟨v₂, e₂, s₂, p₂, hf₂, hr₂, ha₂⟩ := key chunks₂ h₂
  rw [hflat, hr₂] at hr₁
  cases hr₁
  exact ⟨_, e₁, e₂, _, hf₁, hf₂, ha₁.trans ha₂.symm⟩

end

/-- Callbacks that do nothing and answer no request, for runs on fixed bytes. -/
def silentCallbacks : Callbacks Unit where
  sendUdp _ _ _ s := (0, s)
  sendTcp _ s := (0, s)
  onUdsRequest _ buf s := (0, buf, s)

/-- An identity of zeros at address `0x1000`, for runs on fixed bytes. -/
def blankConfig : EntityConfig where
  vin := filledArray VIN_LEN 0
  eid := filledArray EID_LEN 0
  gid := filledArray GID_LEN 0
  logicalAddress := 0x1000

/-- A freshly initialised entity, with the callbacks and the identity from above. -/
def blankEntity : Entity Unit := Entity.init .new blankConfig silentCallbacks

/-- An alive check request cut inside its header is answered as the reference answers it whole. -/
theorem tcp_stream_refines_reference_split :
    letI := plainWire
    ∃ verdict e' s' p',
      feedTcp blankEntity ⟨(), []⟩ [[0x02, 0xFD, 0x00], [0x07, 0x00, 0x00, 0x00, 0x00]] =
        some (verdict, e', p') ∧
      referenceTcp (blankEntity.session silentCallbacks) ⟨(), []⟩
        [0x02, 0xFD, 0x00, 0x07, 0x00, 0x00, 0x00, 0x00] = some (verdict, s', p') ∧
      e'.activeTester = s'.activeTester := by
  let := plainWire
  have hfresh : blankEntity.Fresh silentCallbacks := .init _ _
  refine (tcp_stream_refines_reference hfresh ⟨(), []⟩).1 _ (noOverflow_of_length
    hfresh.callbacks ?_ ?_)
  · rw [hfresh.residue]
    rfl
  · rw [hfresh.rxLen]
    decide

end SimpleDoip
