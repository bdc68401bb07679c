import SimpleDoip.Entity.Chunking

/-!
# When the reassembly buffer overruns

The capacity test looks at the residue plus the whole incoming chunk, before any frame is drained.
So a stream of frames that each respect the advertised maximum is received without a close exactly
when every chunk fits behind the incomplete frame it meets (`keepOpen_iff_chunksFit`); a chunk that
holds more than the buffer does not, whatever frames it is made of.
-/

namespace SimpleDoip

open Framing

/-! ## Frames the entity advertises to take -/

/-- A frame with a sound header that declares its payload, and at most `MAX_RX_PAYLOAD` of it. -/
structure RawFrame.Acceptable (f : RawFrame) : Prop where
  header : ∃ v t n, f.header = headerOf v (~~~v) t n
  length : f.payload.length = f.header.payloadLength.toNat
  bound : f.header.payloadLength.toNat ≤ MAX_RX_PAYLOAD

/-- The length of a frame on the wire, with its header. -/
def RawFrame.size (f : RawFrame) : Nat := 8 + f.payload.length

section
variable {ι : Type} [WireCodec ι] {π : Type}

/-- A frame as it stands on the wire: the header as it is, and the payload behind it. -/
def RawFrame.wire (f : RawFrame) : List UInt8 := bytes f.header ++ f.payload

@[simp] theorem RawFrame.length_wire (f : RawFrame) : f.wire.length = f.size := by
  rw [wire, List.length_append]
  rfl

theorem bytes_headerOf (v i : UInt8) (t : UInt16) (n : UInt32) :
    bytes (headerOf v i t n) = rawHeader v i t n := by
  have hv : (ProtocolVersion.ofU8 v).toU8 = v :=
    WireCode.toWire_ofWire (κ := ProtocolVersion) v
  have ht : (PayloadType.ofU16 t).toU16 = t := WireCode.toWire_ofWire (κ := PayloadType) t
  change rawHeader (ProtocolVersion.ofU8 v).toU8 i (PayloadType.ofU16 t).toU16 n = _
  rw [hv, ht]

/-- An acceptable frame by its header fields, in which the inverse byte is right and the length
within the bound. -/
theorem RawFrame.Acceptable.cases {f : RawFrame} (h : f.Acceptable) :
    ∃ v t n, f.header = headerOf v (~~~v) t n ∧ f.wire = rawHeader v (~~~v) t n ++ f.payload ∧
      f.payload.length = n.toNat ∧ tcpCheck (headerOf v (~~~v) t n) = none := by
  obtain ⟨v, t, n, hh⟩ := h.header
  have hlen := h.length
  have hbound := h.bound
  rw [hh] at hlen hbound
  refine ⟨v, t, n, hh, by rw [wire, hh, bytes_headerOf], hlen, ?_⟩
  rw [tcpCheck_headerOf, if_neg (not_not.mpr rfl), if_neg (by exact Nat.not_lt.mpr hbound)]

/-- A whole acceptable frame is read as itself, whatever follows it in the stream. -/
theorem readFrame_wire {f : RawFrame} (h : f.Acceptable) (rest : List UInt8) :
    readFrame tcpCheck (f.wire ++ rest) = .item f f.size := by
  obtain ⟨v, t, n, hh, hw, hlen, hc⟩ := h.cases
  obtain ⟨header, payload⟩ := f
  obtain rfl : header = _ := hh
  rw [hw, List.append_assoc, readFrame_of_parts hc hlen, RawFrame.size, hlen]

/-- A proper prefix of an acceptable frame needs more, and is not rejected. -/
theorem readFrame_take_wire {f : RawFrame} (h : f.Acceptable) {k : Nat} (hk : k < f.size) :
    readFrame tcpCheck (f.wire.take k) = .more := by
  obtain ⟨v, t, n, hh, hw, hlen, hc⟩ := h.cases
  rw [RawFrame.size, hlen] at hk
  rw [hw]
  exact readFrame_take_of_parts hc hlen hk

/-! ## How much of a stream is left over -/

/-- The bytes of the incomplete frame after `fed` bytes of frames of the given sizes. -/
def partialLen : List Nat → Nat → Nat
  | [], fed => fed
  | size :: sizes, fed => if fed < size then fed else partialLen sizes (fed - size)

/-- Every chunk fits into the buffer behind the incomplete frame it meets, `fed` bytes having been
fed before. -/
def ChunksFit (sizes : List Nat) (fed : Nat) : List (List UInt8) → Prop
  | [] => True
  | chunk :: rest =>
    partialLen sizes fed + chunk.length ≤ TCP_RX_CAP ∧ ChunksFit sizes (fed + chunk.length) rest

/-- The frames on the wire, one after the other, as a tester sends them. -/
def streamOf (frames : List RawFrame) : List UInt8 := (frames.map RawFrame.wire).flatten

@[simp] theorem streamOf_nil : streamOf [] = [] := rfl

@[simp] theorem streamOf_cons (f : RawFrame) (frames : List RawFrame) :
    streamOf (f :: frames) = f.wire ++ streamOf frames := rfl

/-- A frame that leaves the connection open is a step of the drain, and the rest is folded from
there. -/
theorem referenceFrames_cons_keepOpen {s : Session π} {p : Platform π} {f : RawFrame}
    {frames : List RawFrame} {x : Session π × Platform π}
    (h : referenceFrames (ι := ι) s p (f :: frames) none = some (.keepOpen, x)) :
    ∃ x', frameStep (ι := ι) (s, p) f = .next x' ∧
      referenceFrames (ι := ι) x'.1 x'.2 frames none = some (.keepOpen, x) := by
  obtain ⟨verdict, x', hx, -⟩ := handleTcpFrame_spec (ι := ι) s f.header f.payload p
  rw [referenceFrames, hx] at h
  cases verdict with
  | keepOpen => exact ⟨x', by simp only [frameStep, hx], h⟩
  | close => cases h

/-- **A prefix of a stream of open frames** drains to a residue of `partialLen` bytes. -/
theorem drain_take_streamOf {frames : List RawFrame} (hok : ∀ f ∈ frames, f.Acceptable)
    {x xₙ : Session π × Platform π}
    (hopen : referenceFrames (ι := ι) x.1 x.2 frames none = some (.keepOpen, xₙ))
    {k : Nat} (hk : k ≤ (streamOf frames).length) :
    ∃ x' r, drain (frameCutter tcpCheck) (frameStep (ι := ι)) x ((streamOf frames).take k) =
        (x', .waiting, r) ∧ r.length = partialLen (frames.map RawFrame.size) k := by
  induction frames generalizing x k with
  | nil =>
    have hk0 : k = 0 := by simpa using hk
    subst hk0
    exact ⟨x, [], drain_more (c := frameCutter tcpCheck) rfl, rfl⟩
  | cons f frames ih =>
    have hf : f.Acceptable := hok f List.mem_cons_self
    rw [streamOf_cons, List.length_append, RawFrame.length_wire] at hk
    by_cases hlt : k < f.size
    · have htake : (streamOf (f :: frames)).take k = f.wire.take k := by
        rw [streamOf_cons, List.take_append_of_le_length (by rw [RawFrame.length_wire]; omega)]
      rw [htake, drain_more (c := frameCutter tcpCheck) (readFrame_take_wire hf hlt)]
      refine ⟨x, _, rfl, ?_⟩
      rw [List.map_cons, partialLen, if_pos hlt, List.length_take, RawFrame.length_wire]
      omega
    · obtain ⟨x', hstep, hrest⟩ := referenceFrames_cons_keepOpen hopen
      have htake : (streamOf (f :: frames)).take k =
          f.wire ++ (streamOf frames).take (k - f.size) := by
        rw [streamOf_cons, List.take_append, RawFrame.length_wire,
          List.take_of_length_le (by rw [RawFrame.length_wire]; omega)]
      rw [htake, drain_next (c := frameCutter tcpCheck) (s := f.wire ++ _)
        (readFrame_wire hf _) hstep, List.drop_left' f.length_wire]
      obtain ⟨x'', r, hd, hr⟩ := ih (fun g hg => hok g (List.mem_cons_of_mem f hg)) hrest
        (k := k - f.size) (by omega)
      refine ⟨x'', r, hd, ?_⟩
      rw [hr, List.map_cons, partialLen, if_neg hlt]

/-! ## Runs over a stream of open frames -/

/-- An entity that took `fed` bytes of a stream and stands where a drain of them stands. -/
structure Tracks (ι : Type) [WireCodec ι] (x₀ : Session π × Platform π) (stream : List UInt8)
    (cb : Callbacks π) (e : Entity π) (p : Platform π) (fed : Nat) : Prop where
  callbacks : e.callbacks = some cb
  cap : e.rxLen ≤ TCP_RX_CAP
  drained : drain (frameCutter tcpCheck) (frameStep (ι := ι)) x₀ (stream.take fed) =
    ((e.session cb, p), .waiting, e.residue)

/-- What a stream of open frames guarantees: every prefix of it drains, leaving `partialLen`. -/
def DrainsOpen (ι : Type) [WireCodec ι] (x₀ : Session π × Platform π) (stream : List UInt8)
    (sizes : List Nat) : Prop :=
  ∀ k ≤ stream.length, ∃ x' r,
    drain (frameCutter tcpCheck) (frameStep (ι := ι)) x₀ (stream.take k) = (x', .waiting, r) ∧
      r.length = partialLen sizes k

section
variable {x₀ : Session π × Platform π} {stream : List UInt8} {sizes : List Nat}
  {cb : Callbacks π} {e : Entity π} {p : Platform π} {fed : Nat}

/-- The entity holds the incomplete frame and nothing else, so that the room it has left is known
from what was fed. -/
theorem Tracks.rxLen (h : Tracks ι x₀ stream cb e p fed) (hopen : DrainsOpen ι x₀ stream sizes)
    (hfed : fed ≤ stream.length) : e.rxLen = partialLen sizes fed := by
  obtain ⟨x', r, hd, hr⟩ := hopen fed hfed
  rw [h.drained] at hd
  cases hd
  rw [← hr, e.length_residue h.cap]

/-- A chunk of the stream that fits keeps the connection open and the entity on track. -/
theorem Tracks.step (h : Tracks ι x₀ stream cb e p fed) (hopen : DrainsOpen ι x₀ stream sizes)
    {chunk rest : List UInt8} (hchunk : stream.drop fed = chunk ++ rest)
    (hfit : e.rxLen + chunk.length ≤ TCP_RX_CAP) :
    ∃ e' p', e.onTcpRx chunk p = some (.keepOpen, e', p') ∧
      Tracks ι x₀ stream cb e' p' (fed + chunk.length) := by
  have hmore := read_of_drain_waiting h.drained
  have htake : stream.take (fed + chunk.length) = stream.take fed ++ chunk := by
    rw [List.take_add, hchunk, List.take_left]
  have hlen : fed + chunk.length ≤ stream.length ∨ chunk = [] := by
    have := congrArg List.length hchunk
    simp only [List.length_drop, List.length_append] at this
    cases chunk with
    | nil => exact .inr rfl
    | cons b bs => exact .inl (by simp only [List.length_cons] at this ⊢; omega)
  obtain ⟨e', hrx, hsess, hcb, -, hcap, hres⟩ :=
    onTcpRx_chunk (ι := ι) (p := p) h.callbacks hfit hmore
  -- the chunk behind the residue drains as the longer prefix does
  have hdrain : drain (frameCutter tcpCheck) (frameStep (ι := ι)) x₀
      (stream.take (fed + chunk.length)) = e.drainOf ι cb chunk p := by
    rw [htake, drain_append, h.drained]
    rfl
  have hwait : ∃ x' r, e.drainOf ι cb chunk p = (x', .waiting, r) := by
    rcases hlen with hlen | rfl
    · obtain ⟨x', r, hd, -⟩ := hopen _ hlen
      exact ⟨x', r, hdrain ▸ hd⟩
    · exact ⟨_, _, by rw [Entity.drainOf, List.append_nil, drain_more hmore]⟩
  obtain ⟨x', r, hd⟩ := hwait
  rw [hd] at hrx hsess hres
  refine ⟨e', x'.2, hrx, hcb, hcap, ?_⟩
  rw [hdrain, hd, hsess, hres]
  rfl

/-- **Overruns, in terms of the input.** Along a stream of open frames no call overruns the buffer
exactly when every chunk fits behind the incomplete frame it meets. -/
theorem Tracks.noOverflow_iff {chunks : List (List UInt8)}
    (h : Tracks ι x₀ stream cb e p fed) (hopen : DrainsOpen ι x₀ stream sizes)
    (hfed : fed ≤ stream.length) (hchunks : stream.drop fed = chunks.flatten) :
    NoOverflow (ι := ι) e p chunks ↔ ChunksFit sizes fed chunks := by
  induction chunks generalizing e p fed with
  | nil => exact Iff.rfl
  | cons chunk rest ih =>
    rw [List.flatten_cons] at hchunks
    rw [NoOverflow, ChunksFit, ← h.rxLen hopen hfed]
    refine and_congr_right fun hfit => ?_
    obtain ⟨e', p', hrx, htrack⟩ := h.step hopen hchunks hfit
    have hdrop : stream.drop (fed + chunk.length) = rest.flatten := by
      rw [← List.drop_drop, hchunks, List.drop_left]
    have hfed' : fed + chunk.length ≤ stream.length := by
      have := congrArg List.length hchunks
      simp only [List.length_drop, List.length_append] at this
      omega
    rw [← ih htrack hfed' hdrop]
    constructor
    · exact fun hno => hno e' p' hrx
    · intro hno e₁ p₁ hrx₁
      rw [hrx] at hrx₁
      cases hrx₁
      exact hno

end

/-- A run that ends with the connection open never overran the buffer, as an overrun closes it. -/
theorem noOverflow_of_keepOpen {e e' : Entity π} {cb : Callbacks π} {p p' : Platform π}
    {chunks : List (List UInt8)} (hcb : e.callbacks = some cb)
    (hcap : e.rxLen ≤ TCP_RX_CAP)
    (h : feedTcp (ι := ι) e p chunks = some (.keepOpen, e', p')) :
    NoOverflow (ι := ι) e p chunks := by
  induction chunks generalizing e p with
  | nil => exact trivial
  | cons chunk rest ih =>
    by_cases hd : chunk = []
    · subst hd
      rw [feedTcp, Entity.onTcpRx_nil hcb] at h
      refine ⟨by simpa using hcap, fun e₁ p₁ hrx => ?_⟩
      rw [Entity.onTcpRx_nil hcb] at hrx
      cases hrx
      exact ih hcb hcap h
    by_cases hfit : e.rxLen + chunk.length ≤ TCP_RX_CAP
    · refine ⟨hfit, fun e₁ p₁ hrx => ?_⟩
      obtain ⟨e₂, hrx₂, -, hcb₂, -, hcap₂, -⟩ :=
        Entity.onTcpRx_spec (ι := ι) (p := p) hcb hd hfit
      rw [feedTcp, hrx] at h
      rw [hrx] at hrx₂
      obtain ⟨-, rfl, -⟩ : _ = _ ∧ _ = _ ∧ _ = _ := by simpa using hrx₂
      exact ih hcb₂ hcap₂ h
    · rw [feedTcp, Entity.onTcpRx_overflow hcb hd (by omega)] at h
      cases h

/-! ## The out-of-memory acknowledgement -/

/-- The calls a platform got since another one, none of them the out-of-memory acknowledgement. -/
def NoOutOfMemory (ι : Type) [WireCodec ι] (p p' : Platform π) : Prop :=
  ∃ calls, p'.calls = p.calls ++ calls ∧ .sendTcp (nackFrame (ι := ι) .outOfMemory) ∉ calls

/-- Sending a frame that is not that acknowledgement does not add one. -/
theorem NoOutOfMemory.transmit {p₀ : Platform π} {x : Session π × Platform π} {frame : List UInt8}
    (h : NoOutOfMemory ι p₀ x.2) (hframe : nackFrame (ι := ι) .outOfMemory ≠ frame) :
    NoOutOfMemory ι p₀ (transmit frame x).2 := by
  obtain ⟨calls, hcalls, hno⟩ := h
  exact ⟨calls ++ [.sendTcp frame], by rw [transmit_calls, hcalls, List.append_assoc],
    by simp [hno, hframe]⟩

/-- Handling a frame never sends the out-of-memory acknowledgement. Only a chunk that does not fit
is answered with it. -/
theorem Handled.noOutOfMemory {p₀ p : Platform π} {s : Session π} {header : Header}
    {payload : List UInt8} {verdict : TcpVerdict} {x : Session π × Platform π}
    (h : Handled (ι := ι) s p header payload verdict x) (hp : NoOutOfMemory ι p₀ p) :
    NoOutOfMemory ι p₀ x.2 := by
  cases h with
  | granted | denied | rejected =>
    exact NoOutOfMemory.transmit (x := (_, p)) hp
      fun h => absurd (toU16_eq_of_entityFrame h) (by decide)
  | unserved => exact NoOutOfMemory.transmit (x := (s, p)) hp (nackFrame_ne (by decide))
  | dispatched dm =>
    obtain ⟨responses, -, hcalls⟩ :=
      dispatch_calls (ι := ι) dm.sourceAddress.value dm.userData (s, p)
    obtain ⟨calls, hp, hno⟩ := hp
    refine ⟨_, by rw [hcalls, hp, List.append_assoc], ?_⟩
    have hack : ∀ data, nackFrame (ι := ι) .outOfMemory ≠
        diagnosticFrame s.ownAddress dm.sourceAddress.value data :=
      fun data h => absurd (toU16_eq_of_entityFrame h) (by decide)
    simp only [List.mem_append, hno, List.mem_cons, PlatformCall.sendTcp.injEq, reduceCtorEq,
      List.mem_map, false_or, not_or, not_exists, not_and]
    exact ⟨fun h => absurd (toU16_eq_of_entityFrame h) (by decide),
      fun data _ h => hack data h.symm⟩

/-- **Capacity.** Let a fresh entity receive a stream of acceptable frames none of which closes the
connection. Every verdict is to keep the connection open, and no out-of-memory acknowledgement is
sent, exactly when every chunk fits into the buffer behind the incomplete frame it meets. -/
theorem keepOpen_iff_chunksFit {e : Entity π} {cb : Callbacks π} (hfresh : e.Fresh cb)
    (p : Platform π) {frames : List RawFrame} (hok : ∀ f ∈ frames, f.Acceptable)
    (hopen : ∃ x, referenceFrames (ι := ι) (e.session cb) p frames none = some (.keepOpen, x))
    {chunks : List (List UInt8)} (hchunks : chunks.flatten = streamOf (ι := ι) frames) :
    (∃ e' p', feedTcp (ι := ι) e p chunks = some (.keepOpen, e', p') ∧ NoOutOfMemory ι p p') ↔
      ChunksFit (frames.map RawFrame.size) 0 chunks := by
  obtain ⟨xₙ, hopen⟩ := hopen
  have hdrains : DrainsOpen ι (e.session cb, p) (streamOf (ι := ι) frames)
      (frames.map RawFrame.size) :=
    fun k hk => drain_take_streamOf hok (x := (e.session cb, p)) hopen hk
  have hnil : (frameCutter tcpCheck).read e.residue = .more := by rw [hfresh.residue]; rfl
  have htrack : Tracks ι (e.session cb, p) (streamOf (ι := ι) frames) cb e p 0 := by
    refine ⟨hfresh.callbacks, by rw [hfresh.rxLen]; exact Nat.zero_le _, ?_⟩
    rw [List.take_zero, hfresh.residue]
    exact drain_more (c := frameCutter tcpCheck) rfl
  rw [← htrack.noOverflow_iff hdrains (Nat.zero_le _) hchunks.symm]
  constructor
  · rintro ⟨e', p', hfeed, -⟩
    exact noOverflow_of_keepOpen hfresh.callbacks htrack.cap hfeed
  · intro hno
    obtain ⟨e', hfeed, -⟩ := feedTcp_spec hfresh.callbacks hnil hno
    rw [hfresh.residue, List.nil_append, hchunks] at hfeed
    obtain ⟨x', r, hd, -⟩ := hdrains _ (Nat.le_refl _)
    rw [List.take_length] at hd
    rw [hd] at hfeed
    refine ⟨e', x'.2, hfeed, ?_⟩
    have hinv : NoOutOfMemory ι p (drain (frameCutter tcpCheck) (frameStep (ι := ι))
        (e.session cb, p) (streamOf (ι := ι) frames)).1.2 :=
      drain_frames_invariant (P := fun y _ => NoOutOfMemory ι p y.2)
        (fun y y' s f n v _ hh hy => ⟨hh.noOutOfMemory hy, hh.noOutOfMemory hy⟩)
        ⟨[], (List.append_nil _).symm, List.not_mem_nil⟩
    rwa [hd] at hinv

/-- An alive check request with `n` bytes nobody reads, which makes a frame of any size. -/
def aliveCheckFrame (n : UInt32) : RawFrame :=
  ⟨headerOf 0x02 0xFD 0x0007 n, List.replicate n.toNat 0⟩

theorem aliveCheckFrame_acceptable {n : UInt32} (h : n.toNat ≤ MAX_RX_PAYLOAD) :
    (aliveCheckFrame n).Acceptable :=
  ⟨⟨0x02, 0x0007, n, rfl⟩, List.length_replicate, h⟩

theorem size_aliveCheckFrame (n : UInt32) : (aliveCheckFrame n).size = 8 + n.toNat := by
  rw [RawFrame.size, aliveCheckFrame, List.length_replicate]

/-- Alive check requests are not served on the data socket, and keep the connection open. -/
theorem referenceFrames_aliveChecks (s : Session π) (p : Platform π) (ns : List UInt32) :
    ∃ x, referenceFrames (ι := ι) s p (ns.map aliveCheckFrame) none = some (.keepOpen, x) := by
  induction ns generalizing s p with
  | nil => exact ⟨_, rfl⟩
  | cons n ns ih =>
    have hframe : handleTcpFrame (ι := ι) s (aliveCheckFrame n).header
        (aliveCheckFrame n).payload p =
          some (.keepOpen, transmit (nackFrame .unknownPayloadType) (s, p)) := by
      have ht : (aliveCheckFrame n).header.payloadType = .aliveCheckRequest := rfl
      simp only [handleTcpFrame, ht, Payload.decode, sendTcpNack_eq]
      rfl
    rw [List.map_cons, referenceFrames, hframe]
    exact ih _ _

end

/-- Two alive check requests of at most the advertised size, in one chunk: the connection is closed
for lack of memory before either is looked at. -/
theorem outOfMemory_on_two_acceptable_frames :
    letI := plainWire
    (∀ f ∈ [2040, 0].map aliveCheckFrame, f.Acceptable) ∧
    (∃ x, referenceFrames (blankEntity.session silentCallbacks) ⟨(), []⟩
      ([2040, 0].map aliveCheckFrame) none = some (.keepOpen, x)) ∧
    ∃ e' p', feedTcp blankEntity ⟨(), []⟩ [streamOf ([2040, 0].map aliveCheckFrame)] =
        some (.close, e', p') ∧
      p'.calls = [.sendTcp (nackFrame .outOfMemory)] := by
  let := plainWire
  refine ⟨?_, referenceFrames_aliveChecks _ _ _, ?_⟩
  · simp only [List.map_cons, List.map_nil, List.mem_cons, List.not_mem_nil, or_false,
      forall_eq_or_imp, forall_eq]
    exact ⟨aliveCheckFrame_acceptable (by decide), aliveCheckFrame_acceptable (by decide)⟩
  · have hlen : (streamOf ([2040, 0].map aliveCheckFrame)).length = 2056 := by
      simp only [List.map_cons, List.map_nil, streamOf_cons, streamOf_nil, List.length_append,
        RawFrame.length_wire, size_aliveCheckFrame, List.length_nil]
      decide
    have hcb : blankEntity.callbacks = some silentCallbacks := rfl
    have hne : streamOf ([2040, 0].map aliveCheckFrame) ≠ [] := by
      rw [← List.length_pos_iff, hlen]
      decide
    rw [feedTcp, Entity.onTcpRx_overflow hcb hne (by rw [hlen]; decide)]
    exact ⟨_, _, rfl, rfl⟩

/-- An alive check request cut inside its header keeps the connection open. -/
theorem keepOpen_iff_chunksFit_split :
    letI := plainWire
    ∃ e' p', feedTcp blankEntity ⟨(), []⟩ [[0x02, 0xFD, 0x00], [0x07, 0x00, 0x00, 0x00, 0x00]] =
      some (.keepOpen, e', p') ∧ NoOutOfMemory Incomplete ⟨(), []⟩ p' := by
  let := plainWire
  have hok : ∀ f ∈ [0].map aliveCheckFrame, f.Acceptable := by
    simp only [List.map_cons, List.map_nil, List.mem_singleton, forall_eq]
    exact aliveCheckFrame_acceptable (by decide)
  have hfit : ChunksFit (([0].map aliveCheckFrame).map RawFrame.size) 0
      [[0x02, 0xFD, 0x00], [0x07, 0x00, 0x00, 0x00, 0x00]] := ⟨by decide, by decide, trivial⟩
  have hfresh : blankEntity.Fresh silentCallbacks := .init _ _
  have hstream : [[0x02, 0xFD, 0x00], [0x07, 0x00, 0x00, 0x00, 0x00]].flatten =
      streamOf ([0].map aliveCheckFrame) := rfl
  exact (keepOpen_iff_chunksFit hfresh ⟨(), []⟩ hok (referenceFrames_aliveChecks _ _ _)
    hstream).mpr hfit

end SimpleDoip
