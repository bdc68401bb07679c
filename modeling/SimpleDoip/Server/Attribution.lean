import SimpleDoip.Server.Gate

/-!
# Whom the async server attributes a message to

With every message goes what the server knows of the tester that sent it. `Clients` are the
connections of one server: the accept loop serves one after the other, and whoever calls
`handle_client_connection` directly may serve several at a time. They share the handler and its
state, and nothing else. `Client.Attributed` is what every connection keeps, whatever the others do:
the address the server reports is the one of the tester whose routing activation was granted last on
this connection, computed from its own calls.
-/

namespace SimpleDoip

open Transition

namespace Server

/-- A connection that was accepted: who is on the other end, what was read from it, and how far
serving it has come. -/
structure Client (ι η : Type) [WireCodec ι] [Framed ι] where
  peer : Peer
  reads : List Read
  serving : Serving ι η

/-- The connections of a server in the order they were accepted, and the state of its handler. -/
structure Clients (ι η : Type) [WireCodec ι] [Framed ι] where
  handlerState : η
  accepted : List (Client ι η)

/-- A connection is accepted, or something is read from one. Connections go on in any order. -/
inductive Incoming where
  | accept (peer : Peer)
  | read (i : Nat) (read : Read)

section
variable {ι η : Type} [WireCodec ι] [Framed ι]

/-- A server that has accepted nobody, with the handler in the given state. -/
def Clients.start (ι : Type) [WireCodec ι] [Framed ι] {η : Type} (state : η) : Clients ι η :=
  { handlerState := state, accepted := [] }

/-- A connection in which the handler has got the given state, from whichever connection. -/
def Serving.resume (s : Serving ι η) (state : η) : Serving ι η :=
  { s with connection := { s.connection with handlerState := state } }

variable (handler : ServerConnectionHandler ι η)

/-- Serve a connection with the next thing that was read from it, with the handler as the others
have left it. -/
def Client.step (state : η) (client : Client ι η) (read : Read) : Option (Client ι η) := do
  let serving ← handleClientConnection handler client.peer (client.serving.resume state) read
  return { client with reads := client.reads ++ [read], serving }

/-- One thing that comes in, where it can: nothing is read from a connection whose call has
returned. -/
def Clients.step (clients : Clients ι η) : Incoming → Option (Clients ι η)
  | .accept peer =>
    some { clients with
      accepted := clients.accepted ++ [⟨peer, [], Serving.start ι clients.handlerState⟩] }
  | .read i read => do
    let client ← clients.accepted[i]?
    let client ← client.step handler clients.handlerState read
    return {
      handlerState := client.serving.connection.handlerState
      accepted := clients.accepted.set i client }

variable {handler}

/-! ## One connection -/

/-- What is known of the tester after the given calls: the one granted last, or zero. -/
def attribution (peer : Peer) (calls : List (HandlerCall ι)) : ClientConnectionInfo where
  ipAddress := peer.ipAddress
  logicalAddress := (activeTester calls).getD ⟨0x0000⟩

/-- The handler was called for the requests that were read, in order; the server remembers the
tester granted last; and every alive check was passed the tester granted last before it. -/
structure Client.Attributed (client : Client ι η) : Prop where
  requests : client.serving.connection.calls.map HandlerCall.request =
    client.reads.filterMap Read.request
  remembers : client.serving.Remembers
  aliveChecks : ∀ before info after,
    client.serving.connection.calls = before ++ .aliveCheck info :: after →
    info = attribution client.peer before

theorem Client.attributed_accepted (peer : Peer) (state : η) :
    Client.Attributed (⟨peer, [], Serving.start ι state⟩ : Client ι η) where
  requests := rfl
  remembers := rfl
  aliveChecks before info after h := by cases before <;> cases h

/-- What the server passes with the next message is computed from the calls so far. -/
theorem Client.Attributed.connectionInfo_eq {client : Client ι η} (h : client.Attributed) :
    connectionInfo client.peer client.serving.connection =
      attribution client.peer client.serving.connection.calls := by
  rw [connectionInfo, h.remembers]
  rfl

/-- Serving the next thing read makes at most one call more, for it and for nothing that was read
before. -/
theorem Client.step_spec {state : η} {client client' : Client ι η} {read : Read}
    (h : client.step handler state read = some client') :
    client'.peer = client.peer ∧ client'.reads = client.reads ++ [read] ∧
    ∃ call, Handled client.serving.connection client'.serving.connection call ∧
      Prompted client.peer client.serving.connection read call := by
  obtain ⟨serving, hserving, h⟩ := Option.bind_eq_some_iff.mp h
  cases h
  obtain ⟨call, hhandled, hprompted⟩ := handleClientConnection_spec hserving
  -- the handler's state is no part of what the specification speaks of
  exact ⟨rfl, rfl, call, ⟨hhandled.calls, hhandled.tester⟩, hprompted.request, hprompted.info⟩

/-- Serving a connection keeps it attributed, whatever the handler's state was. -/
theorem Client.Attributed.step {state : η} {client client' : Client ι η} {read : Read}
    (h : client.Attributed) (hstep : client.step handler state read = some client') :
    client'.Attributed := by
  obtain ⟨hpeer, hreads, call, hhandled, hprompted⟩ := Client.step_spec hstep
  refine ⟨?_, hhandled.remembers h.remembers, ?_⟩
  · rw [hhandled.calls, hreads, List.map_append, List.filterMap_append, h.requests,
      List.filterMap_cons, ← hprompted.request]
    cases call <;> rfl
  · intro before info after heq
    rw [hhandled.calls] at heq
    rw [hpeer]
    cases call with
    | none => exact h.aliveChecks before info after (by rw [← heq]; exact (List.append_nil _).symm)
    | some call =>
      rcases split_snoc heq with ⟨rfl, rfl⟩ | ⟨after', heq⟩
      · rw [hprompted.info info rfl]
        exact h.connectionInfo_eq
      · exact h.aliveChecks before info after' heq

/-! ## All connections -/

/-- **Every connection of a server stays attributed**, whatever comes in on the others. -/
theorem Clients.attributed {state : η} {incoming : List Incoming} {clients : Clients ι η}
    (hrun : run (Clients.step handler) (Clients.start ι state) incoming = some clients) :
    ∀ client ∈ clients.accepted, client.Attributed := by
  refine run_invariant (P := fun clients : Clients ι η =>
    ∀ client ∈ clients.accepted, client.Attributed) ?_ hrun (by simp [Clients.start])
  intro clients event clients' hstep hclients
  cases event with
  | accept peer =>
    cases hstep
    intro client hclient
    rcases List.mem_append.mp hclient with hclient | hclient
    · exact hclients client hclient
    · rw [List.mem_singleton.mp hclient]
      exact Client.attributed_accepted peer clients.handlerState
  | read i read =>
    obtain ⟨client, hclient, hstep⟩ := Option.bind_eq_some_iff.mp hstep
    obtain ⟨client', hclient', hstep⟩ := Option.bind_eq_some_iff.mp hstep
    cases hstep
    intro other hother
    rcases List.mem_or_eq_of_mem_set hother with hother | rfl
    · exact hclients other hother
    · exact (hclients client (List.mem_of_getElem? hclient)).step hclient'

/-- **The server attributes messages to the right tester.** Whatever comes in on the connections of
a server, in whatever order, and whatever its handler does: on every connection the handler was
called for the requests read from it; what the server passes with the next message, and what it
passed with every alive check, is the source of the last routing activation request before it on
this connection that the handler answered with a success code, and 0x0000 if there is none; and a
message on which no activation was granted does not change it. -/
theorem tester_attribution {state : η} {incoming : List Incoming} {clients : Clients ι η}
    (hrun : run (Clients.step handler) (Clients.start ι state) incoming = some clients) :
    ∀ client ∈ clients.accepted,
      client.serving.connection.calls.map HandlerCall.request =
        client.reads.filterMap Read.request ∧
      (connectionInfo client.peer client.serving.connection).logicalAddress =
        (activeTester client.serving.connection.calls).getD ⟨0x0000⟩ ∧
      (∀ before info after,
        client.serving.connection.calls = before ++ .aliveCheck info :: after →
        info.logicalAddress = (activeTester before).getD ⟨0x0000⟩) ∧
      ∀ state read client', client.step handler state read = some client' →
        ∃ call : Option (HandlerCall ι),
          client'.serving.connection.calls = client.serving.connection.calls ++ call.toList ∧
          (call.bind HandlerCall.granted = none →
            connectionInfo client'.peer client'.serving.connection =
              connectionInfo client.peer client.serving.connection) := by
  intro client hclient
  have h := Clients.attributed hrun client hclient
  refine ⟨h.requests, ?_, fun before info after heq => ?_, fun state read client' hstep => ?_⟩
  · rw [h.connectionInfo_eq]
    rfl
  · rw [h.aliveChecks before info after heq]
    rfl
  · obtain ⟨hpeer, -, call, hhandled, -⟩ := Client.step_spec hstep
    refine ⟨call, hhandled.calls, fun hgranted => ?_⟩
    rw [connectionInfo, connectionInfo, hpeer, hhandled.tester, hgranted, Option.none_or]

end

/-- An alive check request is read, which asks for the tester. -/
def readAliveCheck : Read := .message (OwnedMessage.aliveCheckRequest .v2012)

/-- Two testers, of which one has activated routing. An alive check of each gets its own address. -/
theorem tester_attribution_two_testers :
    letI := plainWire
    letI := plainFramed Incomplete
    ∃ clients first second before info info',
      run (Clients.step (grantingHandler Incomplete)) (Clients.start _ ())
        [.accept localPeer, .accept localPeer, .read 0 (readActivation 0x0E00),
          .read 1 readAliveCheck, .read 0 readAliveCheck] = some clients ∧
      clients.accepted = [first, second] ∧
      first.serving.connection.calls = before ++ [.aliveCheck info] ∧
      second.serving.connection.calls = [.aliveCheck info'] ∧
      info.logicalAddress = ⟨0x0E00⟩ ∧ info'.logicalAddress = ⟨0x0000⟩ := by
  let := plainWire
  let := plainFramed Incomplete
  have h : ∃ clients first second request result info info',
      run (Clients.step (grantingHandler Incomplete)) (Clients.start _ ())
        [.accept localPeer, .accept localPeer, .read 0 (readActivation 0x0E00),
          .read 1 readAliveCheck, .read 0 readAliveCheck] = some clients ∧
      clients.accepted = [first, second] ∧
      first.serving.connection.calls = [.routingActivation request result, .aliveCheck info] ∧
      second.serving.connection.calls = [.aliveCheck info'] ∧
      activeTester [.routingActivation request result] = some ⟨0x0E00⟩ :=
    ⟨_, _, _, _, _, _, _, rfl, rfl, rfl, rfl, rfl⟩
  obtain ⟨clients, first, second, request, result, info, info', hrun, haccepted, hfirst, hsecond,
    hactive⟩ := h
  refine ⟨clients, first, second, [.routingActivation request result], info, info', hrun, haccepted,
    hfirst, hsecond, ?_, ?_⟩
  · have hattributed := (tester_attribution hrun first (by simp [haccepted])).2.2.1
    rw [hattributed [.routingActivation request result] info [] hfirst, hactive]
    rfl
  · exact (tester_attribution hrun second (by simp [haccepted])).2.2.1 [] info' [] hsecond

end Server

end SimpleDoip
