import SimpleDoip.Client.Inner
import SimpleDoip.Framed

/-!
# The async server

`Server` serves one TCP connection after the other and leaves the decisions to a
`ServerConnectionHandler`. `handle_client_connection` reads messages from the connection until it
ends, has each handled and writes the answer. It remembers the address of the tester that activated
routing and passes it to the handler with the requests that ask for it.

A handler is code of the user: a state and three functions on it. The one for diagnostic messages
writes its responses itself and may look at the result of each write. What the server calls it with
is written down in `calls`.

The server writes through a `FramedWrite`. The socket may take a part of what is written and fail
then; the sink keeps the rest, and the next message goes behind it. Logging, `TCP_NODELAY` and the
count of active connections are left out.
-/

namespace SimpleDoip

/-! ## Handlers -/

/-- An IP address, by its bits. The server passes it to the handler and does not look at it. -/
inductive IpAddr where
  | v4 (bits : BitVec 32)
  | v6 (bits : BitVec 128)
deriving DecidableEq

/-- The tester on the other end of a connection, as the handler is told. The logical address is zero
until routing was activated. -/
structure ClientConnectionInfo where
  ipAddress : IpAddr
  logicalAddress : LogicalAddress
deriving DecidableEq

/-- Errors of the server: those it shares with the client, wire-level ones, and a socket that fails
to take bytes. -/
inductive ServerError (ι : Type) where
  | error (e : Error)
  | messageError (e : MessageError ι)
  | std

/-- What a handler does about a diagnostic message: write responses, going on with the result of
each, and end. -/
inductive Responding (ι η : Type) where
  | done (result : Except (ServerError ι) Unit) (state : η)
  | send (message : OwnedMessage) (next : Except (ServerError ι) Unit → Responding ι η)

/-- `ServerConnectionHandler`, by the functions that serving a connection calls. They may do
anything to the state of the handler. -/
structure ServerConnectionHandler (ι η : Type) where
  routingActivation : RoutingActivationRequest → η → Except (ServerError ι) OwnedMessage × η
  diagnosticMessage : DiagnosticMessage → η → Responding ι η
  aliveCheck : ClientConnectionInfo → η → Except (ServerError ι) OwnedMessage × η

/-- The default implementation of `alive_check`: the address of the tester goes back as the
answer. -/
def ServerConnectionHandler.defaultAliveCheck {ι η : Type} (protocolVersion : ProtocolVersion)
    (info : ClientConnectionInfo) (state : η) : Except (ServerError ι) OwnedMessage × η :=
  (.ok (OwnedMessage.aliveCheckResponse protocolVersion info.logicalAddress), state)

/-- A call of the handler, with what it was given. Of a routing activation the result is kept, as
the server looks at it. -/
inductive HandlerCall (ι : Type) where
  | routingActivation (request : RoutingActivationRequest)
      (result : Except (ServerError ι) OwnedMessage)
  | diagnosticMessage (message : DiagnosticMessage)
  | aliveCheck (info : ClientConnectionInfo)

/-! ## Serving a connection -/

/-- The tester's end of a connection: its address, and what the socket takes each time the sink is
flushed, which is everything, or the given number of bytes before it fails. -/
structure Peer where
  ipAddress : IpAddr
  takes : Nat → Option Nat

/-- A connection being served, with the messages that were put into the sink and the bytes that the
socket has taken. -/
structure Connection (ι η : Type) [WireCodec ι] [Framed ι] where
  handlerState : η
  testerLogicalAddress : Option LogicalAddress
  writeSink : FramedWrite ι
  responses : List OwnedMessage
  written : List UInt8
  writes : Nat
  calls : List (HandlerCall ι)

/-- A connection that was just accepted: nothing was written, and no tester has activated routing on
it. -/
def Connection.accepted (ι : Type) [WireCodec ι] [Framed ι] {η : Type} (state : η) :
    Connection ι η where
  handlerState := state
  testerLogicalAddress := none
  writeSink := FramedWrite.new ι
  responses := []
  written := []
  writes := 0
  calls := []

/-- What `read_stream.next()` comes to: a message, an error of the codec, or the end. -/
inductive Read where
  | message (message : OwnedMessage)
  | codecError
  | closed

/-- Code that serves a connection. An error ends it and keeps what was done before. -/
abbrev ServerM (ι η : Type) [WireCodec ι] [Framed ι] :=
  EStateM (ServerError ι) (Connection ι η)

/-- `?` on a result: an error ends the code, with the connection as it is then. -/
def attempt {ι η α : Type} [WireCodec ι] [Framed ι]
    (f : Connection ι η → Except (ServerError ι) α × Connection ι η) :
    ServerM ι η α := fun c =>
  match f c with
  | (.ok a, c') => .ok a c'
  | (.error e, c') => .error e c'

/-- One step of writing after the other, up to the first error. What the first one did stays
done. -/
def andThen {ι η : Type} [WireCodec ι] [Framed ι]
    (f g : Connection ι η → Except (ServerError ι) Unit × Connection ι η) (c : Connection ι η) :
    Except (ServerError ι) Unit × Connection ι η :=
  match f c with
  | (.ok (), c') => g c'
  | (.error e, c') => (.error e, c')

namespace Server

section
variable {ι η : Type} [WireCodec ι] [Framed ι] (handler : ServerConnectionHandler ι η) (peer : Peer)

/-- `poll_flush` until it is done: the socket takes what is in the sink, or a part of it and
fails, and the sink keeps the rest. -/
def flush (c : Connection ι η) : Except (ServerError ι) Unit × Connection ι η :=
  match peer.takes c.writes with
  | none => (.ok (), { c with
      writeSink := c.writeSink.advance c.writeSink.buffer.length
      written := c.written ++ c.writeSink.buffer
      writes := c.writes + 1 })
  | some n => (.error .std, { c with
      writeSink := c.writeSink.advance n
      written := c.written ++ c.writeSink.buffer.take n
      writes := c.writes + 1 })

/-- `poll_ready`: what an earlier write has left is flushed first where there is too much of it. -/
def ready (c : Connection ι η) : Except (ServerError ι) Unit × Connection ι η :=
  if c.writeSink.isReady then (.ok (), c) else flush peer c

/-- `start_send`: nothing is put into the sink of a message that cannot be encoded. -/
def startSend (message : OwnedMessage) (c : Connection ι η) :
    Except (ServerError ι) Unit × Connection ι η :=
  match c.writeSink.startSend message with
  | (.error e, writeSink) => (.error (.messageError e), { c with writeSink })
  | (.ok (), writeSink) => (.ok (), { c with writeSink, responses := c.responses ++ [message] })

/-- `write_sink.send(..)`: the sink is made ready, the message is encoded into it, and the sink is
flushed. -/
def send (message : OwnedMessage) : Connection ι η → Except (ServerError ι) Unit × Connection ι η :=
  andThen (ready peer) (andThen (startSend message) (flush peer))

/-- The handler responds through a `FramedResponseWriter`, and goes on with the result of each
write. -/
def respond : Responding ι η → Connection ι η → Except (ServerError ι) Unit × Connection ι η
  | .done result state, c => (result, { c with handlerState := state })
  | .send message next, c =>
    let (result, c') := send peer message c
    respond (next result) c'

/-- Call `routing_activation`, and write down the call with its result. -/
def routingActivation (request : RoutingActivationRequest) (c : Connection ι η) :
    Except (ServerError ι) OwnedMessage × Connection ι η :=
  let (result, state) := handler.routingActivation request c.handlerState
  (result, { c with
    handlerState := state, calls := c.calls ++ [.routingActivation request result] })

/-- Call `diagnostic_message`, which writes its responses while it runs. -/
def diagnosticMessage (message : DiagnosticMessage) (c : Connection ι η) :
    Except (ServerError ι) Unit × Connection ι η :=
  respond peer (handler.diagnosticMessage message c.handlerState)
    { c with calls := c.calls ++ [.diagnosticMessage message] }

/-- Call `alive_check` with what is known of the tester, and write down the call. -/
def aliveCheck (info : ClientConnectionInfo) (c : Connection ι η) :
    Except (ServerError ι) OwnedMessage × Connection ι η :=
  let (result, state) := handler.aliveCheck info c.handlerState
  (result, { c with handlerState := state, calls := c.calls ++ [.aliveCheck info] })

/-- Dispatch one decoded request to the handler. Whether routing was activated is not looked at
before a diagnostic message is passed on. -/
def handleClientMessage (requestMessage : OwnedMessage) : ServerM ι η (Option OwnedMessage) := do
  let connectionInfo : ClientConnectionInfo := {
    ipAddress := peer.ipAddress
    logicalAddress := (← get).testerLogicalAddress.getD ⟨0x0000⟩ }
  match requestMessage.payload with
  | .aliveCheckRequest => return some (← attempt (aliveCheck handler connectionInfo))
  | .diagnosticMessage message =>
    attempt (diagnosticMessage handler peer message)
    return none
  | .entityStatusRequest => return none
  | .routingActivationRequest request =>
    let response ← attempt (routingActivation handler request)
    match response.payload with
    | .routingActivationResponse activationResponse =>
      if activationResponse.routingActivationResponseCode.isSuccess then
        modify fun c => { c with testerLogicalAddress := some request.sourceAddress }
      return some response
    | _ => return some response
  | .vehicleIdentificationRequest => return none
  | _ => throw (.error (.unexpectedMessageType requestMessage.header.payloadType))

/-- One round of the loop of `handle_client_connection`: whether it returns `Ok`. Both an error of
the codec and the end of the stream make it return so. -/
def handleRead : Read → ServerM ι η Bool
  | .message message => do
    match ← handleClientMessage handler peer message with
    | some response => attempt (send peer response)
    | none => pure ()
    return false
  | .codecError | .closed => return true

/-- A call of `handle_client_connection`, with its result once it has returned. -/
structure Serving (ι η : Type) [WireCodec ι] [Framed ι] where
  connection : Connection ι η
  result : Option (Except (ServerError ι) Unit)

/-- A call that has just begun, with the handler in the given state. -/
def Serving.start (ι : Type) [WireCodec ι] [Framed ι] {η : Type} (state : η) : Serving ι η where
  connection := Connection.accepted ι state
  result := none

/-- `handle_client_connection` goes on with the next thing it reads, unless it has returned. -/
def handleClientConnection (s : Serving ι η) (read : Read) : Option (Serving ι η) :=
  match s.result with
  | some _ => none
  | none =>
    match handleRead handler peer read s.connection with
    | .ok false c => some { connection := c, result := none }
    | .ok true c => some { connection := c, result := some (.ok ()) }
    | .error e c => some { connection := c, result := some (.error e) }

end

end Server

end SimpleDoip
