import SimpleDoip.Client.Freshness
import SimpleDoip.Session.Transport

/-!
# Client and entity, connected

`Network` puts a user, the client's inner task, its socket task and a bare-metal entity together.
The user makes one call after the other and awaits each. Between the two ends there are two channels
of messages, to and from the socket task, and two streams of bytes, each delivered in chunks of any
size. A `Move` is one thing that happens; the order of moves is arbitrary.

No move is a deadline that expires, a socket error or a cancellation. A connection that the entity
closes, that a codec breaks or that a panic of the entity ends is not up any more (`LinkState`), and
the time stays at or below `horizon`.

The socket task is reduced to what it does with messages. Its inactivity timer, which closes a
connection on which the task has read or written nothing for 300 s, is left out here: a session that
lies idle for so long is not one of this model. `SocketTask` has the timer, and
`Session.Inactivity` says when it fires.
-/

namespace SimpleDoip

open Framing

/-! ## The user -/

/-- Which of the server's addresses a message goes to: that of the logical function, or that of the
ECU itself. -/
inductive AddressType where
  | logical
  | physical
deriving DecidableEq

/-- The address meant, as the options of the client have it. -/
def ClientOptions.serverAddress (options : ClientOptions) : AddressType → LogicalAddress
  | .logical => options.serverLogicalAddress
  | .physical => options.serverPhysicalAddress

/-- A call of the client's interface, out of the two that an exchange is made of. -/
inductive Call where
  | sendDiagnosticMessage (addressType : AddressType) (userData : List UInt8)
  | receiveDiagnosticResponse (timeout : Nat)
deriving DecidableEq

/-- A user: the calls to make, the request awaited, and the results so far, oldest first. A user
awaits each call before the next. -/
structure User where
  todo : List Call
  awaiting : Option Nat
  results : List Answer

/-- One request of a user and its response: send, then receive. -/
structure Exchange where
  addressType : AddressType
  userData : List UInt8
  timeout : Nat

/-- The calls of an exchange: the request is sent, and then the response is waited for. -/
def Exchange.calls (x : Exchange) : List Call :=
  [.sendDiagnosticMessage x.addressType x.userData, .receiveDiagnosticResponse x.timeout]

/-! ## The network -/

/-- Whether the connection is up, was closed by either end, or ended with a panic of the entity. -/
inductive LinkState where
  | up
  | closed
  | panicked
deriving DecidableEq

/-- A user and a client, the channels of its socket task, the bytes in flight both ways, and an
entity with its platform. `readBuffer` is the buffer of the socket task's decoder. -/
structure Network (π : Type) where
  user : User
  client : World
  toSocket : List OwnedMessage
  uplink : List UInt8
  entity : Entity π
  platform : Platform π
  downlink : List UInt8
  readBuffer : List UInt8
  fromSocket : List OwnedMessage
  link : LinkState

/-- One thing that happens: a call, its return, time, a turn of the inner task on a request or on a
message, the socket task writing or decoding a message, and a chunk of bytes arriving at either
end. -/
inductive Move where
  | call
  | return
  | wait (duration : Nat)
  | takeRequest
  | takeMessage
  | write
  | arrive (n : Nat)
  | read (n : Nat)
  | decode
deriving DecidableEq

/-- Whether a move only lets time pass, so that nothing is done by it. -/
def Move.isWait : Move → Bool
  | .wait _ => true
  | _ => false

/-- Capacity of the two channels of the socket task, as `SocketManager::bind` creates them. -/
def SOCKET_CHANNEL_CAP : Nat := 16

/-- The messages a log hands to the socket, in the order in which it does. -/
def handedMessages (log : List Entry) : List OwnedMessage :=
  log.filterMap fun
    | .did (.handed _ message) => some message
    | _ => none

/-- The bytes that calls send on the TCP connection, in a row: the peer does not see where a call
ended. -/
def sentBytes (calls : List PlatformCall) : List UInt8 :=
  calls.flatMap fun
    | .sendTcp data => data
    | _ => []

/-- The requests that calls dispatch, in the order in which they are dispatched. -/
def udsRequests (calls : List PlatformCall) : List (List UInt8) :=
  calls.filterMap fun
    | .onUdsRequest request => some request
    | _ => none

section
variable {ι : Type} [WireCodec ι] {π : Type}

variable (ι) in
/-- The request a call makes, if its message can be constructed. It is the client's options that
give the addresses. -/
def Call.request (options : ClientOptions) : Call → Option Request
  | .sendDiagnosticMessage addressType userData =>
    (OwnedMessage.diagnosticMessage (ι := ι) options.protocolVersion options.clientLogicalAddress
      (options.serverAddress addressType) userData).map .sendDiagnosticMessage
  | .receiveDiagnosticResponse timeout => some (.receiveDiagnosticResponse timeout)

namespace Network

/-- A turn of the inner task, once the messages it hands over fit into the channel. Until then the
task waits and does nothing. -/
def turn (target : Target) (net : Network π) (branch : Branch) : Option (Network π) := do
  let client ← net.client.step target (.turn branch (net.link = .up) (.ok ()))
  let toSocket := net.toSocket ++ handedMessages (client.log.drop net.client.log.length)
  if toSocket.length ≤ SOCKET_CHANNEL_CAP then some { net with client, toSocket } else none

variable (ι) in
/-- One move, where it can happen. The entity is called with whatever chunk arrives, and what it
sends goes behind what is on its way. -/
def step (target : Target) (horizon : Nat) (net : Network π) : Move → Option (Network π)
  | .call =>
    match net.user.awaiting, net.user.todo with
    | none, call :: todo => do
      let request ← call.request ι net.client.inner.clientOptions
      let client ← net.client.step target (.issue request)
      return { net with
        client, user := { net.user with todo, awaiting := some net.client.requests.length } }
    | _, _ => none
  | .return => do
    let request ← net.user.awaiting
    let answer ← answerTo net.client.log request
    return { net with
      user := { net.user with awaiting := none, results := net.user.results ++ [answer] } }
  | .wait duration =>
    if net.client.clock + duration ≤ horizon then do
      let client ← net.client.step target (.wait duration)
      return { net with client }
    else none
  | .takeRequest => net.turn target .control
  | .takeMessage =>
    match net.fromSocket with
    | message :: fromSocket =>
      { net with fromSocket }.turn target (.socket (.message message))
    | [] => none
  | .write =>
    match net.toSocket with
    | message :: toSocket =>
      if net.link = .up then
        match MessageCodec.encode (ι := ι) message net.uplink with
        | (.ok _, uplink) => some { net with toSocket, uplink }
        | (.error _, _) => some { net with toSocket, link := .closed }
      else none
    | [] => none
  | .arrive n =>
    if net.link = .up ∧ 0 < n ∧ n ≤ net.uplink.length then
      match net.entity.onTcpRx (ι := ι) (net.uplink.take n) net.platform with
      | none => some { net with link := .panicked }
      | some (verdict, entity, platform) =>
        let sent := sentBytes (platform.calls.drop net.platform.calls.length)
        some { net with
          entity, platform, uplink := net.uplink.drop n, downlink := net.downlink ++ sent
          link := if verdict = .keepOpen then .up else .closed }
    else none
  | .read n =>
    if 0 < n ∧ n ≤ net.downlink.length then
      some { net with
        readBuffer := net.readBuffer ++ net.downlink.take n, downlink := net.downlink.drop n }
    else none
  | .decode =>
    if net.fromSocket.length < SOCKET_CHANNEL_CAP then
      match MessageCodec.decode (ι := ι) net.readBuffer with
      | some (.ok (some message), readBuffer) =>
        some { net with readBuffer, fromSocket := net.fromSocket ++ [message] }
      | some (.error _, _) => some { net with link := .closed }
      -- the decoder waits for more bytes
      | _ => none
    else none

/-! ## What a move does -/

section
variable {target : Target} {horizon : Nat} {net : Network π}

/-- A turn, by what the client adds to its log, for a connection that is up. -/
theorem turn_eq {branch : Branch} {client : World} {new : List Entry} (hlink : net.link = .up)
    (hstep : net.client.step target (.turn branch true (.ok ())) = some client)
    (hlog : client.log = net.client.log ++ new)
    (hroom : (net.toSocket ++ handedMessages new).length ≤ SOCKET_CHANNEL_CAP) :
    net.turn target branch =
      some { net with client, toSocket := net.toSocket ++ handedMessages new } := by
  have hnew : client.log.drop net.client.log.length = new := by
    rw [hlog, List.drop_left]
  have hup : decide (net.link = .up) = true := decide_eq_true hlink
  simp only [turn, hup, hstep, hnew, Option.bind_eq_bind, Option.bind_some, if_pos hroom]

theorem turn_none {branch : Branch} (hlink : net.link = .up)
    (hstep : net.client.step target (.turn branch true (.ok ())) = none) :
    net.turn target branch = none := by
  have hup : decide (net.link = .up) = true := decide_eq_true hlink
  simp only [turn, hup, hstep]
  rfl

theorem step_call {call : Call} {todo : List Call} {request : Request} {client : World}
    (hawaiting : net.user.awaiting = none) (htodo : net.user.todo = call :: todo)
    (hrequest : call.request ι net.client.inner.clientOptions = some request)
    (hissue : net.client.step target (.issue request) = some client) :
    net.step ι target horizon .call = some { net with
      client, user := { net.user with todo, awaiting := some net.client.requests.length } } := by
  simp only [step, hawaiting, htodo, hrequest, hissue, Option.bind_eq_bind, Option.bind_some]
  rfl

theorem step_call_awaiting {request : Nat} (hawaiting : net.user.awaiting = some request) :
    net.step ι target horizon .call = none := by
  simp only [step, hawaiting]

theorem step_call_done (htodo : net.user.todo = []) : net.step ι target horizon .call = none := by
  simp only [step, htodo]
  split
  · next h => cases h
  · rfl

theorem step_return_none (h : net.user.awaiting = none) :
    net.step ι target horizon .return = none := by
  simp only [step, h]
  rfl

theorem step_return_unanswered {request : Nat} (hawaiting : net.user.awaiting = some request)
    (hanswer : answerTo net.client.log request = none) :
    net.step ι target horizon .return = none := by
  simp only [step, hawaiting, Option.bind_eq_bind, Option.bind_some, hanswer, Option.bind_none]

theorem step_return {request : Nat} {answer : Answer} (hawaiting : net.user.awaiting = some request)
    (hanswer : answerTo net.client.log request = some answer) :
    net.step ι target horizon .return = some { net with
      user := { net.user with awaiting := none, results := net.user.results ++ [answer] } } := by
  simp only [step, hawaiting, hanswer, Option.bind_eq_bind, Option.bind_some]
  rfl

theorem step_wait {duration : Nat} (h : net.client.clock + duration ≤ horizon) :
    net.step ι target horizon (.wait duration) = some { net with
      client := { net.client with clock := net.client.clock + duration } } := by
  simp only [step, if_pos h, World.step, Option.bind_eq_bind, Option.bind_some]
  rfl

theorem step_wait_none {duration : Nat} (h : ¬ net.client.clock + duration ≤ horizon) :
    net.step ι target horizon (.wait duration) = none :=
  if_neg h

theorem step_takeRequest :
    net.step ι target horizon .takeRequest = net.turn target .control := rfl

theorem step_takeMessage {m : OwnedMessage} {rest : List OwnedMessage}
    (hfrom : net.fromSocket = m :: rest) :
    net.step ι target horizon .takeMessage =
      { net with fromSocket := rest }.turn target (.socket (.message m)) := by
  simp only [step, hfrom]

theorem step_takeMessage_none (hfrom : net.fromSocket = []) :
    net.step ι target horizon .takeMessage = none := by
  simp only [step, hfrom]

theorem step_write {m : OwnedMessage} {rest : List OwnedMessage} {uplink : List UInt8}
    (hto : net.toSocket = m :: rest) (hlink : net.link = .up)
    (hencode : MessageCodec.encode (ι := ι) m net.uplink = (.ok (), uplink)) :
    net.step ι target horizon .write = some { net with toSocket := rest, uplink } := by
  simp only [step, hto, hlink, hencode, if_true]

theorem step_write_none (hto : net.toSocket = []) :
    net.step ι target horizon .write = none := by
  simp only [step, hto]

theorem step_arrive {n : Nat} {entity : Entity π} {platform : Platform π} (hlink : net.link = .up)
    (hn : 0 < n ∧ n ≤ net.uplink.length)
    (hrx : net.entity.onTcpRx (ι := ι) (net.uplink.take n) net.platform =
      some (.keepOpen, entity, platform)) :
    net.step ι target horizon (.arrive n) = some { net with
      entity, platform, uplink := net.uplink.drop n
      downlink := net.downlink ++ sentBytes (platform.calls.drop net.platform.calls.length) } := by
  simp only [step, hlink, hn, and_self, if_true, hrx]

theorem step_arrive_none {n : Nat} (hn : ¬ (0 < n ∧ n ≤ net.uplink.length)) :
    net.step ι target horizon (.arrive n) = none :=
  if_neg fun h => hn h.2

theorem step_read {n : Nat} (hn : 0 < n ∧ n ≤ net.downlink.length) :
    net.step ι target horizon (.read n) = some { net with
      readBuffer := net.readBuffer ++ net.downlink.take n, downlink := net.downlink.drop n } :=
  if_pos hn

theorem step_read_none {n : Nat} (hn : ¬ (0 < n ∧ n ≤ net.downlink.length)) :
    net.step ι target horizon (.read n) = none :=
  if_neg hn

theorem step_decode {m : OwnedMessage} {rest : List UInt8}
    (hroom : net.fromSocket.length < SOCKET_CHANNEL_CAP)
    (hdecode : MessageCodec.decode (ι := ι) net.readBuffer = some (.ok (some m), rest)) :
    net.step ι target horizon .decode =
      some { net with readBuffer := rest, fromSocket := net.fromSocket ++ [m] } := by
  simp only [step, hroom, if_true, hdecode]

theorem step_decode_full (hroom : ¬ net.fromSocket.length < SOCKET_CHANNEL_CAP) :
    net.step ι target horizon .decode = none :=
  if_neg hroom

theorem step_decode_none {rest : List UInt8}
    (hdecode : MessageCodec.decode (ι := ι) net.readBuffer = some (.ok none, rest)) :
    net.step ι target horizon .decode = none := by
  simp only [step, hdecode, ite_self]

end

end Network

end

end SimpleDoip
