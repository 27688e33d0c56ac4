import SignalService.Externals
import Mathlib.Data.List.AList
import Mathlib.Data.Finset.Basic

/-! # The websocket worker

`SignalWebSocketProcess`: one task that owns the socket, the table of requests waiting
for an answer and the set of keep-alives waiting for one. Each turn of its `select!` is
a `Wakeup`; what it does then is a list of `Action`s. A oneshot sender is a number:
`oneshot::channel()` never makes the same one twice.
-/

namespace SignalService.WebSocket

inductive MessageType where
  | unknown
  | request
  | response
  deriving DecidableEq, Repr

structure WebSocketMessage where
  type : Option Nat
  request : Option WebSocketRequestMessage
  response : Option WebSocketResponseMessage
  deriving DecidableEq, Repr

/-- The generated accessor: an absent or unrecognized value reads as `UNKNOWN`. -/
def WebSocketMessage.messageType (message : WebSocketMessage) : MessageType :=
  match message.type with
  | some 1 => .request
  | some 2 => .response
  | _ => .unknown

inductive DisconnectReason where
  | connectedElsewhere
  | connectionInvalidated
  | keepaliveTimeout
  | serverClosed (code : Nat) (reason : String)
  | transport
  deriving DecidableEq, Repr

def DisconnectReason.fromClose (code : Nat) (reason : String) : DisconnectReason :=
  if code = 4409 then .connectedElsewhere
  else if code = 4401 then .connectionInvalidated
  else .serverClosed code reason

/-- The sending half of the channel on which a request waits for its response. -/
abbrev Responder := Nat

/-- Who waits for the response to a request the worker sent. -/
inductive Owner where
  | application (responder : Responder)
  | keepAlive
  deriving DecidableEq, Repr

/-- What the worker does, as its surroundings see it. -/
inductive Action where
  | sendRequest (owner : Owner) (request : WebSocketRequestMessage)
  | sendResponse (response : WebSocketResponseMessage)
  /-- The response is taken as the answer to the owner's request. -/
  | settle (owner : Owner) (response : WebSocketResponseMessage)
  | forward (request : WebSocketRequestMessage) (channel : Nat)
  | close
  | disconnected (reason : DisconnectReason)
  deriving DecidableEq, Repr

structure SignalWebSocketProcess where
  keepAlivePath : String
  outgoingRequests : AList fun _ : Nat => Responder
  outgoingKeepAliveSet : Finset Nat
  /-- The channels on which the application answers requests of the server. -/
  outgoingResponses : List Nat
  /-- The sender of the disconnect reason is still there. -/
  disconnectReason : Bool

/-- `SignalWebSocket::new`. -/
def SignalWebSocketProcess.new (keepAlivePath : String) : SignalWebSocketProcess :=
  ⟨keepAlivePath, ∅, ∅, [], true⟩

/-- One branch of the `select!`, with the randomness and the socket's answer it meets. -/
inductive Wakeup where
  | tick (draws : List Nat) (sent : Bool)
  | request (request : WebSocketRequestMessage) (draws : List Nat) (sent : Bool)
  | requestsEnded
  /-- A binary message, if it decodes, and whether the request handler is still there. -/
  | frame (message : Option WebSocketMessage) (forwarded : Bool)
  | closeFrame (code : Nat) (reason : String)
  /-- A ping, a pong or a text message. -/
  | ignored
  | transportError
  | streamEnded
  /-- A channel of `outgoing_responses` is ready, or was cancelled. -/
  | response (channel : Nat) (answer : Option WebSocketResponseMessage) (sent : Bool)

/-- What one turn leaves: the process, what it did, and how `run` ended if it did. -/
structure Woken where
  process : SignalWebSocketProcess
  actions : List Action
  ended : Option (Except ServiceError Unit)

variable (X : Externals)

namespace SignalWebSocketProcess

def setDisconnectReason (p : SignalWebSocketProcess) (reason : DisconnectReason) :
    SignalWebSocketProcess × List Action :=
  if p.disconnectReason then ({ p with disconnectReason := false }, [.disconnected reason])
  else (p, [])

/-- The status check of a keep-alive's answer, on the `u16` the number is cut to. -/
def keepAliveStatus (response : WebSocketResponseMessage) : Except ServiceError Unit :=
  let status := response.status.getD 0 % 65536
  if 100 ≤ status ∧ status ≤ 999 then
    if 200 ≤ status ∧ status ≤ 299 then .ok ()
    else .error (.unhandledResponseCode status (X.utf8Lossy (response.body.getD [])))
  else .error (.other ("invalid http status code " ++ toString (response.status.getD 0) ++
    " - invalid status code"))

/-- The response branch of `process_frame`. -/
def processResponse (p : SignalWebSocketProcess) (response : WebSocketResponseMessage) : Woken :=
  match response.id with
  | none => ⟨p, [], none⟩
  | some id =>
      match p.outgoingRequests.lookup id with
      | some responder =>
          ⟨{ p with outgoingRequests := p.outgoingRequests.erase id },
            [.settle (.application responder) response], none⟩
      | none =>
          if id ∈ p.outgoingKeepAliveSet then
            ⟨{ p with outgoingKeepAliveSet := p.outgoingKeepAliveSet.erase id },
              [.settle .keepAlive response],
              match keepAliveStatus X response with
              | .ok _ => none
              | .error e => some (.error e)⟩
          else ⟨p, [], none⟩

/-- `process_frame`; an error ends `run`. -/
def processFrame (p : SignalWebSocketProcess) (message : WebSocketMessage) (channel : Nat)
    (forwarded : Bool) : Woken :=
  match message.messageType, message.request, message.response with
  | .unknown, _, _ => ⟨p, [], some (.error (.invalidFrame "unknown frame type"))⟩
  | .request, some request, _ =>
      if forwarded then
        ⟨{ p with outgoingResponses := channel :: p.outgoingResponses },
          [.forward request channel], none⟩
      else ⟨p, [], some (.error (.wsClosing "request handler failed"))⟩
  | .request, none, _ =>
      ⟨p, [], some (.error (.invalidFrame "type was request, but does not contain request"))⟩
  | .response, _, some response => p.processResponse X response
  | .response, _, none =>
      ⟨p, [], some (.error (.invalidFrame "type was response, but does not contain response"))⟩

/-- `next_request_id`, on the ids it draws: the first that is not in the table. -/
def nextRequestId (p : SignalWebSocketProcess) (draws : List Nat) : Option Nat :=
  draws.find? fun id => decide (id ∉ p.outgoingRequests)

/-- The id a request of the application is sent under: its own if that is not in the
    table, else a drawn one. -/
def requestId (p : SignalWebSocketProcess) (request : WebSocketRequestMessage)
    (draws : List Nat) : Option Nat :=
  match request.id.filter fun id => decide (id ∉ p.outgoingRequests) with
  | some id => some id
  | none => p.nextRequestId draws

def wakeTick (p : SignalWebSocketProcess) (draws : List Nat) (sent : Bool) : Option Woken :=
  if p.outgoingKeepAliveSet.Nonempty then
    let (p, reason) := p.setDisconnectReason .keepaliveTimeout
    some ⟨{ p with outgoingKeepAliveSet := ∅ }, reason ++ [.close], some (.ok ())⟩
  else
    (p.nextRequestId draws).map fun id =>
      let request : WebSocketRequestMessage :=
        { verb := some "GET", id := some id, path := some p.keepAlivePath }
      let p := { p with outgoingKeepAliveSet := insert id p.outgoingKeepAliveSet }
      if sent then ⟨p, [.sendRequest .keepAlive request], none⟩ else ⟨p, [], some (.ok ())⟩

def wakeRequest (p : SignalWebSocketProcess) (responder : Responder)
    (request : WebSocketRequestMessage) (draws : List Nat) (sent : Bool) : Option Woken :=
  (p.requestId request draws).map fun id =>
    let request := { request with id := some id }
    let p := { p with outgoingRequests := p.outgoingRequests.insert id responder }
    if sent then ⟨p, [.sendRequest (.application responder) request], none⟩
    else ⟨p, [], some (.error (.other "websocket send failed"))⟩

def wakeResponse (p : SignalWebSocketProcess) (channel : Nat)
    (answer : Option WebSocketResponseMessage) (sent : Bool) : Option Woken :=
  if channel ∈ p.outgoingResponses then
    let p := { p with outgoingResponses := p.outgoingResponses.erase channel }
    match answer with
    | some response =>
        if sent then some ⟨p, [.sendResponse response], none⟩
        else some ⟨p, [], some (.error (.other "websocket send failed"))⟩
    | none => some ⟨p, [], none⟩
  else none

/-- One turn of `run`. It takes no turn while a draw is still missing, or for a channel
    it does not wait on. -/
def wake (p : SignalWebSocketProcess) (responder channel : Nat) : Wakeup → Option Woken
  | .tick draws sent => p.wakeTick draws sent
  | .request request draws sent => p.wakeRequest responder request draws sent
  | .requestsEnded => some ⟨p, [], some (.ok ())⟩
  | .frame none _ => some ⟨p, [], some (.error .protobufDecodeError)⟩
  | .frame (some message) forwarded => some (p.processFrame X message channel forwarded)
  | .closeFrame code reason =>
      let (p, told) := p.setDisconnectReason (.fromClose code reason)
      some ⟨p, told, some (.ok ())⟩
  | .ignored => some ⟨p, [], none⟩
  | .transportError =>
      let (p, told) := p.setDisconnectReason .transport
      some ⟨p, told, some (.error (.other "websocket error"))⟩
  | .streamEnded =>
      let (p, told) := p.setDisconnectReason .transport
      some ⟨p, told, some (.error (.wsClosing "end of web request stream; socket closing"))⟩
  | .response channel answer sent => p.wakeResponse channel answer sent

end SignalWebSocketProcess

/-! ## Runs -/

/-- The worker with its surroundings: how many channels each side has made, and all that
    was done so far, newest first. -/
structure System where
  process : SignalWebSocketProcess
  responders : Nat
  channels : Nat
  log : List Action
  ended : Bool

namespace System

def init (keepAlivePath : String) : System := ⟨.new keepAlivePath, 0, 0, [], false⟩

/-- A request of the application comes with a responder of its own. -/
def respondersAfter (n : Nat) : Wakeup → Nat
  | .request _ _ _ => n + 1
  | _ => n

def step (sys : System) (w : Wakeup) : Option System :=
  if sys.ended then none
  else (sys.process.wake X sys.responders sys.channels w).map fun woken =>
    { process := woken.process
      responders := respondersAfter sys.responders w
      channels := sys.channels + 1
      log := woken.actions.reverse ++ sys.log
      ended := woken.ended.isSome }

def run (sys : System) : List Wakeup → Option System
  | [] => some sys
  | w :: rest => (sys.step X w).bind fun next => next.run rest

end System

end SignalService.WebSocket
