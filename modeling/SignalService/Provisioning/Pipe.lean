import SignalService.Provisioning.Cipher
import SignalService.Proto

/-! # The provisioning pipe

`provisioning/pipe.rs`: the socket a new device waits on. The service first tells it its
address, which goes into the link shown to the primary, and later passes on the envelope
the primary has sent to that address.
-/

namespace SignalService.Provisioning

open Effect

inductive ProvisioningStep (X : ProvisioningExternals) where
  | url (url : X.Url)
  | message (message : ProvisionMessage)

inductive PipeCall where
  /-- `responder.send`, answered by whether anyone still waits for the response. -/
  | respond (response : WebSocketResponseMessage)

@[reducible] def PipeAnswer : PipeCall → Type
  | .respond _ => Bool

abbrev PipeProg (α : Type) := Prog PipeCall PipeAnswer ProvisioningError α

def okResponse (id : Option Nat) : WebSocketResponseMessage where
  id := id
  status := some 200
  message := some "OK"

def acknowledge (id : Option Nat) : PipeProg Unit := do
  if ← Prog.ask (PipeCall.respond (okResponse id)) then pure () else Prog.throw .wsClosing

variable (X : ProvisioningExternals)

/-- The link: the address and the key to encrypt for. -/
def provisioningUrl (publicKey : X.PublicKey) (address : String) : X.Url :=
  X.linkUrl [("uuid", address), ("pub_key", X.base64Encode (X.serializePublic publicKey)),
    ("capabilities", "backup5")]

def processAddress (cipher : ProvisioningCipher X.toCurve) (request : WebSocketRequestMessage) :
    PipeProg (ProvisioningStep X) := do
  let body ← Prog.ofOption (.panic "called `Option::unwrap()` on a `None` value") request.body
  let address ← Prog.ofOption (.throw .decodeError) (X.decodeProvisioningAddress body)
  let url := provisioningUrl X cipher.publicKey (address.getD "")
  acknowledge request.id
  return .url url

def processMessage (cipher : ProvisioningCipher X.toCurve) (request : WebSocketRequestMessage) :
    PipeProg (ProvisioningStep X) := do
  let body ← Prog.ofOption (.panic "called `Option::unwrap()` on a `None` value") request.body
  let provisionEnvelope ← Prog.ofOption (.throw .decodeError) (X.decodeProvisionEnvelope body)
  let provisionMessage ← Prog.ofExit (cipher.decrypt X provisionEnvelope)
  acknowledge request.id
  return .message provisionMessage

/-- Every request gives a step or an error; the source's `Ok(None)` does not occur. -/
def processRequest (cipher : ProvisioningCipher X.toCurve) (request : WebSocketRequestMessage) :
    PipeProg (ProvisioningStep X) :=
  if request.verb = some "PUT" ∧ request.path = some "/v1/address" then
    processAddress X cipher request
  else if request.verb = some "PUT" ∧ request.path = some "/v1/message" then
    processMessage X cipher request
  else Prog.throw (.wsError "Incorrect request")

/-! ## What the two steps give -/

variable {X} {A : (c : PipeCall) → PipeAnswer c → Prop}

theorem acknowledge_returns (listening : ∀ response r, A (.respond response) r → r = true)
    (id : Option Nat) : Prog.ReturnsWhen A (fun _ => True) (acknowledge id) := by
  apply (Prog.returnsWhen_ask (listening (okResponse id))).bind
  intro heard isTrue
  rw [isTrue]
  exact Prog.returnsWhen_ret trivial

theorem processRequest_address (listening : ∀ response r, A (.respond response) r → r = true)
    (cipher : ProvisioningCipher X.toCurve) {id : Option Nat} {body : Bytes}
    {address : Option String} (decoded : X.decodeProvisioningAddress body = some address) :
    Prog.ReturnsWhen A (fun step => step = .url (provisioningUrl X cipher.publicKey
        (address.getD "")))
      (processRequest X cipher
        { verb := some "PUT", path := some "/v1/address", body := some body, id := id }) := by
  rw [processRequest, if_pos ⟨rfl, rfl⟩, processAddress]
  apply (Prog.returnsWhen_ofOption rfl).bind
  rintro _ rfl
  apply (Prog.returnsWhen_ofOption decoded).bind
  rintro _ rfl
  apply (acknowledge_returns listening id).bind
  intro _ _
  exact Prog.returnsWhen_ret rfl

theorem processRequest_message (listening : ∀ response r, A (.respond response) r → r = true)
    {cipher : ProvisioningCipher X.toCurve} {id : Option Nat} {body : Bytes}
    {envelope : ProvisionEnvelope} {message : ProvisionMessage}
    (decoded : X.decodeProvisionEnvelope body = some envelope)
    (opened : cipher.decrypt X envelope = .ret message) :
    Prog.ReturnsWhen A (fun step => step = .message message)
      (processRequest X cipher
        { verb := some "PUT", path := some "/v1/message", body := some body, id := id }) := by
  rw [processRequest, if_neg (by simp), if_pos ⟨rfl, rfl⟩, processMessage]
  apply (Prog.returnsWhen_ofOption rfl).bind
  rintro _ rfl
  apply (Prog.returnsWhen_ofOption decoded).bind
  rintro _ rfl
  apply (Prog.returnsWhen_ofExit opened).bind
  rintro _ rfl
  apply (acknowledge_returns listening id).bind
  intro _ _
  exact Prog.returnsWhen_ret rfl

end SignalService.Provisioning
