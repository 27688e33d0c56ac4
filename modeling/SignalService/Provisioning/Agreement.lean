import SignalService.Provisioning.Link
import SignalService.Attachments.Upload

/-! # The two ends of linking agree

A link that a new device shows, given to the primary, brings back a message with which the
new device registers as the primary's account. What has to hold of the primary for this is
that its profile key is set.
-/

namespace SignalService

open Effect Provisioning
open Groups (ProfileKey utf8Bytes utf8String?)

variable {X : ProvisioningExternals}

/-! ## Ends that are served -/

/-- What the primary has of the account. -/
structure PrimaryState (X : ProvisioningExternals) where
  profileKey : Option ProfileKey
  secrets : ProvisioningSecrets X
  aciIdentityKeyPair : KeyPair X.toCurve
  pniIdentityKeyPair : KeyPair X.toCurve

open AccountManager in
/-- The stores give the account's keys and the service does as it is asked. -/
def PrimaryState.Obliging (primary : PrimaryState X) :
    (c : PrimaryCall X) → PrimaryAnswer X c → Prop
  | .aciIdentityKeyPair, r => r = .ok primary.aciIdentityKeyPair
  | .pniIdentityKeyPair, r => r = .ok primary.pniIdentityKeyPair
  | .newDeviceProvisioningCode, r => ∃ code, r = .ok code
  | .cipher _, _ => True
  | .putProvisioningMessage _ _, r => r = .ok ()

/-- The new device draws this key for its pipe, and nothing it calls fails. -/
def DeviceObliging (pipeKey : X.PrivateKey) : (c : LinkCall X) → LinkAnswer X c → Prop
  | .openSocket, r => r = .ok ()
  | .generatePipeKeyPair, r => r = pipeKey
  | .pipe (.respond _), r => r = true
  | .publish _, r => r = true
  | .aciStore c, r | .pniStore c, r => PreKeyObliging X.toCurve c r
  | .linkDevice _ _ _, r => ∃ response, r = .ok response
  | .randomRegistrationId, _ | .generateNameKeyPair, _ => True

theorem PrimaryState.obliging_answerable (primary : PrimaryState X) (drawn : X.PrivateKey)
    (c : AccountManager.PrimaryCall X) : ∃ r, primary.Obliging c r := by
  cases c with
  | aciIdentityKeyPair => exact ⟨.ok primary.aciIdentityKeyPair, rfl⟩
  | pniIdentityKeyPair => exact ⟨.ok primary.pniIdentityKeyPair, rfl⟩
  | newDeviceProvisioningCode => exact ⟨.ok "", "", rfl⟩
  | cipher c =>
      cases c with
      | generateKeyPair => exact ⟨drawn, trivial⟩
      | randomIv => exact ⟨Vector.replicate 16 0, trivial⟩
  | putProvisioningMessage => exact ⟨.ok (), rfl⟩

theorem deviceObliging_answerable (pipeKey : X.PrivateKey) (c : LinkCall X) :
    ∃ r, DeviceObliging pipeKey c r := by
  cases c with
  | openSocket => exact ⟨.ok (), rfl⟩
  | randomRegistrationId => exact ⟨0, trivial⟩
  | generatePipeKeyPair => exact ⟨pipeKey, rfl⟩
  | pipe c => cases c with | respond => exact ⟨true, rfl⟩
  | publish => exact ⟨true, rfl⟩
  | aciStore c => exact preKeyObliging_answerable c pipeKey
  | pniStore c => exact preKeyObliging_answerable c pipeKey
  | generateNameKeyPair => exact ⟨pipeKey, trivial⟩
  | linkDevice => exact ⟨.ok ⟨⟨0⟩, ⟨0⟩, defaultDeviceId⟩, _, rfl⟩

/-! ## What they agree on -/

/-- The registration is the primary's account. -/
structure NewDeviceRegistration.Carries (primary : PrimaryState X)
    (registration : NewDeviceRegistration X) : Prop where
  aciPublicKey : registration.aciPublicKey = primary.aciIdentityKeyPair.publicKey
  aciPrivateKey : registration.aciPrivateKey = primary.aciIdentityKeyPair.privateKey
  pniPublicKey : registration.pniPublicKey = primary.pniIdentityKeyPair.publicKey
  pniPrivateKey : registration.pniPrivateKey = primary.pniIdentityKeyPair.privateKey
  phoneNumber : registration.phoneNumber = primary.secrets.credentials.phonenumber
  profileKey : some registration.profileKey = primary.profileKey
  accountEntropyPool : registration.accountEntropyPool = some primary.secrets.accountEntropyPool
  ephemeralBackupKey : registration.ephemeralBackupKey = primary.secrets.ephemeralBackupKey

/-- The fields of the message, as the new device is to read them. -/
def PrimaryState.fields (primary : PrimaryState X) (profileKey : ProfileKey) (code : String) :
    LinkFields X where
  aciKeyPair := primary.aciIdentityKeyPair
  pniKeyPair := primary.pniIdentityKeyPair
  profileKey := profileKey.bytes
  accountEntropyPool := some primary.secrets.accountEntropyPool
  ephemeralBackupKey := primary.secrets.ephemeralBackupKey
  phoneNumber := primary.secrets.credentials.phonenumber
  provisioningCode := code

def PrimaryState.message (primary : PrimaryState X) (code : String) : ProvisionMessage :=
  AccountManager.provisionMessage X primary.aciIdentityKeyPair primary.pniIdentityKeyPair code
    primary.profileKey primary.secrets

section Fields

variable (lawful : X.Lawful) {primary : PrimaryState X}

include lawful

theorem readPublicKey_serialized (key : X.PublicKey) :
    readPublicKey X (some (X.serializePublic key)) = .ok key := by
  simp only [readPublicKey, required, bind, Except.bind, lawful.publicBytes]

theorem readPrivateKey_serialized (key : X.PrivateKey) :
    readPrivateKey X (some (X.serializePrivate key)) = .ok key := by
  simp only [readPrivateKey, required, bind, Except.bind, lawful.privateBytes]

/-- Every field the primary writes is accepted. -/
theorem readFields_message {profileKey : ProfileKey} (set : primary.profileKey = some profileKey)
    (code : String) :
    readFields X (primary.message code) = .ok (primary.fields profileKey code) := by
  have backup : (primary.secrets.ephemeralBackupKey.map Vector.toList).bind (arrayOf? 32) =
      primary.secrets.ephemeralBackupKey := by
    cases primary.secrets.ephemeralBackupKey <;> simp
  simp only [readFields, PrimaryState.message, AccountManager.provisionMessage, set,
    readPublicKey_serialized lawful, readPrivateKey_serialized lawful, Option.map_some, required,
    readPool, bind, Except.bind, pure, Except.pure, lawful.pool, lawful.e164, backup]
  rfl

/-- The profile key is optional for the primary and not for the new device. -/
theorem readFields_message_unset (unset : primary.profileKey = none) (code : String) :
    readFields X (primary.message code) = .error .missingProfileKey := by
  simp only [readFields, PrimaryState.message, AccountManager.provisionMessage, unset,
    readPublicKey_serialized lawful, readPrivateKey_serialized lawful, Option.map_none, required]
  rfl

end Fields

/-! ## The new device -/

/-- The two requests of the service. -/
def addressRequest (id : Option Nat) (body : Bytes) : WebSocketRequestMessage :=
  { verb := some "PUT", path := some "/v1/address", body := some body, id := id }

def messageRequest (id : Option Nat) (body : Bytes) : WebSocketRequestMessage :=
  { verb := some "PUT", path := some "/v1/message", body := some body, id := id }

section NewDevice

variable {pipeKey : X.PrivateKey}

theorem publish_runs (provisioning : SecondaryDeviceProvisioning X) (failure : String) :
    Prog.Runs (DeviceObliging pipeKey)
      (fun es x => ∃ u, x = .ret u ∧ ⟨.publish provisioning, true⟩ ∈ es)
      (publish X provisioning failure) := by
  apply Prog.runs_call
  intro heard listening
  have isTrue : heard = true := listening
  subst isTrue
  exact Prog.runs_done ⟨(), rfl, List.mem_cons_self⟩

theorem nextStep_returns {cipher : ProvisioningCipher X.toCurve} {missing : ProvisioningError}
    {request : WebSocketRequestMessage} {rest : List WebSocketRequestMessage}
    {step : ProvisioningStep X}
    (processed : Prog.ReturnsWhen (fun c r => DeviceObliging pipeKey (.pipe c) r) (· = step)
      (processRequest X cipher request)) :
    Prog.ReturnsWhen (DeviceObliging pipeKey) (· = (step, rest))
      (nextStep X cipher missing (request :: rest)) := by
  apply (processed.lift fun _ _ answered => answered).bind
  rintro _ rfl
  exact Prog.returnsWhen_ret rfl

/-- The link is shown, and the envelope for it opened. -/
theorem receiveMessage_runs {id id' : Option Nat} {addressBody messageBody : Bytes}
    {address : Option String} {envelope : ProvisionEnvelope} {message : ProvisionMessage}
    {cipher : ProvisioningCipher X.toCurve}
    (addressed : X.decodeProvisioningAddress addressBody = some address)
    (decoded : X.decodeProvisionEnvelope messageBody = some envelope)
    (opened : cipher.decrypt X envelope = .ret message) :
    Prog.Runs (DeviceObliging pipeKey)
      (fun es x => ∃ m, x = .ret m ∧ m = message ∧
        ⟨.publish (.url (provisioningUrl X cipher.publicKey (address.getD ""))), true⟩ ∈ es)
      (receiveMessage X cipher [addressRequest id addressBody, messageRequest id' messageBody]) := by
  have listening : ∀ response (r : PipeAnswer (.respond response)),
      DeviceObliging pipeKey (.pipe (.respond response)) r → r = true := fun _ _ heard => heard
  have more : ∀ (es es' : List (Event (LinkCall X) (LinkAnswer X)))
      (y : Exit ProvisioningError ProvisionMessage),
      (∃ m, y = .ret m ∧ m = message ∧ ⟨.publish (.url (provisioningUrl X cipher.publicKey
        (address.getD ""))), true⟩ ∈ es') →
      ∃ m, y = .ret m ∧ m = message ∧ ⟨.publish (.url (provisioningUrl X cipher.publicKey
        (address.getD ""))), true⟩ ∈ es ++ es' :=
    fun es es' y ⟨m, returned, same, shown⟩ =>
      ⟨m, returned, same, List.mem_append_right es shown⟩
  apply (nextStep_returns (processRequest_address listening cipher addressed)).before more
  rintro _ rfl
  apply (Prog.returnsWhen_ofExcept rfl).before more
  rintro _ rfl
  refine Prog.Runs.bind (publish_runs _ _) ?_
  intro es _ shown
  have rest : Prog.ReturnsWhen (DeviceObliging pipeKey) (· = message)
      ((nextStep X cipher .missingMessage [messageRequest id' messageBody]).bind fun next =>
        Prog.ofExcept (expectMessage X next.1)) := by
    apply (nextStep_returns (processRequest_message listening decoded opened)).bind
    rintro _ rfl
    exact Prog.returnsWhen_ofExcept rfl
  refine Prog.Runs.mono rest ?_
  intro es' y ⟨m, returned, same⟩
  exact ⟨m, returned, same, List.mem_append_left es' shown⟩

theorem deviceKeys_returns {keys : LinkProg X (ReplenishedKeys X.toCurve)}
    (replenished : Prog.ReturnsWhen (DeviceObliging pipeKey) ReplenishedKeys.LastResortOnly keys) :
    Prog.ReturnsWhen (DeviceObliging pipeKey) (fun _ => True) (deviceKeys X keys) := by
  apply replenished.bind
  intro keys ⟨noPreKeys, noPqPreKeys, lastResort, requested⟩
  apply (Prog.returnsWhen_ofOption requested).bind
  rintro _ rfl
  rw [noPreKeys, noPqPreKeys]
  exact Prog.returnsWhen_ret trivial

theorem replenishAci_returns (keyPair : KeyPair X.toCurve) :
    Prog.ReturnsWhen (DeviceObliging pipeKey) ReplenishedKeys.LastResortOnly
      (replenishAci X keyPair) := by
  apply Prog.ReturnsWhen.mapErr
  exact (replenishPreKeys_returns keyPair).lift fun _ _ answered => answered

theorem replenishPni_returns (keyPair : KeyPair X.toCurve) :
    Prog.ReturnsWhen (DeviceObliging pipeKey) ReplenishedKeys.LastResortOnly
      (replenishPni X keyPair) := by
  apply Prog.ReturnsWhen.mapErr
  exact (replenishPreKeys_returns keyPair).lift fun _ _ answered => answered

variable (lawful : X.Lawful)

include lawful

omit lawful in
theorem encryptDeviceName_returns
    (agrees : ∀ privateKey key, ∃ agreement, X.calculateAgreement privateKey key = some agreement)
    (deviceName : String) (identityPublic : X.PublicKey) :
    Prog.ReturnsWhen (DeviceObliging pipeKey) (fun _ => True)
      (encryptDeviceName X deviceName identityPublic) := by
  apply Prog.returnsWhen_ask_any.bind
  intro ephemeral _
  obtain ⟨masterSecret, agreed⟩ := agrees ephemeral identityPublic
  apply (Prog.returnsWhen_ofOption agreed).bind
  rintro _ rfl
  exact Prog.returnsWhen_ret trivial

theorem register_carries {primary : PrimaryState X} {profileKey : ProfileKey}
    (set : primary.profileKey = some profileKey) (ids : RegistrationIds)
    (password deviceName code : String) :
    Prog.ReturnsWhen (DeviceObliging pipeKey) (NewDeviceRegistration.Carries primary)
      (register X ids password deviceName (primary.fields profileKey code)) := by
  have sized : profileKeyOf? profileKey.bytes = some profileKey := dif_pos profileKey.size
  apply (deviceKeys_returns (replenishAci_returns _)).bind
  intro aciKeys _
  apply (deviceKeys_returns (replenishPni_returns _)).bind
  intro pniKeys _
  apply (encryptDeviceName_returns lawful.agrees deviceName _).bind
  intro name _
  apply (Prog.returnsWhen_ofOption sized).bind
  rintro _ rfl
  -- the four records were just made, and convert
  iterate 4
    apply ((Prog.returnsWhen_ofExcept rfl).mapErr ProvisioningError.protocolError).bind
    rintro _ rfl
  apply ((Prog.returnsWhen_await_ok fun _ linked => linked).mapErr
    ProvisioningError.serviceError).bind
  intro response _
  exact Prog.returnsWhen_ret ⟨rfl, rfl, rfl, rfl, rfl, set.symm, rfl, rfl⟩

omit lawful in
/-- What the new device draws before it waits. -/
theorem linkDevice_start {Q : List (Event (LinkCall X) (LinkAnswer X)) →
      Exit ProvisioningError Unit → Prop} (more : ∀ es es' y, Q es' y → Q (es ++ es') y)
    {password deviceName : String} {requests : List WebSocketRequestMessage}
    (rest : ∀ ids : RegistrationIds, Prog.Runs (DeviceObliging pipeKey) Q
      ((receiveMessage X (.fromKeyPair (.ofPrivate pipeKey)) requests).bind fun message =>
        (Prog.ofExcept (readFields X message)).bind fun fields =>
          (register X ids password deviceName fields).bind fun registration =>
            publish X (.newDeviceRegistration registration)
              "failed to send provisioning message in rx channel")) :
    Prog.Runs (DeviceObliging pipeKey) Q (linkDevice X password deviceName requests) := by
  apply ((Prog.returnsWhen_await_ok fun _ opened => ⟨(), opened⟩).mapErr
    ProvisioningError.serviceError).before more
  intro _ _
  apply Prog.returnsWhen_ask_any.before more
  intro registrationId _
  apply Prog.returnsWhen_ask_any.before more
  intro pniRegistrationId _
  apply (Prog.returnsWhen_ask fun _ drawn => drawn).before more
  rintro _ rfl
  exact rest _

/-- The new device has shown the link and registered with what the primary told it. -/
structure Registered (primary : PrimaryState X) (url : X.Url)
    (es : List (Event (LinkCall X) (LinkAnswer X))) (x : Exit ProvisioningError Unit) : Prop where
  returned : x = .ret ()
  shown : ⟨.publish (.url url), true⟩ ∈ es
  registered : ∃ registration, ⟨.publish (.newDeviceRegistration registration), true⟩ ∈ es ∧
    NewDeviceRegistration.Carries primary registration

section Waiting

variable {primary : PrimaryState X} {id id' : Option Nat} {addressBody messageBody : Bytes}
  {address : Option String} {envelope : ProvisionEnvelope} {password deviceName code : String}
  (addressed : X.decodeProvisioningAddress addressBody = some address)
  (decoded : X.decodeProvisionEnvelope messageBody = some envelope)
  (opened : ProvisioningCipher.decrypt X (.fromKeyPair (.ofPrivate pipeKey)) envelope =
    .ret (primary.message code))

include addressed decoded opened

theorem linkDevice_registers {profileKey : ProfileKey}
    (set : primary.profileKey = some profileKey) :
    Prog.Runs (DeviceObliging pipeKey)
      (Registered primary (provisioningUrl X (X.publicKey pipeKey) (address.getD "")))
      (linkDevice X password deviceName
        [addressRequest id addressBody, messageRequest id' messageBody]) := by
  have more : ∀ es es' y,
      Registered primary (provisioningUrl X (X.publicKey pipeKey) (address.getD "")) es' y →
      Registered primary (provisioningUrl X (X.publicKey pipeKey) (address.getD "")) (es ++ es')
        y := by
    intro es es' y ⟨returned, shown, registration, published, carries⟩
    exact ⟨returned, List.mem_append_right es shown, registration,
      List.mem_append_right es published, carries⟩
  apply linkDevice_start more
  intro ids
  refine Prog.Runs.bind (receiveMessage_runs addressed decoded opened) ?_
  intro shownIn message ⟨isMessage, shown⟩
  subst isMessage
  refine Prog.Runs.bind (Prog.returnsWhen_ofExcept (readFields_message lawful set code)) ?_
  rintro readIn _ rfl
  refine Prog.Runs.bind (register_carries lawful set ids password deviceName code) ?_
  intro madeIn registration carries
  refine Prog.Runs.mono (publish_runs _ _) ?_
  intro es y ⟨_, returned, published⟩
  refine ⟨returned, List.mem_append_left _ shown, registration, ?_, carries⟩
  exact List.mem_append_right _ (List.mem_append_right _ (List.mem_append_right _ published))

theorem linkDevice_rejects (unset : primary.profileKey = none) :
    Prog.Runs (DeviceObliging pipeKey) (fun _ x => x = .throw .missingProfileKey)
      (linkDevice X password deviceName
        [addressRequest id addressBody, messageRequest id' messageBody]) := by
  refine linkDevice_start (fun _ _ _ thrown => thrown) ?_
  intro ids
  refine Prog.Runs.bind (receiveMessage_runs addressed decoded opened) ?_
  intro shownIn message ⟨isMessage, _⟩
  subst isMessage
  rw [readFields_message_unset lawful unset code]
  exact Prog.runs_done rfl

end Waiting

end NewDevice

/-! ## The primary -/

section Primary

open AccountManager

variable (lawful : X.Lawful) {primary : PrimaryState X} {pipeKey : X.PrivateKey}

include lawful

theorem readLink_provisioningUrl (key : X.PublicKey) (address : String) :
    readLink X (provisioningUrl X key address) = .ok (address, key) := by
  have uuid : queryValue "uuid" [("uuid", address),
      ("pub_key", X.base64Encode (X.serializePublic key)), ("capabilities", "backup5")] =
        some address := rfl
  have pubKey : queryValue "pub_key" [("uuid", address),
      ("pub_key", X.base64Encode (X.serializePublic key)), ("capabilities", "backup5")] =
        some (X.base64Encode (X.serializePublic key)) := rfl
  simp only [readLink, provisioningUrl, lawful.query, uuid, pubKey, lawful.base64,
    lawful.publicBytes]
  rfl

/-- The envelope is for the address of the link and opens with the key it was shown for. -/
theorem sealForLink_opens (address : String) :
    Prog.ReturnsWhen primary.Obliging
      (fun made => made.1 = address ∧ ∃ code,
        ProvisioningCipher.decrypt X (.fromKeyPair (.ofPrivate pipeKey)) made.2 =
          .ret (primary.message code))
      (sealForLink X (provisioningUrl X (X.publicKey pipeKey) address) primary.profileKey
        primary.secrets) := by
  apply (Prog.returnsWhen_ofExcept (readLink_provisioningUrl lawful _ address)).bind
  rintro _ rfl
  apply ((Prog.returnsWhen_await fun _ stored => ⟨_, stored, rfl⟩).mapErr
    ProvisioningError.protocolError).bind
  rintro _ rfl
  apply ((Prog.returnsWhen_await fun _ stored => ⟨_, stored, rfl⟩).mapErr
    ProvisioningError.protocolError).bind
  rintro _ rfl
  apply ((Prog.returnsWhen_await_ok fun _ coded => coded).mapErr
    ProvisioningError.serviceError).bind
  intro code _
  apply ((ProvisioningCipher.encrypt_opens lawful pipeKey (primary.message code)).lift
    fun _ _ _ => trivial).bind
  intro encrypted opens
  exact Prog.returnsWhen_ret ⟨rfl, code, opens⟩

omit lawful in
/-- The envelope is put to the address, where that makes a URL. -/
theorem sendProvisioningMessage_trace {destination : String} {env : ProvisionEnvelope}
    {es : List (Event (PrimaryCall X) (PrimaryAnswer X))} {x : Exit ProvisioningError Unit}
    (ran : Prog.Trace (sendProvisioningMessage X destination env) es x)
    (obliged : ∀ e ∈ es, primary.Obliging e.1 e.2) :
    (X.joinServiceUrl ("/v1/provisioning/" ++ destination) = none ∧ es = [] ∧
        x = .throw (.serviceError .invalidUrl)) ∨
      ∃ url, X.joinServiceUrl ("/v1/provisioning/" ++ destination) = some url ∧
        es = [⟨.putProvisioningMessage url (X.base64Encode (X.encodeProvisionEnvelope env)),
          .ok ()⟩] ∧ x = .ret () := by
  unfold sendProvisioningMessage at ran
  cases joined : X.joinServiceUrl ("/v1/provisioning/" ++ destination) with
  | none =>
      rw [joined] at ran
      obtain ⟨rfl, rfl⟩ := Prog.trace_done.mp ran
      exact .inl ⟨rfl, rfl, rfl⟩
  | some url =>
      rw [joined] at ran
      obtain ⟨r, rest, rfl, ended⟩ := Prog.trace_call.mp ran
      have accepted : r = .ok () := obliged _ List.mem_cons_self
      subst accepted
      obtain ⟨rfl, rfl⟩ := Prog.trace_done.mp ended
      exact .inr ⟨url, rfl, rfl, rfl⟩

/-- An envelope for the key of the link, and how its sending ended. -/
def Sends (primary : PrimaryState X) (pipeKey : X.PrivateKey) (address : String)
    (es : List (Event (PrimaryCall X) (PrimaryAnswer X))) (x : Exit ProvisioningError Unit) :
    Prop :=
  ∃ before env code,
    ProvisioningCipher.decrypt X (.fromKeyPair (.ofPrivate pipeKey)) env =
      .ret (primary.message code) ∧
    ((X.joinServiceUrl ("/v1/provisioning/" ++ address) = none ∧
        x = .throw (.serviceError .invalidUrl)) ∨
      ∃ url, X.joinServiceUrl ("/v1/provisioning/" ++ address) = some url ∧
        es = before ++ [⟨.putProvisioningMessage url
          (X.base64Encode (X.encodeProvisionEnvelope env)), .ok ()⟩] ∧ x = .ret ())

theorem linkDevice_sends (address : String) :
    Prog.Runs primary.Obliging (Sends primary pipeKey address)
      (AccountManager.linkDevice X (provisioningUrl X (X.publicKey pipeKey) address)
        primary.profileKey primary.secrets) := by
  refine Prog.Runs.bind (sealForLink_opens lawful address) ?_
  rintro before ⟨_, env⟩ ⟨rfl, code, opens⟩ es x sent answered
  refine ⟨before, env, code, opens, ?_⟩
  rcases sendProvisioningMessage_trace sent answered with
    ⟨unjoined, -, failed⟩ | ⟨url, joined, rfl, returned⟩
  · exact .inl ⟨unjoined, failed⟩
  · exact .inr ⟨url, joined, rfl, returned⟩

end Primary

/-! ## Together -/

variable (X) in
/-- The address reaches itself when it is put, as it is, into the path of the request. -/
def RoutesTo (address : String) : Prop :=
  ∃ url, X.joinServiceUrl ("/v1/provisioning/" ++ address) = some url ∧
    X.destination url = some address

/-- The primary's run on the link ends with a message to the address, and with that message
    every run of the new device registers as the primary's account. -/
def Links (primary : PrimaryState X) (pipeKey : X.PrivateKey) (addressBody : Bytes)
    (address : String)
    (es : List (Event (AccountManager.PrimaryCall X) (AccountManager.PrimaryAnswer X)))
    (x : Exit ProvisioningError Unit) : Prop :=
  x = .ret () ∧ ∃ before url messageBody,
    es = before ++ [⟨.putProvisioningMessage url (X.base64Encode messageBody), .ok ()⟩] ∧
    X.destination url = some address ∧
    ∀ password deviceName id id', Prog.Runs (DeviceObliging pipeKey)
      (Registered primary (provisioningUrl X (X.publicKey pipeKey) address))
      (linkDevice X password deviceName
        [addressRequest id addressBody, messageRequest id' messageBody])

section Together

variable (lawful : X.Lawful) {primary : PrimaryState X} {pipeKey : X.PrivateKey}
  {addressBody : Bytes} {address : Option String}
  (addressed : X.decodeProvisioningAddress addressBody = some address)
  {es : List (Event (AccountManager.PrimaryCall X) (AccountManager.PrimaryAnswer X))}
  {x : Exit ProvisioningError Unit}
  (ran : Prog.Trace (AccountManager.linkDevice X
    (provisioningUrl X (X.publicKey pipeKey) (address.getD "")) primary.profileKey
    primary.secrets) es x)
  (obliged : ∀ e ∈ es, primary.Obliging e.1 e.2)

include lawful ran obliged

/-- What was put at the end of the run is the envelope, at the URL of the address. -/
theorem Links.sent (links : Links primary pipeKey addressBody (address.getD "") es x) :
    RoutesTo X (address.getD "") ∧ ∃ env code,
      ProvisioningCipher.decrypt X (.fromKeyPair (.ofPrivate pipeKey)) env =
        .ret (primary.message code) ∧
      ∀ password deviceName id id', Prog.Runs (DeviceObliging pipeKey)
        (Registered primary (provisioningUrl X (X.publicKey pipeKey) (address.getD "")))
        (linkDevice X password deviceName [addressRequest id addressBody,
          messageRequest id' (X.encodeProvisionEnvelope env)]) := by
  obtain ⟨before, env, code, opens, ended⟩ := linkDevice_sends lawful _ es x ran obliged
  obtain ⟨returned, before', url', messageBody, shape, routed, registers⟩ := links
  rcases ended with ⟨-, failed⟩ | ⟨url, joined, sent, -⟩
  · rw [failed] at returned
    cases returned
  · obtain ⟨-, last⟩ := List.append_inj' (sent.symm.trans shape) rfl
    injection last with same
    injection same with sameCall
    injection sameCall with sameUrl sameText
    have sameBody : X.encodeProvisionEnvelope env = messageBody := by
      have read := lawful.base64 messageBody
      rw [← sameText, lawful.base64] at read
      exact Option.some.inj read
    subst sameUrl sameBody
    exact ⟨⟨url, joined, routed⟩, env, code, opens, registers⟩

include addressed

/-- Without a profile key the message decrypts, but no run of the new device gets past it. -/
theorem not_links_of_unset (unset : primary.profileKey = none) :
    ¬ Links primary pipeKey addressBody (address.getD "") es x := by
  intro links
  obtain ⟨-, env, code, opens, registers⟩ := links.sent lawful ran obliged
  obtain ⟨ds, y, deviceRan, answered⟩ := Prog.exists_answered
    (deviceObliging_answerable pipeKey) (linkDevice X "" ""
      [addressRequest none addressBody, messageRequest none (X.encodeProvisionEnvelope env)])
  have registered := registers "" "" none none ds y deviceRan answered
  have rejected := linkDevice_rejects lawful addressed (lawful.envelope env) opens unset ds y
    deviceRan answered
  have clash := registered.returned.symm.trans rejected
  cases clash

theorem links_of_set {profileKey : ProfileKey} (set : primary.profileKey = some profileKey)
    (routes : RoutesTo X (address.getD "")) :
    Links primary pipeKey addressBody (address.getD "") es x := by
  obtain ⟨before, env, code, opens, ended⟩ := linkDevice_sends lawful _ es x ran obliged
  obtain ⟨url, joined, routed⟩ := routes
  rcases ended with ⟨unjoined, -⟩ | ⟨url', joined', sent, returned⟩
  · rw [unjoined] at joined
    cases joined
  · rw [joined] at joined'
    cases joined'
    refine ⟨returned, before, url, _, sent, routed, ?_⟩
    intro password deviceName id id'
    exact linkDevice_registers lawful addressed (lawful.envelope env) opens set

end Together

/-- Linking works exactly when the primary has a profile key, which it may lack and the new
    device insists on, and the address can stand in the path of a request. -/
theorem linkDevice_links_iff (lawful : X.Lawful) (primary : PrimaryState X)
    (pipeKey : X.PrivateKey) {addressBody : Bytes} {address : Option String}
    (addressed : X.decodeProvisioningAddress addressBody = some address)
    {es : List (Event (AccountManager.PrimaryCall X) (AccountManager.PrimaryAnswer X))}
    {x : Exit ProvisioningError Unit}
    (ran : Prog.Trace (AccountManager.linkDevice X
      (provisioningUrl X (X.publicKey pipeKey) (address.getD "")) primary.profileKey
      primary.secrets) es x)
    (obliged : ∀ e ∈ es, primary.Obliging e.1 e.2) :
    Links primary pipeKey addressBody (address.getD "") es x ↔
      primary.profileKey.isSome = true ∧ RoutesTo X (address.getD "") := by
  constructor
  · intro links
    refine ⟨?_, (links.sent lawful ran obliged).1⟩
    cases unset : primary.profileKey with
    | some profileKey => rfl
    | none => exact absurd links (not_links_of_unset lawful addressed ran obliged unset)
  · intro ⟨isSet, routes⟩
    obtain ⟨profileKey, set⟩ := Option.isSome_iff_exists.mp isSet
    exact links_of_set lawful addressed ran obliged set routes

/-! ## An instance

Keys of the curve's lengths and a cipher that hides nothing. The service knows an address by
what stands in the path, which a question mark or a hash ends. -/

namespace Sample

/-- Bytes that say themselves where they end. -/
def delimit : Bytes → Bytes
  | [] => [0]
  | byte :: rest => 1 :: byte :: delimit rest

def undelimit : Bytes → Option (Bytes × Bytes)
  | [] => none
  | [mark] => if mark = 0 then some ([], []) else none
  | mark :: byte :: rest =>
      if mark = 0 then some ([], byte :: rest)
      else (undelimit rest).map fun (bytes, after) => (byte :: bytes, after)

theorem undelimit_delimit (bytes after : Bytes) :
    undelimit (delimit bytes ++ after) = some (bytes, after) := by
  induction bytes with
  | nil => cases after <;> rfl
  | cons byte rest ih => simp [delimit, undelimit, ih]

def encodeFields : List (Option Bytes) → Bytes
  | [] => []
  | none :: fields => 0 :: encodeFields fields
  | some bytes :: fields => 1 :: (delimit bytes ++ encodeFields fields)

/-- As many fields as the message has. -/
def decodeFields : Nat → Bytes → Option (List (Option Bytes))
  | 0, _ => some []
  | _ + 1, [] => none
  | count + 1, mark :: rest =>
      if mark = 0 then (decodeFields count rest).map (none :: ·)
      else (undelimit rest).bind fun (bytes, after) =>
        (decodeFields count after).map (some bytes :: ·)

theorem decodeFields_encodeFields (fields : List (Option Bytes)) :
    decodeFields fields.length (encodeFields fields) = some fields := by
  induction fields with
  | nil => rfl
  | cons field fields ih =>
      cases field with
      | none => simp [encodeFields, decodeFields, ih]
      | some bytes => simp [encodeFields, decodeFields, undelimit_delimit, ih]

def encodeMessage (msg : ProvisionMessage) : Bytes :=
  encodeFields [msg.aciIdentityKeyPublic, msg.aciIdentityKeyPrivate, msg.pniIdentityKeyPublic,
    msg.pniIdentityKeyPrivate, msg.aci.map utf8Bytes, msg.pni.map utf8Bytes,
    msg.number.map utf8Bytes, msg.provisioningCode.map utf8Bytes, msg.userAgent.map utf8Bytes,
    msg.profileKey, msg.readReceipts.map fun receipts => [if receipts then 1 else 0],
    msg.provisioningVersion.map fun version => bigEndian 4 version.toNat, msg.ephemeralBackupKey,
    msg.accountEntropyPool.map utf8Bytes, msg.mediaRootBackupKey, msg.aciBinary, msg.pniBinary]

def decodeMessage (bytes : Bytes) : Option ProvisionMessage :=
  match decodeFields 17 bytes with
  | some [aciPublic, aciPrivate, pniPublic, pniPrivate, aci, pni, number, code, agent, profileKey,
      receipts, version, backupKey, pool, rootKey, aciBinary, pniBinary] => some {
        aciIdentityKeyPublic := aciPublic
        aciIdentityKeyPrivate := aciPrivate
        pniIdentityKeyPublic := pniPublic
        pniIdentityKeyPrivate := pniPrivate
        aci := aci.bind utf8String?
        pni := pni.bind utf8String?
        number := number.bind utf8String?
        provisioningCode := code.bind utf8String?
        userAgent := agent.bind utf8String?
        profileKey := profileKey
        readReceipts := receipts.map (· == [1])
        provisioningVersion := version.map fun bytes => .ofNat (ofBigEndian bytes)
        ephemeralBackupKey := backupKey
        accountEntropyPool := pool.bind utf8String?
        mediaRootBackupKey := rootKey
        aciBinary := aciBinary
        pniBinary := pniBinary }
  | _ => none

theorem text_read (text : Option String) : (text.map utf8Bytes).bind utf8String? = text := by
  cases text <;> simp

theorem flag_read (flag : Option Bool) :
    (flag.map fun on => [if on then (1 : UInt8) else 0]).map (· == [1]) = flag := by
  cases flag with
  | none => rfl
  | some on => cases on <;> rfl

theorem number_read (number : Option UInt32) :
    (number.map fun n => bigEndian 4 n.toNat).map (fun bytes => UInt32.ofNat (ofBigEndian bytes)) =
      number := by
  cases number with
  | none => rfl
  | some n =>
      have bound : n.toNat < 256 ^ 4 := n.toNat_lt
      simp [ofBigEndian_bigEndian bound]

theorem decodeMessage_encodeMessage (msg : ProvisionMessage) :
    decodeMessage (encodeMessage msg) = some msg := by
  have fields := decodeFields_encodeFields [msg.aciIdentityKeyPublic, msg.aciIdentityKeyPrivate,
    msg.pniIdentityKeyPublic, msg.pniIdentityKeyPrivate, msg.aci.map utf8Bytes,
    msg.pni.map utf8Bytes, msg.number.map utf8Bytes, msg.provisioningCode.map utf8Bytes,
    msg.userAgent.map utf8Bytes, msg.profileKey,
    msg.readReceipts.map fun receipts => [if receipts then 1 else 0],
    msg.provisioningVersion.map fun version => bigEndian 4 version.toNat, msg.ephemeralBackupKey,
    msg.accountEntropyPool.map utf8Bytes, msg.mediaRootBackupKey, msg.aciBinary, msg.pniBinary]
  rw [decodeMessage, encodeMessage]
  simp only [List.length_cons, List.length_nil] at fields
  rw [fields]
  simp only [text_read, flag_read, number_read]

def decodeEnvelope (bytes : Bytes) : Option ProvisionEnvelope :=
  match decodeFields 2 bytes with
  | some [publicKey, body] => some ⟨publicKey, body⟩
  | _ => none

theorem decodeEnvelope_encodeFields (env : ProvisionEnvelope) :
    decodeEnvelope (encodeFields [env.publicKey, env.body]) = some env := by
  have fields := decodeFields_encodeFields [env.publicKey, env.body]
  simp only [List.length_cons, List.length_nil] at fields
  rw [decodeEnvelope, fields]

/-- A protobuf with its one field, the address. -/
def encodeAddress (address : String) : Bytes :=
  0x0A :: UInt8.ofNat (utf8Bytes address).length :: utf8Bytes address

def decodeAddress (bytes : Bytes) : Option (Option String) :=
  match bytes with
  | _ :: _ :: address => (utf8String? address).map some
  | _ => some none

/-- A character for each byte. -/
def textOf (bytes : Bytes) : String := .ofList (bytes.map fun byte => Char.ofNat byte.toNat)

def bytesOf (text : String) : Bytes := text.toList.map fun c => UInt8.ofNat c.toNat

theorem bytesOf_textOf (bytes : Bytes) : bytesOf (textOf bytes) = bytes := by
  induction bytes with
  | nil => rfl
  | cons byte rest ih =>
      have valid : byte.toNat.isValidChar := .inl (by have := byte.toNat_lt; omega)
      have same : (Char.ofNat byte.toNat).toNat = byte.toNat := by
        unfold Char.ofNat
        rw [dif_pos valid]
        rfl
      simp_all [bytesOf, textOf]

/-- A text that passes a check. -/
def checked (valid : String → Bool) (text : String) : Option {text // valid text = true} :=
  if passes : valid text = true then some ⟨text, passes⟩ else none

theorem checked_val {valid : String → Bool} (text : {text // valid text = true}) :
    checked valid text.val = some text :=
  dif_pos text.property

structure SampleUrl where
  path : String
  query : List (String × String)

def curve : Curve where
  PublicKey := Vector UInt8 32
  PrivateKey := Vector UInt8 32
  publicKey key := key
  serializePublic key := 0x05 :: key.toList
  deserializePublic
    | [] => none
    | _ :: key => arrayOf? 32 key
  serializePrivate := Vector.toList
  deserializePrivate := arrayOf? 32
  calculateAgreement ours theirs := some (Vector.zipWith (· + ·) ours theirs).toList

def provisioningExternals : ProvisioningExternals where
  toCurve := curve
  toAttachmentCiphers := openCiphers
  E164 := {text : String // (text.toList.head? == some '+') = true}
  AccountEntropyPool := {text : String // (text.length == 64) = true}
  Url := SampleUrl
  hkdfSha256 _ _ := Vector.replicate 64 0
  aesCtr _ _ plaintext := plaintext
  encodeProvisionMessage := encodeMessage
  decodeProvisionMessage := decodeMessage
  encodeProvisionEnvelope env := encodeFields [env.publicKey, env.body]
  decodeProvisionEnvelope := decodeEnvelope
  decodeProvisioningAddress := decodeAddress
  encodeDeviceName name := encodeFields [name.ephemeralPublic, name.syntheticIv, name.ciphertext]
  base64Encode := textOf
  base64Decode text := some (bytesOf text)
  uuidString uuid := textOf uuid.toBytes
  e164String := Subtype.val
  parseE164 := checked _
  poolString := Subtype.val
  parsePool := checked _
  linkUrl pairs := ⟨"sgnl://linkdevice", pairs⟩
  queryPairs := SampleUrl.query
  joinServiceUrl path := some ⟨.ofList (path.toList.takeWhile fun c => c ≠ '?' ∧ c ≠ '#'), []⟩
  destination url :=
    (url.path.toList.dropPrefix? "/v1/provisioning/".toList).map String.ofList

theorem provisioningExternals_lawful : provisioningExternals.Lawful where
  ciphers := openCiphers_lawful
  agrees _ _ := ⟨_, rfl⟩
  symmetric ours theirs := by
    exact congrArg (some ∘ Vector.toList) (Vector.zipWith_comm_of_comm UInt8.add_comm)
  publicBytes key := arrayOf?_toList key
  privateBytes key := arrayOf?_toList key
  message := decodeMessage_encodeMessage
  envelope := decodeEnvelope_encodeFields
  base64 bytes := congrArg some (bytesOf_textOf bytes)
  e164 := checked_val
  pool := checked_val
  query _ := rfl

def keyPairOf (byte : UInt8) : KeyPair provisioningExternals.toCurve :=
  .ofPrivate (Vector.replicate 32 byte)

def pipeKey : provisioningExternals.PrivateKey := (Vector.replicate 32 9 : Vector UInt8 32)

def linkAddress : String := "Kx2vQpR7"

theorem linkAddress_decoded :
    provisioningExternals.decodeProvisioningAddress (encodeAddress linkAddress) =
      some (some linkAddress) := by
  change (utf8String? (utf8Bytes linkAddress)).map some = _
  simp

theorem linkAddress_routes : RoutesTo provisioningExternals linkAddress :=
  ⟨_, rfl, by decide⟩

theorem phonenumber_valid : ("+491701234567".toList.head? == some '+') = true := by decide

def phonenumber : provisioningExternals.E164 := ⟨"+491701234567", phonenumber_valid⟩

def poolText : String := "0123456789abcdefghijklmnopqrstuvwxyz0123456789abcdefghijklmnopqr"

theorem poolText_valid : (poolText.length == 64) = true := by decide

def pool : provisioningExternals.AccountEntropyPool := ⟨poolText, poolText_valid⟩

def profileKey : ProfileKey := ⟨List.replicate 32 7, List.length_replicate⟩

def primaryWith (profileKey : Option ProfileKey) : PrimaryState provisioningExternals where
  profileKey := profileKey
  secrets := {
    credentials := ⟨some ⟨0x6ba7b8109dad11d180b400c04fd430c8⟩, none, phonenumber⟩
    ephemeralBackupKey := some (Vector.replicate 32 5)
    accountEntropyPool := pool
    mediaRootBackupKey := none }
  aciIdentityKeyPair := keyPairOf 1
  pniIdentityKeyPair := keyPairOf 2

/-- A run of the primary on the link that was shown. -/
theorem primary_runs (profileKey : Option ProfileKey) :
    ∃ es x, Prog.Trace (AccountManager.linkDevice provisioningExternals
        (provisioningUrl provisioningExternals (provisioningExternals.publicKey pipeKey)
          linkAddress) (primaryWith profileKey).profileKey (primaryWith profileKey).secrets) es x ∧
      ∀ e ∈ es, (primaryWith profileKey).Obliging e.1 e.2 :=
  Prog.exists_answered ((primaryWith profileKey).obliging_answerable pipeKey) _

end Sample

theorem linked_with_profile_key :
    ∃ es x, Prog.Trace (AccountManager.linkDevice Sample.provisioningExternals
        (provisioningUrl Sample.provisioningExternals
          (Sample.provisioningExternals.publicKey Sample.pipeKey) Sample.linkAddress)
        (some Sample.profileKey) (Sample.primaryWith (some Sample.profileKey)).secrets) es x ∧
      (∀ e ∈ es, (Sample.primaryWith (some Sample.profileKey)).Obliging e.1 e.2) ∧
      Links (Sample.primaryWith (some Sample.profileKey)) Sample.pipeKey
        (Sample.encodeAddress Sample.linkAddress) Sample.linkAddress es x := by
  obtain ⟨es, x, ran, obliged⟩ := Sample.primary_runs (some Sample.profileKey)
  exact ⟨es, x, ran, obliged, (linkDevice_links_iff Sample.provisioningExternals_lawful _ _
    Sample.linkAddress_decoded ran obliged).mpr ⟨rfl, Sample.linkAddress_routes⟩⟩

theorem not_linked_without_profile_key :
    ∃ es x, Prog.Trace (AccountManager.linkDevice Sample.provisioningExternals
        (provisioningUrl Sample.provisioningExternals
          (Sample.provisioningExternals.publicKey Sample.pipeKey) Sample.linkAddress) none
        (Sample.primaryWith none).secrets) es x ∧
      (∀ e ∈ es, (Sample.primaryWith none).Obliging e.1 e.2) ∧
      ¬ Links (Sample.primaryWith none) Sample.pipeKey
        (Sample.encodeAddress Sample.linkAddress) Sample.linkAddress es x := by
  obtain ⟨es, x, ran, obliged⟩ := Sample.primary_runs none
  exact ⟨es, x, ran, obliged, not_links_of_unset Sample.provisioningExternals_lawful
    Sample.linkAddress_decoded ran obliged rfl⟩

end SignalService
