import SignalService.Effect.Pool
import SignalService.Cipher.Routes
import SignalService.Sender.Batches
import SignalService.AccountManager

/-! # Which operations lock

`session_lock.rs` hands out one lock per peer, and it is by convention that a session is
only replaced under it. A send takes the lock around its whole retry loop, and an envelope
is decrypted under the lock of its sender. `pnp_initialize_devices` takes none, and neither
does a sealed message whose certificate names its sender by what is no service id.
-/

namespace SignalService

open Effect Prog

/-! ## What calls do to sessions -/

/-- Who a session is with: the service id its lock is kept under, or the name of the
    address, where that is none. -/
abbrev Peer := ServiceId ⊕ String

def peerOf (X : Externals) (address : ProtocolAddress) : Peer :=
  match X.parseServiceIdString address.name with
  | some id => .inl id
  | none => .inr address.name

/-- libsignal loads the record of a session, takes a step of its ratchet and stores it,
    with other tasks in between. -/
def sessionUse : Call → Use ProtocolAddress Peer
  | .loadSession address => .read address
  | .deleteSession address => .brief address
  | .processPrekeyBundle remote _ _ | .messageEncrypt _ remote _
  | .sealedSenderEncrypt remote _ _ | .messageDecryptPrekey _ remote _
  | .messageDecryptSignal _ remote _ => .split remote
  | .lock peer => .acquire (.inl peer)
  | .unlock peer => .release (.inl peer)
  | _ => .plain

/-- The error says of no session that it was not found, except of those that satisfy `D`. -/
def SignalProtocolError.Names (D : ProtocolAddress → Prop) (e : SignalProtocolError) : Prop :=
  ∀ address op, e = .sessionNotFound (some address) op → D address

def ServiceError.Names (D : ProtocolAddress → Prop) (e : ServiceError) : Prop :=
  ∀ error, e = .signalProtocolError error → error.Names D

/-- Stores and libsignal name only the session they were asked about, and requests for
    keys name none. -/
def Honest : (c : Call) → Answer c → Prop
  | .loadSession address, r => ∀ e, r = .error e → e.Names (· = address)
  | .messageEncrypt _ remote _, r => ∀ e, r = .error e → e.Names (· = remote)
  | .sealedSenderEncrypt remote _ _, r => ∀ e, r = .error e → e.Names (· = remote)
  | .getKeys _ _, r => ∀ e, r = .error e → e.Names fun _ => False
  | _, _ => True

/-- The same of the pure functions of libsignal, and that service ids can be read back. -/
structure Externals.Sober (X : Externals) : Prop where
  parse_string : ∀ id, X.parseServiceIdString (X.serviceIdString id) = some id
  identityKey : ∀ bytes e, X.identityKey bytes = .error e → e.Names fun _ => False
  intoBundle : ∀ item identity e, X.intoBundle item identity = .error e → e.Names fun _ => False
  sessionVersion : ∀ record e, X.sessionVersion record = .error e → e.Names fun _ => False
  remoteRegistrationId : ∀ record e, X.remoteRegistrationId record = .error e →
    e.Names fun _ => False

variable {X : Externals}

theorem Externals.Sober.peerOf (sober : X.Sober) (id : ServiceId) (device : DeviceId) :
    peerOf X (X.protocolAddress id device) = .inl id := by
  unfold SignalService.peerOf Externals.protocolAddress
  rw [sober.parse_string id]

/-! ## Which sessions errors name -/

theorem SignalProtocolError.Names.mono {D D' : ProtocolAddress → Prop}
    {e : SignalProtocolError} (names : e.Names D) (imp : ∀ address, D address → D' address) :
    e.Names D' :=
  fun address op same => imp address (names address op same)

theorem SignalProtocolError.Names.lift {D : ProtocolAddress → Prop} {e : SignalProtocolError}
    (names : e.Names D) : (ServiceError.signalProtocolError e).Names D := by
  rintro error ⟨⟩
  exact names

theorem ServiceError.names_of_ne {D : ProtocolAddress → Prop} {e : ServiceError}
    (other : ∀ error, e ≠ .signalProtocolError error) : e.Names D :=
  fun error same => absurd same (other error)

section Named

variable (sober : X.Sober) {address : ProtocolAddress}

include sober

theorem registrationId_names (record : SessionRecord) :
    ThrowsWhen Honest (ServiceError.Names (· = address)) (registrationId X record) := by
  unfold registrationId
  cases read : X.remoteRegistrationId record with
  | ok id => trivial
  | error e => exact ((sober.remoteRegistrationId record e read).mono fun _ => False.elim).lift

theorem encryptPadded_names {cipher : ServiceCipher} {certificate : Option SenderCertificate}
    {record : SessionRecord} {padded : Bytes} :
    ThrowsWhen Honest (ServiceError.Names (· = address))
      (encryptPadded X cipher address certificate record padded) := by
  cases certificate with
  | none =>
      refine .bind ?_ fun message => .bind (registrationId_names sober record) fun id => ?_
      · intro answer honest
        cases answer with
        | ok message => trivial
        | error e => exact (honest e rfl).lift
      · cases message.messageType <;> trivial
  | some certificate =>
      refine .bind (registrationId_names sober record) fun id => .bind ?_ fun message => trivial
      intro answer honest
      cases answer with
      | ok message => trivial
      | error e => exact (honest e rfl).lift

theorem encrypt_names {cipher : ServiceCipher} {certificate : Option SenderCertificate}
    {content : OutgoingContent} :
    ThrowsWhen Honest (ServiceError.Names (· = address))
      (encrypt X cipher address certificate content) := by
  have notFound : (sessionNotFound address).Names (· = address) := by
    rintro error ⟨⟩ address' op ⟨⟩
    rfl
  refine .bind ?_ fun loaded => .bind ?_ fun record => ?_
  · intro answer honest
    cases answer with
    | ok record => trivial
    | error e => exact (honest e rfl).lift
  · cases loaded with
    | some record => trivial
    | none => exact notFound
  · cases content with
    | plaintext serialized => exact .bind (registrationId_names sober record) fun _ => trivial
    | encrypted content =>
        refine .bind (fun _ _ => trivial) fun usable => ?_
        cases usable with
        | false => exact notFound
        | true =>
            refine .bind ?_ fun version => .bind ?_ fun padded => encryptPadded_names sober
            · cases read : X.sessionVersion record with
              | ok version => trivial
              | error e => exact ((sober.sessionVersion record e read).mono fun _ => False.elim).lift
            · unfold addPadding
              split
              · exact ServiceError.names_of_ne (by simp)
              · split <;> trivial

omit sober in
theorem jsonOrUnhandled_other {α : Type} {parse : String → Option α}
    {response : WebSocketResponseMessage} {e : ServiceError}
    (failed : jsonOrUnhandled X parse response = .error e) (error : SignalProtocolError) :
    e ≠ .signalProtocolError error := by
  unfold jsonOrUnhandled at failed
  split at failed
  · cases failed
  · cases failed
    simp

omit sober in
theorem parseRetryAfter_ne_throw (header : List Char) (e : ServiceError) :
    parseRetryAfter header ≠ .throw e := by
  unfold parseRetryAfter
  split
  · simp
  · split <;> simp

omit sober in
theorem baselineDecode_other {response : WebSocketResponseMessage} {e : ServiceError}
    (threw : baselineDecode X response = .throw e) (error : SignalProtocolError) :
    e ≠ .signalProtocolError error := by
  unfold baselineDecode at threw
  split at threw
  case h_8 | h_9 =>
    dsimp only at threw
    split at threw
    · rcases Exit.bind_eq_throw.mp threw with failed | ⟨retryAfter, -, ended⟩
      · exact absurd failed (parseRetryAfter_ne_throw _ _)
      · cases ended
        simp
    · cases threw
      simp
  case h_10 =>
    rcases Exit.bind_eq_throw.mp threw with failed | ⟨failure, -, ended⟩
    · exact jsonOrUnhandled_other (Exit.ofExcept_eq_throw.mp failed) error
    · cases ended
      simp
  case h_1 | h_2 | h_3 | h_4 => cases threw
  all_goals
    cases threw
    simp

omit sober in
theorem readGetKeys_names {answer : Except ServiceError WebSocketResponseMessage}
    (honest : ∀ e, answer = .error e → e.Names fun _ => False) {e : ServiceError}
    (threw : readGetKeys X answer = .throw e) : e.Names fun _ => False := by
  rcases Exit.bind_eq_throw.mp threw with failed | ⟨response, -, rest⟩
  · exact honest e (Exit.ofExcept_eq_throw.mp failed)
  rcases Exit.bind_eq_throw.mp rest with failed | ⟨response', -, rest⟩
  · exact ServiceError.names_of_ne (baselineDecode_other failed)
  · have failed := Exit.ofExcept_eq_throw.mp rest
    unfold WebSocketResponseMessage.json at failed
    split at failed
    · cases failed
    · cases failed
      exact ServiceError.names_of_ne (by simp)

theorem mapM_bundle_names {items : List PreKeyResponseItem} {identity : IdentityKey}
    {e : ServiceError} (failed : (items.mapM fun item => X.intoBundle item identity) = .error e) :
    e.Names fun _ => False := by
  induction items with
  | nil => cases failed
  | cons item items ih =>
      rw [List.mapM_cons] at failed
      cases first : X.intoBundle item identity with
      | error e' =>
          rw [first] at failed
          cases failed
          exact sober.intoBundle item identity _ first
      | ok bundle =>
          rw [first] at failed
          cases rest : items.mapM fun item => X.intoBundle item identity with
          | error e' =>
              rw [rest] at failed
              cases failed
              exact ih rest
          | ok bundles =>
              rw [rest] at failed
              cases failed

theorem allBundles_names {response : PreKeyResponse} {e : ServiceError}
    (failed : allBundles X response = .error e) : e.Names fun _ => False := by
  unfold allBundles at failed
  cases read : X.identityKey response.identityKey with
  | error e' =>
      rw [read] at failed
      cases failed
      exact sober.identityKey _ _ read
  | ok identity =>
      rw [read] at failed
      exact mapM_bundle_names sober failed

/-- The errors of a request for keys. -/
theorem getPreKeys_names {destination : ServiceId} {device : DeviceId} :
    ThrowsWhen Honest (ServiceError.Names fun _ => False) (getPreKeys X destination device) := by
  intro answer honest
  apply throwsWhen_ofExit
  intro e threw
  rcases Exit.bind_eq_throw.mp threw with failed | ⟨response, -, rest⟩
  · exact readGetKeys_names honest failed
  · exact allBundles_names sober (Exit.ofExcept_eq_throw.mp rest)

theorem fetchPreKeys_names {D : ProtocolAddress → Prop} {recipient : ServiceId}
    {device : DeviceId} :
    ThrowsWhen Honest (MessageSender.Names D) (MessageSender.fetchPreKeys X recipient device) := by
  refine .attempt_bind (getPreKeys_names sober) (fun bundles => trivial) fun e names => ?_
  cases e with
  | signalProtocolError error =>
      rintro address op ⟨⟩
      exact (names _ rfl address op rfl).elim
  | _ => rintro address op ⟨⟩

omit sober in
theorem establishSessions_names {D : ProtocolAddress → Prop} {sender : MessageSender}
    {recipient : ServiceId} (bundles : List PreKeyBundle) :
    ThrowsWhen Honest (MessageSender.Names D) (sender.establishSessions X recipient bundles) := by
  have protocol (e : SignalProtocolError) :
      MessageSender.Names D (.protocolError e) := by
    rintro address op ⟨⟩
  induction bundles with
  | nil => trivial
  | cons bundle bundles ih =>
      unfold MessageSender.establishSessions
      split
      · exact ih
      · refine .bind ?_ fun address => .bind ?_ fun _ => ih
        · exact .mapErr (throwsWhen_of_forall (fun _ => trivial) _) fun e _ => protocol e
        · exact .mapErr (throwsWhen_of_forall (fun _ => trivial) _) fun e _ => protocol e

/-- A message that cannot be made names a session with its recipient, if any. -/
theorem createEncryptedMessage_names {sender : MessageSender} {recipient : ServiceId}
    {certificate : Option SenderCertificate} {device : DeviceId} {content : OutgoingContent} :
    ThrowsWhen Honest (MessageSender.Names fun address => peerOf X address = .inl recipient)
      (sender.createEncryptedMessage X recipient certificate device content) := by
  have protocol (e : SignalProtocolError) :
      MessageSender.Names (fun address => peerOf X address = .inl recipient)
        (.protocolError e) := by
    rintro address op ⟨⟩
  have encrypted : ThrowsWhen Honest
      (MessageSender.Names fun address => peerOf X address = .inl recipient)
      ((encrypt X sender.cipher (X.protocolAddress recipient device) certificate content).mapErr
        MessageSenderError.serviceError) := by
    refine .mapErr (encrypt_names sober) fun e names => ?_
    rintro address op ⟨⟩
    rw [names _ rfl address op rfl]
    exact sober.peerOf recipient device
  refine .bind (.mapErr (throwsWhen_of_forall (fun _ => trivial) _) fun e _ => protocol e)
    fun session => ?_
  cases session with
  | some record => exact encrypted
  | none =>
      refine .bind ?_ fun bundles => .bind ?_ fun _ => encrypted
      · exact fetchPreKeys_names sober
      · exact establishSessions_names bundles

end Named

/-! ## Sends -/

/-- A call for a session whose address has a name that is no service id. -/
def Nameless (X : Externals) (c : Call) : Prop :=
  ∃ key, (sessionUse c = .brief key ∨ sessionUse c = .split key) ∧
    X.parseServiceIdString key.name = none

/-- The program replaces sessions only under the lock of their peer. -/
abbrev Locks {ε α : Type} (X : Externals) (p : Async ε α) : Prop :=
  Locked sessionUse (peerOf X) Honest (Nameless X) none p

/-- The program makes only calls that the lock of `peer` covers. -/
abbrev Within {ε α : Type} (X : Externals) (peer : ServiceId) (p : Async ε α) : Prop :=
  CallsWhen Honest (Covered sessionUse (peerOf X) (Nameless X) (some (.inl peer))) p

theorem Within.locks {ε α : Type} {peer : ServiceId} {body : Async ε α}
    (within : Within X peer body) : Locks X (Async.withLock peer body) := by
  have entered : sessionUse (.lock peer) = .acquire (.inl peer) := rfl
  have left : sessionUse (.unlock peer) = .release (.inl peer) := rfl
  exact CallsWhen.locked_section entered left within

/-- The program replaces no session. -/
abbrev Apart {ε α : Type} (p : Async ε α) : Prop := Calls (fun c => sessionUse c = .plain) p

theorem Apart.locks {ε α : Type} {p : Async ε α} (apart : Apart p) : Locks X p :=
  CallsWhen.locked ((CallsWhen.weaken (fun _ _ _ => trivial) apart).mono fun _ plain => .inl plain)

section Send

variable (sober : X.Sober) {sender : MessageSender} {recipient : ServiceId}
  {content : OutgoingContent} {timestamp : Nat} {online : Bool}

include sober

theorem Serves.covered {c : Call}
    (serves : sender.Serves X (fun address => peerOf X address = .inl recipient) recipient c) :
    Covered sessionUse (peerOf X) (Nameless X) (some (.inl recipient)) c := by
  have mine (device : DeviceId) : some (.inl recipient) =
      some (peerOf X (X.protocolAddress recipient device)) :=
    congrArg some (sober.peerOf recipient device).symm
  cases serves with
  | loadSession device => exact .inr (.inl ⟨_, rfl⟩)
  | getSubDeviceSessions | getIdentity | hasUsableSenderChain | getKeys | iterate =>
      exact .inl rfl
  | deleteSession address known => exact .inr (.inr ⟨_, .inl rfl, .inl (congrArg some known.symm)⟩)
  | processPrekeyBundle device | messageEncrypt _ device | sealedSenderEncrypt device =>
      exact .inr (.inr ⟨_, .inr rfl, .inl (mine device)⟩)

theorem sendAttempt_within {access : Option UnidentifiedAccess} :
    Within X recipient
      (sender.sendAttempt X recipient content timestamp online access) := by
  have encrypted : Within X recipient (sender.createEncryptedMessages X recipient
      (access.map (·.certificate)) content) :=
    (MessageSender.createEncryptedMessages_serves
      fun device => createEncryptedMessage_names sober).mono fun _ => Serves.covered sober
  refine .bind encrypted fun messages => ?_
  cases messages with
  | none => trivial
  | some messages =>
      have submitted : Within X recipient (MessageSender.submit X access
          ⟨recipient, timestamp, messages.messages, online⟩) := by
        cases access <;> exact ⟨.inl rfl, fun _ _ => trivial⟩
      refine .bind submitted.attempt fun result => ?_
      cases result with
      | ok response => trivial
      | error e =>
          have repaired : Within X recipient (sender.repair X recipient access e) :=
            (MessageSender.repair_serves (fun device => sober.peerOf recipient device) e).mono
              fun _ => Serves.covered sober
          exact .bind repaired fun _ => trivial

theorem sendLoop_within (attempts : Nat) (access : Option UnidentifiedAccess) :
    Within X recipient
      (sender.sendLoop X recipient content timestamp online attempts access) := by
  induction attempts generalizing access with
  | zero => trivial
  | succ attempts ih =>
      refine .bind (sendAttempt_within sober) fun outcome => ?_
      cases outcome with
      | inl sent => trivial
      | inr next => exact ih next

theorem trySendContent_locks {access : Option UnidentifiedAccess} :
    Locks X (sender.trySendContent X recipient access content timestamp online) :=
  (sendLoop_within sober 4 access).locks

omit sober in
theorem contentBytes_apart {body : ContentBody} {includePniSignature : Bool} :
    Apart (sender.contentBytes X body includePniSignature) := by
  unfold MessageSender.contentBytes MessageSender.createPniSignature
  cases includePniSignature with
  | false => trivial
  | true =>
      refine .bind (.bind trivial fun _ => ?_) fun _ => trivial
      exact .bind (.mapErr _ ⟨rfl, fun _ _ => trivial⟩) fun _ => trivial

theorem trySendMessage_locks {access : Option UnidentifiedAccess} {body : ContentBody}
    {includePniSignature : Bool} :
    Locks X (sender.trySendMessage X recipient access body timestamp includePniSignature
      online) :=
  contentBytes_apart.locks.bind fun _ => trySendContent_locks sober

omit sober in
theorem isMultiDevice_apart {ε : Type} : Apart (sender.isMultiDevice : Async ε Bool) := by
  unfold MessageSender.isMultiDevice
  split
  · exact ⟨rfl, fun _ _ => trivial⟩
  · trivial

omit sober in
theorem createMultiDeviceSentTranscriptContent_apart {destination : Option ServiceId}
    {body : ContentBody} {results : List (Except MessageSenderError SentMessage)} :
    Apart (MessageSender.createMultiDeviceSentTranscriptContent X destination body timestamp
      results) := by
  unfold MessageSender.createMultiDeviceSentTranscriptContent
  split
  · trivial
  · exact ⟨rfl, fun _ _ => trivial⟩

omit sober in
theorem syncBody_apart {body : ContentBody} {result : Except MessageSenderError SentMessage} :
    Apart (MessageSender.syncBody X recipient body timestamp result) := by
  unfold MessageSender.syncBody
  split
  · trivial
  · exact createMultiDeviceSentTranscriptContent_apart

theorem sendMessage_locks {access : Option UnidentifiedAccess} {body : ContentBody}
    {includePniSignature : Bool} :
    Locks X (sender.sendMessage X recipient access body timestamp includePniSignature online) := by
  refine isMultiDevice_apart.locks.bind fun multiDevice => ?_
  split
  · -- a message to ourselves
    refine createMultiDeviceSentTranscriptContent_apart.locks.bind fun transcript => ?_
    cases transcript with
    | none => rfl
    | some transcript => exact trySendMessage_locks sober
  · refine (trySendMessage_locks sober).attempt.bind fun result => ?_
    have own : Locks X (sender.sendToOwnDevices X recipient body timestamp result) := by
      refine syncBody_apart.locks.bind fun transcript => ?_
      cases transcript with
      | none => rfl
      | some transcript => exact (trySendMessage_locks sober).bind fun _ => rfl
    unfold MessageSender.finishSend
    split
    · exact own.bind fun _ => rfl
    · rfl

theorem sendToEach_locks {body : ContentBody} (recipients : List MessageSender.GroupRecipient) :
    Locks X (sender.sendToEach X body timestamp online recipients) := by
  induction recipients with
  | nil => rfl
  | cons r rs ih => exact (trySendMessage_locks sober).attempt.bind fun _ => ih.bind fun _ => rfl

theorem sendMessageToGroup_locks {body : ContentBody}
    {recipients : List MessageSender.GroupRecipient} :
    Locks X (sender.sendMessageToGroup X recipients body timestamp online) := by
  refine (sendToEach_locks sober recipients).bind fun results => ?_
  have needed : Locks X (sender.groupNeedsSync results) := by
    unfold MessageSender.groupNeedsSync
    split
    · rfl
    · exact isMultiDevice_apart.locks
  refine needed.bind fun due => ?_
  cases due with
  | false => rfl
  | true =>
      refine createMultiDeviceSentTranscriptContent_apart.locks.bind fun transcript => ?_
      cases transcript with
      | none => rfl
      | some transcript => exact (trySendMessage_locks sober).attempt.bind fun _ => rfl

theorem sendDecryptionErrorMessage_locks {failedType : CiphertextMessageType}
    {failedCiphertext : Bytes} {failedTimestamp : Nat} {failedDevice : DeviceId} :
    Locks X (sender.sendDecryptionErrorMessage X recipient failedType failedCiphertext
      failedTimestamp failedDevice) := by
  have made : Apart ((Async.await (.decryptionErrorMessage failedCiphertext failedType
      failedTimestamp failedDevice) id).mapErr MessageSenderError.protocolError) :=
    .mapErr _ ⟨rfl, fun _ _ => trivial⟩
  have asked : Apart (Async.ask .currentTimestamp : Async MessageSenderError Nat) :=
    ⟨rfl, fun _ _ => trivial⟩
  refine made.locks.bind fun plaintext => asked.locks.bind fun now => ?_
  exact (trySendContent_locks sober).bind fun _ => rfl

end Send

/-! ## Envelopes

What is locked around the decryption of a message does not depend on what is kept under the
lock, so the argument is made for any records of a peer. -/

/-- Whatever is done with the records while a message is decrypted is done under the lock of
    its sender, or needs none. -/
structure Covers (X : Externals) (use : Call → Use ProtocolAddress Peer)
    (A : (c : Call) → Answer c → Prop) (exempt : Call → Prop) : Prop where
  lock : ∀ peer, use (.lock peer) = .acquire (.inl peer)
  unlock : ∀ peer, use (.unlock peer) = .release (.inl peer)
  outer : ∀ ciphertext, use (.sealedSenderDecryptToUsmc ciphertext) = .plain
  getIdentity : ∀ address, use (.getIdentity address) = .plain
  loadSession : ∀ address, use (.loadSession address) = .plain ∨
    ∃ key, use (.loadSession address) = .read key
  identified : ∀ id device msgType contents loc, msgType ≠ .senderKey →
    CallsWhen A (Covered use (peerOf X) exempt (some (.inl id)))
      (sealedSenderDecryptMessage X msgType contents (X.protocolAddress id device) loc)
  sealedInside : ∀ held msgType contents remote loc,
    (held = some (peerOf X remote) ∨ X.parseServiceIdString remote.name = none) →
    CallsWhen A (Covered use (peerOf X) exempt held)
      (sealedSenderDecryptMessage X msgType contents remote loc)
  senderKey : ∀ plaintext, CallsWhen A (Covered use (peerOf X) exempt none)
    (ingestSenderKey X plaintext)

section Open

variable {use : Call → Use ProtocolAddress Peer} {A : (c : Call) → Answer c → Prop}
  {exempt : Call → Prop} (covers : Covers X use A exempt) {cipher : ServiceCipher}
  {envelope : Envelope}

include covers

theorem Covers.withLock {ε α : Type} {peer : ServiceId} {body : Async ε α}
    (within : CallsWhen A (Covered use (peerOf X) exempt (some (.inl peer))) body) :
    Locked use (peerOf X) A exempt none (Async.withLock peer body) :=
  CallsWhen.locked_section (covers.lock peer) (covers.unlock peer) within

theorem Covers.loads {held : Option Peer} (address : ProtocolAddress) :
    Covered use (peerOf X) exempt held (.loadSession address) :=
  (covers.loadSession address).imp_right .inl

theorem Covers.decryptIdentified {id : ServiceId} {device : DeviceId}
    {msgType : CiphertextMessageType} {contents : Bytes} (single : msgType ≠ .senderKey) :
    Locked use (peerOf X) A exempt none
      (decryptIdentified X (fun sender =>
        sealedSenderDecryptMessage X msgType contents sender cipher.localAddress) id device) := by
  rw [decryptIdentified_eq]
  apply covers.withLock
  refine ⟨covers.loads _, fun found _ => ?_⟩
  cases found with
  | error e => trivial
  | ok session =>
      apply CallsWhen.bind ((covers.identified id device msgType contents _ single).mapErr _)
      exact fun data => ⟨covers.loads _, fun _ _ => trivial⟩

theorem Covers.validated {usmc : UnidentifiedSenderMessageContent}
    {remote loc : ProtocolAddress} {held : Option Peer}
    (covered : held = some (peerOf X remote) ∨ X.parseServiceIdString remote.name = none) :
    CallsWhen A (Covered use (peerOf X) exempt held)
      (sealedSenderDecryptWithValidatedUsmc X usmc remote loc) := by
  refine .bind trivial fun msgType => .bind trivial fun contents => ?_
  apply CallsWhen.bind (covers.sealedInside held msgType contents remote loc covered)
  intro message
  refine .bind trivial fun certificate => .bind trivial fun senderUuid => ?_
  exact .bind trivial fun senderE164 => .bind trivial fun deviceId => trivial

theorem Covers.sealedSenderDecrypt {ciphertext : Bytes} {trustRoots : List PublicKey}
    {timestamp : Nat} {localE164 : Option String} {loc : ProtocolAddress} :
    Locked use (peerOf X) A exempt none
      (sealedSenderDecrypt X ciphertext trustRoots timestamp localE164 loc) := by
  rw [sealedSenderDecrypt_eq]
  apply Covered.call (.inl (covers.outer ciphertext))
  intro opened _
  cases opened with
  | error e => rfl
  | ok usmc =>
      cases address : sealedSenderAddress X trustRoots timestamp localE164 loc usmc with
      | throw e | panic m =>
          simp only [address]
          rfl
      | ret remote =>
          simp only [address]
          unfold guarded
          cases parsed : X.parseServiceIdString remote.name with
          | some sender =>
              apply covers.withLock
              apply CallsWhen.mapErr
              exact covers.validated (.inl (by simp only [peerOf, parsed]))
          | none => exact CallsWhen.locked (.mapErr _ (covers.validated (.inr parsed)))

theorem Covers.decryptParts {ciphertext : Bytes} {source : Option ServiceId} :
    Locked use (peerOf X) A exempt none (decryptParts X cipher envelope ciphertext source) := by
  have none_held {ε α : Type} (x : Exit ε α) :
      Locked use (peerOf X) A exempt none (.done x : Async ε α) := rfl
  cases type : envelope.envelopeType with
  | unknown | serverDeliveryReceipt =>
      rw [SignalService.decryptParts, type]
      rfl
  | unidentifiedSender =>
      rw [SignalService.decryptParts, type]
      dsimp only
      rw [decryptUnidentifiedSender_eq]
      exact (covers.sealedSenderDecrypt.mapErr _).bind fun result => none_held _
  | plaintextContent =>
      rw [SignalService.decryptParts, type]
      apply Locked.bind (none_held _) fun id => CallsWhen.locked ?_
      exact .bind (.mapErr _ trivial) fun body => .bind trivial fun data => .bind trivial fun _ =>
        trivial
  | prekeyMessage =>
      have inner : envelope.envelopeType.inner? = some .preKey := by rw [type]; rfl
      rw [decryptParts_identified X inner]
      exact (none_held _).bind fun id => (none_held _).bind fun device =>
        covers.decryptIdentified nofun
  | doubleRatchet =>
      have inner : envelope.envelopeType.inner? = some .whisper := by rw [type]; rfl
      rw [decryptParts_identified X inner]
      exact (none_held _).bind fun id => (none_held _).bind fun device =>
        covers.decryptIdentified nofun

/-- An envelope is opened under the lock of its sender. -/
theorem Covers.openEnvelope :
    Locked use (peerOf X) A exempt none (openEnvelope X cipher envelope) := by
  have none_held {ε α : Type} (x : Exit ε α) :
      Locked use (peerOf X) A exempt none (.done x : Async ε α) := rfl
  apply Locked.bind (none_held _)
  intro localId
  split
  · apply Locked.bind
    · apply Locked.bind (none_held _)
      intro localId
      split
      · rfl
      · apply Locked.bind (none_held _) fun source => covers.decryptParts.bind fun parts => ?_
        apply CallsWhen.locked
        apply CallsWhen.mono _ (CallsWhen.weaken (fun _ _ _ => trivial)
          (finishDecrypt_asks X localId envelope parts))
        intro c asks
        cases c with
        | getIdentity address => exact .inl (covers.getIdentity address)
        | _ => cases asks
    · intro plaintext
      exact (CallsWhen.locked (covers.senderKey plaintext)).bind fun _ => none_held _
  · rfl

end Open

/-- Sessions are replaced under the lock, and not at all by a sender key. -/
theorem sessions_covered (sober : X.Sober) : Covers X sessionUse Honest (Nameless X) where
  lock _ := rfl
  unlock _ := rfl
  outer _ := rfl
  getIdentity _ := rfl
  loadSession _ := .inr ⟨_, rfl⟩
  identified id device msgType contents loc single := by
    have mine {c : Call} (used : sessionUse c = .split (X.protocolAddress id device)) :
        Covered sessionUse (peerOf X) (Nameless X) (some (.inl id)) c :=
      .inr (.inr ⟨_, .inr used, .inl (congrArg some (sober.peerOf id device).symm)⟩)
    cases msgType with
    | whisper | preKey => exact .bind trivial fun ctext => ⟨mine rfl, fun _ _ => trivial⟩
    | senderKey => exact absurd rfl single
    | plaintext => trivial
  sealedInside held msgType contents remote loc covered := by
    have split {c : Call} (used : sessionUse c = .split remote) :
        Covered sessionUse (peerOf X) (Nameless X) held c := by
      apply Or.inr
      apply Or.inr
      refine ⟨remote, .inr used, covered.imp_right fun nameless => ?_⟩
      exact ⟨remote, .inr used, nameless⟩
    cases msgType with
    | whisper | preKey => exact .bind trivial fun ctext => ⟨split rfl, fun _ _ => trivial⟩
    | senderKey => exact ⟨.inl rfl, fun _ _ => trivial⟩
    | plaintext => trivial
  senderKey plaintext := by
    unfold ingestSenderKey
    split
    · trivial
    · refine .bind (.mapErr _ trivial) fun skdm => ?_
      refine .bind (.mapErr _ ⟨.inl rfl, fun _ _ => trivial⟩) fun _ => ?_
      exact .bind (.mapErr _ trivial) fun _ => trivial

theorem openEnvelope_locks (sober : X.Sober) {cipher : ServiceCipher} {envelope : Envelope} :
    Locks X (openEnvelope X cipher envelope) :=
  (sessions_covered sober).openEnvelope

end SignalService
