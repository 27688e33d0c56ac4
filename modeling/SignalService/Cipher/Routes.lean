import SignalService.Cipher.Spec

/-! # The routes to a decrypted message

Every ciphertext comes to libsignal through the same four-way choice, whether the envelope
names its sender or seals it. What stands before that choice only reads the store, and what
comes after it is computed from its result.
-/

namespace SignalService

open Effect Prog

/-! ## Envelopes that name their sender -/

/-- The kind of message in an envelope that is encrypted and names its sender. -/
def EnvelopeType.inner? : EnvelopeType → Option CiphertextMessageType
  | .prekeyMessage => some .preKey
  | .doubleRatchet => some .whisper
  | _ => none

theorem Envelope.exists_inner (envelope : Envelope)
    (encrypted : envelope.envelopeType = .prekeyMessage ∨
      envelope.envelopeType = .doubleRatchet) :
    ∃ msgType, envelope.envelopeType.inner? = some msgType := by
  obtain type | type := encrypted
  · rw [type]
    exact ⟨_, rfl⟩
  · rw [type]
    exact ⟨_, rfl⟩

section Identified

variable (X : Externals) {cipher : ServiceCipher} {envelope : Envelope} {ciphertext : Bytes}
  {msgType : CiphertextMessageType}

theorem decryptParts_identified (type : envelope.envelopeType.inner? = some msgType)
    (source : Option ServiceId) :
    decryptParts X cipher envelope ciphertext source =
      (expectSource source).bind fun id => (expectSenderDevice envelope).bind fun device =>
        decryptIdentified X (fun sender =>
          sealedSenderDecryptMessage X msgType ciphertext sender cipher.localAddress) id device := by
  unfold decryptParts
  cases known : envelope.envelopeType with
  | prekeyMessage | doubleRatchet =>
      rw [known] at type
      cases type
      rfl
  | unknown | serverDeliveryReceipt | unidentifiedSender | plaintextContent =>
      rw [known] at type
      cases type

/-- What is left to do with a decrypted message: the padding depends on the version of the
    session, as it is found now. -/
def unpadded (source : ServiceId) (device : DeviceId) (data : Bytes)
    (found : Except SignalProtocolError (Option SessionRecord)) :
    Exit ServiceError DecryptedPayload :=
  let notFound := SignalProtocolError.sessionNotFound (some (X.protocolAddress source device))
    "decrypt"
  ((Exit.ofExcept found).mapErr .signalProtocolError).bind fun loaded =>
  (Exit.ofOption (.throw (.signalProtocolError notFound)) loaded).bind fun record =>
  ((Exit.ofExcept (X.sessionVersion record)).mapErr .signalProtocolError).bind fun version =>
  (Exit.ofExcept (stripPaddingVersion version data)).bind fun data =>
  .ret ⟨data, source, device, false, false, false⟩

/-- The session is looked up once before anything is decrypted, and once after. -/
theorem decryptIdentified_eq
    (decryptMessage : ProtocolAddress → Async SignalProtocolError Bytes) (source : ServiceId)
    (device : DeviceId) :
    decryptIdentified X decryptMessage source device =
      .call (.lock source) fun _ => Prog.onExit (.unlock source)
        (.call (.loadSession (X.protocolAddress source device)) fun
          | .error e => .done (.throw (.signalProtocolError e))
          | .ok _ => ((decryptMessage (X.protocolAddress source device)).mapErr
              .signalProtocolError).bind fun data =>
                .call (.loadSession (X.protocolAddress source device)) fun found =>
                  .done (unpadded X source device data found)) := by
  have after (data : Bytes) (found : Except SignalProtocolError (Option SessionRecord)) :
      (((Prog.ofExcept found).mapErr ServiceError.signalProtocolError).bind fun loaded =>
        (Prog.ofOption (.throw (.signalProtocolError (.sessionNotFound
          (some (X.protocolAddress source device)) "decrypt"))) loaded).bind fun record =>
        ((Prog.ofExcept (X.sessionVersion record)).mapErr .signalProtocolError).bind fun version =>
        (Prog.ofExcept (stripPaddingVersion version data)).bind fun data =>
        .done (.ret ⟨data, source, device, false, false, false⟩) :
          Async ServiceError DecryptedPayload) = .done (unpadded X source device data found) := by
    simp only [Prog.ofExcept, Prog.ofOption, done_mapErr, done_bind_done, unpadded]
  unfold decryptIdentified Async.withLock getPreferredProtocolAddress Async.loadSession Async.await
  simp only [bind_eq, pure_eq, call_bind, call_mapErr, id_eq]
  congr
  funext _
  congr
  funext found
  cases found with
  | error e => rfl
  | ok _ =>
      change ((decryptMessage (X.protocolAddress source device)).mapErr
        ServiceError.signalProtocolError).bind _ = _
      simp only [after]

variable {σ : Type} {h : Env σ} (keeps : h.KeepsOnReads)
  {decryptMessage : ProtocolAddress → Async SignalProtocolError Bytes} {source : ServiceId}
  {device : DeviceId} {s : σ}

include keeps

theorem decryptIdentified_unready {e : SignalProtocolError}
    (unready : (h (.loadSession (X.protocolAddress source device)) s).1 = .error e) :
    ((decryptIdentified X decryptMessage source device).run h s).exit =
        .throw (.signalProtocolError e) ∧
      ((decryptIdentified X decryptMessage source device).run h s).state = s := by
  have locked : (h (.lock source) s).2 = s := keeps (.lock source) trivial s
  have loaded : (h (.loadSession (X.protocolAddress source device)) s).2 = s :=
    keeps (.loadSession _) trivial s
  have unlocked : (h (.unlock source) s).2 = s := keeps (.unlock source) trivial s
  simp [decryptIdentified_eq, locked, unready, loaded, unlocked]

theorem decryptIdentified_ready {found : Option SessionRecord}
    (ready : (h (.loadSession (X.protocolAddress source device)) s).1 = .ok found) :
    let opened := (decryptMessage (X.protocolAddress source device)).run h s
    ((decryptIdentified X decryptMessage source device).run h s).exit =
        ((opened.exit.mapErr .signalProtocolError).bind fun data => unpadded X source device data
          (h (.loadSession (X.protocolAddress source device)) opened.state).1) ∧
      ((decryptIdentified X decryptMessage source device).run h s).state = opened.state := by
  have locked : (h (.lock source) s).2 = s := keeps (.lock source) trivial s
  have loaded (t : σ) : (h (.loadSession (X.protocolAddress source device)) t).2 = t :=
    keeps (.loadSession _) trivial t
  have unlocked (t : σ) : (h (.unlock source) t).2 = t := keeps (.unlock source) trivial t
  simp only [decryptIdentified_eq, run_call_exit, run_call_state, run_onExit, locked, ready, loaded,
    unlocked, run_bind_exit, run_mapErr, run_done, true_and]
  cases exit : ((decryptMessage (X.protocolAddress source device)).run h s).exit with
  | ret data =>
      rw [run_bind_state_of_ret h (a := data) (by rw [run_mapErr, exit]; rfl), run_mapErr]
      exact loaded _
  | throw e | panic m =>
      rw [run_bind_state_of_not_ret h fun data => by simp [run_mapErr, exit], run_mapErr]

end Identified

/-! ## Sealed envelopes -/

/-- The inner message, where both its type and its bytes can be read. -/
def UnidentifiedSenderMessageContent.original (usmc : UnidentifiedSenderMessageContent) :
    Option (CiphertextMessageType × Bytes) :=
  match usmc.msgType, usmc.contents with
  | .ok msgType, .ok contents => some (msgType, contents)
  | _, _ => none

section Sealed

variable (X : Externals)

/-- Under the lock of the peer, where its name is a service id. -/
def guarded {ε α : Type} (remote : ProtocolAddress) (body : Async ε α) : Async ε α :=
  match X.parseServiceIdString remote.name with
  | some sender => Async.withLock sender body
  | none => body

theorem guarded_run {σ ε α : Type} {h : Env σ} (keeps : h.KeepsOnReads) (remote : ProtocolAddress)
    (body : Async ε α) (s : σ) :
    ((guarded X remote body).run h s).exit = (body.run h s).exit ∧
      ((guarded X remote body).run h s).state = (body.run h s).state := by
  unfold guarded
  cases X.parseServiceIdString remote.name with
  | none => exact ⟨rfl, rfl⟩
  | some sender =>
      have locked : (h (.lock sender) s).2 = s := keeps (.lock sender) trivial s
      have unlocked (t : σ) : (h (.unlock sender) t).2 = t := keeps (.unlock sender) trivial t
      simp only [Async.withLock, run_call_exit, run_call_state, run_onExit, locked, unlocked,
        and_self]

variable {ciphertext : Bytes} {trustRoots : List PublicKey} {timestamp : Nat}
  {localE164 : Option String} {loc : ProtocolAddress}

/-- The outer layer is opened, the certificate is looked at, and only then something is
    decrypted. -/
theorem sealedSenderDecrypt_eq :
    sealedSenderDecrypt X ciphertext trustRoots timestamp localE164 loc =
      .call (.sealedSenderDecryptToUsmc ciphertext) fun
        | .error e => .done (.throw (.ofProtocol e))
        | .ok usmc =>
            match sealedSenderAddress X trustRoots timestamp localE164 loc usmc with
            | .throw e => .done (.throw (.ofProtocol e))
            | .panic m => .done (.panic m)
            | .ret remote => guarded X remote
                ((sealedSenderDecryptWithValidatedUsmc X usmc remote loc).mapErr fun inner =>
                  ⟨inner, some remote, usmc.original⟩) := by
  unfold sealedSenderDecrypt Async.await
  simp only [bind_eq, call_mapErr, call_bind, id_eq]
  congr
  funext answer
  cases answer with
  | error e => rfl
  | ok usmc =>
      simp only [Prog.ofExcept, Exit.ofExcept_ok, done_mapErr, Exit.mapErr_ret, ret_bind,
        Prog.ofExit]
      cases sealedSenderAddress X trustRoots timestamp localE164 loc usmc <;> rfl

variable {usmc : UnidentifiedSenderMessageContent} {remote : ProtocolAddress}

/-- Of a trusted sender, nothing but the message is left to be found out. -/
theorem sealedSenderDecryptWithValidatedUsmc_eq
    (trusted : sealedSenderAddress X trustRoots timestamp localE164 loc usmc = .ret remote) :
    ∃ e164, sealedSenderDecryptWithValidatedUsmc X usmc remote loc =
      (Prog.ofExcept usmc.msgType).bind fun msgType => (Prog.ofExcept usmc.contents).bind
        fun contents => (sealedSenderDecryptMessage X msgType contents remote loc).bind
          fun message => .done (.ret ⟨remote.name, e164, remote.deviceId, message⟩) := by
  obtain ⟨certificate, e164, sender, uuid, phone, device⟩ := sealedSenderAddress_ret X trusted
  refine ⟨e164, ?_⟩
  simp only [sealedSenderDecryptWithValidatedUsmc, sender, uuid, phone, device, Prog.ofExcept,
    Exit.ofExcept_ok, bind_eq, ret_bind, pure_eq]

variable {σ : Type} {h : Env σ} {s : σ} {cipher : ServiceCipher} {envelope : Envelope}
  {source : Option ServiceId}

/-- The payload that is made of the message of a sealed envelope. -/
def unsealedPayload (remote : ProtocolAddress) (source : Option ServiceId) (message : Bytes) :
    Exit ServiceError DecryptedPayload :=
  match X.parseServiceIdString remote.name with
  | none => .throw (.signalProtocolError (.invalidSealedSenderMessage "invalid sender UUID"))
  | some sender =>
      if sender.kind = .pni then .throw (.invalidFrame "sealed sender used for PNI")
      else (Exit.ofExcept (stripPadding message)).bind fun data =>
        .ret ⟨data, sender, remote.deviceId, false, true, source.isNone⟩

theorem decryptUnidentifiedSender_eq :
    decryptUnidentifiedSender X cipher envelope ciphertext source =
      ((sealedSenderDecrypt X ciphertext cipher.trustRoots (envelope.clientTimestamp.getD 0) none
        cipher.localAddress).mapErr .sealedSenderDecryptionError).bind fun result =>
          .done (unsealedPayload X ⟨result.senderUuid, result.deviceId⟩ source result.message) := by
  unfold decryptUnidentifiedSender unsealedPayload
  simp only [bind_eq]
  congr
  funext result
  cases X.parseServiceIdString result.senderUuid with
  | none => rfl
  | some sender =>
      dsimp only
      split
      · rfl
      · simp only [Prog.ofExcept, pure_eq, done_bind_done]

/-- What comes of a sealed envelope whose sender is trusted. -/
theorem decryptUnidentifiedSender_trusted (source : Option ServiceId) (keeps : h.KeepsOnReads)
    (opened : (h (.sealedSenderDecryptToUsmc ciphertext) s).1 = .ok usmc)
    (trusted : sealedSenderAddress X cipher.trustRoots (envelope.clientTimestamp.getD 0) none
      cipher.localAddress usmc = .ret remote)
    {msgType : CiphertextMessageType} {contents : Bytes} (type : usmc.msgType = .ok msgType)
    (inside : usmc.contents = .ok contents) :
    let decrypted := (sealedSenderDecryptMessage X msgType contents remote
      cipher.localAddress).run h s
    ((decryptUnidentifiedSender X cipher envelope ciphertext source).run h s).exit =
        ((decrypted.exit.mapErr fun inner => ServiceError.sealedSenderDecryptionError
          ⟨inner, some remote, usmc.original⟩).bind (unsealedPayload X remote source)) ∧
      ((decryptUnidentifiedSender X cipher envelope ciphertext source).run h s).state =
        decrypted.state := by
  obtain ⟨e164, body⟩ := sealedSenderDecryptWithValidatedUsmc_eq X trusted
  have kept : (h (.sealedSenderDecryptToUsmc ciphertext) s).2 = s :=
    keeps (.sealedSenderDecryptToUsmc ciphertext) trivial s
  rw [decryptUnidentifiedSender_eq, run_bind_done]
  simp only [run_mapErr, sealedSenderDecrypt_eq, run_call_exit, run_call_state, opened, kept,
    trusted, guarded_run X keeps, body, type, inside, Prog.ofExcept, Exit.ofExcept_ok, ret_bind,
    run_bind_done]
  constructor
  · cases ((sealedSenderDecryptMessage X msgType contents remote cipher.localAddress).run h s).exit
      <;> rfl
  · trivial

/-- A sealed envelope that does not get that far changes nothing. -/
theorem decryptUnidentifiedSender_untrusted (keeps : h.KeepsOnReads)
    (untrusted : ∀ usmc remote msgType contents,
      (h (.sealedSenderDecryptToUsmc ciphertext) s).1 = .ok usmc →
      sealedSenderAddress X cipher.trustRoots (envelope.clientTimestamp.getD 0) none
        cipher.localAddress usmc = .ret remote →
      usmc.msgType = .ok msgType → usmc.contents ≠ .ok contents) :
    (∀ parts, ((decryptUnidentifiedSender X cipher envelope ciphertext source).run h s).exit ≠
        .ret parts) ∧
      (∀ reason, ((decryptUnidentifiedSender X cipher envelope ciphertext source).run h s).exit ≠
        .throw (.invalidFrame reason)) ∧
      ((decryptUnidentifiedSender X cipher envelope ciphertext source).run h s).state = s := by
  have kept : (h (.sealedSenderDecryptToUsmc ciphertext) s).2 = s :=
    keeps (.sealedSenderDecryptToUsmc ciphertext) trivial s
  rw [decryptUnidentifiedSender_eq, run_bind_done]
  simp only [run_mapErr, sealedSenderDecrypt_eq, run_call_exit, run_call_state, kept]
  cases opened : (h (.sealedSenderDecryptToUsmc ciphertext) s).1 with
  | error e => simp
  | ok usmc =>
      cases trusted : sealedSenderAddress X cipher.trustRoots (envelope.clientTimestamp.getD 0) none
          cipher.localAddress usmc with
      | throw e | panic m => simp [trusted]
      | ret remote =>
          obtain ⟨e164, body⟩ := sealedSenderDecryptWithValidatedUsmc_eq X trusted
          simp only [trusted, guarded_run X keeps, run_mapErr, body]
          cases type : usmc.msgType with
          | error e => simp [Prog.ofExcept]
          | ok msgType =>
              cases inside : usmc.contents with
              | error e => simp [Prog.ofExcept]
              | ok contents => exact absurd inside (untrusted _ _ _ _ opened trusted type)

end Sealed

/-! ## Panics -/

section PanicFree

variable {X : Externals}

theorem sealedSenderDecryptMessage_panicFree (msgType : CiphertextMessageType) (contents : Bytes)
    (remote loc : ProtocolAddress) :
    (sealedSenderDecryptMessage X msgType contents remote loc).PanicFree := by
  cases msgType with
  | whisper | preKey =>
      exact (panicFree_ofExcept _).bind fun _ _ => panicFree_ofExcept _
  | senderKey => exact fun _ => panicFree_ofExcept _
  | plaintext => exact panicFree_ofExcept _

theorem decryptIdentified_panicFree
    {decryptMessage : ProtocolAddress → Async SignalProtocolError Bytes}
    (free : ∀ sender, (decryptMessage sender).PanicFree) (source : ServiceId) (device : DeviceId) :
    (decryptIdentified X decryptMessage source device).PanicFree := by
  refine fun _ => PanicFree.onExit ?_
  refine PanicFree.bind (PanicFree.mapErr _ fun _ => ?_) fun sender => ?_
  · exact (panicFree_ofExcept _).bind fun _ => trivial
  refine ((free sender).mapErr _).bind fun data => ?_
  refine PanicFree.bind (PanicFree.mapErr _ fun _ => panicFree_ofExcept _) fun loaded => ?_
  refine (panicFree_ofOption _ _).bind fun record => ?_
  refine ((panicFree_ofExcept _).mapErr _).bind fun version => ?_
  exact (panicFree_ofExcept _).bind fun data => trivial

theorem guarded_panicFree {ε α : Type} {remote : ProtocolAddress} {body : Async ε α}
    (free : body.PanicFree) : (guarded X remote body).PanicFree := by
  unfold guarded
  cases X.parseServiceIdString remote.name with
  | none => exact free
  | some sender => exact fun _ => free.onExit

theorem sealedSenderDecryptWithValidatedUsmc_panicFree (usmc : UnidentifiedSenderMessageContent)
    (remote loc : ProtocolAddress) :
    (sealedSenderDecryptWithValidatedUsmc X usmc remote loc).PanicFree := by
  refine (panicFree_ofExcept _).bind fun msgType => (panicFree_ofExcept _).bind fun contents => ?_
  refine (sealedSenderDecryptMessage_panicFree msgType contents remote loc).bind fun message => ?_
  refine (panicFree_ofExcept _).bind fun certificate => (panicFree_ofExcept _).bind fun uuid => ?_
  exact (panicFree_ofExcept _).bind fun e164 => (panicFree_ofExcept _).bind fun device => trivial

end PanicFree

section Panics

variable {X : Externals} {σ : Type} {h : Env σ} {s : σ} {cipher : ServiceCipher}
  {envelope : Envelope} {ciphertext : Bytes} {source : Option ServiceId}

theorem unsealedPayload_not_panic {remote : ProtocolAddress} {message : Bytes} (m : String) :
    unsealedPayload X remote source message ≠ .panic m := by
  unfold unsealedPayload
  cases X.parseServiceIdString remote.name with
  | none => nofun
  | some sender =>
      dsimp only
      split
      · nofun
      · cases stripPadding message <;> nofun

/-- The sealed route panics only over the certificate. -/
theorem decryptUnidentifiedSender_panics_iff :
    (∃ m, ((decryptUnidentifiedSender X cipher envelope ciphertext source).run h s).exit =
        .panic m) ↔
      ∃ usmc m, (h (.sealedSenderDecryptToUsmc ciphertext) s).1 = .ok usmc ∧
        sealedSenderAddress X cipher.trustRoots (envelope.clientTimestamp.getD 0) none
          cipher.localAddress usmc = .panic m := by
  rw [decryptUnidentifiedSender_eq, run_bind_done]
  simp only [run_mapErr, sealedSenderDecrypt_eq, run_call_exit]
  cases (h (.sealedSenderDecryptToUsmc ciphertext) s).1 with
  | error e => simp
  | ok usmc =>
      simp only [Except.ok.injEq, exists_and_left, exists_eq_left']
      cases trusted : sealedSenderAddress X cipher.trustRoots (envelope.clientTimestamp.getD 0) none
          cipher.localAddress usmc with
      | throw e => simp
      | panic m => simp
      | ret remote =>
          simp only [reduceCtorEq, exists_false, iff_false, not_exists]
          intro m panics
          obtain never | ⟨result, -, never⟩ := Exit.bind_eq_panic.mp panics
          · exact (guarded_panicFree ((sealedSenderDecryptWithValidatedUsmc_panicFree usmc remote
              cipher.localAddress).mapErr _)).run _ m (Exit.mapErr_eq_panic.mp never)
          · exact unsealedPayload_not_panic m never

end Panics

end SignalService
