import SignalService.Sender.Coverage
import SignalService.Sender.Attempts
import SignalService.Effect.Runs

/-! # Where the messages of a batch come from

A batch is made anew for each attempt. What it holds was encrypted on the way to it, for the
device each message is for and over the channel that the batch goes, and nothing of it was in a
batch before.
-/

namespace SignalService.MessageSender

open Effect Prog

/-- Among the calls is the one that encrypted the message for its device, with the session that was
    loaded. What is unencrypted by its kind was not touched. -/
inductive Made (X : Externals) (sender : MessageSender) (recipient : ServiceId)
    (es : List CallEvent) : Option SenderCertificate → OutgoingContent → OutgoingPushMessage →
    Prop where
  | plaintext {certificate : Option SenderCertificate} {serialized : Bytes} {device : DeviceId}
      {record : SessionRecord} {id : Nat}
      (loaded : ⟨.loadSession (X.protocolAddress recipient device), .ok (some record)⟩ ∈ es)
      (registered : X.remoteRegistrationId record = .ok id) :
      Made X sender recipient es certificate (.plaintext serialized)
        ⟨EnvelopeType.plaintextContent.toNat, device, id, X.base64 serialized⟩
  | unidentified {certificate : SenderCertificate} {content padded message : Bytes}
      {device : DeviceId} {record : SessionRecord} {id version : Nat}
      (loaded : ⟨.loadSession (X.protocolAddress recipient device), .ok (some record)⟩ ∈ es)
      (registered : X.remoteRegistrationId record = .ok id)
      (session : X.sessionVersion record = .ok version)
      (added : addPadding version content = .ok padded)
      (encrypted : ⟨.sealedSenderEncrypt (X.protocolAddress recipient device) certificate padded,
        .ok message⟩ ∈ es) :
      Made X sender recipient es (some certificate) (.encrypted content)
        ⟨EnvelopeType.unidentifiedSender.toNat, device, id, X.base64 message⟩
  | identified {content padded : Bytes} {message : CiphertextMessage} {device : DeviceId}
      {record : SessionRecord} {id version : Nat} {type : EnvelopeType}
      (loaded : ⟨.loadSession (X.protocolAddress recipient device), .ok (some record)⟩ ∈ es)
      (registered : X.remoteRegistrationId record = .ok id)
      (session : X.sessionVersion record = .ok version)
      (added : addPadding version content = .ok padded)
      (encrypted : ⟨.messageEncrypt padded (X.protocolAddress recipient device)
        sender.cipher.localAddress, .ok message⟩ ∈ es)
      (outgoing : outgoingType message.messageType = .ret type) :
      Made X sender recipient es none (.encrypted content)
        ⟨type.toNat, device, id, X.base64 message.serialized⟩

variable {X : Externals} {sender : MessageSender} {recipient : ServiceId}
  {certificate : Option SenderCertificate} {content : OutgoingContent} {device : DeviceId}
  {es es' : List CallEvent} {message : OutgoingPushMessage}
  {A : (c : Call) → Answer c → Prop}

theorem Made.mono (made : Made X sender recipient es certificate content message)
    (later : es ⊆ es') : Made X sender recipient es' certificate content message := by
  cases made with
  | plaintext loaded registered => exact .plaintext (later loaded) registered
  | unidentified loaded registered session added encrypted =>
      exact .unidentified (later loaded) registered session added (later encrypted)
  | identified loaded registered session added encrypted outgoing =>
      exact .identified (later loaded) registered session added (later encrypted) outgoing

/-- A message for a device, made for it. -/
structure MadeFor (X : Externals) (sender : MessageSender) (recipient : ServiceId)
    (certificate : Option SenderCertificate) (content : OutgoingContent) (device : DeviceId)
    (es : List CallEvent) (message : OutgoingPushMessage) : Prop where
  device : message.destinationDeviceId = device
  made : Made X sender recipient es certificate content message

theorem MadeFor.append
    (made : MadeFor X sender recipient certificate content device es' message)
    (es : List CallEvent) :
    MadeFor X sender recipient certificate content device (es ++ es') message :=
  ⟨made.device, made.made.mono (List.subset_append_right es es')⟩

/-! ## One message -/

theorem encryptPadded_made {record : SessionRecord} {content padded : Bytes} {version : Nat}
    (loaded : ⟨.loadSession (X.protocolAddress recipient device), .ok (some record)⟩ ∈ es)
    (session : X.sessionVersion record = .ok version)
    (added : addPadding version content = .ok padded) :
    Runs A (Post (fun es' => MadeFor X sender recipient certificate (.encrypted content) device
        (es ++ es')) True)
      (encryptPadded X sender.cipher (X.protocolAddress recipient device) certificate record
        padded) := by
  have before (es' : List CallEvent) :=
    List.mem_append_left es' loaded
  cases certificate with
  | some certificate =>
      refine Runs.bind_post (Runs.mapErr_post _ runs_ofExcept_post) fun es' id registered => ?_
      refine Runs.bind_post (Runs.mapErr_post _ runs_await_post) ?_
      rintro _ message ⟨_, rfl, -, rfl⟩
      refine runs_ret_post ⟨rfl, .unidentified (before _) registered session added ?_⟩
      simp [Externals.protocolAddress]
  | none =>
      refine Runs.bind_post (Runs.mapErr_post _ runs_await_post) ?_
      rintro _ message ⟨_, rfl, -, rfl⟩
      refine Runs.bind_post (Runs.mapErr_post _ runs_ofExcept_post) fun es' id registered => ?_
      refine Runs.bind_post (runs_ofExit_post fun _ _ => trivial) ?_
      rintro _ type ⟨rfl, outgoing⟩
      refine runs_ret_post ⟨rfl, .identified (before _) registered session added ?_ outgoing⟩
      simp [Externals.protocolAddress]

theorem encrypt_made :
    Runs A (Post (MadeFor X sender recipient certificate content device) True)
      (encrypt X sender.cipher (X.protocolAddress recipient device) certificate content) := by
  refine Runs.bind_post (Runs.mapErr_post _ runs_await_post) ?_
  rintro _ loaded ⟨_, rfl, -, rfl⟩
  cases loaded with
  | none => exact runs_done trivial
  | some record =>
      refine Runs.bind_post (runs_ret_post (P := fun es found => es = [] ∧ found = record)
        ⟨rfl, rfl⟩) ?_
      rintro _ record ⟨rfl, rfl⟩
      cases content with
      | plaintext serialized =>
          refine Runs.bind_post (Runs.mapErr_post _ runs_ofExcept_post) fun es id registered => ?_
          exact runs_ret_post ⟨rfl, .plaintext (by simp [Externals.protocolAddress]) registered⟩
      | encrypted content =>
          refine Runs.bind_post runs_post_true fun es usable _ => ?_
          cases usable with
          | false => exact runs_done trivial
          | true =>
              refine Runs.bind_post (Runs.mapErr_post _ runs_ofExcept_post)
                fun es' version session => ?_
              refine Runs.bind_post runs_ofExcept_post fun es'' padded added => ?_
              have loaded : (⟨.loadSession (X.protocolAddress recipient device),
                  .ok (some record)⟩ : CallEvent) ∈ [⟨.loadSession
                    (X.protocolAddress recipient device), .ok (some record)⟩] ++
                      ([] ++ (es ++ (es' ++ es''))) := by simp
              refine (encryptPadded_made loaded session added).mono_post ?_ id
              intro last message made
              simpa only [List.append_assoc] using made

/-- Whatever was called before, the message comes from the last encryption. -/
theorem createEncryptedMessage_made :
    Runs A (Post (MadeFor X sender recipient certificate content device) True)
      (sender.createEncryptedMessage X recipient certificate device content) := by
  have encrypted : Runs A (Post (MadeFor X sender recipient certificate content device) True)
      ((encrypt X sender.cipher (X.protocolAddress recipient device) certificate content).mapErr
        MessageSenderError.serviceError) :=
    encrypt_made.mapErr_post _
  refine Runs.before_post (fun es _ _ made => made.append es) runs_post_true fun session _ => ?_
  cases session with
  | some record => exact encrypted
  | none =>
      refine Runs.before_post (fun es _ _ made => made.append es) runs_post_true fun bundles _ => ?_
      exact Runs.before_post (fun es _ _ made => made.append es) runs_post_true fun _ _ => encrypted

theorem encryptForDevice_made (attempts : Nat) :
    Runs A (Post (fun es found => ∀ message ∈ found,
        MadeFor X sender recipient certificate content device es message) True)
      (sender.encryptForDevice X recipient certificate content device attempts) := by
  induction attempts with
  | zero => exact runs_ret_post nofun
  | succ attempts ih =>
      refine Runs.bind_post createEncryptedMessage_made.attempt_post fun es result made => ?_
      cases result with
      | ok message =>
          refine runs_ret_post ?_
          rintro _ ⟨⟩
          rw [List.append_nil]
          exact made message rfl
      | error e =>
          -- the message of a later attempt was made in that attempt
          have later (es' : List CallEvent) {found : Option OutgoingPushMessage}
              (made : ∀ message ∈ found,
                MadeFor X sender recipient certificate content device es' message) :
              ∀ message ∈ found,
                MadeFor X sender recipient certificate content device (es ++ es') message :=
            fun message member => (made message member).append es
          split
          case h_1 => cases ‹_›
          case h_2 =>
              refine Runs.bind_post runs_post_true fun es' deleted _ => ?_
              cases deleted with
              | error e => exact runs_done trivial
              | ok _ => exact ih.mono_post (fun es'' found made => later _ fun message member =>
                  (made message member).append es') id
          case h_3 => exact runs_done trivial

theorem encryptForDevices_made (devices : List DeviceId) :
    Runs A (Post (fun es messages => (messages.map (·.destinationDeviceId)).Sublist devices ∧
        ∀ message ∈ messages, Made X sender recipient es certificate content message) True)
      (sender.encryptForDevices X recipient certificate content devices) := by
  induction devices with
  | nil => exact runs_ret_post ⟨List.Sublist.refl _, by simp⟩
  | cons device devices ih =>
      refine Runs.bind_post (encryptForDevice_made 2) fun es found made => ?_
      refine Runs.bind_post ih fun es' messages ⟨sublist, madeOthers⟩ => ?_
      refine runs_ret_post ?_
      rw [List.append_nil]
      have others : ∀ message ∈ messages,
          Made X sender recipient (es ++ es') certificate content message :=
        fun message member => (madeOthers message member).mono (List.subset_append_right es es')
      cases found with
      | none => exact ⟨sublist.cons device, others⟩
      | some message =>
          obtain ⟨forDevice, own⟩ := made message rfl
          refine ⟨?_, List.forall_mem_cons.mpr
            ⟨own.mono (List.subset_append_left es es'), others⟩⟩
          rw [Option.toList_some, List.singleton_append, List.map_cons, forDevice]
          exact sublist.cons_cons device

/-- The messages of a batch, one for a device at most. -/
structure Batch (X : Externals) (sender : MessageSender) (recipient : ServiceId)
    (certificate : Option SenderCertificate) (content : OutgoingContent) (es : List CallEvent)
    (messages : List OutgoingPushMessage) : Prop where
  devices : (messages.map (·.destinationDeviceId)).Nodup
  made : ∀ message ∈ messages, Made X sender recipient es certificate content message

theorem createEncryptedMessages_made :
    Runs A (Post (fun es found => ∀ encrypted ∈ found,
        Batch X sender recipient certificate content es encrypted.messages) True)
      (sender.createEncryptedMessages X recipient certificate content) := by
  refine Runs.bind_post runs_post_true fun es subDevices _ => ?_
  refine Runs.bind_post runs_post_true fun es' order _ => ?_
  refine Runs.bind_post (encryptForDevices_made _) fun es'' messages ⟨sublist, made⟩ => ?_
  split
  · exact runs_ret_post nofun
  · refine Runs.bind_post runs_post_true fun last identity _ => runs_ret_post ?_
    rintro _ ⟨⟩
    constructor
    · exact sublist.nodup (order.property.nodup_iff.mpr (nodup_targetDevices subDevices))
    · intro message member
      refine (made message member).mono ?_
      simp only [List.append_nil]
      intro e member
      simp [member]

/-! ## The batches of a send -/

theorem Batch.later {messages : List OutgoingPushMessage}
    (batch : Batch X sender recipient certificate content es' messages) (es : List CallEvent) :
    Batch X sender recipient certificate content (es ++ es') messages :=
  ⟨batch.devices, fun message member =>
    (batch.made message member).mono (List.subset_append_right es es')⟩

/-- Calls of which each batch submits what was made after the batch before it, with the access the
    send began with or, once that is given up, without one. -/
inductive Anew (X : Externals) (sender : MessageSender) (recipient : ServiceId)
    (content : OutgoingContent) (timestamp : Nat) (online : Bool) :
    Option UnidentifiedAccess → List CallEvent → Prop where
  | quiet {access : Option UnidentifiedAccess} {es : List CallEvent}
      (quiet : ∀ e ∈ es, ¬ e.1.IsPut) :
      Anew X sender recipient content timestamp online access es
  | batch {access access' : Option UnidentifiedAccess} {fresh rest : List CallEvent}
      {messages : List OutgoingPushMessage} {answer : Except ServiceError WebSocketResponseMessage}
      (quiet : ∀ e ∈ fresh, ¬ e.1.IsPut)
      (made : Batch X sender recipient (access.map (·.certificate)) content fresh messages)
      (next : access' = access ∨ access' = none)
      (later : Anew X sender recipient content timestamp online access' rest) :
      Anew X sender recipient content timestamp online access (fresh ++
        ⟨.putMessages (access.map (·.key)) ⟨recipient, timestamp, messages, online⟩, answer⟩ ::
          rest)

variable {timestamp : Nat} {online : Bool} {access : Option UnidentifiedAccess}

theorem Anew.after_quiet (quiet : ∀ e ∈ es, ¬ e.1.IsPut)
    (anew : Anew X sender recipient content timestamp online access es') :
    Anew X sender recipient content timestamp online access (es ++ es') := by
  cases anew with
  | quiet others => exact .quiet (List.forall_mem_append.mpr ⟨quiet, others⟩)
  | batch others made next later =>
      rw [← List.append_assoc]
      exact .batch (List.forall_mem_append.mpr ⟨quiet, others⟩) (made.later es) next later

theorem Anew.before_quiet (anew : Anew X sender recipient content timestamp online access es)
    (quiet : ∀ e ∈ es', ¬ e.1.IsPut) :
    Anew X sender recipient content timestamp online access (es ++ es') := by
  induction anew with
  | quiet others => exact .quiet (List.forall_mem_append.mpr ⟨others, quiet⟩)
  | batch others made next _ ih =>
      rw [List.append_assoc]
      exact .batch others made next ih

/-- What serves a send submits nothing. -/
theorem quiet_of_serves {ε α : Type} {p : Async ε α} {x : Exit ε α}
    (serves : Calls (sender.Serves X (fun _ => True) recipient) p) (trace : Trace p es x) :
    ∀ e ∈ es, ¬ e.1.IsPut :=
  fun e member => (serves.trace trace e member).not_put

theorem Retries.next {e : ServiceError} {access' : Option UnidentifiedAccess}
    (retries : Retries e access access') : access' = access ∨ access' = none := by
  cases retries with
  | unauthorized => exact .inr rfl
  | mismatchedDevices | staleDevices => exact .inl rfl

/-- An attempt submits nothing and fails, or it makes a batch and submits it, and then at most
    repairs sessions. -/
theorem sendAttempt_batch {x : Exit MessageSenderError (SentMessage ⊕ Option UnidentifiedAccess)}
    (trace : Trace (sender.sendAttempt X recipient content timestamp online access) es x) :
    ((∀ e ∈ es, ¬ e.1.IsPut) ∧ ∀ a, x ≠ .ret a) ∨
      ∃ fresh messages answer repaired,
        es = fresh ++ ⟨.putMessages (access.map (·.key)) ⟨recipient, timestamp, messages, online⟩,
          answer⟩ :: repaired ∧
        (∀ e ∈ fresh, ¬ e.1.IsPut) ∧ (∀ e ∈ repaired, ¬ e.1.IsPut) ∧
        Batch X sender recipient (access.map (·.certificate)) content fresh messages ∧
        ∀ access', x = .ret (.inr access') → access' = access ∨ access' = none := by
  rcases trace_bind.mp trace with
    ⟨e, failed, rfl⟩ | ⟨m, failed, rfl⟩ | ⟨encrypted, es₁, es₂, rfl, made, rest⟩
  · exact .inl ⟨quiet_of_serves createEncryptedMessages_calls failed, Exit.throw_ne_ret e⟩
  · exact .inl ⟨quiet_of_serves createEncryptedMessages_calls failed, Exit.panic_ne_ret m⟩
  have quiet := quiet_of_serves createEncryptedMessages_calls made
  have batch : ∀ encrypted' ∈ encrypted, Batch X sender recipient
      (access.map (·.certificate)) content es₁ encrypted'.messages :=
    createEncryptedMessages_made (A := fun _ _ => True) es₁ _ made fun _ _ => trivial
  cases encrypted with
  | none =>
      obtain ⟨rfl, rfl⟩ := trace_done.mp rest
      rw [List.append_nil]
      exact .inl ⟨quiet, Exit.throw_ne_ret _⟩
  | some encrypted =>
      right
      rcases trace_attempt_bind rest with
        ⟨m, submitted, rfl⟩ | ⟨result, es₃, es₄, rfl, submitted, last⟩
      · obtain ⟨answer, rfl, -⟩ := submit_trace submitted
        exact ⟨es₁, _, answer, [], rfl, quiet, by simp, batch encrypted rfl, nofun⟩
      obtain ⟨answer, rfl, -⟩ := submit_trace submitted
      refine ⟨es₁, encrypted.messages, answer, es₄, rfl, quiet, ?_, batch encrypted rfl, ?_⟩
      · cases result with
        | ok response =>
            obtain ⟨rfl, -⟩ := trace_done.mp last
            simp
        | error e =>
            have served : Calls (sender.Serves X (fun _ => True) recipient)
                ((sender.repair X recipient access e).bind fun next =>
                  (pure (.inr next) : Async _ (SentMessage ⊕ Option UnidentifiedAccess))) :=
              (repair_serves (fun _ => trivial) e).bind fun _ => trivial
            exact quiet_of_serves served last
      · rintro access' rfl
        cases result with
        | ok response =>
            obtain ⟨-, ended⟩ := trace_done.mp last
            cases ended
        | error e =>
            rcases trace_bind.mp last with
              ⟨_, -, ended⟩ | ⟨_, -, ended⟩ | ⟨_, _, _, -, repaired, chosen⟩
            · cases ended
            · cases ended
            · obtain ⟨-, ended⟩ := trace_done.mp chosen
              cases ended
              exact (repair_retries repaired).next

theorem sendLoop_anew {attempts : Nat} {x : Exit MessageSenderError SentMessage}
    (trace : Trace (sender.sendLoop X recipient content timestamp online attempts access) es x) :
    Anew X sender recipient content timestamp online access es := by
  induction attempts generalizing access es x with
  | zero =>
      obtain ⟨rfl, rfl⟩ := trace_done.mp trace
      exact .quiet (by simp)
  | succ attempts ih =>
      have only {y : Exit MessageSenderError (SentMessage ⊕ Option UnidentifiedAccess)}
          {es : List CallEvent}
          (attempted :
            Trace (sender.sendAttempt X recipient content timestamp online access) es y) :
          Anew X sender recipient content timestamp online access es := by
        rcases sendAttempt_batch attempted with
          ⟨quiet, -⟩ | ⟨fresh, messages, answer, repaired, rfl, quiet, quietLater, batch, -⟩
        · exact .quiet quiet
        · exact .batch quiet batch (.inl rfl) (.quiet quietLater)
      rcases trace_bind.mp trace with
        ⟨e, failed, rfl⟩ | ⟨m, failed, rfl⟩ | ⟨next, es₁, es₂, rfl, attempted, rest⟩
      · exact only failed
      · exact only failed
      cases next with
      | inl sent =>
          obtain ⟨rfl, -⟩ := trace_done.mp rest
          rw [List.append_nil]
          exact only attempted
      | inr access' =>
          rcases sendAttempt_batch attempted with
            ⟨-, failed⟩ | ⟨fresh, messages, answer, repaired, rfl, quiet, quietLater, batch, next⟩
          · exact absurd rfl (failed _)
          · rw [List.append_assoc]
            exact .batch quiet batch (next access' rfl) ((ih rest).after_quiet quietLater)

theorem trySendContent_anew {x : Exit MessageSenderError SentMessage}
    (trace : Trace (sender.trySendContent X recipient access content timestamp online) es x) :
    Anew X sender recipient content timestamp online access es := by
  obtain ⟨answer, rest, rfl, locked⟩ := trace_call.mp trace
  obtain ⟨es', released, rfl, held⟩ := trace_onExit.mp locked
  refine Anew.after_quiet (?_ : ∀ e ∈ [_], _) ((sendLoop_anew held).before_quiet ?_)
  · rintro _ (_ | ⟨_, ⟨⟩⟩)
    exact id
  · rintro _ (_ | ⟨_, ⟨⟩⟩)
    exact id

/-- A batch, with what was called between the batch before it and this one. -/
structure FreshBatch (X : Externals) (sender : MessageSender) (recipient : ServiceId)
    (access : Option UnidentifiedAccess) (content : OutgoingContent) (timestamp : Nat)
    (online : Bool) (fresh : List CallEvent) (accessKey : Option Bytes)
    (batch : OutgoingPushMessages) : Prop where
  quiet : ∀ e ∈ fresh, ¬ e.1.IsPut
  destination : batch.destination = recipient
  timestamp : batch.timestamp = timestamp
  online : batch.online = online
  accessKey : accessKey = access.map (·.key)
  messages : Batch X sender recipient (access.map (·.certificate)) content fresh batch.messages

theorem Anew.split (anew : Anew X sender recipient content timestamp online access es)
    {before after : List CallEvent} {accessKey : Option Bytes} {batch : OutgoingPushMessages}
    {answer : Except ServiceError WebSocketResponseMessage}
    (split : es = before ++ ⟨.putMessages accessKey batch, answer⟩ :: after) :
    ∃ older fresh access', before = older ++ fresh ∧ (access' = access ∨ access' = none) ∧
      FreshBatch X sender recipient access' content timestamp online fresh accessKey batch := by
  induction anew generalizing before with
  | quiet others =>
      subst split
      exact absurd trivial (others _ (List.mem_append_right _ List.mem_cons_self))
  | @batch access access' fresh rest messages answer' others made next later ih =>
      rcases List.append_eq_append_iff.mp split with ⟨more, rfl, same⟩ | ⟨more, rfl, same⟩
      · cases more with
        | nil =>
            cases same
            exact ⟨[], _, access, by simp, .inl rfl, others, rfl, rfl, rfl, rfl, made⟩
        | cons e more =>
            obtain ⟨rfl, tail⟩ := List.cons.inj same
            obtain ⟨older, fresh', access'', rfl, given, batch⟩ := ih tail
            refine ⟨fresh ++ _ :: older, fresh', access'',
              (List.append_assoc fresh (_ :: older) fresh').symm, ?_, batch⟩
            rcases given with rfl | rfl
            · exact next
            · exact .inr rfl
      · cases more with
        | nil =>
            cases same
            rw [List.append_nil] at others made
            exact ⟨[], before, access, rfl, .inl rfl, others, rfl, rfl, rfl, rfl, made⟩
        | cons e more =>
            obtain ⟨rfl, -⟩ := List.cons.inj same
            exact absurd trivial (others _ (List.mem_append_right _ List.mem_cons_self))

end SignalService.MessageSender
