import SignalService.Sessions.Locking
import SignalService.Reference

/-! # Operations that run together

Sends, received envelopes and the initialization of our devices, in any number and any
interleaving, over one store and one set of session locks. No step of a ratchet is lost as
long as what runs without a lock is left alone: the sessions are then those of a run in
which every load, step and store of libsignal is one.
-/

namespace SignalService

open Effect Prog Pool

theorem nameless_iff {X : Externals} {c : Call} : Nameless X c ↔
    ∃ key ∈ touched (sessionUse c), X.parseServiceIdString key.name = none := by
  simp only [Option.mem_def, touched_eq_some]
  rfl

instance {X : Externals} : DecidablePred (Nameless X) := fun _ => decidable_of_iff' _ nameless_iff

/-- What a task may do. -/
inductive Operation where
  | sendMessage (sender : MessageSender) (recipient : ServiceId)
      (access : Option UnidentifiedAccess) (body : ContentBody) (timestamp : Nat)
      (includePniSignature online : Bool)
  | sendMessageToGroup (sender : MessageSender)
      (recipients : List MessageSender.GroupRecipient) (body : ContentBody) (timestamp : Nat)
      (online : Bool)
  | sendDecryptionErrorMessage (sender : MessageSender) (recipient : ServiceId)
      (failedType : CiphertextMessageType) (failedCiphertext : Bytes) (failedTimestamp : Nat)
      (failedDevice : DeviceId)
  | openEnvelope (cipher : ServiceCipher) (envelope : Envelope)
  | pnpInitializeDevices (sender : MessageSender) (localAci : Aci) (e164 : String)

namespace Operation

def prog (X : Externals) : Operation → Async Unit Unit
  | .sendMessage sender recipient access body timestamp includePniSignature online =>
      (sender.sendMessage X recipient access body timestamp includePniSignature online).forget
  | .sendMessageToGroup sender recipients body timestamp online =>
      (sender.sendMessageToGroup X recipients body timestamp online).forget
  | .sendDecryptionErrorMessage sender recipient failedType failedCiphertext failedTimestamp
      failedDevice =>
      (sender.sendDecryptionErrorMessage X recipient failedType failedCiphertext failedTimestamp
        failedDevice).forget
  | .openEnvelope cipher envelope => (SignalService.openEnvelope X cipher envelope).forget
  | .pnpInitializeDevices sender localAci e164 =>
      (AccountManager.pnpInitializeDevices X sender localAci e164).forget

/-- The calls that an operation makes without the lock of the peer: all of an
    initialization, and else those for an address whose name is no service id. -/
def Lockless (X : Externals) : Operation → Call → Prop
  | .pnpInitializeDevices .., _ => True
  | _, c => Nameless X c

instance {X : Externals} (op : Operation) : DecidablePred (op.Lockless X) := fun c =>
  match op with
  | .pnpInitializeDevices .. => inferInstanceAs (Decidable True)
  | .sendMessage .. => inferInstanceAs (Decidable (Nameless X c))
  | .sendMessageToGroup .. => inferInstanceAs (Decidable (Nameless X c))
  | .sendDecryptionErrorMessage .. => inferInstanceAs (Decidable (Nameless X c))
  | .openEnvelope .. => inferInstanceAs (Decidable (Nameless X c))

variable {X : Externals}

theorem lockless_or_locked (sober : X.Sober) (op : Operation) :
    (∀ c, op.Lockless X c) ∨
      Locked sessionUse (peerOf X) Honest (op.Lockless X) none (op.prog X) := by
  cases op with
  | pnpInitializeDevices => exact .inl fun _ => trivial
  | sendMessage => exact .inr (sendMessage_locks sober).forget
  | sendMessageToGroup => exact .inr (sendMessageToGroup_locks sober).forget
  | sendDecryptionErrorMessage => exact .inr (sendDecryptionErrorMessage_locks sober).forget
  | openEnvelope => exact .inr (openEnvelope_locks sober).forget

end Operation

variable {X : Externals} {ι : Type} [DecidableEq ι]

/-- The operations before any of them has made a call. -/
def together (X : Externals) (ops : ι → Operation)
    (sessions : ProtocolAddress → Option SessionRecord) :
    Pool Call Answer ProtocolAddress Peer (Option SessionRecord) ι :=
  start (fun i => (ops i).prog X) sessions

namespace Reference

/-- A step of a ratchet puts a zero before the record. -/
def stepped : SessionRecord → SessionRecord
  | ⟨bytes⟩ => ⟨0 :: bytes⟩

def deviceKeys : PniDeviceKeys := ⟨[], [1], [], some [2]⟩

/-- Sessions are found and take steps, and our account has two devices. -/
def ratchet : Replies Call Answer (Option SessionRecord) where
  plain
    | .getSubDeviceSessions _ => .ok [secondDevice]
    | .hasUsableSenderChain _ => .ok true
    | .pniIdentityKeyPair => .ok ⟨⟨identityBytes⟩, identityBytes⟩
    | .replenishPniPreKeys => .ok deviceKeys
    | .generateLinkedDeviceKeys => .ok deviceKeys
    | .distributePniKeys _ => .ok ()
    | c => c.fallback
  touch
    | .loadSession _, record => (.ok record, none)
    | .deleteSession _, _ => (.ok (), some none)
    | .messageEncrypt plaintext _ _, some record =>
        (.ok ⟨.whisper, plaintext⟩, some (some (stepped record)))
    | .messageDecryptSignal message _ _, some record =>
        (.ok message, some (some (stepped record)))
    | c, _ => (c.fallback, none)

theorem fallback_honest (c : Call) : Honest c c.fallback := by
  have closed : (ServiceError.wsClosing "closed").Names fun _ => False :=
    ServiceError.names_of_ne fun _ => nofun
  cases c with
  | loadSession => exact nofun
  | messageEncrypt | sealedSenderEncrypt =>
      rintro _ ⟨⟩ _ _ ⟨⟩
      rfl
  | getKeys =>
      rintro _ ⟨⟩
      exact closed
  | _ => trivial

theorem ratchet_honest : ratchet.Satisfy Honest := by
  constructor
  · intro c
    cases c with
    | loadSession | messageEncrypt | sealedSenderEncrypt | getKeys => exact fallback_honest _
    | _ => trivial
  · intro c record
    cases c with
    | loadSession => exact nofun
    | messageEncrypt =>
        cases record with
        | none => exact fallback_honest _
        | some => exact nofun
    | sealedSenderEncrypt | getKeys => exact fallback_honest _
    | _ => trivial

theorem readable_sober : readable.Sober where
  parse_string := readServiceId_serviceIdString
  identityKey := by intro _ _ h; cases h
  intoBundle := by intro _ _ _ h; cases h
  sessionVersion := by intro _ _ h; cases h
  remoteRegistrationId := by intro _ _ h; cases h

/-- A message of our second device to the primary. -/
def fromSecondDevice : Envelope where
  type := some 1
  sourceServiceId := some (serviceIdString (.aci localAci))
  sourceDeviceId := some 2
  destinationServiceId := some (serviceIdString (.aci localAci))
  clientTimestamp := some 5
  serverTimestamp := some 6
  content := some (dataContentBytes ++ [0x80])

/-- The initialization of our devices, and the receipt of a message of one of them. -/
def initializeAndReceive : Bool → Operation
  | false => .pnpInitializeDevices primary localAci "+15550100"
  | true => .openEnvelope primary.cipher fromSecondDevice

/-- The turns that each of the two takes to its end, when it is alone. -/
def initializing : List Bool := List.replicate 14 false
def receiving : List Bool := List.replicate 6 true

/-- The message arrives while the one for the device is being encrypted. -/
def overlapping : List Bool := List.replicate 12 false ++ receiving ++ List.replicate 2 false

def polls (turns : List Bool) : List (Poll Call Answer (Option SessionRecord) Bool) :=
  turns.map (·, ratchet)

/-- Every device has a fresh session. -/
def sessions (_ : ProtocolAddress) : Option SessionRecord := some fresh

/-- The session with our second device when the turns have been taken. -/
def left (turns : List Bool) : Option SessionRecord :=
  (run sessionUse (together readable initializeAndReceive sessions) (polls turns)).records
    (readable.protocolAddress (.aci localAci) secondDevice)

end Reference

open Reference

end SignalService
