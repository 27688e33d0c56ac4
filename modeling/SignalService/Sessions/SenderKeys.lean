import SignalService.Sessions.Locking
import SignalService.Cipher.Plaintext

/-! # Sender keys of envelopes that are opened together

A group message is decrypted under the lock of its sender, and steps the sender key that is
kept for it. A distribution message that came with another message of the same sender
replaces that key too, but only when the message has been decrypted and its lock is dropped.
-/

namespace SignalService

open Effect Prog Pool

/-- libsignal loads the sender keys of an address, changes them and stores them, with other
    tasks in between. -/
def senderKeyUse : Call → Use ProtocolAddress Peer
  | .groupDecrypt _ sender | .processSenderKeyDistributionMessage sender _ => .split sender
  | .lock peer => .acquire (.inl peer)
  | .unlock peer => .release (.inl peer)
  | _ => .plain

/-- What is done to sender keys without a lock: every distribution message, and group
    messages for an address whose name is no service id. -/
def Unguarded (X : Externals) : Call → Prop
  | .processSenderKeyDistributionMessage _ _ => True
  | .groupDecrypt _ sender => X.parseServiceIdString sender.name = none
  | _ => False

instance {X : Externals} : DecidablePred (Unguarded X) := fun c => by
  cases c <;> unfold Unguarded <;> infer_instance

/-- Nothing is said about the answers. -/
def AnyAnswer (c : Call) (_ : Answer c) : Prop := True

variable {X : Externals}

theorem senderKeys_covered : Covers X senderKeyUse AnyAnswer (Unguarded X) where
  lock _ := rfl
  unlock _ := rfl
  outer _ := rfl
  getIdentity _ := rfl
  loadSession _ := .inl rfl
  identified id device msgType contents loc single := by
    cases msgType with
    | whisper | preKey => exact .bind trivial fun ctext => ⟨.inl rfl, fun _ _ => trivial⟩
    | senderKey => exact absurd rfl single
    | plaintext => trivial
  sealedInside held msgType contents remote loc covered := by
    cases msgType with
    | whisper | preKey => exact .bind trivial fun ctext => ⟨.inl rfl, fun _ _ => trivial⟩
    | senderKey =>
        apply And.intro _ fun _ _ => trivial
        exact .inr (.inr ⟨remote, .inr rfl, covered⟩)
    | plaintext => trivial
  senderKey plaintext := by
    unfold ingestSenderKey
    split
    · trivial
    · refine .bind (.mapErr _ trivial) fun skdm => ?_
      refine .bind (.mapErr _ ⟨?_, fun _ _ => trivial⟩) fun _ => ?_
      · exact .inr (.inr ⟨_, .inr rfl, .inr trivial⟩)
      · exact .bind (.mapErr _ trivial) fun _ => trivial

/-- An envelope, and the cipher that opens it. -/
structure Receipt where
  cipher : ServiceCipher
  envelope : Envelope

def Receipt.prog (X : Externals) (receipt : Receipt) : Async Unit Unit :=
  (openEnvelope X receipt.cipher receipt.envelope).forget

section Run

variable {ι V : Type} [DecidableEq ι]

/-- Envelopes, before anything has been done about any of them. -/
def received (X : Externals) (receipts : ι → Receipt) (senderKeys : ProtocolAddress → V) :
    Pool Call Answer ProtocolAddress Peer V ι :=
  start (fun i => (receipts i).prog X) senderKeys

end Run

/-! ## A group message and a distribution message -/

namespace Sample

/-- A sealed group message of the device that the distribution message comes from. -/
def sealedGroup : UnidentifiedSenderMessageContent where
  msgType := .ok .senderKey
  sender := .ok remoteCertificate
  contents := .ok [0x33]

/-- A message that brings a sender key. -/
def distributionEnvelope : Envelope where
  type := some 1
  sourceServiceId := some "6838237d-e02b-4191-8587-b3c5eb9b8b4e"
  sourceDeviceId := some 1
  destinationServiceId := some "9d0652a3-dcc3-4d11-975f-74d61598733f"
  clientTimestamp := some 1700000000000
  serverTimestamp := some 1700000000001
  content := some [0x33]

def groupAndDistribution : Bool → Receipt
  | false => ⟨localCipher, sealedEnvelope⟩
  | true => ⟨localCipher, distributionEnvelope⟩

/-- A group message puts a 1 before the sender keys, and a distribution message a 2. -/
def senderKeyReplies : Replies Call Answer Bytes where
  plain
    | .sealedSenderDecryptToUsmc _ => .ok sealedGroup
    | .loadSession _ => .ok (some ⟨[7]⟩)
    | .messageDecryptSignal _ _ _ => .ok (Reference.senderKeyContentBytes ++ [0x80])
    | c => c.fallback
  touch
    | .groupDecrypt _ _, keys => (.ok (Reference.dataContentBytes ++ [0x80]), some (1 :: keys))
    | .processSenderKeyDistributionMessage _ _, keys => (.ok (), some (2 :: keys))
    | c, _ => (c.fallback, none)

/-- The turns that each of the two takes to its end, when it is alone. -/
def openingGroup : List Bool := List.replicate 5 false
def openingDistribution : List Bool := List.replicate 7 true

/-- The message that brings the key has been decrypted and has dropped its lock; the key is
    taken up while the group message is being decrypted under that lock. -/
def distributionInBetween : List Bool :=
  List.replicate 5 true ++ List.replicate 3 false ++ List.replicate 2 true ++
    List.replicate 2 false

def senderKeyPolls (turns : List Bool) : List (Poll Call Answer Bytes Bool) :=
  turns.map (·, senderKeyReplies)

def noSenderKeys (_ : ProtocolAddress) : Bytes := []

/-- The sender keys of the device when the turns have been taken. -/
def senderKeysLeft (turns : List Bool) : Bytes :=
  (run senderKeyUse (received reference groupAndDistribution noSenderKeys)
    (senderKeyPolls turns)).records ⟨"6838237d-e02b-4191-8587-b3c5eb9b8b4e", defaultDeviceId⟩

end Sample

open Sample

end SignalService
