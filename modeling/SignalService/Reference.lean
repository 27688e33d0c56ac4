import SignalService.Sender.Send

/-! # Reference externals

A small implementation of the interface, for the inputs that examples are evaluated on:
service ids, base64 and protobuf contents are written as the dependencies write them, the
protobuf, JSON and sender key readers know the messages of the examples, and a certificate
is trusted by the root that is its serialization.
-/

namespace SignalService

open Effect

namespace Reference

/-! ## Service ids -/

def hexDigit (n : Nat) : Char := "0123456789abcdef".toList.getD n '0'

/-- The last `count` hexadecimal digits of a number. -/
def hexDigits : (count n : Nat) → List Char
  | 0, _ => []
  | count + 1, n => hexDigit (n / 16 ^ count % 16) :: hexDigits count n

/-- The groups of 8, 4, 4, 4 and 12 digits. -/
def uuidString (id : Uuid) : List Char :=
  let n := id.bits.toNat
  hexDigits 8 (n / 16 ^ 24) ++ '-' :: hexDigits 4 (n / 16 ^ 20) ++ '-' ::
    hexDigits 4 (n / 16 ^ 16) ++ '-' :: hexDigits 4 (n / 16 ^ 12) ++ '-' :: hexDigits 12 n

def serviceIdString : ServiceId → String
  | .aci id => String.ofList (uuidString id.uuid)
  | .pni id => String.ofList ("PNI:".toList ++ uuidString id.uuid)

def serviceIdBinary : ServiceId → Bytes
  | .aci id => id.uuid.toBytes
  | .pni id => 1 :: id.uuid.toBytes

def hexValue (c : Char) : Nat := "0123456789abcdef".toList.idxOf c

/-- One more character of a UUID; hyphens say nothing. -/
def readHex (n : Nat) (c : Char) : Nat := if c = '-' then n else 16 * n + hexValue c

def readUuid (text : List Char) : Uuid := ⟨BitVec.ofNat 128 (text.foldl readHex 0)⟩

/-- The prefix tells the two kinds apart. -/
def readKind : List Char → ServiceId
  | 'P' :: 'N' :: 'I' :: ':' :: text => .pni ⟨readUuid text⟩
  | text => .aci ⟨readUuid text⟩

/-- The id that is written so, if there is one. -/
def readServiceId (s : String) : Option ServiceId :=
  if serviceIdString (readKind s.toList) = s then some (readKind s.toList) else none

theorem readHex_hexDigit (acc : Nat) {n : Nat} (digit : n < 16) :
    readHex acc (hexDigit n) = 16 * acc + n := by
  have values : ∀ n < 16, hexDigit n ≠ '-' ∧ hexValue (hexDigit n) = n := by decide
  unfold readHex
  rw [if_neg (values n digit).1, (values n digit).2]

theorem readHex_hexDigits (count acc n : Nat) :
    (hexDigits count n).foldl readHex acc = 16 ^ count * acc + n % 16 ^ count := by
  induction count generalizing acc with
  | zero => simp [hexDigits, Nat.mod_one]
  | succ count ih =>
      have split : n % 16 ^ (count + 1) = 16 ^ count * (n / 16 ^ count % 16) + n % 16 ^ count := by
        rw [pow_succ, Nat.mod_mul, Nat.add_comm]
      rw [hexDigits, List.foldl_cons, readHex_hexDigit _ (Nat.mod_lt _ (by decide)), ih, split,
        pow_succ]
      ring

theorem readUuid_uuidString (id : Uuid) : readUuid (uuidString id) = id := by
  have bound : id.bits.toNat < 2 ^ 128 := id.bits.isLt
  have hyphen (n : Nat) : readHex n '-' = n := rfl
  have same : (uuidString id).foldl readHex 0 = id.bits.toNat := by
    simp only [uuidString, List.foldl_append, List.foldl_cons, hyphen, readHex_hexDigits]
    omega
  unfold readUuid
  rw [same, BitVec.ofNat_toNat, BitVec.setWidth_eq]

theorem readKind_serviceIdString (id : ServiceId) :
    readKind (serviceIdString id).toList = id := by
  cases id with
  | pni id =>
      simp only [serviceIdString, String.toList_ofList]
      exact congrArg (ServiceId.pni ⟨·⟩) (readUuid_uuidString id.uuid)
  | aci id =>
      have values : ∀ n < 16, hexDigit n ≠ 'P' := by decide
      simp only [serviceIdString, String.toList_ofList]
      unfold readKind
      split
      · next same => exact absurd (List.cons.inj same).1 (values _ (Nat.mod_lt _ (by decide)))
      · rw [readUuid_uuidString]

theorem readServiceId_serviceIdString (id : ServiceId) :
    readServiceId (serviceIdString id) = some id := by
  unfold readServiceId
  rw [readKind_serviceIdString, if_pos rfl]

/-- The account the examples run for, and the one they talk to. -/
def localAci : Aci := ⟨⟨0x9d0652a3dcc34d11975f74d61598733f⟩⟩
def localPni : Pni := ⟨⟨0x796abedbca4e4f188803da2567c4ea5c⟩⟩
def remoteAci : Aci := ⟨⟨0x6838237de02b41918587b3c5eb9b8b4e⟩⟩

def accounts : List ServiceId := [.aci localAci, .aci remoteAci, .pni localPni]

def parseServiceIdString (s : String) : Option ServiceId :=
  accounts.find? fun id => serviceIdString id = s

def parseServiceIdBinary (bytes : Bytes) : Option ServiceId :=
  accounts.find? fun id => serviceIdBinary id = bytes

def parseUuid (s : String) : Option Uuid :=
  (accounts.find? fun id => String.ofList (uuidString id.rawUuid) = s).map ServiceId.rawUuid

/-! ## Encodings -/

def base64Digit (n : Nat) : Char :=
  "ABCDEFGHIJKLMNOPQRSTUVWXYZabcdefghijklmnopqrstuvwxyz0123456789+/".toList.getD (n % 64) '='

/-- The standard alphabet, padded. -/
def base64Digits : Bytes → List Char
  | [] => []
  | [a] =>
      let n := 65536 * a.toNat
      [base64Digit (n / 262144), base64Digit (n / 4096), '=', '=']
  | [a, b] =>
      let n := 65536 * a.toNat + 256 * b.toNat
      [base64Digit (n / 262144), base64Digit (n / 4096), base64Digit (n / 64), '=']
  | a :: b :: c :: rest =>
      let n := 65536 * a.toNat + 256 * b.toNat + c.toNat
      base64Digit (n / 262144) :: base64Digit (n / 4096) :: base64Digit (n / 64) ::
        base64Digit n :: base64Digits rest

def ascii (s : String) : Bytes := s.toList.map fun c => UInt8.ofNat c.toNat

/-- A protobuf varint of at most `groups` groups of seven bits. -/
def varint : (groups n : Nat) → Bytes
  | 0, _ => []
  | groups + 1, n =>
      if n < 128 then [UInt8.ofNat n] else UInt8.ofNat (n % 128 + 128) :: varint groups (n / 128)

def numberField (tag n : Nat) : Bytes := varint 10 (8 * tag) ++ varint 10 n

def bytesField (tag : Nat) (payload : Bytes) : Bytes :=
  varint 10 (8 * tag + 2) ++ varint 10 payload.length ++ payload

def optionalField {α : Type} (write : α → Bytes) : Option α → Bytes
  | some value => write value
  | none => []

def encodeDataMessage (m : DataMessage) : Bytes :=
  optionalField (numberField 5) m.expireTimer ++ m.rest

def encodeDeliveryStatus (status : UnidentifiedDeliveryStatus) : Bytes :=
  optionalField (fun unidentified => numberField 2 unidentified.toNat) status.unidentified ++
    optionalField (fun id => bytesField 3 (ascii id)) status.destinationServiceId ++
    optionalField (bytesField 5) status.destinationPniIdentityKey ++
    optionalField (bytesField 6) status.destinationServiceIdBinary

def encodeSent (sent : Sent) : Bytes :=
  optionalField (fun number => bytesField 1 (ascii number)) sent.destinationE164 ++
    optionalField (numberField 2) sent.timestamp ++
    optionalField (fun m => bytesField 3 (encodeDataMessage m)) sent.message ++
    optionalField (numberField 4) sent.expirationStartTimestamp ++
    sent.unidentifiedStatus.flatMap (fun status => bytesField 5 (encodeDeliveryStatus status)) ++
    optionalField (fun id => bytesField 7 (ascii id)) sent.destinationServiceId ++
    optionalField (fun m => bytesField 10 m.encoded) sent.editMessage ++
    optionalField (bytesField 12) sent.destinationServiceIdBinary

def encodePniChangeNumber (change : PniChangeNumber) : Bytes :=
  optionalField (bytesField 1) change.identityKeyPair ++
    optionalField (bytesField 2) change.signedPreKey ++
    optionalField (numberField 3) change.registrationId ++
    optionalField (fun number => bytesField 4 (ascii number)) change.newE164 ++
    optionalField (bytesField 5) change.lastResortKyberPreKey

def encodeMessageRequestResponse (response : MessageRequestResponse) : Bytes :=
  optionalField (fun id => bytesField 2 (ascii id)) response.threadAci ++
    optionalField (bytesField 3) response.groupId ++
    optionalField (numberField 4) response.type ++
    optionalField (bytesField 5) response.threadAciBinary

def encodeSyncContent : SyncContent → Bytes
  | .sent message => bytesField 1 (encodeSent message)
  | .pniChangeNumber change => bytesField 18 (encodePniChangeNumber change)
  | .messageRequestResponse response => bytesField 14 (encodeMessageRequestResponse response)
  | .other encoded => encoded

def encodeSyncMessage (message : SyncMessage) : Bytes :=
  optionalField encodeSyncContent message.content ++ optionalField (bytesField 8) message.padding

def encodeBody : Proto.Body → Bytes
  | .dataMessage m => bytesField 1 (encodeDataMessage m)
  | .syncMessage m => bytesField 2 (encodeSyncMessage m)
  | .callMessage m => bytesField 3 m.encoded
  | .nullMessage m => bytesField 4 (optionalField (bytesField 1) m.padding)
  | .receiptMessage m => bytesField 5 m.encoded
  | .typingMessage m => bytesField 6 m.encoded
  | .decryptionErrorMessage encoded => bytesField 8 encoded
  | .storyMessage m => bytesField 9 m.encoded
  | .editMessage m => bytesField 11 m.encoded

def encodeContent (content : Proto.Content) : Bytes :=
  optionalField encodeBody content.content ++
    optionalField (bytesField 7) content.senderKeyDistributionMessage ++
    optionalField (fun m => bytesField 10 (optionalField (bytesField 1) m.pni ++
      optionalField (bytesField 2) m.signature)) content.pniSignatureMessage

/-! ## The server's JSON -/

def acceptedBody : Bytes := ascii "\x7b\"needsSync\":false\x7d"

def jsonSendMessageResponse (bytes : Bytes) : Option SendMessageResponse :=
  if bytes = acceptedBody then some ⟨false⟩
  else if bytes = ascii "\x7b\"needsSync\":true\x7d" then some ⟨true⟩
  else none

/-- An account whose keys are asked for and that names no device. -/
def noDevicesBody : Bytes :=
  ascii "\x7b\"identityKey\":\"BQAAAAAAAAAAAAAAAAAAAAAAAAAAAAAAAAAAAAAAAAAA\",\"devices\":[]\x7d"

/-- The devices the examples know keys of, and what their registration ids are. -/
def secondDevice : DeviceId := ⟨2, by decide⟩
def thirdDevice : DeviceId := ⟨3, by decide⟩
def fourthDevice : DeviceId := ⟨4, by decide⟩

def keyedDevices : List DeviceId := [defaultDeviceId, secondDevice, thirdDevice]

def registrationId (d : DeviceId) : Nat := d.val + 10

def identityBytes : Bytes := 5 :: List.replicate 32 1

/-- A signed and a Kyber pre-key, as members of a JSON object. -/
@[irreducible] def keysMembers : Bytes :=
  ascii "\"signedPreKey\":\x7b\"keyId\":1,\"publicKey\":\"BQ" ++ List.replicate 42 65 ++
    ascii "\",\"signature\":\"" ++ List.replicate 86 65 ++
    ascii "==\"\x7d,\"pqPreKey\":\x7b\"keyId\":1,\"publicKey\":\"CA" ++ List.replicate 2090 65 ++
    ascii "\",\"signature\":\"" ++ List.replicate 86 65 ++ ascii "==\"\x7d"

def itemBody (item : PreKeyResponseItem) : Bytes :=
  ascii "\x7b\"deviceId\":" ++ ascii (toString item.deviceId.val) ++ ascii ",\"registrationId\":" ++
    ascii (toString item.registrationId) ++ ascii "," ++ item.keys ++ ascii "\x7d"

def keysBody (keys : PreKeyResponse) : Bytes :=
  ascii "\x7b\"identityKey\":\"" ++ ascii (String.ofList (base64Digits keys.identityKey)) ++
    ascii "\",\"devices\":[" ++ List.intercalate (ascii ",") (keys.devices.map itemBody) ++
    ascii "]\x7d"

def preKeyResponse (devices : List DeviceId) : PreKeyResponse :=
  ⟨identityBytes, devices.map fun d => ⟨d, registrationId d, keysMembers⟩⟩

/-- The responses the examples read: keys of all the devices, or of one. -/
def keyResponses : List PreKeyResponse :=
  preKeyResponse keyedDevices :: keyedDevices.map fun d => preKeyResponse [d]

@[irreducible] def jsonPreKeyResponse (bytes : Bytes) : Option PreKeyResponse :=
  if bytes = noDevicesBody then some ⟨5 :: List.replicate 32 0, []⟩
  else keyResponses.find? fun keys => keysBody keys = bytes

/-! ## Lists of devices -/

def isDigit (c : Char) : Bool := '0' ≤ c && c ≤ '9'

def addDigit (n : Option Nat) (c : Char) : Option Nat := some (10 * n.getD 0 + (c.toNat - 48))

/-- The numbers up to the bracket that closes an array, and what follows it. -/
def readNumbers (n : Option Nat) : List Char → Option (List Nat × List Char)
  | [] => none
  | c :: cs =>
      if c = ']' then some (n.toList, cs)
      else if c = ',' then (readNumbers none cs).map fun (ns, rest) => (n.toList ++ ns, rest)
      else if isDigit c then readNumbers (addDigit n c) cs
      else none

def readDevices (text : List Char) : Option (List DeviceId × List Char) := do
  let (ns, rest) ← readNumbers none text
  let devices ← ns.mapM DeviceId.ofNat?
  return (devices, rest)

def writeDevices (devices : List DeviceId) : List Char :=
  List.intercalate [','] (devices.map fun d => Nat.toDigits 10 d.val) ++ [']']

def missingMember : List Char := "\x7b\"missingDevices\":[".toList
def extraMember : List Char := ",\"extraDevices\":[".toList
def staleMember : List Char := "\x7b\"staleDevices\":[".toList

def jsonMismatchedDevices (text : String) : Option MismatchedDevices := do
  let rest ← text.toList.dropPrefix? missingMember
  let (missing, rest) ← readDevices rest
  let rest ← rest.dropPrefix? extraMember
  let (extra, rest) ← readDevices rest
  if rest = ['\x7d'] then some ⟨missing, extra⟩ else none

def jsonStaleDevices (text : String) : Option StaleDevices := do
  let rest ← text.toList.dropPrefix? staleMember
  let (stale, rest) ← readDevices rest
  if rest = ['\x7d'] then some ⟨stale⟩ else none

/-- `DateTime::from_timestamp_millis`, in the range of years chrono has. -/
def fromTimestampMillis (millis : Int) : Option Int :=
  if -8334601228800000 ≤ millis ∧ millis ≤ 8210266876799999 then some millis else none

/-- A distribution message: version, distribution id, chain and signing key. -/
def senderKeyBytes : Bytes :=
  0x33 :: 0x0A :: 16 :: List.replicate 16 0xD1 ++ [0x10, 1, 0x18, 0, 0x22, 32] ++
    List.replicate 32 0xC4 ++ [0x2A, 33, 5] ++ List.replicate 32 0x5E

/-- `Content { dataMessage: DataMessage {} }`. -/
def dataContentBytes : Bytes := [0x0A, 0]

/-- `Content { senderKeyDistributionMessage }` with the message above. -/
def senderKeyContentBytes : Bytes :=
  0x3A :: UInt8.ofNat senderKeyBytes.length :: senderKeyBytes

def decodeContent (bytes : Bytes) : Option Proto.Content :=
  if bytes = dataContentBytes then some ⟨some (.dataMessage ⟨none, []⟩), none, none⟩
  else if bytes = senderKeyContentBytes then some ⟨none, some senderKeyBytes, none⟩
  else none

/-- A `PlaintextContent` is a marker byte and the body. -/
def plaintextContentBody : Bytes → Except SignalProtocolError Bytes
  | 0xC0 :: body => .ok body
  | _ => .error (.other "unrecognized message version")

def senderKeyDistributionMessage (bytes : Bytes) :
    Except SignalProtocolError SenderKeyDistributionMessage :=
  if bytes = senderKeyBytes then .ok ⟨bytes⟩ else .error (.other "protobuf encoding was invalid")

def nonEmpty (bytes : Bytes) : Except SignalProtocolError Bytes :=
  if bytes = [] then .error (.other "ciphertext message was too short") else .ok bytes

end Reference

open Reference in
def reference : Externals where
  serviceIdString := serviceIdString
  serviceIdBinary := serviceIdBinary
  parseServiceIdString := parseServiceIdString
  parseServiceIdBinary := parseServiceIdBinary
  parseUuid := parseUuid
  fromTimestampMillis := fromTimestampMillis
  base64 bytes := String.ofList (base64Digits bytes)
  encodeContent := encodeContent
  decodeContent := decodeContent
  encodeDecryptionErrorMessage m := m.encoded
  decodeDecryptionErrorMessage bytes := some ⟨bytes⟩
  utf8Lossy bytes := String.ofList (bytes.map fun b => Char.ofNat b.toNat)
  jsonSendMessageResponse := jsonSendMessageResponse
  jsonPreKeyResponse := jsonPreKeyResponse
  jsonMismatchedDevices := jsonMismatchedDevices
  jsonStaleDevices := jsonStaleDevices
  jsonProofRequired _ := none
  jsonRegistrationLockFailure _ := none
  signalMessage := nonEmpty
  preKeySignalMessage := nonEmpty
  plaintextContentBody := plaintextContentBody
  senderKeyDistributionMessage := senderKeyDistributionMessage
  distributionId _ := .ok ⟨0xd1d1d1d1d1d1d1d1d1d1d1d1d1d1d1d1⟩
  identityKey bytes := .ok ⟨bytes⟩
  intoBundle item identity := .ok ⟨item.registrationId, item.deviceId, item.keys, identity⟩
  validateWithTrustRoots certificate trustRoots _ := .ok (⟨certificate.serialized⟩ ∈ trustRoots)
  verifyAlternateIdentity _ _ _ := .ok false
  remoteRegistrationId record := .ok (record.serialized.foldl (fun n b => 256 * n + b.toNat) 0)
  sessionVersion _ := .ok 3
  signedPreKeyEntity bytes := .ok bytes
  kyberPreKeyEntity bytes := .ok bytes

/-- The same for all accounts, not only those of the examples. -/
def readable : Externals := { reference with parseServiceIdString := Reference.readServiceId }

theorem sum_add_one_notMem (used : List Nat) : used.sum + 1 ∉ used := by
  intro member
  have bound := List.le_sum_of_mem member
  omega

/-- The answer to a call when stores are empty and no server can be reached. -/
def Call.fallback : (c : Call) → Answer c
  | .loadSession _ => .ok none
  | .getSubDeviceSessions _ => .ok []
  | .deleteSession _ => .ok ()
  | .getIdentity _ => .ok none
  | .hasUsableSenderChain _ => .ok false
  | .processPrekeyBundle _ _ _ => .ok ()
  | .messageEncrypt _ remote _ => .error (.sessionNotFound (some remote) "message_encrypt")
  | .sealedSenderEncrypt remote _ _ => .error (.sessionNotFound (some remote) "message_encrypt")
  | .messageDecryptPrekey _ _ _ => .error (.other "invalid prekey identifier")
  | .messageDecryptSignal _ remote _ =>
      .error (.sessionNotFound (some remote) "message_decrypt_signal")
  | .groupDecrypt _ _ => .error (.other "missing sender key state")
  | .sealedSenderDecryptToUsmc _ => .error (.invalidSealedSenderMessage "message too short")
  | .processSenderKeyDistributionMessage _ _ => .ok ()
  | .lock _ => ()
  | .unlock _ => ()
  | .getKeys _ _ => .error (.wsClosing "closed")
  | .putMessages _ _ => .error (.wsClosing "closed")
  | .distributePniKeys _ => .error (.wsClosing "closed")
  | .iterate devices => ⟨devices, .refl _⟩
  | .syncMessagePadding => []
  | .signAlternateIdentity => .ok []
  | .decryptionErrorMessage _ _ _ _ => .ok []
  | .currentTimestamp => 0
  | .pniIdentityKeyPair => .error (.other "no identity")
  | .replenishPniPreKeys => .error (.other "no pre-keys")
  | .generateLinkedDeviceKeys => .error .invalidPrivateKey
  | .pniRegistrationId => .ok 1
  | .freshRegistrationId used => ⟨used.sum + 1, sum_add_one_notMem used⟩

namespace Reference

/-- The answers of the server to the batches still to come. -/
abbrev Script := List (Except ServiceError WebSocketResponseMessage)

/-- Every device has a usable session and an identity; our own account has the devices
    1 and 2, every other one only its primary. -/
def scripted : Env Script
  | .loadSession _, script => (.ok (some ⟨[7]⟩), script)
  | .getSubDeviceSessions name, script =>
      (.ok (if name = .aci localAci then [secondDevice] else []), script)
  | .getIdentity _, script => (.ok (some ⟨5 :: List.replicate 32 1⟩), script)
  | .hasUsableSenderChain _, script => (.ok true, script)
  | .messageEncrypt plaintext _ _, script => (.ok ⟨.whisper, plaintext⟩, script)
  | .putMessages _ _, answer :: script => (answer, script)
  | c, script => (c.fallback, script)

/-- The sender on our primary device. -/
def primary : MessageSender where
  cipher := ⟨[], reference.protocolAddress (.aci localAci) defaultDeviceId⟩
  localAci := localAci
  localPni := localPni
  pniIdentity := none
  deviceId := defaultDeviceId

def accepted : Except ServiceError WebSocketResponseMessage :=
  .ok { status := some 200, body := some acceptedBody }

/-- Sessions by address. -/
abbrev Store := List (ProtocolAddress × SessionRecord)

/-- A record whose sender chain has lapsed, and one that can be used. -/
def lapsed : SessionRecord := ⟨[0]⟩
def fresh : SessionRecord := ⟨[7]⟩

/-- The store is a map, and every request for keys names no device. -/
def keyless : Env Store
  | .loadSession address, store => (.ok (store.lookup address), store)
  | .getSubDeviceSessions name, store =>
      (.ok ((store.filter fun entry => entry.1.name = serviceIdString name ∧
        entry.1.deviceId ≠ defaultDeviceId).map (·.1.deviceId)), store)
  | .deleteSession address, store => (.ok (), store.filter fun entry => entry.1 ≠ address)
  | .getIdentity _, store => (.ok (some ⟨5 :: List.replicate 32 1⟩), store)
  | .hasUsableSenderChain record, store => (.ok (decide (record ≠ lapsed)), store)
  | .messageEncrypt plaintext _ _, store => (.ok ⟨.whisper, plaintext⟩, store)
  | .getKeys _ _, store => (.ok { status := some 200, body := some noDevicesBody }, store)
  | c, store => (c.fallback, store)

/-- The server does not know the recipient. -/
def notFound : Except ServiceError WebSocketResponseMessage := .ok { status := some 404 }

end Reference

end SignalService
