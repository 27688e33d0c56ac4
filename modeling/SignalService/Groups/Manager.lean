import SignalService.Effect.Worlds
import SignalService.PushService

/-! # The groups manager

`groups_v2/manager.rs`: every request about a group carries an authorization made from a
credential that is redeemable today. The credentials of a week are fetched at once and kept
in a cache, which is overwritten whole.
-/

namespace SignalService.Groups

open Effect Prog

variable {U : UrlSyntax}

/-! ## Credentials -/

structure TemporalCredential where
  credential : String
  redemptionTime : Nat

structure AuthCredentialWithPniResponse where
  serialized : Bytes
  deriving DecidableEq

structure AuthCredentialWithPni where
  serialized : Bytes

/-- A map that is collected from its entries: the last one of a key stays. -/
abbrev CredentialsMap := List (Nat × AuthCredentialWithPniResponse)

def CredentialsMap.get (map : CredentialsMap) (key : Nat) : Option AuthCredentialWithPniResponse :=
  map.reverse.lookup key

/-- base64, hex, serde, bincode, and what zkgroup does with credentials. -/
structure ManagerExternals (U : UrlSyntax) extends UrlParsers U where
  jsonCredentialResponse : Bytes → Option (List TemporalCredential)
  base64Relaxed : String → Option Bytes
  hex : Bytes → String
  newAuthCredentialResponse : Bytes → Option AuthCredentialWithPniResponse
  /-- `receive`, serialized. -/
  receive : AuthCredentialWithPniResponse → ServerPublicParams → Aci → Pni →
    (redemptionTime : Nat) → Option Bytes
  newAuthCredential : Bytes → Option AuthCredentialWithPni
  /-- `present`, serialized. -/
  present : AuthCredentialWithPni → ServerPublicParams → GroupSecretParams →
    (randomness : Bytes) → Bytes
  deriveFromMasterKey : GroupMasterKey → GroupSecretParams
  serializePublicParams : GroupSecretParams → Option Bytes

variable (X : Externals) (D : ManagerExternals U)

def TemporalCredential.parse (credential : TemporalCredential) :
    Except ServiceError (Nat × AuthCredentialWithPniResponse) :=
  match D.base64Relaxed credential.credential with
  | none => .error .base64DecodeError
  | some bytes =>
      match D.newAuthCredentialResponse bytes with
      | none => .error (.other "zkgroup deserialization failure")
      | some response => .ok (credential.redemptionTime, response)

/-- `CredentialResponse::parse`. -/
def parseCredentials : List TemporalCredential → Except ServiceError CredentialsMap
  | [] => .ok []
  | credential :: credentials => do
      let entry ← credential.parse D
      let entries ← parseCredentials credentials
      return entry :: entries

/-! ## Days -/

def secondsPerDay : Nat := 86400

/-- Midnight of the day of a time in milliseconds, in seconds. -/
def daySeconds (now : Nat) : Nat := now / 86400000 * secondsPerDay

/-- `current_days_seconds`. -/
def currentDaysSeconds (now : Nat) : Nat × Nat := (daySeconds now, daySeconds now + 7 * secondsPerDay)

/-! ## The manager -/

/-- What a manager does outside: requests, the clock, randomness, and the cache, which is
    whatever the caller gave it. -/
inductive ManagerCall (U : UrlSyntax) where
  | http (c : HttpCall U)
  | cacheGet (key : Nat)
  | cacheWrite (map : CredentialsMap)

@[reducible] def ManagerAnswer : ManagerCall U → Type
  | .http c => HttpAnswer c
  | .cacheGet _ => Except ServiceError (Option AuthCredentialWithPniResponse)
  | .cacheWrite _ => Except ServiceError Unit

abbrev ManagerAsync (U : UrlSyntax) (α : Type) :=
  Prog (ManagerCall U) (ManagerAnswer (U := U)) ServiceError α

def http {α : Type} (p : HttpAsync U ServiceError α) : ManagerAsync U α :=
  p.lift .http fun _ answer => answer

/-- `Utc::now`. -/
def utcNow : ManagerAsync U Nat := .call (.http .now) fun now => .done (.ret now)

/-- `csprng.fill_bytes`. -/
def fillBytes (length : Nat) : ManagerAsync U Bytes :=
  .call (.http (.fillBytes length)) fun bytes => .done (.ret bytes.val)

structure GroupsManager (U : UrlSyntax) where
  aci : Aci
  pni : Pni
  identifiedPushService : PushService U
  serverPublicParams : ServerPublicParams

namespace GroupsManager

variable (manager : GroupsManager U)

def credentialsPath (today todayPlus7Days : Nat) : String :=
  s!"/v1/certificate/auth/group?redemptionStartSeconds={today}" ++
    s!"&redemptionEndSeconds={todayPlus7Days}&pniAsServiceId=true"

/-- What is made of the response that credentials come in. -/
def readCredentials (response : HttpResponse) : Exit ServiceError CredentialsMap := do
  let response ← response.baselineDecode X
  let body ← Exit.ofExcept response.bytes
  let credentials ← Exit.ofOption (.throw (.http "json")) (D.jsonCredentialResponse body)
  Exit.ofExcept (parseCredentials D credentials)

def fetchCredentials (today todayPlus7Days : Nat) : HttpAsync U ServiceError CredentialsMap := do
  let builder ← Prog.ofExcept (manager.identifiedPushService.request D.toUrlParsers .get
    (.service (credentialsPath today todayPlus7Days)) .noOverride)
  let response ← builder.send
  Prog.ofExit (readCredentials X D response)

def authorize (params : GroupSecretParams) (credential : AuthCredentialWithPni)
    (randomness : Bytes) : Except ServiceError HttpAuth :=
  match D.serializePublicParams params with
  | none => .error (.other "bincode error")
  | some publicParams => .ok
      ⟨D.hex publicParams,
        D.hex (D.present credential manager.serverPublicParams params randomness)⟩

/-- `get_authorization_string`. -/
def getAuthorizationString (params : GroupSecretParams) (response : AuthCredentialWithPniResponse)
    (today : Nat) : ManagerAsync U HttpAuth := do
  let bytes ← Prog.ofOption (.throw (.other "zkgroup verification failure"))
    (D.receive response manager.serverPublicParams manager.aci manager.pni today)
  let credential ← Prog.ofOption (.panic "just validated") (D.newAuthCredential bytes)
  let randomness ← fillBytes 32
  Prog.ofExcept (manager.authorize D params credential randomness)

/-- The cached credential of a day, or one that is fetched with those of the week after it. -/
def credentialFor (today todayPlus7Days : Nat) :
    ManagerAsync U AuthCredentialWithPniResponse := do
  match ← Prog.await (.cacheGet today) id with
  | some response => return response
  | none => do
      let credentials ← http (manager.fetchCredentials X D today todayPlus7Days)
      let _ ← Prog.await (.cacheWrite credentials) id
      let cached ← Prog.await (.cacheGet today) id
      Prog.ofOption
        (.throw (.invalidFrame "credentials received did not contain requested day")) cached

def getAuthorizationForToday (params : GroupSecretParams) : ManagerAsync U HttpAuth := do
  let now ← utcNow
  let response ← manager.credentialFor X D (currentDaysSeconds now).1 (currentDaysSeconds now).2
  manager.getAuthorizationString D params response (currentDaysSeconds now).1

def groupAuthorization (masterKeyBytes : Bytes) : ManagerAsync U HttpAuth :=
  match GroupMasterKey.ofBytes? masterKeyBytes with
  | none => Prog.throw (.other "groups v2 (zero-knowledge) error")
  | some key => manager.getAuthorizationForToday X D (D.deriveFromMasterKey key)

variable (W : GroupWire U)

def fetchEncryptedGroup (masterKeyBytes : Bytes) : ManagerAsync U Proto.Group := do
  let authorization ← manager.groupAuthorization X D masterKeyBytes
  http (manager.identifiedPushService.getGroup X W authorization)

def createGroup (masterKeyBytes : Bytes) (group : Proto.Group) : ManagerAsync U Unit := do
  let authorization ← manager.groupAuthorization X D masterKeyBytes
  http (manager.identifiedPushService.createGroup X W authorization group)

def patchGroup (masterKeyBytes : Bytes) (actions : Proto.Actions) :
    ManagerAsync U Proto.GroupChange := do
  let authorization ← manager.groupAuthorization X D masterKeyBytes
  http (manager.identifiedPushService.patchGroup X W authorization actions)

variable {D} in
theorem calls_getAuthorizationString {P : ManagerCall U → Prop}
    (kind : ∀ length, P (.http (.fillBytes length))) {params : GroupSecretParams}
    {response : AuthCredentialWithPniResponse} {today : Nat} :
    Calls P (manager.getAuthorizationString D params response today) :=
  (calls_ofOption _ _).bind fun _ => (calls_ofOption _ _).bind fun _ =>
    ⟨kind 32, fun _ _ => trivial⟩

variable {D} {manager} in
/-- An authorization presents what came of the response that it was made from. -/
theorem getAuthorizationString_trace {params : GroupSecretParams}
    {response : AuthCredentialWithPniResponse} {today : Nat}
    {es : List (Event (ManagerCall U) ManagerAnswer)} {auth : HttpAuth}
    (trace : Trace (manager.getAuthorizationString D params response today) es (.ret auth)) :
    ∃ bytes credential randomness,
      D.receive response manager.serverPublicParams manager.aci manager.pni today = some bytes ∧
      D.newAuthCredential bytes = some credential ∧
      manager.authorize D params credential randomness = .ok auth := by
  unfold getAuthorizationString at trace
  cases received : D.receive response manager.serverPublicParams manager.aci manager.pni today with
  | none =>
      rw [received] at trace
      obtain ⟨-, threw⟩ := trace_done.mp trace
      cases threw
  | some bytes =>
      cases made : D.newAuthCredential bytes with
      | none =>
          simp only [received, ofOption, Exit.ofOption_some, bind_eq, ret_bind, made] at trace
          obtain ⟨-, panicked⟩ := trace_done.mp trace
          cases panicked
      | some credential =>
          simp only [received, ofOption, Exit.ofOption_some, bind_eq, ret_bind, made] at trace
          obtain ⟨randomness, _, -, rest⟩ := trace_call.mp trace
          obtain ⟨-, ended⟩ := trace_done.mp rest
          exact ⟨bytes, credential, randomness.val, rfl, made,
            Exit.ofExcept_eq_ret.mp ended.symm⟩

end GroupsManager

end SignalService.Groups
