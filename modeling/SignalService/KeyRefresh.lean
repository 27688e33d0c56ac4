import SignalService.PreKeys

/-! # Refreshing pre keys

`update_pre_key_bundle` asks the server how many one-time keys are left and whether the signed key
and the last resort key are still ours, and leaves new keys there if need be. When it has nothing
more to do after it was called once.
-/

namespace SignalService

open Effect Prog

variable {K : Curve}

/-! ## The source -/

structure PreKeyEntity where
  keyId : UInt32
  publicKey : Bytes

def PreKeyEntity.ofRecord (key : PreKeyRecord K) : Except SignalProtocolError PreKeyEntity :=
  .ok ⟨key.id, K.serializePublic key.keyPair.publicKey⟩

/-- What is uploaded. -/
structure PreKeyState (K : Curve) where
  preKeys : List PreKeyEntity
  signedPreKey : SignedPreKeyEntity
  identityKey : K.PublicKey
  pqLastResortKey : Option KyberPreKeyEntity
  pqPreKeys : List KyberPreKeyEntity

structure PreKeyStatus where
  count : UInt32
  pqCount : UInt32

def preKeyMinimum : UInt32 := 10
def preKeyBatchSize : UInt32 := 100

/-- Requests to the server, questions to the store, and what `replenish_pre_keys` calls. -/
inductive RefreshCall (K : Curve) where
  | getPreKeyStatus (kind : ServiceIdKind)
  | checkPreKeys (kind : ServiceIdKind) (digest : Bytes)
  | registerPreKeys (kind : ServiceIdKind) (state : PreKeyState K)
  | signedPrekeyId
  | lastResortKyberPrekeyId
  | getSignedPreKey (id : UInt32)
  | getKyberPreKey (id : UInt32)
  | getIdentityKeyPair
  | signedPreKeysCount
  | kyberPreKeysCount (lastResort : Bool)
  | loadLastResortKyberPreKeys
  | replenish (c : PreKeyCall K)

@[reducible] def RefreshAnswer (K : Curve) : RefreshCall K → Type
  | .getPreKeyStatus _ => Except ServiceError PreKeyStatus
  | .checkPreKeys _ _ => Except ServiceError Bool
  | .registerPreKeys _ _ => Except ServiceError Unit
  | .signedPrekeyId | .lastResortKyberPrekeyId => Except SignalProtocolError (Option UInt32)
  | .getSignedPreKey _ => Except SignalProtocolError (SignedPreKeyRecord K)
  | .getKyberPreKey _ => Except SignalProtocolError KyberPreKeyRecord
  | .getIdentityKeyPair => Except SignalProtocolError (KeyPair K)
  | .signedPreKeysCount | .kyberPreKeysCount _ => Except SignalProtocolError Nat
  | .loadLastResortKyberPreKeys => Except SignalProtocolError (List KyberPreKeyRecord)
  | .replenish c => PreKeyAnswer K c

abbrev RefreshProg (K : Curve) (α : Type) :=
  Prog (RefreshCall K) (RefreshAnswer K) ServiceError α

/-- The `?` on an answer of the store. -/
def orProtocolError {α : Type} : Except SignalProtocolError α → Except ServiceError α
  | .ok a => .ok a
  | .error e => .error (.signalProtocolError e)

namespace AccountManager

section Source

variable (sha256 : Bytes → Bytes)

/-- The digest of the keys that are used more than once. -/
def repeatedUseDigest (identityKey : Bytes) (signedId : UInt32) (signedKey : Bytes)
    (kyberId : UInt32) (kyberKey : Bytes) : Bytes :=
  sha256 (identityKey ++ bigEndian 8 signedId.toNat ++ signedKey ++ bigEndian 8 kyberId.toNat ++
    kyberKey)

def checkPreKeys (kind : ServiceIdKind) : RefreshProg K Bool := do
  match ← Prog.await .signedPrekeyId orProtocolError with
  | none => return false
  | some signedPrekeyId =>
      match ← Prog.await .lastResortKyberPrekeyId orProtocolError with
      | none => return false
      | some kyberPrekeyId => do
          let signedPrekey ← Prog.await (.getSignedPreKey signedPrekeyId) orProtocolError
          let kyberPrekey ← Prog.await (.getKyberPreKey kyberPrekeyId) orProtocolError
          let identityKeyPair ← Prog.await .getIdentityKeyPair orProtocolError
          Prog.await (.checkPreKeys kind (repeatedUseDigest sha256
            (K.serializePublic identityKeyPair.publicKey) signedPrekeyId
            (K.serializePublic signedPrekey.keyPair.publicKey) kyberPrekeyId
            kyberPrekey.key.publicKey)) id

/-- A server that does not know us yet has none of our keys. -/
def assumedStatus : Except ServiceError PreKeyStatus → Except ServiceError PreKeyStatus
  | .error .unauthorized => .ok ⟨0, 0⟩
  | status => status

/-- The four questions that are asked where the server has enough. -/
def hasRepeatedUseKeys : RefreshProg K Bool := do
  if 0 < (← Prog.await .signedPreKeysCount orProtocolError) then
    if 0 < (← Prog.await (.kyberPreKeysCount true) orProtocolError) then
      if (← Prog.await .signedPrekeyId orProtocolError).isSome then
        return (← Prog.await .lastResortKyberPrekeyId orProtocolError).isSome
      else return false
    else return false
  else return false

/-- The first of those that were there, or the one that was made. -/
def uploadedLastResortKey (lastResortKeys : List KyberPreKeyRecord)
    (pqLastResortKey : Option KyberPreKeyRecord) :
    Except SignalProtocolError (Option KyberPreKeyEntity) :=
  match lastResortKeys with
  | first :: _ => (KyberPreKeyEntity.ofRecord first).map some
  | [] => pqLastResortKey.mapM KyberPreKeyEntity.ofRecord

/-- The part of `update_pre_key_bundle` that makes new keys and uploads them. -/
def refreshPreKeys (kind : ServiceIdKind) (useLastResortKey : Bool) : RefreshProg K Unit := do
  let identityKeyPair ← Prog.await .getIdentityKeyPair orProtocolError
  let lastResortKeys ← Prog.await .loadLastResortKyberPreKeys orProtocolError
  let keys ← ((replenishPreKeys identityKeyPair (useLastResortKey && lastResortKeys.isEmpty)
    preKeyBatchSize preKeyBatchSize).lift RefreshCall.replenish fun _ r => r).mapErr
      ServiceError.signalProtocolError
  let pqLastResortKey ← Prog.ofExcept (orProtocolError
    (uploadedLastResortKey lastResortKeys keys.pqLastResortKey))
  let preKeys ← Prog.ofExcept (orProtocolError (keys.preKeys.mapM PreKeyEntity.ofRecord))
  let signedPreKey ← Prog.ofExcept (orProtocolError (SignedPreKeyEntity.ofRecord keys.signedPreKey))
  let pqPreKeys ← Prog.ofExcept (orProtocolError (keys.pqPreKeys.mapM KyberPreKeyEntity.ofRecord))
  Prog.await (.registerPreKeys kind
    ⟨preKeys, signedPreKey, identityKeyPair.publicKey, pqLastResortKey, pqPreKeys⟩) id

def updatePreKeyBundle (kind : ServiceIdKind) (useLastResortKey : Bool) : RefreshProg K Unit := do
  let status ← Prog.await (.getPreKeyStatus kind) assumedStatus
  let upToDate ← checkPreKeys sha256 kind
  let sufficient ← if upToDate = true ∧ preKeyMinimum ≤ status.count ∧
      preKeyMinimum ≤ status.pqCount then hasRepeatedUseKeys else pure false
  if sufficient then return () else refreshPreKeys kind useLastResortKey

end Source

end AccountManager

/-! ## A store and a server

The store's ids name the keys that were saved last, and the server keeps what it is given. -/

/-- The keys of each kind, the last saved first. -/
structure KeyStore (K : Curve) where
  identityKeyPair : KeyPair K
  preKeys : List (PreKeyRecord K)
  signedPreKeys : List (SignedPreKeyRecord K)
  kyberPreKeys : List KyberPreKeyRecord
  lastResortKeys : List KyberPreKeyRecord

/-- What the server has for one of our identities, and how it answers. -/
structure KeyServer (K : Curve) where
  identityKey : K.PublicKey
  signedPreKey : Option SignedPreKeyEntity
  lastResortKey : Option KyberPreKeyEntity
  status : Except ServiceError PreKeyStatus
  /-- Why it takes no keys, if it takes none. -/
  refusal : Option ServiceError

structure KeyState (K : Curve) (γ : Type) where
  store : KeyStore K
  server : KeyServer K
  random : γ

/-- What is left open: the library, the numbers and the order that a store gives, and how the
    server counts. -/
structure KeyWorld (K : Curve) (γ : Type) where
  sha256 : Bytes → Bytes
  generateKeyPair : γ → K.PrivateKey × γ
  generateKyberKey : K.PrivateKey → γ → Except SignalProtocolError KyberKey × γ
  calculateSignature : K.PrivateKey → Bytes → γ → Except SignalProtocolError Bytes × γ
  now : γ → UInt64 × γ
  nextPreKeyId : KeyStore K → UInt32
  nextSignedPreKeyId : KeyStore K → UInt32
  nextPqPreKeyId : KeyStore K → UInt32
  /-- The order in which the last resort keys are listed. -/
  listed : List KyberPreKeyRecord → List KyberPreKeyRecord
  listed_perm : ∀ keys, (listed keys).Perm keys
  /-- How many one-time keys there are when some were uploaded to those there were. -/
  counted : UInt32 → Nat → UInt32
  counted_ge : ∀ count n, n < 2 ^ 32 → n ≤ (counted count n).toNat

namespace KeyStore

def getSignedPreKey (store : KeyStore K) (id : UInt32) :
    Except SignalProtocolError (SignedPreKeyRecord K) :=
  match store.signedPreKeys.find? (·.id = id) with
  | some record => .ok record
  | none => .error (.other "invalid signed prekey identifier")

/-- A last resort key is found under its id even if a one-time key has the same. -/
def getKyberPreKey (store : KeyStore K) (id : UInt32) :
    Except SignalProtocolError KyberPreKeyRecord :=
  match (store.lastResortKeys ++ store.kyberPreKeys).find? (·.id = id) with
  | some record => .ok record
  | none => .error (.other "invalid kyber prekey identifier")

/-- The digest of our identity and two of our keys. -/
def digest (sha256 : Bytes → Bytes) (store : KeyStore K) (signed : SignedPreKeyRecord K)
    (lastResort : KyberPreKeyRecord) : Bytes :=
  AccountManager.repeatedUseDigest sha256 (K.serializePublic store.identityKeyPair.publicKey)
    signed.id (K.serializePublic signed.keyPair.publicKey) lastResort.id lastResort.key.publicKey

end KeyStore

/-- The digest the server compares with; it has one only of both keys. -/
def KeyServer.digest (sha256 : Bytes → Bytes) (server : KeyServer K) : Option Bytes := do
  let signed ← server.signedPreKey
  let lastResort ← server.lastResortKey
  return AccountManager.repeatedUseDigest sha256 (K.serializePublic server.identityKey)
    signed.keyId signed.publicKey lastResort.keyId lastResort.publicKey

namespace KeyWorld

variable {γ : Type} (W : KeyWorld K γ)

/-- The server takes the keys in place of those it had, and counts them. -/
def upload (server : KeyServer K) (state : PreKeyState K) : KeyServer K :=
  let before := match server.status with
    | .ok status => status
    | .error _ => ⟨0, 0⟩
  { server with
    identityKey := state.identityKey
    signedPreKey := some state.signedPreKey
    lastResortKey := state.pqLastResortKey.or server.lastResortKey
    status := .ok ⟨W.counted before.count state.preKeys.length,
      W.counted before.pqCount state.pqPreKeys.length⟩ }

/-- The store and the library while keys are made. -/
def replenishing : (c : PreKeyCall K) → KeyState K γ → PreKeyAnswer K c × KeyState K γ
  | .nextPreKeyId, s => (.ok (W.nextPreKeyId s.store), s)
  | .nextSignedPreKeyId, s => (.ok (W.nextSignedPreKeyId s.store), s)
  | .nextPqPreKeyId, s => (.ok (W.nextPqPreKeyId s.store), s)
  | .generateKeyPair, s =>
      ((W.generateKeyPair s.random).1, { s with random := (W.generateKeyPair s.random).2 })
  | .generateKyberKey key, s =>
      ((W.generateKyberKey key s.random).1,
        { s with random := (W.generateKyberKey key s.random).2 })
  | .calculateSignature key message, s =>
      ((W.calculateSignature key message s.random).1,
        { s with random := (W.calculateSignature key message s.random).2 })
  | .now, s => ((W.now s.random).1, { s with random := (W.now s.random).2 })
  | .savePreKey _ record, s =>
      (.ok (), { s with store.preKeys := record :: s.store.preKeys })
  | .saveKyberPreKey _ record, s =>
      (.ok (), { s with store.kyberPreKeys := record :: s.store.kyberPreKeys })
  | .saveSignedPreKey _ record, s =>
      (.ok (), { s with store.signedPreKeys := record :: s.store.signedPreKeys })
  | .storeLastResortKyberPreKey _ record, s =>
      (.ok (), { s with store.lastResortKeys := record :: s.store.lastResortKeys })

def env : (c : RefreshCall K) → KeyState K γ → RefreshAnswer K c × KeyState K γ
  | .getPreKeyStatus _, s => (s.server.status, s)
  | .checkPreKeys _ digest, s => (.ok (decide (s.server.digest W.sha256 = some digest)), s)
  | .registerPreKeys _ state, s =>
      match s.server.refusal with
      | some e => (.error e, s)
      | none => (.ok (), { s with server := W.upload s.server state })
  | .signedPrekeyId, s => (.ok (s.store.signedPreKeys.head?.map (·.id)), s)
  | .lastResortKyberPrekeyId, s => (.ok (s.store.lastResortKeys.head?.map (·.id)), s)
  | .getSignedPreKey id, s => (s.store.getSignedPreKey id, s)
  | .getKyberPreKey id, s => (s.store.getKyberPreKey id, s)
  | .getIdentityKeyPair, s => (.ok s.store.identityKeyPair, s)
  | .signedPreKeysCount, s => (.ok s.store.signedPreKeys.length, s)
  | .kyberPreKeysCount lastResort, s =>
      (.ok (if lastResort then s.store.lastResortKeys.length else s.store.kyberPreKeys.length), s)
  | .loadLastResortKyberPreKeys, s => (.ok (W.listed s.store.lastResortKeys), s)
  | .replenish c, s => W.replenishing c s

end KeyWorld

/-! ## Calls that only ask -/

/-- The call makes no keys and uploads none. -/
def RefreshCall.Asks : RefreshCall K → Prop
  | .replenish _ | .registerPreKeys _ _ => False
  | _ => True

section Asking

variable {γ : Type} {W : KeyWorld K γ} {s : KeyState K γ} {kind : ServiceIdKind}

/-- The server's digest is that of the keys the store's ids name. -/
def Consistent (W : KeyWorld K γ) (s : KeyState K γ) : Prop :=
  ∃ signed lastResort, s.store.signedPreKeys.head? = some signed ∧
    s.store.lastResortKeys.head? = some lastResort ∧
    s.server.digest W.sha256 = some (s.store.digest W.sha256 signed lastResort)

open AccountManager

theorem signedPrekeyId_observes : Observes RefreshCall.Asks W.env
    (Prog.await .signedPrekeyId orProtocolError) s
    (.ret (s.store.signedPreKeys.head?.map (·.id))) :=
  observes_await trivial rfl rfl

theorem lastResortKyberPrekeyId_observes : Observes RefreshCall.Asks W.env
    (Prog.await .lastResortKyberPrekeyId orProtocolError) s
    (.ret (s.store.lastResortKeys.head?.map (·.id))) :=
  observes_await trivial rfl rfl

/-- What the store's signed id names is the key that was saved last. -/
theorem getSignedPreKey_observes {signed : SignedPreKeyRecord K}
    (latest : s.store.signedPreKeys.head? = some signed) : Observes RefreshCall.Asks W.env
      (Prog.await (.getSignedPreKey signed.id) orProtocolError) s (.ret signed) := by
  obtain ⟨older, keys⟩ := List.head?_eq_some_iff.mp latest
  have found : s.store.getSignedPreKey signed.id = .ok signed := by
    simp [KeyStore.getSignedPreKey, keys]
  exact observes_await trivial rfl (congrArg orProtocolError found)

theorem getKyberPreKey_observes {lastResort : KyberPreKeyRecord}
    (latest : s.store.lastResortKeys.head? = some lastResort) : Observes RefreshCall.Asks W.env
      (Prog.await (.getKyberPreKey lastResort.id) orProtocolError) s (.ret lastResort) := by
  obtain ⟨older, keys⟩ := List.head?_eq_some_iff.mp latest
  have found : s.store.getKyberPreKey lastResort.id = .ok lastResort := by
    simp [KeyStore.getKyberPreKey, keys]
  exact observes_await trivial rfl (congrArg orProtocolError found)

/-- The two ids, the last saved keys and the answer of the server. -/
theorem checkPreKeys_observes :
    ∃ consistent, Observes RefreshCall.Asks W.env (checkPreKeys W.sha256 kind) s
      (.ret consistent) ∧ (consistent = true ↔ Consistent W s) := by
  have signedId := signedPrekeyId_observes (W := W) (s := s)
  have kyberId := lastResortKyberPrekeyId_observes (W := W) (s := s)
  cases signed : s.store.signedPreKeys.head? with
  | none =>
      rw [signed] at signedId
      refine ⟨false, signedId.bind observes_done, iff_of_false nofun ?_⟩
      rintro ⟨_, _, found, -⟩
      rw [signed] at found
      cases found
  | some signedKey =>
      rw [signed] at signedId
      cases lastResort : s.store.lastResortKeys.head? with
      | none =>
          rw [lastResort] at kyberId
          refine ⟨false, signedId.bind (kyberId.bind observes_done), iff_of_false nofun ?_⟩
          rintro ⟨_, _, -, found, -⟩
          rw [lastResort] at found
          cases found
      | some kyberKey =>
          rw [lastResort] at kyberId
          have identity : Observes RefreshCall.Asks W.env
              (Prog.await .getIdentityKeyPair orProtocolError) s (.ret s.store.identityKeyPair) :=
            observes_await trivial rfl rfl
          refine ⟨_, signedId.bind (kyberId.bind ((getSignedPreKey_observes signed).bind
            ((getKyberPreKey_observes lastResort).bind
              (identity.bind (observes_await trivial rfl rfl))))), ?_⟩
          rw [decide_eq_true_iff]
          constructor
          · intro same
            exact ⟨signedKey, kyberKey, signed, lastResort, same⟩
          · rintro ⟨_, _, foundSigned, foundKyber, same⟩
            rw [signed] at foundSigned
            rw [lastResort] at foundKyber
            cases foundSigned
            cases foundKyber
            exact same

theorem hasRepeatedUseKeys_observes (consistent : Consistent W s) :
    Observes RefreshCall.Asks W.env hasRepeatedUseKeys s (.ret true) := by
  obtain ⟨signed, lastResort, foundSigned, foundKyber, -⟩ := consistent
  obtain ⟨older, signedKeys⟩ := List.head?_eq_some_iff.mp foundSigned
  obtain ⟨others, lastResortKeys⟩ := List.head?_eq_some_iff.mp foundKyber
  have signedCount : Observes RefreshCall.Asks W.env
      (Prog.await .signedPreKeysCount orProtocolError) s (.ret (older.length + 1)) :=
    observes_await trivial rfl (by rw [KeyWorld.env, signedKeys]; rfl)
  have kyberCount : Observes RefreshCall.Asks W.env
      (Prog.await (.kyberPreKeysCount true) orProtocolError) s (.ret (others.length + 1)) :=
    observes_await trivial rfl (by rw [KeyWorld.env, lastResortKeys]; rfl)
  have signedId := signedPrekeyId_observes (W := W) (s := s)
  have kyberId := lastResortKyberPrekeyId_observes (W := W) (s := s)
  rw [foundSigned, Option.map_some] at signedId
  rw [foundKyber, Option.map_some] at kyberId
  refine signedCount.bind ?_
  rw [if_pos (Nat.succ_pos _)]
  refine kyberCount.bind ?_
  rw [if_pos (Nat.succ_pos _)]
  refine signedId.bind ?_
  rw [Option.isSome_some, if_pos rfl]
  exact kyberId.bind observes_done

/-- There is nothing to refresh. -/
def UpToDate (W : KeyWorld K γ) (s : KeyState K γ) : Prop :=
  Consistent W s ∧ ∃ status, assumedStatus s.server.status = .ok status ∧
    preKeyMinimum ≤ status.count ∧ preKeyMinimum ≤ status.pqCount

variable {useLastResortKey : Bool}

theorem updatePreKeyBundle_of_upToDate (upToDate : UpToDate W s) :
    Observes RefreshCall.Asks W.env (updatePreKeyBundle W.sha256 kind useLastResortKey) s
      (.ret ()) := by
  obtain ⟨consistent, status, assumed, enough⟩ := upToDate
  obtain ⟨answer, checked, same⟩ := checkPreKeys_observes (W := W) (s := s) (K := K)
  have yes := same.mpr consistent
  subst yes
  have fetched : Observes RefreshCall.Asks W.env
      (Prog.await (.getPreKeyStatus kind) assumedStatus) s (.ret status) :=
    observes_await trivial rfl assumed
  refine fetched.bind (checked.bind ?_)
  rw [if_pos ⟨rfl, enough⟩]
  exact (hasRepeatedUseKeys_observes consistent).bind observes_done

/-- Otherwise keys are made and uploaded, unless the status cannot be had. -/
theorem updatePreKeyBundle_of_not_upToDate (outdated : ¬ UpToDate W s)
    (returned : ((updatePreKeyBundle W.sha256 kind useLastResortKey).run W.env s).exit = .ret ()) :
    ((refreshPreKeys kind useLastResortKey).run W.env s).exit = .ret () ∧
      ((updatePreKeyBundle W.sha256 kind useLastResortKey).run W.env s).state =
        ((refreshPreKeys kind useLastResortKey).run W.env s).state ∧
      ∃ before, ((updatePreKeyBundle W.sha256 kind useLastResortKey).run W.env s).log =
        before ++ ((refreshPreKeys kind useLastResortKey).run W.env s).log := by
  cases assumed : assumedStatus s.server.status with
  | error e =>
      have failed : ((updatePreKeyBundle W.sha256 kind useLastResortKey).run W.env s).exit =
          .throw e := by
        simp [updatePreKeyBundle, Prog.await, KeyWorld.env, assumed, Prog.ofExcept]
      rw [failed] at returned
      cases returned
  | ok status =>
      obtain ⟨answer, checked, same⟩ := checkPreKeys_observes (W := W) (s := s) (K := K)
      have fetched : Observes RefreshCall.Asks W.env
          (Prog.await (.getPreKeyStatus kind) assumedStatus) s (.ret status) :=
        observes_await trivial rfl assumed
      have short : ¬ (answer = true ∧ preKeyMinimum ≤ status.count ∧
          preKeyMinimum ≤ status.pqCount) :=
        fun enough => outdated ⟨same.mp enough.1, status, assumed, enough.2⟩
      unfold updatePreKeyBundle at returned ⊢
      simp only [bind_eq] at returned ⊢
      rw [fetched.bind_run.1, checked.bind_run.1, if_neg short] at returned
      rw [fetched.bind_run.2.1, checked.bind_run.2.1, fetched.bind_run.2.2, checked.bind_run.2.2,
        if_neg short]
      exact ⟨returned, rfl, _, (List.append_assoc ..).symm⟩

/-- Who refreshes and returns has uploaded. -/
theorem refreshPreKeys_uploads {A : (c : RefreshCall K) → RefreshAnswer K c → Prop} :
    Runs A (Post (fun es _ => ∃ event ∈ es, ¬ event.1.Asks) True)
      (refreshPreKeys kind useLastResortKey : RefreshProg K Unit) := by
  have more (es es' : List (Event (RefreshCall K) (RefreshAnswer K))) (_ : Unit) :
      (∃ event ∈ es', ¬ event.1.Asks) → ∃ event ∈ es ++ es', ¬ event.1.Asks :=
    fun ⟨event, member, uploads⟩ => ⟨event, List.mem_append_right es member, uploads⟩
  refine Runs.before_post more runs_post_true fun identityKeyPair _ => ?_
  refine Runs.before_post more runs_post_true fun lastResortKeys _ => ?_
  refine Runs.before_post more runs_post_true fun keys _ => ?_
  refine Runs.before_post more runs_post_true fun pqLastResortKey _ => ?_
  refine Runs.before_post more runs_post_true fun preKeys _ => ?_
  refine Runs.before_post more runs_post_true fun signedPreKey _ => ?_
  refine Runs.before_post more runs_post_true fun pqPreKeys _ => ?_
  refine runs_await_post.mono_post ?_ id
  rintro es _ ⟨answer, rfl, -, -⟩
  exact ⟨_, List.mem_cons_self, id⟩

/-- The call returns, and has made no keys and uploaded none. -/
def Settled (ran : Ran (RefreshCall K) (RefreshAnswer K) ServiceError Unit (KeyState K γ)) : Prop :=
  ran.exit = .ret () ∧ ∀ event ∈ ran.log, event.1.Asks

theorem settled_iff :
    Settled ((updatePreKeyBundle W.sha256 kind useLastResortKey).run W.env s) ↔ UpToDate W s := by
  constructor
  · rintro ⟨returned, asks⟩
    by_contra outdated
    obtain ⟨refreshed, -, before, log⟩ := updatePreKeyBundle_of_not_upToDate outdated returned
    have trace := run_trace W.env (refreshPreKeys kind useLastResortKey) s
    rw [refreshed] at trace
    obtain ⟨event, member, uploads⟩ := refreshPreKeys_uploads (A := fun _ _ => True) _ _ trace
      fun _ _ => trivial
    refine uploads (asks event ?_)
    rw [log]
    exact List.mem_append_right before member
  · intro upToDate
    have observes : Observes RefreshCall.Asks W.env
        (updatePreKeyBundle W.sha256 kind useLastResortKey) s (.ret ()) :=
      updatePreKeyBundle_of_upToDate upToDate
    exact ⟨observes.exit, observes.log⟩

end Asking

/-! ## Making keys -/

section Making

variable {γ : Type} {W : KeyWorld K γ} {s t : KeyState K γ}

/-- The keys that are used more than once are as they were, here and at the server. -/
structure Kept (s t : KeyState K γ) : Prop where
  server : t.server = s.server
  identityKeyPair : t.store.identityKeyPair = s.store.identityKeyPair
  signedPreKeys : t.store.signedPreKeys = s.store.signedPreKeys
  lastResortKeys : t.store.lastResortKeys = s.store.lastResortKeys

theorem Kept.refl : Kept s s := ⟨rfl, rfl, rfl, rfl⟩

/-- The call saves none of the keys that are used more than once. -/
def PreKeyCall.OneTime : PreKeyCall K → Prop
  | .saveSignedPreKey _ _ | .storeLastResortKyberPreKey _ _ => False
  | _ => True

theorem Kept.step (kept : Kept s t) {c : PreKeyCall K} (oneTime : c.OneTime) :
    Kept s (W.replenishing c t).2 := by
  obtain ⟨server, identityKeyPair, signedPreKeys, lastResortKeys⟩ := kept
  cases c with
  | saveSignedPreKey | storeLastResortKyberPreKey => cases oneTime
  | _ => exact ⟨server, identityKeyPair, signedPreKeys, lastResortKeys⟩

theorem Kept.ask (kept : Kept s t) {c : PreKeyCall K} (oneTime : c.OneTime := by trivial) :
    Yields W.replenishing (fun _ => Kept s)
      (Prog.ask c : PreKeyProg K (PreKeyAnswer K c)) t :=
  yields_ask (kept.step oneTime)

theorem Kept.await (kept : Kept s t) {α : Type} {c : PreKeyCall K}
    {read : PreKeyAnswer K c → Except SignalProtocolError α}
    (oneTime : c.OneTime := by trivial) :
    Yields W.replenishing (fun _ => Kept s) (Prog.await c read : PreKeyProg K α) t :=
  yields_await fun _ _ => kept.step oneTime

theorem Kept.ofExit (kept : Kept s t) {α : Type} {x : Exit SignalProtocolError α} :
    Yields W.replenishing (fun _ => Kept s) (Prog.ofExit x : PreKeyProg K α) t :=
  yields_ofExit fun _ _ => kept

theorem generatePreKeys_yields {offset : UInt32} (is : List Nat)
    (preKeys : List (PreKeyRecord K)) (kept : Kept s t) :
    Yields W.replenishing (fun made t => Kept s t ∧ made.length = preKeys.length + is.length)
      (generatePreKeys offset is preKeys) t := by
  induction is generalizing preKeys t with
  | nil => exact yields_ret ⟨kept, rfl⟩
  | cons i is ih =>
      refine Yields.bind kept.ask fun privateKey t kept => ?_
      refine kept.ofExit.bind fun preKeyId t kept => ?_
      refine Yields.bind kept.await fun _ t kept => ?_
      intro made returned
      obtain ⟨kept, length⟩ := ih _ kept made returned
      refine ⟨kept, length.trans ?_⟩
      rw [List.length_append, List.length_singleton, List.length_cons]
      omega

theorem generateKyberPreKeys_yields {offset : UInt32} {identityKeyPair : KeyPair K} (is : List Nat)
    (pqPreKeys : List KyberPreKeyRecord) (kept : Kept s t) :
    Yields W.replenishing (fun made t => Kept s t ∧ made.length = pqPreKeys.length + is.length)
      (generateKyberPreKeys offset identityKeyPair is pqPreKeys) t := by
  induction is generalizing pqPreKeys t with
  | nil => exact yields_ret ⟨kept, rfl⟩
  | cons i is ih =>
      refine kept.ofExit.bind fun preKeyId t kept => ?_
      refine Yields.bind kept.await fun key t kept => ?_
      refine Yields.bind kept.await fun _ t kept => ?_
      intro made returned
      obtain ⟨kept, length⟩ := ih _ kept made returned
      refine ⟨kept, length.trans ?_⟩
      rw [List.length_append, List.length_singleton, List.length_cons]
      omega

/-- What has become of the state when the keys that are used more than once have been made. -/
structure Made (s : KeyState K γ) (signed : SignedPreKeyRecord K)
    (lastResort : Option KyberPreKeyRecord) (t : KeyState K γ) : Prop where
  server : t.server = s.server
  identityKeyPair : t.store.identityKeyPair = s.store.identityKeyPair
  signedPreKeys : t.store.signedPreKeys = signed :: s.store.signedPreKeys
  lastResortKeys : t.store.lastResortKeys = lastResort.toList ++ s.store.lastResortKeys

theorem generateSignedPreKey_yields {identityKeyPair : KeyPair K} {id : UInt32} (kept : Kept s t) :
    Yields W.replenishing (fun record => Made s record none)
      (generateSignedPreKey identityKeyPair id) t := by
  refine Yields.bind kept.ask fun privateKey t kept => ?_
  refine Yields.bind kept.await fun signature t kept => ?_
  refine Yields.bind kept.ask fun timestamp t kept => ?_
  refine Yields.bind (yields_await fun _ _ => rfl) fun _ t' saved => ?_
  obtain ⟨server, identity, signed, lastResort⟩ := kept
  rw [← saved]
  exact yields_ret ⟨server, identity, congrArg _ signed, lastResort⟩

theorem generateLastResortKey_yields {identityKeyPair : KeyPair K} {offset : UInt32} {n : Nat}
    {pqPreKeys : List KyberPreKeyRecord} {signed : SignedPreKeyRecord K}
    (made : Made s signed none t) :
    Yields W.replenishing (fun record => Made s signed (some record))
      (generateLastResortKey identityKeyPair offset n pqPreKeys) t := by
  have kept : Kept t t := .refl
  refine kept.ofExit.bind fun preKeyId t' kept => ?_
  refine kept.ofExit.bind fun _ t' kept => ?_
  refine Yields.bind kept.await fun key t' kept => ?_
  refine Yields.bind (yields_await fun _ _ => rfl) fun _ t'' saved => ?_
  obtain ⟨server, identity, signedKeys, lastResort⟩ := kept
  rw [← saved]
  refine yields_ret ⟨server.trans made.server, identity.trans made.identityKeyPair,
    signedKeys.trans made.signedPreKeys, congrArg _ (lastResort.trans made.lastResortKeys)⟩

theorem replenishPreKeys_yields {identityKeyPair : KeyPair K} {lastResort : Bool} {n : UInt32} :
    Yields W.replenishing (fun keys t => Made s keys.signedPreKey keys.pqLastResortKey t ∧
        keys.pqLastResortKey.isSome = lastResort ∧ keys.preKeys.length = n.toNat ∧
        keys.pqPreKeys.length = n.toNat)
      (replenishPreKeys identityKeyPair lastResort n n) s := by
  have kept : Kept s s := .refl
  refine Yields.bind kept.await fun preKeysOffsetId t kept => ?_
  refine Yields.bind kept.await fun nextSignedPreKeyId t kept => ?_
  refine Yields.bind kept.await fun pqPreKeysOffsetId t kept => ?_
  refine (generatePreKeys_yields _ _ kept).bind ?_
  rintro preKeys t ⟨kept, length⟩
  refine (generateKyberPreKeys_yields _ _ kept).bind ?_
  rintro pqPreKeys t ⟨kept, kyberLength⟩
  refine (generateSignedPreKey_yields kept).bind fun signedPreKey t made => ?_
  simp only [List.length_nil, List.length_range, Nat.zero_add] at length kyberLength
  cases lastResort with
  | false => exact yields_ret ⟨made, rfl, length, kyberLength⟩
  | true =>
      refine (generateLastResortKey_yields made).bind fun record t made => ?_
      exact yields_ret ⟨made, rfl, length, kyberLength⟩

def SignedPreKeyRecord.entity (record : SignedPreKeyRecord K) : SignedPreKeyEntity :=
  ⟨record.id, K.serializePublic record.keyPair.publicKey, record.signature⟩

def KyberPreKeyRecord.entity (record : KyberPreKeyRecord) : KyberPreKeyEntity :=
  ⟨record.id, record.key.publicKey, record.key.signature⟩

theorem preKeyEntities_eq (records : List (PreKeyRecord K)) :
    records.mapM PreKeyEntity.ofRecord = .ok (records.map fun record =>
      ⟨record.id, K.serializePublic record.keyPair.publicKey⟩) :=
  List.mapM_pure

theorem kyberEntities_eq (records : List KyberPreKeyRecord) :
    records.mapM KyberPreKeyEntity.ofRecord = .ok (records.map KyberPreKeyRecord.entity) :=
  List.mapM_pure

/-- What an upload leaves behind. The last resort key that was uploaded is the first one listed,
    or else a new one. -/
structure Refreshed (W : KeyWorld K γ) (useLastResortKey : Bool) (s t : KeyState K γ) : Prop where
  identityKeyPair : t.store.identityKeyPair = s.store.identityKeyPair
  identityKey : t.server.identityKey = s.store.identityKeyPair.publicKey
  signed : ∃ signed, t.store.signedPreKeys.head? = some signed ∧
    t.server.signedPreKey = some signed.entity
  status : ∃ status, t.server.status = .ok status ∧ 100 ≤ status.count.toNat ∧
    100 ≤ status.pqCount.toNat
  lastResort : ∃ new : Option KyberPreKeyRecord,
    new.isSome = (useLastResortKey && (W.listed s.store.lastResortKeys).isEmpty) ∧
    t.store.lastResortKeys = new.toList ++ s.store.lastResortKeys ∧
    t.server.lastResortKey = (((W.listed s.store.lastResortKeys).head?.or new).map
      KyberPreKeyRecord.entity).or s.server.lastResortKey

open AccountManager

theorem uploadedLastResortKey_eq (listed : List KyberPreKeyRecord)
    (new : Option KyberPreKeyRecord) :
    uploadedLastResortKey listed new =
      .ok ((listed.head?.or new).map KyberPreKeyRecord.entity) := by
  cases listed with
  | cons => rfl
  | nil => cases new <;> rfl

/-- The server takes what was made. -/
theorem refreshed_of_made {useLastResortKey : Bool} {keys : ReplenishedKeys K}
    {preKeys : List PreKeyEntity} {pqPreKeys : List KyberPreKeyEntity}
    (made : Made s keys.signedPreKey keys.pqLastResortKey t)
    (isNew : keys.pqLastResortKey.isSome =
      (useLastResortKey && (W.listed s.store.lastResortKeys).isEmpty))
    (length : preKeys.length = 100) (kyberLength : pqPreKeys.length = 100) :
    Refreshed W useLastResortKey s { t with server := W.upload t.server (.mk preKeys
      keys.signedPreKey.entity s.store.identityKeyPair.publicKey
      (((W.listed s.store.lastResortKeys).head?.or keys.pqLastResortKey).map
        KyberPreKeyRecord.entity) pqPreKeys) } where
  identityKeyPair := made.identityKeyPair
  identityKey := rfl
  signed := ⟨keys.signedPreKey, congrArg List.head? made.signedPreKeys, rfl⟩
  status := by
    refine ⟨_, rfl, ?_, ?_⟩
    · exact length.symm.le.trans (W.counted_ge _ _ (by rw [length]; decide))
    · exact kyberLength.symm.le.trans (W.counted_ge _ _ (by rw [kyberLength]; decide))
  lastResort := by
    refine ⟨keys.pqLastResortKey, isNew, made.lastResortKeys, ?_⟩
    rw [← made.server]
    rfl

theorem refreshPreKeys_yields {kind : ServiceIdKind} {useLastResortKey : Bool} :
    Yields W.env (fun _ => Refreshed W useLastResortKey s)
      (refreshPreKeys kind useLastResortKey) s := by
  refine Yields.bind (V := fun pair t => pair = s.store.identityKeyPair ∧ s = t)
    (yields_await ?_) ?_
  · rintro _ ⟨⟩
    exact ⟨rfl, rfl⟩
  rintro _ _ ⟨rfl, rfl⟩
  refine Yields.bind (V := fun keys t => keys = W.listed s.store.lastResortKeys ∧ s = t)
    (yields_await ?_) ?_
  · rintro _ ⟨⟩
    exact ⟨rfl, rfl⟩
  rintro _ _ ⟨rfl, rfl⟩
  refine Yields.bind ((replenishPreKeys_yields.lift fun _ _ => rfl).mapErr _) ?_
  rintro keys t ⟨made, isNew, length, kyberLength⟩
  rw [uploadedLastResortKey_eq, preKeyEntities_eq, kyberEntities_eq]
  refine yields_await (c := RefreshCall.registerPreKeys _ _) ?_
  simp only [KeyWorld.env]
  cases t.server.refusal with
  | some e => rintro _ ⟨⟩
  | none =>
      rintro _ ⟨⟩
      exact refreshed_of_made made isNew ((List.length_map ..).trans length)
        ((List.length_map ..).trans kyberLength)

end Making

/-! ## When a second call has nothing to do -/

section Again

variable {γ : Type} {W : KeyWorld K γ} {s t : KeyState K γ} {useLastResortKey : Bool}

/-- The hash tells the digests of the store's last resort keys apart. -/
def KeyWorld.TellsApart (W : KeyWorld K γ) (s : KeyState K γ) : Prop :=
  ∀ signed, ∀ first ∈ s.store.lastResortKeys, ∀ latest ∈ s.store.lastResortKeys,
    s.store.digest W.sha256 signed first = s.store.digest W.sha256 signed latest →
    s.store.digest id signed first = s.store.digest id signed latest

/-- An upload makes the server agree with the store: a last resort key is made where there is
    none, and otherwise the first one listed is the one that was saved last. -/
def Repairable (W : KeyWorld K γ) (useLastResortKey : Bool) (s : KeyState K γ) : Prop :=
  match W.listed s.store.lastResortKeys with
  | [] => useLastResortKey = true
  | first :: _ => ∃ latest, s.store.lastResortKeys.head? = some latest ∧
      first.id = latest.id ∧ first.key.publicKey = latest.key.publicKey

theorem bigEndian_toNat_inj {a b : UInt32} (same : bigEndian 8 a.toNat = bigEndian 8 b.toNat) :
    a = b := by
  have bound (c : UInt32) : c.toNat < 256 ^ 8 := c.toNat_lt.trans (by decide)
  apply UInt32.toNat.inj
  rw [← ofBigEndian_bigEndian (bound a), same, ofBigEndian_bigEndian (bound b)]

/-- What is hashed determines the last resort key. -/
theorem digest_id_inj {store : KeyStore K} {signed : SignedPreKeyRecord K}
    {first latest : KyberPreKeyRecord}
    (same : store.digest id signed first = store.digest id signed latest) :
    first.id = latest.id ∧ first.key.publicKey = latest.key.publicKey := by
  unfold KeyStore.digest AccountManager.repeatedUseDigest at same
  simp only [id_eq, List.append_assoc, List.append_cancel_left_eq] at same
  obtain ⟨ids, keys⟩ := List.append_inj same (by rw [length_bigEndian, length_bigEndian])
  exact ⟨bigEndian_toNat_inj ids, keys⟩

/-- After an upload there are enough keys, so that only the digests matter. -/
theorem Refreshed.upToDate_iff (refreshed : Refreshed W useLastResortKey s t)
    {uploaded latest : KyberPreKeyRecord} (known : t.server.lastResortKey = some uploaded.entity)
    (saved : t.store.lastResortKeys.head? = some latest) :
    ∃ signed, UpToDate W t ↔
      s.store.digest W.sha256 signed uploaded = s.store.digest W.sha256 signed latest := by
  obtain ⟨signed, foundSigned, knownSigned⟩ := refreshed.signed
  obtain ⟨status, answered, enough, enoughKyber⟩ := refreshed.status
  have digest : t.server.digest W.sha256 = some (s.store.digest W.sha256 signed uploaded) := by
    simp only [KeyServer.digest, knownSigned, known, refreshed.identityKey]
    rfl
  have ours : t.store.digest W.sha256 signed latest = s.store.digest W.sha256 signed latest := by
    simp only [KeyStore.digest, refreshed.identityKeyPair]
  refine ⟨signed, ?_, ?_⟩
  · rintro ⟨⟨signed', latest', found, foundKyber, same⟩, -⟩
    rw [foundSigned] at found
    rw [saved] at foundKyber
    cases found
    cases foundKyber
    rw [digest, ours] at same
    exact Option.some.inj same
  · intro same
    have minimum (count : UInt32) (hundred : 100 ≤ count.toNat) : preKeyMinimum ≤ count :=
      UInt32.le_iff_toNat_le.mpr ((by decide : preKeyMinimum.toNat ≤ 100).trans hundred)
    refine ⟨⟨signed, latest, foundSigned, saved, ?_⟩, status, ?_, minimum _ enough,
      minimum _ enoughKyber⟩
    · rw [digest, ours, same]
    · rw [answered]
      rfl

/-- Where there was no last resort key, there is one if it was asked for. -/
theorem Refreshed.upToDate_iff_of_none (refreshed : Refreshed W useLastResortKey s t)
    (listed : W.listed s.store.lastResortKeys = []) :
    UpToDate W t ↔ useLastResortKey = true := by
  obtain ⟨new, isNew, stored, known⟩ := refreshed.lastResort
  have perm := W.listed_perm s.store.lastResortKeys
  rw [listed] at isNew known perm
  rw [← perm.nil_eq, List.append_nil] at stored
  rw [List.isEmpty_nil, Bool.and_true] at isNew
  cases new with
  | none =>
      apply iff_of_false
      · rintro ⟨⟨_, _, -, found, -⟩, -⟩
        rw [stored] at found
        cases found
      · rw [← isNew]
        nofun
  | some record =>
      obtain ⟨signed, same⟩ := refreshed.upToDate_iff known (congrArg List.head? stored)
      exact same.trans (iff_of_true rfl isNew.symm)

/-- Where there were some, the first was uploaded and the last saved is asked about. -/
theorem Refreshed.upToDate_iff_of_listed (refreshed : Refreshed W useLastResortKey s t)
    {first : KyberPreKeyRecord} {others : List KyberPreKeyRecord}
    (listed : W.listed s.store.lastResortKeys = first :: others) :
    ∃ signed latest, s.store.lastResortKeys.head? = some latest ∧ (UpToDate W t ↔
      s.store.digest W.sha256 signed first = s.store.digest W.sha256 signed latest) := by
  obtain ⟨new, isNew, stored, known⟩ := refreshed.lastResort
  have perm := W.listed_perm s.store.lastResortKeys
  rw [listed] at isNew known perm
  rw [List.isEmpty_cons, Bool.and_false, Option.isSome_eq_false_iff, Option.isNone_iff_eq_none]
    at isNew
  subst isNew
  cases keys : s.store.lastResortKeys with
  | nil =>
      rw [keys] at perm
      cases perm.eq_nil
  | cons latest older =>
      rw [keys] at stored
      obtain ⟨signed, same⟩ := refreshed.upToDate_iff known (congrArg List.head? stored)
      exact ⟨signed, latest, rfl, same⟩

/-- What an upload can repair it has repaired. -/
theorem Refreshed.upToDate_iff_repairable (refreshed : Refreshed W useLastResortKey s t)
    (apart : W.TellsApart s) : UpToDate W t ↔ Repairable W useLastResortKey s := by
  unfold Repairable
  cases listed : W.listed s.store.lastResortKeys with
  | nil => exact refreshed.upToDate_iff_of_none listed
  | cons first others =>
      obtain ⟨signed, latest, saved, same⟩ := refreshed.upToDate_iff_of_listed listed
      have perm := W.listed_perm s.store.lastResortKeys
      rw [listed] at perm
      have firstKept : first ∈ s.store.lastResortKeys := perm.subset List.mem_cons_self
      rw [same]
      constructor
      · intro digests
        exact ⟨latest, saved, digest_id_inj
          (apart signed first firstKept latest (List.mem_of_head? saved) digests)⟩
      · rintro ⟨_, found, ids, publicKeys⟩
        rw [saved] at found
        cases found
        simp only [KeyStore.digest, ids, publicKeys]

open AccountManager

/-- Called again at once, it makes and uploads no keys if it had nothing to do the first time, or
    if the upload made the server agree with the store. -/
theorem updatePreKeyBundle_again_iff {γ : Type} (W : KeyWorld K γ) (s : KeyState K γ)
    (kind : ServiceIdKind) (useLastResortKey : Bool) (apart : W.TellsApart s)
    (returned : ((updatePreKeyBundle W.sha256 kind useLastResortKey).run W.env s).exit = .ret ()) :
    Settled ((updatePreKeyBundle W.sha256 kind useLastResortKey).run W.env
      ((updatePreKeyBundle W.sha256 kind useLastResortKey).run W.env s).state) ↔
      UpToDate W s ∨ Repairable W useLastResortKey s := by
  rw [settled_iff]
  by_cases upToDate : UpToDate W s
  · have observes : Observes RefreshCall.Asks W.env
        (updatePreKeyBundle W.sha256 kind useLastResortKey) s (.ret ()) :=
      updatePreKeyBundle_of_upToDate upToDate
    rw [observes.state]
    exact iff_of_true upToDate (.inl upToDate)
  · obtain ⟨refreshed, state, -⟩ := updatePreKeyBundle_of_not_upToDate upToDate returned
    rw [state, (refreshPreKeys_yields () refreshed).upToDate_iff_repairable apart,
      or_iff_right upToDate]

end Again

namespace Sample

/-- A server that counts as far as it can, and a store that lists its oldest key first. -/
def keyWorld : KeyWorld byteCurve Unit where
  sha256 bytes := bigEndian 32 (ofBigEndian bytes)
  generateKeyPair _ := ((9 : UInt8), ())
  generateKyberKey _ _ := (.ok ⟨[1], [2], [3]⟩, ())
  calculateSignature _ message _ := (.ok message, ())
  now _ := (1700000000000, ())
  nextPreKeyId store := .ofNat store.preKeys.length
  nextSignedPreKeyId store := .ofNat store.signedPreKeys.length
  nextPqPreKeyId store := .ofNat (store.kyberPreKeys.length + store.lastResortKeys.length)
  listed := List.reverse
  listed_perm := List.reverse_perm
  counted count n := .ofNat (min (count.toNat + n) (2 ^ 32 - 1))
  counted_ge count n small := by
    rw [UInt32.toNat_ofNat_of_lt' (Nat.lt_of_le_of_lt (Nat.min_le_right ..) (by decide))]
    omega

/-- A device that was just registered: no keys but the identity. -/
def registeredDevice : KeyState byteCurve Unit where
  store := ⟨byteKeyPair, [], [], [], []⟩
  server := ⟨byteKeyPair.publicKey, none, none, .ok ⟨0, 0⟩, none⟩
  random := ()

/-- One with a last resort key that the server has lost. -/
def forgottenDevice : KeyState byteCurve Unit :=
  { registeredDevice with store.lastResortKeys := [⟨5, ⟨[4], [5], [6]⟩⟩] }

end Sample

open Sample AccountManager

theorem forgottenDevice_settled :
    Settled ((updatePreKeyBundle keyWorld.sha256 .aci false).run keyWorld.env
      ((updatePreKeyBundle keyWorld.sha256 .aci false).run keyWorld.env
        forgottenDevice).state) := by
  have apart : keyWorld.TellsApart forgottenDevice := by
    intro signed first firstKept latest latestKept _
    rw [List.mem_singleton.mp firstKept, List.mem_singleton.mp latestKept]
  have returned : ((updatePreKeyBundle keyWorld.sha256 .aci false).run keyWorld.env
      forgottenDevice).exit = .ret () := by decide +kernel
  exact (updatePreKeyBundle_again_iff keyWorld forgottenDevice .aci false apart returned).mpr
    (.inr ⟨_, rfl, rfl, rfl⟩)

/-- Without a last resort key the check never succeeds, and none is made unless it is asked for. -/
theorem registeredDevice_refreshed_again :
    ((updatePreKeyBundle keyWorld.sha256 .aci false).run keyWorld.env
      registeredDevice).exit = .ret () ∧
    ¬ Settled ((updatePreKeyBundle keyWorld.sha256 .aci false).run keyWorld.env
      ((updatePreKeyBundle keyWorld.sha256 .aci false).run keyWorld.env
        registeredDevice).state) := by
  have returned : ((updatePreKeyBundle keyWorld.sha256 .aci false).run keyWorld.env
      registeredDevice).exit = .ret () := by decide +kernel
  refine ⟨returned, fun settled => ?_⟩
  have upToDate := settled_iff.mp settled
  have outdated : ¬ UpToDate keyWorld registeredDevice := by
    rintro ⟨⟨_, _, ⟨⟩, -⟩, -⟩
  obtain ⟨refreshed, state, -⟩ := updatePreKeyBundle_of_not_upToDate outdated returned
  rw [state, (refreshPreKeys_yields () refreshed).upToDate_iff_repairable nofun] at upToDate
  cases upToDate

end SignalService
