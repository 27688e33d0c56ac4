import SignalService.Attachments.Resume
import SignalService.Reference
import SignalService.Revision.Register
import SignalService.StorageService.Refinement

/-! # The devices of an account

Any number of devices share the storage of one account. Each fetches, reads and writes when it
likes, and builds what it writes on the last manifest that it fetched or wrote, as it is told to.
Answers may be lost on the way, before or after the server carried out what they answer.
-/

namespace SignalService

open Effect Prog
open Account (Ask Reply Does Unanswered)

variable {U : UrlSyntax} {StorageRecord Device : Type}

structure Devices (Device : Type) where
  stored : StoredAccount
  held : Device → Option ManifestRecord

/-- What a device asked for, and what came of it. -/
structure Asked (Device StorageRecord : Type) where
  device : Device
  question : Ask
  result : Exit StorageServiceError (Reply StorageRecord)

namespace Asked

/-- The manifest that a device has from now on. -/
def learned : Ask → Exit StorageServiceError (Reply StorageRecord) → Option ManifestRecord
  | _, .ret (.manifest record) => some record
  | .writeItems manifest _ _, .ret .written => some manifest
  | _, _ => none

/-- The manifest that a device was told is written. -/
def told (asked : Asked Device StorageRecord) : Option ManifestRecord :=
  match asked.question, asked.result with
  | .writeItems manifest _ _, .ret .written => some manifest
  | _, _ => none

end Asked

namespace Devices

variable [DecidableEq Device] (X : Externals) (S : StorageExternals StorageRecord)
  (W : StorageWire U) (handles : Device → StorageService U) (server : StorageServer U)

def learn (devices : Devices Device) (stored : StoredAccount) (device : Device) :
    Option ManifestRecord → Devices Device
  | some record => ⟨stored, Function.update devices.held device (some record)⟩
  | none => ⟨stored, devices.held⟩

inductive Step : Devices Device → Asked Device StorageRecord → Devices Device → Prop where
  | ask {devices : Devices Device} {device : Device} {question : Ask}
      {result : Exit StorageServiceError (Reply StorageRecord)} {stored' : StoredAccount} :
      StorageService.Keeps S (devices.held device) question →
      Happens server.world ((handles device).ask X S W question) devices.stored result stored' →
      Step devices ⟨device, question, result⟩
        (devices.learn stored' device (Asked.learned question result))

inductive Run : Devices Device → List (Asked Device StorageRecord) → Devices Device → Prop where
  | nil (devices : Devices Device) : Run devices [] devices
  | cons {devices after devices' : Devices Device} {asked : Asked Device StorageRecord}
      {log : List (Asked Device StorageRecord)} :
      Step X S W handles server devices asked after → Run after log devices' →
      Run devices (asked :: log) devices'

end Devices

namespace Account

variable (S : StorageExternals StorageRecord)

/-- What the account does when it is asked by one device after the other. -/
inductive Run : Account → List (Asked Device StorageRecord) → Account → Prop where
  | nil (account : Account) : Run account [] account
  | cons {account after account' : Account} {asked : Asked Device StorageRecord}
      {log : List (Asked Device StorageRecord)} :
      Does S account asked.question asked.result after → Run after log account' →
      Run account (asked :: log) account'

/-- Every identifier of the manifest has its record. -/
def Indexed (account : Account) : Prop :=
  ∀ id ∈ account.manifest.identifiers, (account.records id.raw).isSome = true

theorem Indexed.write {account : Account} (indexed : account.Indexed) {manifest : ManifestRecord}
    {insertRecords : List (Bytes × Bytes)} {deleteKeys : List Bytes}
    (builds : StorageService.Extends S account.manifest manifest insertRecords deleteKeys) :
    (account.write manifest insertRecords deleteKeys).Indexed := by
  intro id member
  simp only [Account.write]
  cases found : insertRecords.lookup id.raw with
  | some record => rfl
  | none =>
      rcases builds.identifiers id member with inserted | ⟨kept, listed⟩
      · obtain ⟨record, inserted, same⟩ := List.mem_map.mp inserted
        have other := List.lookup_eq_none_iff.mp found record inserted
        simp [same] at other
      · obtain ⟨before, listed, same⟩ := List.mem_map.mp listed
        rw [if_neg kept, ← same]
        exact indexed before listed

end Account

def ManifestRecord.revision (manifest : ManifestRecord) : Nat := manifest.version.toNat

namespace Devices

variable {X : Externals} {S : StorageExternals StorageRecord} {W : StorageWire U}
  {handles : Device → StorageService U} {server : StorageServer U}
  {devices devices' : Devices Device} {storageKey : StorageServiceKey} {account : Account}

/-- The devices agree with the account: what they hold was its manifest once, under its ikm. -/
structure Agrees (S : StorageExternals StorageRecord) (storageKey : StorageServiceKey)
    (devices : Devices Device) (account : Account) : Prop where
  represents : StorageService.Represents S storageKey devices.stored account
  seen : Revision.Seen ManifestRecord.revision ⟨account.manifest, devices.held⟩
  carries : ∀ device, ∀ base ∈ devices.held device, base.recordIkm = account.manifest.recordIkm

/-- The replacements of the manifest that come of one question. -/
structure Replaces (S : StorageExternals StorageRecord) (asked : Asked Device StorageRecord)
    (links : List (ManifestRecord × ManifestRecord)) : Prop where
  written : ∀ link ∈ links, ∃ insertRecords deleteKeys,
    asked.question = .writeItems link.2 insertRecords deleteKeys ∧
      StorageService.Extends S link.1 link.2 insertRecords deleteKeys
  told : asked.told.toList.Sublist (links.map Prod.snd)

theorem replaces_nil {asked : Asked Device StorageRecord} (untold : asked.told = none) :
    Replaces S asked [] := by
  refine ⟨by simp, ?_⟩
  rw [untold]
  exact List.Sublist.refl _

theorem replaces_link {asked : Asked Device StorageRecord} {base manifest : ManifestRecord}
    {insertRecords : List (Bytes × Bytes)} {deleteKeys : List Bytes}
    (question : asked.question = .writeItems manifest insertRecords deleteKeys)
    (builds : StorageService.Extends S base manifest insertRecords deleteKeys)
    (told : asked.told.toList.Sublist [manifest]) : Replaces S asked [(base, manifest)] := by
  refine ⟨?_, told⟩
  intro link member
  obtain rfl := List.mem_singleton.mp member
  exact ⟨insertRecords, deleteKeys, question, builds⟩

/-- A write that follows was built on the manifest that is there, and keeps its ikm. -/
theorem Agrees.built (agrees : Agrees S storageKey devices account) {device : Device}
    {base manifest : ManifestRecord} {insertRecords : List (Bytes × Bytes)}
    {deleteKeys : List Bytes} (holds : base ∈ devices.held device)
    (builds : StorageService.Extends S base manifest insertRecords deleteKeys)
    (follows : manifest.version.toNat = account.manifest.version.toNat + 1) :
    base = account.manifest ∧
      ∀ link ∈ [(base, manifest)], link.2.recordIkm = account.manifest.recordIkm := by
  refine ⟨(agrees.seen.taken_iff ⟨holds, builds.version⟩).mp follows, ?_⟩
  intro link member
  obtain rfl := List.mem_singleton.mp member
  exact builds.recordIkm.trans (agrees.carries device base holds)

theorem learned_unanswered {question : Ask}
    {result : Exit StorageServiceError (Reply StorageRecord)}
    (unanswered : Unanswered result) : Asked.learned question result = none := by
  cases result with
  | ret reply => exact unanswered.elim
  | throw e => cases question <;> rfl
  | panic m => cases question <;> rfl

theorem told_unanswered {device : Device} {question : Ask}
    {result : Exit StorageServiceError (Reply StorageRecord)} (unanswered : Unanswered result) :
    (⟨device, question, result⟩ : Asked Device StorageRecord).told = none := by
  cases result with
  | ret reply => exact unanswered.elim
  | throw e => cases question <;> rfl
  | panic m => cases question <;> rfl

/-- What one question does to the manifests that are held and to the one that is there. -/
structure Steps (S : StorageExternals StorageRecord) (storageKey : StorageServiceKey)
    [DecidableEq Device] (devices : Devices Device) (account : Account)
    (asked : Asked Device StorageRecord) (devices' : Devices Device) (account' : Account)
    (events : List (Revision.Event Device ManifestRecord)) : Prop where
  does : Does S account asked.question asked.result account'
  represents : StorageService.Represents S storageKey devices'.stored account'
  run : Revision.Run ManifestRecord.revision ⟨account.manifest, devices.held⟩ events
    ⟨account'.manifest, devices'.held⟩
  recordIkm : ∀ link ∈ Revision.taken events, link.2.recordIkm = account.manifest.recordIkm
  replaces : Replaces S asked (Revision.taken events)
  indexed : account.Indexed → account'.Indexed

variable [DecidableEq Device]

theorem Agrees.step (serves : ∀ device, server.Serves W (handles device))
    (keys : ∀ device, (handles device).storageKey = storageKey) (decrypts : S.Decrypts)
    {asked : Asked Device StorageRecord} (agrees : Agrees S storageKey devices account)
    (step : Step X S W handles server devices asked devices') :
    ∃ account' events, Steps S storageKey devices account asked devices' account' events := by
  cases step with
  | @ask device question result stored' keeps happens =>
      have represents := agrees.represents
      rw [← keys device] at represents
      obtain ⟨account', does, represents'⟩ := StorageService.ask_does (serves device) decrypts
        represents keeps (agrees.carries device) happens
      rw [keys device] at represents'
      cases does with
      | failed unanswered =>
          refine ⟨account, [], .failed unanswered, ?_, ?_, nofun, ?_, id⟩
          · rw [learned_unanswered unanswered]
            exact represents'
          · rw [learned_unanswered unanswered]
            exact .nil _
          · exact replaces_nil (told_unanswered unanswered)
      | manifest =>
          exact ⟨account, [.look device], .manifest account, represents', .single (.look _ device),
            nofun, replaces_nil rfl, id⟩
      | unchanged =>
          exact ⟨account, [], .unchanged account, represents', .nil _, nofun, replaces_nil rfl, id⟩
      | changed other =>
          exact ⟨account, [.look device], .changed other, represents', .single (.look _ device),
            nofun, replaces_nil rfl, id⟩
      | items listed =>
          exact ⟨account, [], .items listed, represents', .nil _, nofun, replaces_nil rfl, id⟩
      | @written manifest insertRecords deleteKeys follows =>
          obtain ⟨base, holds, builds⟩ := keeps
          obtain ⟨rfl, recordIkm⟩ := agrees.built holds builds follows
          exact ⟨_, [.take device account.manifest manifest true], .written follows, represents',
            .single (.told ⟨holds, builds.version⟩ follows), recordIkm,
            replaces_link rfl builds (.refl _), fun indexed => indexed.write S builds⟩
      | @untold manifest insertRecords deleteKeys _ follows unanswered =>
          obtain ⟨base, holds, builds⟩ := keeps
          obtain ⟨rfl, recordIkm⟩ := agrees.built holds builds follows
          refine ⟨_, [.take device account.manifest manifest false], .untold follows unanswered,
            ?_, ?_, recordIkm, replaces_link rfl builds ?_, fun indexed => indexed.write S builds⟩
          · rw [learned_unanswered unanswered]
            exact represents'
          · rw [learned_unanswered unanswered]
            exact .single (.untold ⟨holds, builds.version⟩ follows)
          · rw [told_unanswered unanswered]
            exact List.nil_sublist _
      | @conflict manifest insertRecords deleteKeys stale =>
          obtain ⟨base, holds, builds⟩ := keeps
          exact ⟨account, [.refuse device base manifest], .conflict stale, represents',
            .single (.refuse ⟨holds, builds.version⟩ stale), nofun, replaces_nil rfl, id⟩

/-! ## Runs -/

theorem Agrees.run (serves : ∀ device, server.Serves W (handles device))
    (keys : ∀ device, (handles device).storageKey = storageKey) (decrypts : S.Decrypts)
    {log : List (Asked Device StorageRecord)} (agrees : Agrees S storageKey devices account)
    (run : Run X S W handles server devices log devices') :
    ∃ account' events, Account.Run S account log account' ∧
      Agrees S storageKey devices' account' ∧
      Revision.Run ManifestRecord.revision ⟨account.manifest, devices.held⟩ events
        ⟨account'.manifest, devices'.held⟩ ∧
      (∀ link ∈ Revision.taken events, ∃ asked ∈ log, ∃ insertRecords deleteKeys,
        asked.question = .writeItems link.2 insertRecords deleteKeys ∧
          StorageService.Extends S link.1 link.2 insertRecords deleteKeys) ∧
      (log.filterMap Asked.told).Sublist ((Revision.taken events).map Prod.snd) ∧
      (account.Indexed → account'.Indexed) := by
  induction run generalizing account with
  | nil devices =>
      exact ⟨account, [], .nil account, agrees, .nil _, by simp [Revision.taken],
        List.Sublist.refl _, id⟩
  | @cons devices after devices' asked log step _ ih =>
      obtain ⟨middle, events, steps⟩ := agrees.step serves keys decrypts step
      obtain ⟨carries, same⟩ := steps.run.held (Q := (·.recordIkm = account.manifest.recordIkm))
        agrees.carries rfl steps.recordIkm
      have agreesAfter : Agrees S storageKey after middle :=
        ⟨steps.represents, agrees.seen.run steps.run, fun device base holds =>
          (carries device base holds).trans same.symm⟩
      obtain ⟨account', events', ran, agrees', run', written, told, indexed⟩ := ih agreesAfter
      refine ⟨account', events ++ events', .cons steps.does ran, agrees', steps.run.append run',
        ?_, ?_, indexed ∘ steps.indexed⟩
      · intro link member
        rw [Revision.taken_append] at member
        rcases List.mem_append.mp member with first | later
        · obtain ⟨insertRecords, deleteKeys, asks, builds⟩ := steps.replaces.written link first
          exact ⟨asked, List.mem_cons_self, insertRecords, deleteKeys, asks, builds⟩
        · obtain ⟨other, found, rest⟩ := written link later
          exact ⟨other, List.mem_cons_of_mem _ found, rest⟩
      · rw [Revision.taken_append, List.map_append]
        have split : (asked :: log).filterMap Asked.told =
            asked.told.toList ++ log.filterMap Asked.told := by
          cases answer : asked.told <;> simp [answer]
        rw [split]
        exact steps.replaces.told.append told

/-- Any number of devices, asking in any order, of a server whose answers may be lost: what comes
    of it is what the account would have done, the server has that account, and every identifier
    of its manifest has its record. -/
theorem devices_refine_account (serves : ∀ device, server.Serves W (handles device))
    (keys : ∀ device, (handles device).storageKey = storageKey) (decrypts : S.Decrypts)
    {stored : StoredAccount} (represents : StorageService.Represents S storageKey stored account)
    (indexed : account.Indexed) {log : List (Asked Device StorageRecord)}
    (run : Run X S W handles server ⟨stored, fun _ => none⟩ log devices') :
    ∃ account', Account.Run S account log account' ∧
      StorageService.Represents S storageKey devices'.stored account' ∧ account'.Indexed := by
  have agrees : Agrees S storageKey (⟨stored, fun _ => none⟩ : Devices Device) account :=
    ⟨represents, nofun, nofun⟩
  obtain ⟨account', -, ran, agrees', -, -, -, kept⟩ := agrees.run serves keys decrypts run
  exact ⟨account', ran, agrees'.represents, kept indexed⟩

/-- The manifest that is there at last is linked to the first by writes of which each was built
    on the one before it; every write that a device was told is made is among them, in order, and
    the version counts them. -/
theorem no_write_is_lost (serves : ∀ device, server.Serves W (handles device))
    (keys : ∀ device, (handles device).storageKey = storageKey) (decrypts : S.Decrypts)
    {stored : StoredAccount} (represents : StorageService.Represents S storageKey stored account)
    {log : List (Asked Device StorageRecord)}
    (run : Run X S W handles server ⟨stored, fun _ => none⟩ log devices') :
    ∃ links last, StorageService.decryptManifest S storageKey devices'.stored.manifest = .ok last ∧
      Revision.Linked account.manifest links last ∧
      (∀ link ∈ links, ∃ asked ∈ log, ∃ insertRecords deleteKeys,
        asked.question = .writeItems link.2 insertRecords deleteKeys ∧
          StorageService.Extends S link.1 link.2 insertRecords deleteKeys) ∧
      (log.filterMap Asked.told).Sublist (links.map Prod.snd) ∧
      last.version.toNat = account.manifest.version.toNat + links.length := by
  have agrees : Agrees S storageKey (⟨stored, fun _ => none⟩ : Devices Device) account :=
    ⟨represents, nofun, nofun⟩
  obtain ⟨account', events, -, agrees', ran, written, told, -⟩ :=
    agrees.run serves keys decrypts run
  exact ⟨Revision.taken events, account'.manifest, agrees'.represents.manifest,
    agrees.seen.linked ran, written, told, ran.revision_eq⟩

end Devices

namespace StorageService.Sample

open SignalService.Sample (plainUrls cdnService cdnExternals zeros)

def storageKey : StorageServiceKey := ⟨Vector.replicate 32 7⟩

def firstManifest : ManifestRecord := ⟨1, 1, [], [4]⟩

def secondManifest : ManifestRecord := ⟨2, 1, [⟨[0xAB], 1⟩], [4]⟩

def emptyManifest : ManifestRecord := ⟨2, 2, [], [4]⟩

def syncExternals : StorageExternals Unit := { externals with
  encodeManifestRecord := fun record =>
    if record = firstManifest then [1] else if record = secondManifest then [2] else [3]
  decodeManifestRecord := fun bytes =>
    if bytes = [1] then some firstManifest
    else if bytes = [2] then some secondManifest
    else some emptyManifest }

def blob (key : AesKey) (plaintext : Bytes) : Bytes :=
  (zeros 12).val ++ (syncExternals.encryptInoutDetached key (Vector.replicate 12 0) plaintext).1 ++
    (syncExternals.encryptInoutDetached key (Vector.replicate 12 0) plaintext).2.toList

def sealedAt (record : ManifestRecord) : StorageManifest :=
  ⟨record.version, blob (manifestKey syncExternals storageKey record.version)
    (syncExternals.encodeManifestRecord record)⟩

def newItem : StorageItem := ⟨[0xAB], blob (itemKey syncExternals storageKey [0xAB] (some [4])) []⟩

def addition : WriteOperation := ⟨some (sealedAt secondManifest), [newItem], [], false⟩

def republication : WriteOperation := ⟨some (sealedAt emptyManifest), [], [], false⟩

def storageWire : StorageWire plainUrls where
  toUrlParsers := cdnExternals.toUrlParsers
  encodeReadOperation _ := [3]
  encodeWriteOperation operation :=
    if operation = addition then [1] else if operation = republication then [2] else [3]
  decodeStorageManifest bytes := if bytes = [1] then some (sealedAt firstManifest) else none
  decodeStorageItems _ := none
  jsonStorageAuth _ := none

def handle : StorageService plainUrls := ⟨cdnService, ⟨"user", "pass"⟩, storageKey⟩

/-- Any server that keeps to what is said of it. -/
def anyServer : StorageServer plainUrls := fun http stored answer stored' =>
  ∀ request, handle.builder storageWire request = .ok (some http) →
    Handled storageWire request stored answer stored'

def storedFirst : StoredAccount := ⟨sealedAt firstManifest, fun _ => none⟩

def storedSecond : StoredAccount :=
  ⟨sealedAt secondManifest, fun id => if id = [0xAB] then some newItem.value else none⟩

def syncLog : List (Asked Bool Unit) :=
  [⟨true, .manifest, .ret (.manifest firstManifest)⟩,
    ⟨false, .manifest, .ret (.manifest firstManifest)⟩,
    ⟨true, .writeItems secondManifest [([0xAB], [])] [], .ret .written⟩,
    ⟨false, .writeItems emptyManifest [] [], .throw .conflict⟩]

theorem syncExternals_decrypts : syncExternals.Decrypts := externals_decrypts

theorem storedFirst_represents :
    Represents syncExternals storageKey storedFirst ⟨firstManifest, fun _ => none⟩ :=
  ⟨by rfl, rfl, fun _ => .none⟩

/-- The requests of the log are told by their bodies, and the one without by its path. -/
theorem request_of_body {request : StorageRequest} {http : HttpRequest plainUrls}
    (built : handle.builder storageWire request = .ok (some http)) :
    (http.body = none → http.url.path = "/v1/storage/manifest" → request = .manifest) ∧
      (http.body = some [1] → request = .write addition) ∧
      (http.body = some [2] → request = .write republication) := by
  cases request with
  | manifest =>
      cases built
      exact ⟨fun _ _ => rfl, nofun, nofun⟩
  | manifestIfChanged version =>
      cases built
      refine ⟨fun _ path => ?_, nofun, nofun⟩
      have length := congrArg String.length path
      have longer : ("/v1/storage/manifest/version/" ++ toString version.toNat).length = 20 :=
        length
      rw [String.length_append] at longer
      have start : "/v1/storage/manifest/version/".length = 29 := by decide
      omega
  | read keys =>
      have sent : http.body = some [3] := by
        cases built
        rfl
      exact ⟨by simp [sent], by simp [sent], by simp [sent]⟩
  | write operation =>
      have sent : http.body = some (storageWire.encodeWriteOperation operation) := by
        cases built
        rfl
      refine ⟨by simp [sent], ?_, ?_⟩
      · intro body
        rw [sent] at body
        simp only [storageWire, Option.some.injEq] at body
        split at body
        case isTrue same => rw [same]
        case isFalse =>
          split at body <;> cases body
      · intro body
        rw [sent] at body
        simp only [storageWire, Option.some.injEq] at body
        split at body
        case isTrue => cases body
        case isFalse =>
          split at body
          case isTrue same => rw [same]
          case isFalse => cases body

theorem manifest_happens {stored : StoredAccount}
    (same : stored.manifest = sealedAt firstManifest) :
    Happens anyServer.world (handle.ask reference syncExternals storageWire .manifest)
      stored (.ret (.manifest firstManifest)) stored := by
  refine .call (r := .ok ⟨200, [], some [1]⟩) (m := stored) ?_ (.done _ _)
  intro request built
  obtain rfl := (request_of_body built).1 rfl rfl
  exact .manifest rfl (same ▸ rfl)

theorem addition_happens :
    Happens anyServer.world (handle.ask reference syncExternals storageWire
      (.writeItems secondManifest [([0xAB], [])] [])) storedFirst (.ret .written) storedSecond := by
  refine .call (c := HttpCall.fillBytes 12) (r := zeros 12) (m := storedFirst) rfl ?_
  refine .call (c := HttpCall.fillBytes 12) (r := zeros 12) (m := storedFirst) rfl ?_
  refine .call (r := .ok ⟨200, [], some []⟩) (m := storedSecond) ?_ (.done _ _)
  intro request built
  obtain rfl := (request_of_body built).2.1 rfl
  refine .written rfl ⟨rfl, rfl, ?_, nofun, ?_⟩
  · intro item member
    obtain rfl := List.mem_singleton.mp member
    rfl
  · intro id _ absent
    exact if_neg fun same => absent newItem List.mem_cons_self same.symm

theorem republication_happens :
    Happens anyServer.world (handle.ask reference syncExternals storageWire
      (.writeItems emptyManifest [] [])) storedSecond (.throw .conflict) storedSecond := by
  refine .call (c := HttpCall.fillBytes 12) (r := zeros 12) (m := storedSecond) rfl ?_
  refine .call (r := .ok ⟨409, [], some []⟩) (m := storedSecond) ?_ (.done _ _)
  intro request built
  obtain rfl := (request_of_body built).2.2 rfl
  refine .conflict rfl ?_
  rintro manifest ⟨⟩
  exact (by decide : ¬ (2 : Nat) = 2 + 1)

theorem secondManifest_extends :
    Extends syncExternals firstManifest secondManifest [([0xAB], [])] [] := by
  refine ⟨rfl, rfl, rfl, ?_, ?_⟩
  · intro record member
    obtain rfl := List.mem_singleton.mp member
    rfl
  · intro id member
    obtain rfl := List.mem_singleton.mp member
    exact .inl List.mem_cons_self

theorem emptyManifest_extends : Extends syncExternals firstManifest emptyManifest [] [] :=
  ⟨rfl, rfl, rfl, nofun, nofun⟩

/-- Two devices read the manifest, and both write on top of it. -/
theorem syncLog_run : ∃ devices', Devices.Run reference syncExternals storageWire (fun _ => handle)
    anyServer ⟨storedFirst, fun _ => none⟩ syncLog devices' := by
  refine ⟨_, .cons (.ask trivial (manifest_happens rfl)) <|
    .cons (.ask trivial (manifest_happens rfl)) <|
    .cons (.ask ⟨firstManifest, rfl, secondManifest_extends⟩ addition_happens) <|
    .cons (.ask ⟨firstManifest, rfl, emptyManifest_extends⟩ republication_happens) <| .nil _⟩

end StorageService.Sample

open StorageService.Sample in
/-- Two devices read the manifest and write on top of it: one of them adds a record. -/
theorem two_devices_refine_account : ∃ account',
    Account.Run syncExternals ⟨firstManifest, fun _ => none⟩ syncLog account' ∧
      account'.Indexed := by
  obtain ⟨devices', run⟩ := syncLog_run
  obtain ⟨account', ran, -, indexed⟩ := Devices.devices_refine_account
    (fun _ _ _ _ _ _ built served => served _ built) (fun _ => rfl) syncExternals_decrypts
    storedFirst_represents (fun _ member => absurd member List.not_mem_nil) run
  exact ⟨account', ran, indexed⟩

open StorageService.Sample in
theorem two_devices_lose_no_write : ∃ links last,
    Revision.Linked firstManifest links last ∧
      [secondManifest].Sublist (links.map Prod.snd) ∧ last.version.toNat = 1 + links.length := by
  obtain ⟨devices', run⟩ := syncLog_run
  obtain ⟨links, last, -, linked, -, told, version⟩ := Devices.no_write_is_lost
    (fun _ _ _ _ _ _ built served => served _ built) (fun _ => rfl) syncExternals_decrypts
    storedFirst_represents run
  exact ⟨links, last, linked, told, version⟩

end SignalService
