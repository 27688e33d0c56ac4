import SignalService.StorageService.Account

/-! # The storage service and the account

What a handle is asked for takes effect with its one request. Whatever the server answers, what
comes of it is what the account would have done, and what the server has afterwards is the
account, sealed.
-/

namespace SignalService

open Effect Prog
open Account (Unanswered)

variable {U : UrlSyntax} {StorageRecord : Type}

namespace StorageService

variable {X : Externals} {S : StorageExternals StorageRecord} {W : StorageWire U}
  {handle : StorageService U} {server : StorageServer U} {stored stored' : StoredAccount}
  {account : Account} {base : ManifestRecord}

/-! ## Requests -/

theorem not_inconclusive {response : HttpResponse}
    (success : response.status ∈ [200, 201, 202, 204]) :
    ¬ Inconclusive (.ok response) := by
  intro inconclusive
  exact inconclusive (List.mem_append_left [409] success)

theorem send_handled (serves : server.Serves W handle) {request : StorageRequest}
    {x : Exit ServiceError HttpResponse}
    (happens : Happens server.world (handle.send W request) stored x stored') :
    (stored' = stored ∧ ∀ response, x ≠ .ret response) ∨
      ∃ answer, Handled W request stored answer stored' ∧ x = .ofExcept answer := by
  unfold send at happens
  cases built : handle.builder W request with
  | error e =>
      rw [built] at happens
      obtain ⟨rfl, rfl⟩ := happens_done.mp happens
      exact .inl ⟨rfl, nofun⟩
  | ok builder =>
      rw [built] at happens
      cases builder with
      | none =>
          obtain ⟨rfl, rfl⟩ := happens_done.mp happens
          exact .inl ⟨rfl, nofun⟩
      | some http =>
          obtain ⟨answer, after, answered, rest⟩ := happens_call.mp happens
          obtain ⟨rfl, rfl⟩ := happens_done.mp rest
          exact .inr ⟨answer, serves _ _ _ _ _ built answered, rfl⟩

/-- A request that is answered with a code of success, or that fails. -/
theorem sendOk_handled (serves : server.Serves W handle) {request : StorageRequest}
    {x : Exit ServiceError HttpResponse} (reads : request.Reads)
    (happens : Happens server.world (handle.sendOk X W request) stored x stored') :
    stored' = stored ∧ ((∀ response, x ≠ .ret response) ∨
      ∃ response, x = .ret response ∧ response.status ∈ [200, 201, 202, 204] ∧
        Handled W request stored (.ok response) stored) := by
  have kept (answer : Except ServiceError HttpResponse)
      (handled : Handled W request stored answer stored') : stored' = stored := by
    cases handled with
    | failed _ carried =>
        rcases carried with same | carried
        · exact same
        · exact reads.carried carried
    | manifest => rfl
    | unchanged => rfl
    | changed => rfl
    | read => rfl
    | written => exact reads.elim
    | conflict => rfl
  rcases happens_bind.mp happens with ⟨e, threw, rfl⟩ | ⟨m, panicked, rfl⟩ |
    ⟨response, after, sent, decoded⟩
  · rcases send_handled serves threw with ⟨same, -⟩ | ⟨answer, handled, -⟩
    · exact ⟨same, .inl nofun⟩
    · exact ⟨kept answer handled, .inl nofun⟩
  · rcases send_handled serves panicked with ⟨same, -⟩ | ⟨answer, handled, -⟩
    · exact ⟨same, .inl nofun⟩
    · exact ⟨kept answer handled, .inl nofun⟩
  · obtain ⟨rfl, rfl⟩ := happens_done.mp decoded
    rcases send_handled serves sent with ⟨-, failed⟩ | ⟨answer, handled, answered⟩
    · exact absurd rfl (failed response)
    · have same := kept answer handled
      refine ⟨same, ?_⟩
      obtain rfl := Exit.ofExcept_eq_ret.mp answered.symm
      rw [same] at handled
      cases accepted : response.baselineDecode X with
      | ret other =>
          obtain ⟨rfl, success⟩ := HttpResponse.baselineDecode_eq_ret accepted
          exact .inr ⟨_, rfl, success, handled⟩
      | throw e => exact .inl nofun
      | panic m => exact .inl nofun

/-- A fetch fails, and so does what it is for, or it goes on with an answer. -/
theorem fetch_handled (serves : server.Serves W handle) {request : StorageRequest} {α : Type}
    {f : HttpResponse → HttpAsync U StorageServiceError α} {y : Exit StorageServiceError α}
    (happens : Happens server.world
      (((handle.sendOk X W request).mapErr .service).bind f) stored y stored')
    (reads : request.Reads) :
    (stored' = stored ∧ Unanswered y) ∨ ∃ response, response.status ∈ [200, 201, 202, 204] ∧
      Handled W request stored (.ok response) stored ∧
      Happens server.world (f response) stored y stored' := by
  rcases happens_bind.mp happens with ⟨e, failed, rfl⟩ | ⟨m, failed, rfl⟩ |
    ⟨response, after, fetched, rest⟩
  · obtain ⟨x, ran, ended⟩ := happens_mapErr.mp failed
    obtain ⟨same, -⟩ := sendOk_handled serves reads ran
    cases x <;> cases ended
    exact .inl ⟨same, trivial⟩
  · obtain ⟨x, ran, ended⟩ := happens_mapErr.mp failed
    obtain ⟨same, -⟩ := sendOk_handled serves reads ran
    exact .inl ⟨same, trivial⟩
  · obtain ⟨x, ran, ended⟩ := happens_mapErr.mp fetched
    obtain rfl := Exit.mapErr_eq_ret.mp ended.symm
    obtain ⟨rfl, failed | ⟨_, got, success, handled⟩⟩ := sendOk_handled serves reads ran
    · exact absurd rfl (failed response)
    · cases got
      exact .inr ⟨response, success, handled, rest⟩

/-! ## Reading -/

/-- What was read from an answer is what the rest is given. -/
theorem decoded_bind {ε α β : Type} {value : Except ServiceError α} {a : α}
    {f : α → HttpAsync U ε β} {g : ServiceError → ε} {y : Exit ε β} (ok : value = .ok a)
    (happens : Happens server.world (((Prog.ofExcept value).mapErr g).bind f) stored y stored') :
    Happens server.world (f a) stored y stored' := by
  subst ok
  exact happens

theorem manifest_handled (serves : server.Serves W handle)
    (represents : Represents S handle.storageKey stored account)
    {y : Exit StorageServiceError ManifestRecord}
    (happens : Happens server.world (handle.manifest X S W) stored y stored') :
    stored' = stored ∧ (Unanswered y ∨ y = .ret account.manifest) := by
  rcases fetch_handled serves happens trivial with ⟨same, unanswered⟩ |
    ⟨response, success, handled, rest⟩
  · exact ⟨same, .inl unanswered⟩
  · cases handled with
    | failed inconclusive => exact absurd inconclusive (not_inconclusive success)
    | manifest _ decoded =>
        have opened := decoded_bind decoded rest
        rw [represents.manifest] at opened
        obtain ⟨rfl, rfl⟩ := happens_done.mp opened
        exact ⟨rfl, .inr rfl⟩

theorem manifestIfChanged_handled (serves : server.Serves W handle) {version : UInt64}
    (represents : Represents S handle.storageKey stored account)
    {y : Exit StorageServiceError (Option ManifestRecord)}
    (happens : Happens server.world (handle.manifestIfChanged X S W version) stored y stored') :
    stored' = stored ∧ (Unanswered y ∨
      y = .ret (if version = account.manifest.version then none else some account.manifest)) := by
  rcases fetch_handled serves happens trivial with ⟨same, unanswered⟩ |
    ⟨response, success, handled, rest⟩
  · exact ⟨same, .inl unanswered⟩
  · cases handled with
    | failed inconclusive => exact absurd inconclusive (not_inconclusive success)
    | unchanged status =>
        rw [if_pos status] at rest
        obtain ⟨rfl, rfl⟩ := happens_done.mp rest
        rw [if_pos represents.version]
        exact ⟨rfl, .inr rfl⟩
    | changed other status decoded =>
        rw [if_neg (by simp [status])] at rest
        have opened := decoded_bind decoded rest
        rw [represents.manifest] at opened
        obtain ⟨rfl, rfl⟩ := happens_done.mp opened
        rw [if_neg (represents.version ▸ other)]
        exact ⟨rfl, .inr rfl⟩

theorem decryptItems_ok {storageKey : StorageServiceKey} {recordIkm : Option Bytes}
    {items : List StorageItem}
    (opened : ∀ item ∈ items, ∃ decrypted,
      decryptItem S storageKey item recordIkm = .ok decrypted) :
    ∃ all, decryptItems S storageKey recordIkm items = .ok all ∧ ∀ decrypted, decrypted ∈ all ↔
      ∃ item ∈ items, decryptItem S storageKey item recordIkm = .ok decrypted := by
  induction items with
  | nil => exact ⟨[], rfl, by simp⟩
  | cons item items ih =>
      obtain ⟨first, ok⟩ := opened item List.mem_cons_self
      obtain ⟨others, rest, mem⟩ := ih fun item member =>
        opened item (List.mem_cons_of_mem _ member)
      refine ⟨first :: others, ?_, ?_⟩
      · unfold decryptItems
        rw [ok, rest]
        rfl
      · intro decrypted
        rw [List.mem_cons, List.exists_mem_cons_iff, mem, ok, Except.ok.injEq, eq_comm]

/-- The items of a represented account are opened with the ikm of its manifest. -/
theorem Represents.decryptItem {storageKey : StorageServiceKey}
    (represents : Represents S storageKey stored account) {recordIkm : Option Bytes}
    (opens : Opens account.manifest recordIkm) {id value : Bytes}
    (found : stored.items id = some value) : ∃ record decoded,
      account.records id = some record ∧ S.decodeStorageRecord record = some decoded ∧
      decryptItem S storageKey ⟨id, value⟩ recordIkm = .ok ⟨id, record, decoded⟩ := by
  have related := represents.records id
  rw [found] at related
  generalize stored : account.records id = record at related
  cases related with
  | some back =>
      obtain ⟨decoded, decodes, opened⟩ := back
      refine ⟨_, decoded, rfl, decodes, ?_⟩
      unfold StorageService.decryptItem at opened ⊢
      rw [← itemKey_recordIkmOf opens]
      exact opened

theorem readItems_handled (serves : server.Serves W handle) {keys : List Bytes}
    {recordIkm : Option Bytes} (represents : Represents S handle.storageKey stored account)
    (opens : Opens account.manifest recordIkm)
    {y : Exit StorageServiceError (List (DecryptedItem StorageRecord))}
    (happens : Happens server.world (handle.readItems X S W keys recordIkm) stored y stored') :
    stored' = stored ∧ (Unanswered y ∨ ∃ items, y = .ret items ∧ ∀ item, item ∈ items ↔
      item.key ∈ keys ∧ account.records item.key = some item.plaintext ∧
        S.decodeStorageRecord item.plaintext = some item.record) := by
  rcases fetch_handled serves happens trivial with ⟨same, unanswered⟩ |
    ⟨response, success, handled, rest⟩
  · exact ⟨same, .inl unanswered⟩
  · cases handled with
    | failed inconclusive => exact absurd inconclusive (not_inconclusive success)
    | @read _ sealed _ _ _ decoded listed =>
        have opened := decoded_bind decoded rest
        have each (item : StorageItem) (member : item ∈ sealed) :
            ∃ decrypted, decryptItem S handle.storageKey item recordIkm = .ok decrypted := by
          obtain ⟨record, decoded, -, -, ok⟩ :=
            represents.decryptItem opens ((listed item).mp member).2
          exact ⟨_, ok⟩
        obtain ⟨all, ok, mem⟩ := decryptItems_ok each
        rw [ok] at opened
        obtain ⟨rfl, rfl⟩ := happens_done.mp opened
        refine ⟨rfl, .inr ⟨all, rfl, ?_⟩⟩
        intro item
        rw [mem]
        constructor
        · rintro ⟨sealed, member, ok⟩
          obtain ⟨asked, value⟩ := (listed sealed).mp member
          obtain ⟨record, decoded, kept, decodes, ok'⟩ := represents.decryptItem opens value
          obtain rfl := Except.ok.inj (ok.symm.trans ok')
          exact ⟨asked, kept, decodes⟩
        · rintro ⟨asked, record, decodes⟩
          have related := represents.records item.key
          rw [record] at related
          generalize value : stored'.items item.key = value at related
          cases related with
          | some _ =>
              obtain ⟨_, decoded, found, decodes', ok⟩ := represents.decryptItem opens value
              obtain rfl := Option.some.inj (record.symm.trans found)
              obtain rfl := Option.some.inj (decodes.symm.trans decodes')
              exact ⟨⟨item.key, _⟩, (listed ⟨item.key, _⟩).mpr ⟨asked, value⟩, ok⟩

/-! ## Writing -/

theorem drawn_happens {ε α : Type} {drawing : Drawing α} {x : Exit ε α}
    (happens : Happens server.world (drawn drawing) stored x stored') :
    stored' = stored ∧ ∃ es y, Trace drawing es y ∧ x = y.mapErr Empty.elim := by
  obtain ⟨y, ran, rfl⟩ := happens_mapErr.mp happens
  obtain ⟨es, trace⟩ := ran.of_lift
  have draws : Calls (fun c => ∃ length, c = .fillBytes length)
      (drawing.lift drawCall drawAnswer : Prog (HttpCall U) HttpAnswer Empty α) :=
    calls_lift (fun | .fillBytes length => ⟨length, rfl⟩) drawing
  refine ⟨draws.happens_kept ?_ ran, es, y, trace, rfl⟩
  rintro _ s answer t ⟨length, rfl⟩ drew
  exact drew

theorem readWritten_inconclusive {response : HttpResponse}
    (inconclusive : Inconclusive (.ok response)) : Unanswered (readWritten X response) := by
  have unlisted : ¬ response.status = 409 := fun status => inconclusive (by simp [status])
  unfold readWritten
  rw [if_neg unlisted]
  cases accepted : response.baselineDecode X with
  | ret other =>
      have success := (HttpResponse.baselineDecode_eq_ret accepted).2
      exact absurd inconclusive (not_inconclusive success)
  | throw e => trivial
  | panic m => trivial

theorem readWritten_ok {response : HttpResponse} (status : response.status = 200) :
    readWritten X response = .ret () := by
  have other : ¬ response.status = 409 := by simp [status]
  unfold readWritten
  rw [if_neg other, HttpResponse.baselineDecode_ok (.inl status)]
  rfl

/-- What comes of an answer to a write, and what has become of the write. -/
theorem write_answered {operation : WriteOperation} {sealed : StorageManifest}
    {answer : Except ServiceError HttpResponse} (manifest : operation.manifest = some sealed)
    (handled : Handled W (.write operation) stored answer stored')
    {y : Exit StorageServiceError Unit}
    (result : y = ((Exit.ofExcept answer).mapErr .service).bind (readWritten X)) :
    (stored' = stored ∧
      (Unanswered y ∨ (y = .throw .conflict ∧ ¬ stored.Follows sealed))) ∨
    (StoredAccount.Wrote operation stored stored' ∧ (Unanswered y ∨ y = .ret ())) := by
  subst result
  cases handled with
  | failed inconclusive carried =>
      have unanswered :
          Unanswered (((Exit.ofExcept answer).mapErr .service).bind (readWritten X)) := by
        cases answer with
        | error e => trivial
        | ok response => exact readWritten_inconclusive inconclusive
      rcases carried with same | carried
      · exact .inl ⟨same, .inl unanswered⟩
      · exact .inr ⟨carried, .inl unanswered⟩
  | written status carried => exact .inr ⟨carried, .inr (readWritten_ok status)⟩
  | conflict status stale =>
      refine .inl ⟨rfl, .inr ⟨?_, stale _ manifest⟩⟩
      exact if_pos status

/-- What comes of a write, and what has become of the account. -/
structure Written (S : StorageExternals StorageRecord) (storageKey : StorageServiceKey)
    (account : Account) (manifest : ManifestRecord) (insertRecords : List (Bytes × Bytes))
    (deleteKeys : List Bytes) (y : Exit StorageServiceError Unit) (stored' : StoredAccount) : Prop where
  follows : manifest.version.toNat = account.manifest.version.toNat + 1
  ended : Unanswered y ∨ y = .ret ()
  represents : Represents S storageKey stored' (account.write manifest insertRecords deleteKeys)

theorem writeItems_handled (serves : server.Serves W handle) (decrypts : S.Decrypts)
    {manifest : ManifestRecord} {insertRecords : List (Bytes × Bytes)} {deleteKeys : List Bytes}
    (represents : Represents S handle.storageKey stored account)
    (builds : Extends S base manifest insertRecords deleteKeys)
    (carries : base.recordIkm = account.manifest.recordIkm) {y : Exit StorageServiceError Unit}
    (happens : Happens server.world
      (handle.writeItems X S W manifest insertRecords deleteKeys) stored y stored') :
    (stored' = stored ∧ (Unanswered y ∨ (y = .throw .conflict ∧
      manifest.version.toNat ≠ account.manifest.version.toNat + 1))) ∨
    Written S handle.storageKey account manifest insertRecords deleteKeys y stored' := by
  have recordIkm : recordIkmOf manifest = recordIkmOf account.manifest := by
    unfold recordIkmOf
    rw [builds.recordIkm, carries]
  have drawing {ε : Type} {x : Exit ε WriteOperation} {after : StoredAccount}
      (drew : Happens server.world (drawn (writeOperation S handle.storageKey manifest insertRecords
        deleteKeys)) stored x after) :
      after = stored ∧ ∃ sealed items, x = .ret ⟨some sealed, items, deleteKeys, false⟩ ∧
        decryptManifest S handle.storageKey sealed = .ok manifest ∧
        sealed.version = manifest.version ∧
        List.Forall₂ (ReadsBack S handle.storageKey (recordIkmOf manifest)) insertRecords
          items := by
    obtain ⟨same, es, z, trace, rfl⟩ := drawn_happens drew
    obtain ⟨sealed, items, rfl, opened, version, back⟩ :=
      writeOperation_trace trace decrypts builds.roundTrips builds.decode
    exact ⟨same, sealed, items, rfl, opened, version, back⟩
  rcases happens_bind.mp happens with ⟨e, drew, -⟩ | ⟨m, drew, -⟩ | ⟨operation, after, drew, rest⟩
  · obtain ⟨-, sealed, items, ended, -⟩ := drawing drew
    cases ended
  · obtain ⟨-, sealed, items, ended, -⟩ := drawing drew
    cases ended
  obtain ⟨rfl, sealed, items, made, opened, version, back⟩ := drawing drew
  cases made
  have follows : after.Follows sealed ↔
      manifest.version.toNat = account.manifest.version.toNat + 1 := by
    unfold StoredAccount.Follows
    rw [version, represents.version]
  -- The request is sent once, whichever way it ends.
  have sent {x : Exit ServiceError HttpResponse} {last : StoredAccount}
      (sent : Happens server.world (handle.send W (.write ⟨some sealed, items, deleteKeys, false⟩))
        after x last) (result : y = (x.mapErr .service).bind (readWritten X)) :
      (last = after ∧ (Unanswered y ∨ (y = .throw .conflict ∧
        manifest.version.toNat ≠ account.manifest.version.toNat + 1))) ∨
      Written S handle.storageKey account manifest insertRecords deleteKeys y last := by
    rcases send_handled serves sent with ⟨same, failed⟩ | ⟨answer, handled, rfl⟩
    · refine .inl ⟨same, .inl ?_⟩
      subst result
      cases x with
      | ret response => exact absurd rfl (failed response)
      | throw e => trivial
      | panic m => trivial
    · rcases write_answered rfl handled result with ⟨same, ended⟩ | ⟨wrote, ended⟩
      · refine .inl ⟨same, ended.imp id ?_⟩
        rintro ⟨conflict, stale⟩
        exact ⟨conflict, fun next => stale (follows.mpr next)⟩
      · have follow : after.Follows sealed := Option.some.inj wrote.manifest ▸ wrote.follows
        exact .inr ⟨follows.mp follow, ended,
          represents.write wrote opened version recordIkm back⟩
  obtain ⟨z, answered, rfl⟩ := happens_bind_done.mp rest
  obtain ⟨x, ran, rfl⟩ := happens_mapErr.mp answered
  exact sent ran rfl

/-! ## What a handle is asked for -/

/-- Whatever comes of what a handle is asked for, the account would have done it. -/
theorem ask_does (serves : server.Serves W handle) (decrypts : S.Decrypts)
    {question : Account.Ask} {x : Exit StorageServiceError (Account.Reply StorageRecord)}
    (represents : Represents S handle.storageKey stored account) {held : Option ManifestRecord}
    (keeps : Keeps S held question)
    (carries : ∀ base ∈ held, base.recordIkm = account.manifest.recordIkm)
    (happens : Happens server.world (handle.ask X S W question) stored x stored') :
    ∃ account', Account.Does S account question x account' ∧
      Represents S handle.storageKey stored' account' := by
  cases question with
  | manifest =>
      obtain ⟨y, ran, rfl⟩ := happens_bind_done.mp happens
      obtain ⟨rfl, unanswered | rfl⟩ := manifest_handled serves represents ran
      · exact ⟨account, .failed (unanswered.bind _), represents⟩
      · exact ⟨account, .manifest account, represents⟩
  | manifestIfChanged version =>
      obtain ⟨y, ran, rfl⟩ := happens_bind_done.mp happens
      obtain ⟨rfl, unanswered | rfl⟩ := manifestIfChanged_handled serves represents ran
      · exact ⟨account, .failed (unanswered.bind _), represents⟩
      · by_cases same : version = account.manifest.version
        · subst same
          refine ⟨account, ?_, represents⟩
          simpa using .unchanged account
        · refine ⟨account, ?_, represents⟩
          rw [if_neg same]
          exact .changed same
  | readItems keys recordIkm =>
      obtain ⟨y, ran, rfl⟩ := happens_bind_done.mp happens
      obtain ⟨base, holds, opens⟩ := keeps
      unfold Opens at opens
      rw [carries base holds] at opens
      obtain ⟨rfl, unanswered | ⟨items, rfl, listed⟩⟩ :=
        readItems_handled serves represents opens ran
      · exact ⟨account, .failed (unanswered.bind _), represents⟩
      · exact ⟨account, .items listed, represents⟩
  | writeItems manifest insertRecords deleteKeys =>
      obtain ⟨y, ran, rfl⟩ := happens_bind_done.mp happens
      obtain ⟨base, holds, builds⟩ := keeps
      rcases writeItems_handled serves decrypts represents builds (carries base holds) ran with
        ⟨rfl, unanswered | ⟨rfl, stale⟩⟩ | ⟨follows, unanswered | rfl, represents'⟩
      · exact ⟨account, .failed (unanswered.bind _), represents⟩
      · exact ⟨account, .conflict stale, represents⟩
      · exact ⟨_, .untold follows (unanswered.bind _), represents'⟩
      · exact ⟨_, .written follows, represents'⟩

/-! ## One request -/

def HttpCall.isSend : HttpCall U → Bool
  | .send _ => true
  | _ => false

theorem send_atMost (request : StorageRequest) :
    (handle.send W request).AtMost HttpCall.isSend 1 := by
  unfold send
  cases handle.builder W request with
  | error e => trivial
  | ok builder =>
      cases builder with
      | none => trivial
      | some http => exact .inr ⟨0, rfl, fun answer => trivial⟩

theorem fetch_atMost (request : StorageRequest) {α : Type}
    {f : HttpResponse → HttpAsync U StorageServiceError α}
    (quiet : ∀ response, (f response).AtMost HttpCall.isSend 0) :
    (((handle.sendOk X W request).mapErr .service).bind f).AtMost HttpCall.isSend 1 :=
  (((send_atMost request).quietly fun _ => atMost_done _).mapErr _).quietly quiet

theorem drawn_atMost {ε α : Type} (drawing : Drawing α) :
    (drawn drawing : HttpAsync U ε α).AtMost HttpCall.isSend 0 :=
  (Calls.atMost (calls_lift (fun | .fillBytes _ => rfl) drawing)).mapErr _

/-- Whatever a handle is asked for, it makes one request at most, at which it takes effect. -/
theorem ask_atMost (question : Account.Ask) :
    (handle.ask X S W question).AtMost HttpCall.isSend 1 := by
  have decoded {α : Type} (value : Except ServiceError α) {β : Type}
      (f : α → HttpAsync U StorageServiceError β) (quiet : ∀ a, (f a).AtMost HttpCall.isSend 0) :
      (((Prog.ofExcept value).mapErr .service).bind f).AtMost HttpCall.isSend 0 := by
    cases value with
    | ok a => exact quiet a
    | error e => trivial
  cases question with
  | manifest =>
      exact (fetch_atMost .manifest fun _ => decoded _ _ fun _ => atMost_done _).quietly
        fun _ => atMost_done _
  | manifestIfChanged version =>
      refine (fetch_atMost (.manifestIfChanged version) fun response => ?_).quietly
        fun _ => atMost_done _
      split
      · trivial
      · refine decoded _ _ fun manifest => ?_
        cases decryptManifest S handle.storageKey manifest <;> trivial
  | readItems keys recordIkm =>
      exact (fetch_atMost (.read keys) fun _ => decoded _ _ fun _ => atMost_done _).quietly
        fun _ => atMost_done _
  | writeItems manifest insertRecords deleteKeys =>
      refine AtMost.quietly ?_ fun _ => atMost_done _
      exact (drawn_atMost _).bind fun operation =>
        ((send_atMost (.write operation)).mapErr _).quietly fun _ => atMost_done _

end StorageService

end SignalService
