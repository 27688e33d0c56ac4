import SignalService.Sender.Coverage
import SignalService.Sender.Service

/-! # Sends converge

Against a server with a fixed set of devices, the retry loop repairs the sessions until a
batch is accepted. Each attempt is a round in the sense of `Repair`; four rounds are
enough from every store, and so is the loop's budget of four attempts, unless the first
one is spent on an access key that is refused.
-/

namespace SignalService

open Effect Prog

namespace Service

variable {X : Externals} {S : Service} {sender : MessageSender} {content : OutgoingContent}
  {certificate : Option SenderCertificate}

/-! ## Encrypting for the devices -/

variable (sender) in
theorem createEncryptedMessage_leads_held {w : World} {d : DeviceId} {record : SessionRecord}
    (held : w.sessions (S.address X d) = some record) {x : Exit ServiceError OutgoingPushMessage}
    {w' : World}
    (encrypted : Leads (S.env X) (encrypt X sender.cipher (S.address X d) certificate content) w x
      w') :
    Leads (S.env X) (sender.createEncryptedMessage X S.recipient certificate d content) w
      (x.mapErr .serviceError) w' := by
  apply (loadSession_leads _ w d).bind
  rw [held]
  exact encrypted.mapErr _

theorem post_of_unready {v : Repair.View DeviceId} {d : DeviceId} (unusable : v.ready d = false) :
    Repair.post S.roster v d = (true, v.renew (S.served d)) := by
  rw [Repair.post, unusable]
  rfl

/-- The attempts for one device are one posted item. -/
theorem encryptForDevice_leads (lawful : S.Lawful X)
    (unowned : ∀ d ∈ S.devices, ¬ S.IsSelf sender d) {w : World} (sound : S.Sound X w)
    {d : DeviceId} (other : ¬ S.IsSelf sender d)
    (known : d ∈ S.devices ∨ (S.view X sender content w).ready d = true) :
    ∃ message w',
      Leads (S.env X) (sender.encryptForDevice X S.recipient certificate content d 2) w
        (.ret (some message)) w' ∧
      message.destinationDeviceId = d ∧
      (decide (message.destinationRegistrationId = S.registrationId d),
        S.view X sender content w') = Repair.post S.roster (S.view X sender content w) d ∧
      S.Sound X w' := by
  have seen : S.view X sender content w d =
      (w.sessions (S.address X d)).map (S.status X content d) := if_neg other
  cases held : w.sessions (S.address X d) with
  | none =>
      rw [held] at seen
      have unusable : (S.view X sender content w).ready d = false := by
        simp [Repair.View.ready, seen]
      have device : d ∈ S.devices := by
        rcases known with device | usable
        · exact device
        · rw [unusable] at usable
          cases usable
      obtain ⟨message, w', made, target, registered, view, sound'⟩ :=
        createEncryptedMessage_leads_absent content lawful unowned sound device held certificate
      refine ⟨message, w', ?_, target, ?_, sound'⟩
      · exact made.attempt.bind (leads_done _)
      · rw [view, registered, post_of_unready unusable, decide_eq_true rfl]
  | some record =>
      rw [held] at seen
      cases usable : S.ready content record with
      | true =>
          have ready : (S.view X sender content w).ready d = true := by
            simp [Repair.View.ready, seen, status, usable]
          obtain ⟨message, w', made, target, registered, changed⟩ := encrypt_leads lawful held
            (sound d record held) usable sender.cipher certificate
          refine ⟨message, w', ?_, target, ?_, ?_⟩
          · exact (createEncryptedMessage_leads_held sender held made).attempt.bind (leads_done _)
          · have view : S.view X sender content w' = S.view X sender content w := by
              rcases changed with rfl | rfl
              · rfl
              · exact view_advance lawful held
            rw [view, Repair.post, if_pos ready]
            simp [Repair.View.current, seen, status, registered]
          · rcases changed with rfl | rfl
            · exact sound
            · exact sound.put_some (lawful.readable_advance (sound d record held))
      | false =>
          have unusable : (S.view X sender content w).ready d = false := by
            simp [Repair.View.ready, seen, status, usable]
          have device : d ∈ S.devices := by
            rcases known with device | ready
            · exact device
            · rw [unusable] at ready
              cases ready
          obtain ⟨message, w', made, target, registered, view, sound'⟩ :=
            createEncryptedMessage_leads_absent content lawful unowned
              (sound.put_none d) device (put_same w d none) certificate
          refine ⟨message, w', ?_, target, ?_, sound'⟩
          · have missing := createEncryptedMessage_leads_held sender held
              (encrypt_leads_unready held usable sender.cipher certificate)
            apply missing.attempt.bind
            apply Leads.bind (a := .ok ()) (t := w.put (S.address X d) none)
            · exact ⟨rfl, rfl⟩
            · exact made.attempt.bind (leads_done _)
          · rw [view, view_delete, registered, post_of_unready unusable, decide_eq_true rfl]
            refine Prod.ext rfl (funext fun e => ?_)
            by_cases member : e ∈ S.served d
            · simp only [Repair.View.renew_of_mem member]
            · have different : e ∉ [d] := by
                intro same
                rw [List.mem_singleton.mp same] at member
                exact member (mem_served device)
              simp only [Repair.View.renew_of_not_mem member,
                Repair.View.drop_of_not_mem different]

variable (certificate) in
/-- The loop over the devices posts the items of a round. -/
theorem encryptForDevices_leads (lawful : S.Lawful X)
    (unowned : ∀ d ∈ S.devices, ¬ S.IsSelf sender d) {w : World} (sound : S.Sound X w)
    {order : List DeviceId} (others : ∀ d ∈ order, ¬ S.IsSelf sender d)
    (known : ∀ d ∈ order, d ∈ S.devices ∨ (S.view X sender content w).ready d = true) :
    ∃ messages w',
      Leads (S.env X) (sender.encryptForDevices X S.recipient certificate content order) w
        (.ret messages) w' ∧
      (S.items messages, S.view X sender content w') =
        Repair.postAll S.roster order (S.view X sender content w) ∧
      S.Sound X w' := by
  induction order generalizing w with
  | nil => exact ⟨[], w, leads_done _, rfl, sound⟩
  | cons d ds ih =>
      obtain ⟨message, w₁, made, target, posted, sound₁⟩ := encryptForDevice_leads lawful unowned
        sound (others d List.mem_cons_self) (known d List.mem_cons_self)
      have view₁ : S.view X sender content w₁ =
          (Repair.post S.roster (S.view X sender content w) d).2 := congrArg Prod.snd posted
      have known₁ : ∀ e ∈ ds, e ∈ S.devices ∨ (S.view X sender content w₁).ready e = true := by
        intro e member
        rw [view₁]
        have kept := Repair.post_kept (r := S.roster) (known d List.mem_cons_self) e
        rcases known e (List.mem_cons_of_mem d member) with device | usable
        · exact .inl device
        · rcases kept with same | ⟨device, -⟩
          · right
            rw [Repair.View.ready_congr same]
            exact usable
          · exact .inl device
      obtain ⟨messages, w₂, rest, postedAll, sound₂⟩ := ih sound₁
        (fun e member => others e (List.mem_cons_of_mem d member)) known₁
      refine ⟨message :: messages, w₂, ?_, ?_, sound₂⟩
      · apply made.bind
        exact rest.bind (leads_done _)
      · rw [Repair.postAll, ← view₁, ← postedAll, ← posted]
        simp only [items, List.map_cons, target]

theorem mem_allDevices (d : DeviceId) : d ∈ allDevices := by
  unfold allDevices
  rw [List.mem_filterMap]
  have bound := d.valid
  refine ⟨d.val, List.mem_range.mpr (by omega), ?_⟩
  simp [DeviceId.ofNat?, bound]

theorem mem_subDevices {w : World} {d : DeviceId} :
    d ∈ subDevices X w S.recipient ↔
      d ≠ defaultDeviceId ∧ (w.sessions (S.address X d)).isSome = true := by
  simp [subDevices, mem_allDevices, address]

theorem view_isSome {w : World} {d : DeviceId} :
    (S.view X sender content w d).isSome = true ↔
      ¬ S.IsSelf sender d ∧ (w.sessions (S.address X d)).isSome = true := by
  unfold view
  split
  · next self => simp [self]
  · next other => simp [other]

variable (content) in
/-- The targets of a send, in whatever order, are the targets of a round. -/
theorem isTargets {w : World} (primary : ¬ S.IsSelf sender defaultDeviceId) {order : List DeviceId}
    (perm : order.Perm (sender.targetDevices S.recipient (subDevices X w S.recipient))) :
    Repair.IsTargets S.roster (S.view X sender content w) order := by
  intro d
  rw [perm.mem_iff, MessageSender.mem_targetDevices, view_isSome, MessageSender.IsTarget,
    mem_subDevices]
  constructor
  · rintro ⟨⟨-, held⟩ | rfl, other⟩
    · exact .inr ⟨other, held⟩
    · exact .inl rfl
  · rintro (rfl | ⟨other, held⟩)
    · exact ⟨.inr rfl, primary⟩
    · by_cases first : d = defaultDeviceId
      · exact ⟨.inr first, other⟩
      · exact ⟨.inl ⟨first, held⟩, other⟩

theorem targets_others {w : World} {order : List DeviceId}
    (perm : order.Perm (sender.targetDevices S.recipient (subDevices X w S.recipient))) :
    ∀ d ∈ order, ¬ S.IsSelf sender d := by
  intro d member
  exact (MessageSender.mem_targetDevices.mp (perm.mem_iff.mp member)).2

variable (certificate) in
/-- The messages of an attempt are the items of a round. -/
theorem createEncryptedMessages_leads (lawful : S.Lawful X)
    (unowned : ∀ d ∈ S.devices, ¬ S.IsSelf sender d) {w : World} (sound : S.Sound X w)
    (safe : Repair.Safe S.roster (S.view X sender content w)) :
    ∃ order encrypted w', Repair.IsTargets S.roster (S.view X sender content w) order ∧
      Leads (S.env X) (sender.createEncryptedMessages X S.recipient certificate content) w
        (.ret (some encrypted)) w' ∧
      (S.items encrypted.messages, S.view X sender content w') =
        Repair.postAll S.roster order (S.view X sender content w) ∧
      S.Sound X w' := by
  have perm := (S.order w.iterations (sender.targetDevices S.recipient
    (subDevices X w S.recipient))).property
  have targets := isTargets content (unowned _ S.primary_mem) perm
  have known := Repair.targets_known targets safe
  obtain ⟨messages, w', made, posted, sound'⟩ := encryptForDevices_leads certificate lawful unowned
    (w := { w with iterations := w.iterations + 1 }) sound (targets_others perm) known
  have nonempty : messages ≠ [] := by
    intro none
    have sent := (Repair.targets_posted targets safe).sent
    have batch : S.items messages = _ := congrArg Prod.fst posted
    have member := (targets defaultDeviceId).mpr (.inl rfl)
    rw [← sent] at member
    have member : defaultDeviceId ∈ (S.items messages).map Prod.fst := batch ▸ member
    rw [none] at member
    cases member
  refine ⟨_, ⟨messages, S.identity⟩, w', targets, ?_, posted, sound'⟩
  apply Leads.bind (a := subDevices X w S.recipient) (t := w) ⟨rfl, rfl⟩
  apply Leads.bind (a := S.order w.iterations (sender.targetDevices S.recipient
    (subDevices X w S.recipient))) (t := { w with iterations := w.iterations + 1 }) ⟨rfl, rfl⟩
  apply made.bind
  rw [if_neg nonempty]
  apply Leads.bind (a := S.identity) (t := w') ⟨rfl, rfl⟩
  exact leads_done _

/-! ## One attempt -/

/-- The access is one that the server takes: none, or the right key. -/
def Takes (S : Service) : Option UnidentifiedAccess → Prop
  | none => True
  | some access => access.key = S.accessKey

instance (S : Service) : DecidablePred S.Takes
  | none => inferInstanceAs (Decidable True)
  | some access => inferInstanceAs (Decidable (access.key = S.accessKey))

theorem readPutMessages_refused {key : Bytes} (messages : OutgoingPushMessages)
    (addressed : messages.destination = S.recipient) (wrong : key ≠ S.accessKey) :
    readPutMessages X (.ok (S.putAnswer (some key) messages)) = .throw .unauthorized := by
  have answer : S.putAnswer (some key) messages = { status := some 401 } := by
    simp [putAnswer, addressed, wrong]
  rw [answer]
  rfl

/-- What the server's answer is read as, once it looks at the devices. -/
def Reads (answer : Repair.Answer DeviceId) (x : Exit ServiceError SendMessageResponse) : Prop :=
  match answer with
  | .mismatched missing extra => x = .throw (.mismatchedDevicesException ⟨missing, extra⟩)
  | .outdated devices => x = .throw (.staleDevices ⟨devices⟩)
  | .accepted => ∃ response, x = .ret response

theorem readPutMessages_judged (lawful : S.Lawful X) {access : Option UnidentifiedAccess}
    (takes : S.Takes access) (messages : OutgoingPushMessages)
    (addressed : messages.destination = S.recipient) :
    Reads (Repair.judge S.roster (S.items messages.messages))
      (readPutMessages X (.ok (S.putAnswer (access.map (·.key)) messages))) := by
  have passes : ¬ (access.map (·.key) ≠ none ∧ access.map (·.key) ≠ some S.accessKey) := by
    cases access with
    | none => simp
    | some access => simp [show access.key = S.accessKey from takes]
  rw [putAnswer, if_neg (not_not.mpr addressed), if_neg passes]
  cases Repair.judge S.roster (S.items messages.messages) with
  | mismatched missing extra =>
      simp [Reads, readPutMessages, putMessagesErrors, WebSocketResponseMessage.statusCode,
        jsonOrUnhandled, WebSocketResponseMessage.text, lawful.mismatched]
      rfl
  | outdated devices =>
      simp [Reads, readPutMessages, putMessagesErrors, WebSocketResponseMessage.statusCode,
        jsonOrUnhandled, WebSocketResponseMessage.text, lawful.stale]
      rfl
  | accepted =>
      obtain ⟨response, read⟩ := lawful.accepted
      refine ⟨response, ?_⟩
      have json : WebSocketResponseMessage.json
          { status := some 200, body := some S.acceptedBody } X.jsonSendMessageResponse =
            .ok response := by
        simp [WebSocketResponseMessage.json, read]
      exact congrArg Exit.ofExcept json

variable (sender content) in
theorem dropSessions_leads (w : World) (sound : S.Sound X w) (ds : List DeviceId) :
    ∃ w', Leads (S.env X) (MessageSender.dropSessions X S.recipient ds) w (.ret ()) w' ∧
      S.view X sender content w' = (S.view X sender content w).drop ds ∧ S.Sound X w' := by
  induction ds generalizing w with
  | nil =>
      refine ⟨w, leads_done _, ?_, sound⟩
      funext d
      exact (Repair.View.drop_of_not_mem List.not_mem_nil).symm
  | cons d ds ih =>
      obtain ⟨w', dropped, view, sound'⟩ := ih (w.put (S.address X d) none) (sound.put_none d)
      refine ⟨w', ?_, ?_, sound'⟩
      · apply Leads.bind (a := 1) (t := w.put (S.address X d) none) ⟨rfl, rfl⟩
        exact dropped
      · rw [view, view_delete, ← Repair.View.drop_cons]

theorem getPreKey_leads (lawful : S.Lawful X) (w : World) {d : DeviceId} (device : d ∈ S.devices) :
    Leads (S.env X) (getPreKey X S.recipient d) w (.ret (S.bundle d)) w := by
  have bundle : firstBundle X (S.preKeyResponse [d]) = .ret (S.bundle d) := by
    unfold firstBundle preKeyResponse
    simp only [List.map_cons, List.map_nil]
    rw [lawful.identityKey]
    exact congrArg Exit.ofExcept (lawful.bundle d device)
  refine ⟨?_, rfl⟩
  exact (congrArg (fun x => x.bind (firstBundle X)) (readGetKeys_device lawful device)).trans bundle

theorem createSessions_leads (lawful : S.Lawful X) (w : World) {ds : List DeviceId}
    (devices : ∀ d ∈ ds, d ∈ S.devices) :
    Leads (S.env X) (sender.createSessions X S.recipient ds) w (.ret ())
      (establishAll X S w ds) := by
  induction ds generalizing w with
  | nil => exact leads_done _
  | cons d ds ih =>
      have tail := ih (w.put (S.address X d)
        (some (S.establish (w.sessions (S.address X d)) (S.bundle d))))
        fun e member => devices e (List.mem_cons_of_mem d member)
      apply ((getPreKey_leads lawful w (devices d List.mem_cons_self)).mapErr _).bind
      apply Leads.bind (a := ()) (t := w.put (S.address X d)
        (some (S.establish (w.sessions (S.address X d)) (S.bundle d)))) ⟨rfl, rfl⟩
      exact tail

theorem judge_missing {batch : List (DeviceId × Bool)} {missing extra : List DeviceId}
    (answer : Repair.judge S.roster batch = .mismatched missing extra) :
    ∀ d ∈ missing, d ∈ S.devices := by
  have sent : batch.map Prod.fst = batch.map Prod.fst := rfl
  rcases Repair.judge_cases (r := S.roster) sent with ⟨same, -⟩ | ⟨same, -⟩ | same
  · rw [same] at answer
    cases answer
    intro d member
    exact List.mem_of_mem_filter member
  · rw [same] at answer
    cases answer
  · rw [same] at answer
    cases answer

theorem submit_leads (w : World) (access : Option UnidentifiedAccess)
    (messages : OutgoingPushMessages) :
    Leads (S.env X) (MessageSender.submit X access messages) w
      (readPutMessages X (.ok (S.putAnswer (access.map (·.key)) messages))) w := by
  cases access <;> exact ⟨rfl, rfl⟩

/-- An attempt whose access is taken is a round: it is accepted, or it repairs the view
    as the answer says. -/
theorem sendAttempt_leads (lawful : S.Lawful X) (unowned : ∀ d ∈ S.devices, ¬ S.IsSelf sender d)
    {w : World} (sound : S.Sound X w) (safe : Repair.Safe S.roster (S.view X sender content w))
    {access : Option UnidentifiedAccess} (takes : S.Takes access) (timestamp : Nat)
    (online : Bool) :
    ∃ order x w', Repair.IsTargets S.roster (S.view X sender content w) order ∧
      Leads (S.env X) (sender.sendAttempt X S.recipient content timestamp online access) w
        (.ret x) w' ∧
      ((∃ sent, x = .inl sent) ∨
        (x = .inr access ∧ S.Sound X w' ∧
          Repair.judge S.roster (Repair.postAll S.roster order (S.view X sender content w)).1 ≠
            .accepted ∧
          S.view X sender content w' =
            Repair.repair
              (Repair.judge S.roster
                (Repair.postAll S.roster order (S.view X sender content w)).1)
              (Repair.postAll S.roster order (S.view X sender content w)).2)) := by
  obtain ⟨order, encrypted, w₁, targets, made, posted, sound₁⟩ :=
    createEncryptedMessages_leads (access.map (·.certificate)) lawful unowned sound safe
  have reads := readPutMessages_judged lawful takes
    ⟨S.recipient, timestamp, encrypted.messages, online⟩ rfl
  have submitted := submit_leads (X := X) (S := S) w₁ access
    ⟨S.recipient, timestamp, encrypted.messages, online⟩
  refine ⟨order, ?_⟩
  rw [← posted]
  cases answer : Repair.judge S.roster (S.items encrypted.messages) with
  | accepted =>
      rw [answer] at reads
      obtain ⟨response, read⟩ := reads
      rw [read] at submitted
      let sent : SentMessage :=
        ⟨S.recipient, encrypted.usedIdentityKey, access.isSome, response.needsSync⟩
      refine ⟨.inl sent, w₁, targets, ?_, .inl ⟨sent, rfl⟩⟩
      apply made.bind
      exact submitted.attempt.bind (leads_done _)
  | mismatched missing extra =>
      rw [answer] at reads
      rw [show readPutMessages X _ = _ from reads] at submitted
      have devices := judge_missing answer
      obtain ⟨w₂, dropped, view₂, sound₂⟩ :=
        dropSessions_leads sender content w₁ sound₁ extra
      refine ⟨.inr access, establishAll X S w₂ missing, targets, ?_, .inr ⟨rfl, ?_, ?_, ?_⟩⟩
      · apply made.bind
        apply submitted.attempt.bind
        apply Leads.bind (a := access) (t := establishAll X S w₂ missing)
        · apply dropped.bind
          exact (createSessions_leads lawful w₂ devices).bind (leads_done _)
        · exact leads_done _
      · exact sound₂.establishAll lawful devices
      · simp
      · rw [view_establishAll lawful unowned w₂ devices, view₂]
        rfl
  | outdated stale =>
      rw [answer] at reads
      rw [show readPutMessages X _ = _ from reads] at submitted
      obtain ⟨w₂, dropped, view₂, sound₂⟩ :=
        dropSessions_leads sender content w₁ sound₁ stale
      refine ⟨.inr access, w₂, targets, ?_, .inr ⟨rfl, sound₂, ?_, ?_⟩⟩
      · apply made.bind
        apply submitted.attempt.bind
        exact Leads.bind (a := access) (t := w₂) (dropped.bind (leads_done _)) (leads_done _)
      · simp
      · exact view₂

/-- An attempt whose access key is refused only posts; the next one has no access. -/
theorem sendAttempt_leads_refused (lawful : S.Lawful X)
    (unowned : ∀ d ∈ S.devices, ¬ S.IsSelf sender d) {w : World} (sound : S.Sound X w)
    (safe : Repair.Safe S.roster (S.view X sender content w)) {access : UnidentifiedAccess}
    (wrong : access.key ≠ S.accessKey) (timestamp : Nat) (online : Bool) :
    ∃ order w', Repair.IsTargets S.roster (S.view X sender content w) order ∧
      Leads (S.env X) (sender.sendAttempt X S.recipient content timestamp online (some access)) w
        (.ret (.inr none)) w' ∧
      S.view X sender content w' =
        (Repair.postAll S.roster order (S.view X sender content w)).2 ∧
      S.Sound X w' := by
  obtain ⟨order, encrypted, w₁, targets, made, posted, sound₁⟩ :=
    createEncryptedMessages_leads (some access.certificate) lawful unowned sound safe
  have submitted := submit_leads (X := X) (S := S) w₁ (some access)
    ⟨S.recipient, timestamp, encrypted.messages, online⟩
  have answer := readPutMessages_refused (X := X) (S := S)
    ⟨S.recipient, timestamp, encrypted.messages, online⟩ rfl wrong
  rw [Option.map_some, answer] at submitted
  refine ⟨order, w₁, targets, ?_, congrArg Prod.snd posted, sound₁⟩
  apply made.bind
  apply submitted.attempt.bind
  exact Leads.bind (a := none) (t := w₁) (leads_done _) (leads_done _)

/-! ## The loop -/

/-- As many attempts as rounds until one is accepted are enough. -/
theorem sendLoop_leads (lawful : S.Lawful X) (unowned : ∀ d ∈ S.devices, ¬ S.IsSelf sender d)
    {access : Option UnidentifiedAccess} (takes : S.Takes access) (timestamp : Nat)
    (online : Bool) {n : Nat} {w : World} (sound : S.Sound X w)
    (safe : Repair.Safe S.roster (S.view X sender content w))
    (accepts : Repair.Accepts S.roster n (S.view X sender content w)) :
    ∃ sent w', Leads (S.env X)
      (sender.sendLoop X S.recipient content timestamp online n access) w (.ret sent) w' := by
  induction n generalizing w with
  | zero => exact absurd accepts id
  | succ n ih =>
      obtain ⟨order, x, w₁, targets, attempt, outcome⟩ :=
        sendAttempt_leads lawful unowned sound safe takes timestamp online
      rcases outcome with ⟨sent, rfl⟩ | ⟨rfl, sound₁, refused, view₁⟩
      · exact ⟨sent, w₁, attempt.bind (leads_done _)⟩
      · have safe₁ := Repair.safe_repair targets safe
        have accepts₁ := (accepts order targets).resolve_left refused
        rw [← view₁] at safe₁ accepts₁
        obtain ⟨sent, w', rest⟩ := ih sound₁ safe₁ accepts₁
        exact ⟨sent, w', attempt.bind rest⟩

/-- The chain that takes five attempts: the access key is refused, then devices are
    missing or extra, then some are stale, and by that they are missing again. -/
def SpendsBudget (X : Externals) (S : Service) (sender : MessageSender)
    (content : OutgoingContent) (access : Option UnidentifiedAccess) (w : World) : Prop :=
  ¬ S.Takes access ∧ (S.view X sender content w).ready defaultDeviceId = true ∧
    ¬ Repair.Exact S.roster (S.view X sender content w) ∧
    ¬ Repair.OthersCurrent S.roster (S.view X sender content w)

theorem sendLoop_four_leads (lawful : S.Lawful X) (unowned : ∀ d ∈ S.devices, ¬ S.IsSelf sender d)
    {w : World} (sound : S.Sound X w) (safe : Repair.Safe S.roster (S.view X sender content w))
    {access : Option UnidentifiedAccess}
    (mild : ¬ SpendsBudget X S sender content access w) (timestamp : Nat) (online : Bool) :
    ∃ sent w', Leads (S.env X)
      (sender.sendLoop X S.recipient content timestamp online 4 access) w (.ret sent) w' := by
  by_cases takes : S.Takes access
  · exact sendLoop_leads lawful unowned takes timestamp online sound safe
      (Repair.accepts_four safe)
  · cases access with
    | none => exact absurd trivial takes
    | some access =>
        obtain ⟨order, w₁, targets, attempt, view₁, sound₁⟩ :=
          sendAttempt_leads_refused lawful unowned sound safe takes timestamp online
        have posted := Repair.targets_posted targets safe
        have accepts := Repair.accepts_three_of_posted targets safe posted
          fun chain => mild ⟨takes, chain⟩
        have safe₁ := posted.safe safe
        rw [← view₁] at safe₁ accepts
        have none_takes : S.Takes none := trivial
        obtain ⟨sent, w', rest⟩ :=
          sendLoop_leads lawful unowned none_takes timestamp online sound₁ safe₁ accepts
        exact ⟨sent, w', attempt.bind rest⟩

end Service

namespace Reference

/-- The world of a store, before any set was iterated. -/
def worldOf (store : Store) : World where
  sessions address := (store.find? fun entry =>
    entry.1.deviceId = address.deviceId ∧ entry.1.name = address.name).map Prod.snd
  iterations := 0

/-- A session for a device of an account, whose record has a registration id. -/
def sessionWith (account : ServiceId) (d : DeviceId) (id : UInt8) :
    ProtocolAddress × SessionRecord :=
  (reference.protocolAddress account d, ⟨[id]⟩)

/-- Sessions with a device that the recipient does not have any more, with all that it
    has, and of these the second is outdated. -/
def outdatedStore : Store :=
  [sessionWith (.aci remoteAci) defaultDeviceId 11, sessionWith (.aci remoteAci) secondDevice 99,
    sessionWith (.aci remoteAci) thirdDevice 13, sessionWith (.aci remoteAci) fourthDevice 14]

/-- The session with the removed device cannot be used. -/
def lapsedStore : Store :=
  [sessionWith (.aci remoteAci) defaultDeviceId 11, sessionWith (.aci remoteAci) fourthDevice 0]

def ourCertificate : SenderCertificate where
  senderUuid := .ok (String.ofList (uuidString localAci.uuid))
  senderE164 := .ok none
  senderDeviceId := .ok defaultDeviceId
  serialized := List.replicate 33 5

/-- The server's access key is all ones. -/
def accessWith (key : UInt8) : UnidentifiedAccess := ⟨List.replicate 16 key, ourCertificate⟩

/-- How a data message to an account with the devices 1, 2 and 3 ends. -/
def exitOfSend (recipient : ServiceId) (access : Option UnidentifiedAccess) (store : Store) :
    Exit MessageSenderError SentMessage :=
  ((primary.trySendContent reference recipient access (.encrypted dataContentBytes) 7 false).run
    ((service recipient).env reference) (worldOf store)).exit

theorem worldOf_sound (recipient : ServiceId) (store : Store) :
    (service recipient).Sound reference (worldOf store) :=
  fun _ _ _ => ⟨⟨_, rfl⟩, 3, rfl, by decide⟩

theorem worldOf_safe {recipient : ServiceId} {sender : MessageSender} {content : OutgoingContent}
    {store : Store} (usable : ∀ entry ∈ store, (service recipient).usable entry.2 = true) :
    Repair.Safe (service recipient).roster
      ((service recipient).view reference sender content (worldOf store)) := by
  intro d _ known
  obtain ⟨other, held⟩ := Service.view_isSome.mp known
  obtain ⟨record, held⟩ := Option.isSome_iff_exists.mp held
  obtain ⟨entry, found, rfl⟩ := Option.map_eq_some_iff.mp held
  have ready := usable entry (List.mem_of_find?_eq_some found)
  simp [Repair.View.ready, Service.view, other, held, Service.status, Service.ready, ready]

end Reference

namespace Service

variable {X : Externals} {S : Service} {sender : MessageSender} {content : OutgoingContent}

/-- A send returns, unless our own device is among the recipient's, a session with a device
    the recipient does not have cannot be used, or the budget goes on the chain above. -/
theorem trySendContent_converges (lawful : S.Lawful X)
    (unowned : ∀ d ∈ S.devices, ¬ S.IsSelf sender d) {w : World} (sound : S.Sound X w)
    (safe : Repair.Safe S.roster (S.view X sender content w))
    {access : Option UnidentifiedAccess} (mild : ¬ SpendsBudget X S sender content access w)
    (timestamp : Nat) (online : Bool) :
    ∃ sent, ((sender.trySendContent X S.recipient access content timestamp online).run (S.env X)
      w).exit = .ret sent := by
  obtain ⟨sent, w', leads⟩ := sendLoop_four_leads lawful unowned sound safe mild timestamp online
  have locked := leads.onExit (.unlock S.recipient)
  exact ⟨sent, locked.1⟩

open Reference in
/-- With the right key, that store takes all four attempts. -/
theorem outdated_store_converges :
    (service (.aci remoteAci)).Takes (some (accessWith 1)) ∧
      ∃ sent, exitOfSend (.aci remoteAci) (some (accessWith 1)) outdatedStore = .ret sent := by
  have takes : (service (.aci remoteAci)).Takes (some (accessWith 1)) := rfl
  have others : ∀ d, ¬ (service (.aci remoteAci)).IsSelf primary d := by
    rintro d ⟨own, -⟩
    revert own
    decide
  have usable : ∀ entry ∈ outdatedStore,
      (service (.aci remoteAci)).usable entry.2 = true := by decide +kernel
  refine ⟨takes, ?_⟩
  exact trySendContent_converges (service_lawful _) (fun d _ => others d) (worldOf_sound _ _)
    (worldOf_safe usable) (fun spent => spent.1 takes) 7 false

open Reference in
/-- With a wrong key it takes one more than there are. A session that cannot be used with
    a removed device ends a send, and so does a recipient that is our own device. -/
theorem outdated_store_spends_budget :
    (service (.aci remoteAci)).Lawful reference ∧
      (service (.aci remoteAci)).Sound reference (worldOf outdatedStore) ∧
      exitOfSend (.aci remoteAci) (some (accessWith 2)) outdatedStore =
        .throw .maximumRetriesLimitExceeded ∧
      exitOfSend (.aci remoteAci) none lapsedStore = .throw (.notFound (.aci remoteAci)) ∧
      exitOfSend (.aci localAci) none [] = .throw .noMessagesToSend := by
  refine ⟨service_lawful _, worldOf_sound _ _, ?_, ?_, ?_⟩
  · decide +kernel
  · decide +kernel
  · decide +kernel

end Service

end SignalService
