import SignalService.PreKeys.Vault

/-! # Pre keys that can be used

`update_pre_key_bundle` saves each key before it uploads any. Whatever fails while keys are
refreshed, and whatever the others do in the meantime, what somebody was given can be answered.
-/

namespace SignalService

open Effect Prog Stock Relation

variable {K : Curve}

/-! ## Making keys -/

section Making

variable {L : KeyLibrary K} {pair : KeyPair K} {signedPreKeys kyberPreKeys : Set UInt32}
  {pending : OfferedKeys} {offset : UInt32} {s : Published K}

open Published

/-- The calls of `replenish_pre_keys`, while others act. -/
abbrev KeyLibrary.replenishWorld (L : KeyLibrary K) :
    Prog.World (PreKeyCall K) (PreKeyAnswer K) (Published K) :=
  L.replenishing.amid Published.Others

theorem numbersAfter_mono {is js : List Nat} (subset : is ⊆ js) :
    NumbersAfter offset is ⊆ NumbersAfter offset js := by
  rintro id ⟨i, member, number⟩
  exact ⟨i, subset member, number⟩

/-- Once the first number is taken, the others are still free. -/
theorem numbersAfter_cons {i : Nat} {is : List Nat} {id : UInt32} (distinct : (i :: is).Nodup)
    (few : ∀ j ∈ i :: is, j ≤ 100) (number : id.toNat = preKeyNumber offset i) :
    NumbersAfter offset is ⊆ NumbersAfter offset (i :: is) \ {id} := by
  rintro other ⟨j, member, otherNumber⟩
  refine ⟨⟨j, List.mem_cons_of_mem _ member, otherNumber⟩, fun same => ?_⟩
  have apart : i ≠ j := by
    rintro rfl
    exact (List.nodup_cons.mp distinct).1 member
  have iFew := few i List.mem_cons_self
  have jFew := few j (List.mem_cons_of_mem _ member)
  rw [Set.mem_singleton_iff.mp same, number] at otherNumber
  unfold preKeyNumber at otherNumber
  omega

theorem append_within_cons {α : Type} {keys : List α} {key : α} :
    (keys ++ [key]).Subperm (key :: keys) :=
  (List.perm_append_singleton _ _).subperm

section Calls

variable {C : Type} {R : C → Type} {ε α : Type} {W : Prog.World C R (Published K)} {c : C}
  {free free' : FreeIds} {pending' : OfferedKeys}

/-- A call that changes nothing. -/
theorem Published.Making.ask {V : R c → Prop} (making : s.Making L pair free pending)
    (quiet : ∀ m r t, m.Making L pair free pending → W c m r t → t = m ∧ V r) :
    Ensures (W.amid Published.Others) (fun r t => V r ∧ t.Making L pair free pending)
      (Sound L .none) (Prog.ask c : Prog C R ε (R c)) s := by
  apply ensures_ask
  intro r t answer
  obtain ⟨m, making, answer⟩ := making.amid answer
  obtain ⟨rfl, value⟩ := quiet m r t making answer
  exact ⟨value, making⟩

theorem Published.Making.await {V : α → Published K → Prop} {read : R c → Except ε α}
    (making : s.Making L pair free pending)
    (quiet : ∀ m r t, m.Making L pair free pending → W c m r t →
      t = m ∧ ∀ a, read r = .ok a → V a m) :
    Ensures (W.amid Published.Others) (fun a t => V a t ∧ t.Making L pair free pending)
      (Sound L .none) (Prog.await c read) s := by
  apply ensures_await
  · intro r t a answer ok
    obtain ⟨m, making, answer⟩ := making.amid answer
    obtain ⟨rfl, value⟩ := quiet m r t making answer
    exact ⟨value a ok, making⟩
  · intro r t e answer _
    obtain ⟨m, making, answer⟩ := making.amid answer
    obtain ⟨rfl, -⟩ := quiet m r t making answer
    exact making.given_up

/-- A call that saves a key, or fails before it has. -/
theorem Published.Making.save {read : R c → Except ε α} (making : s.Making L pair free pending)
    (saves : ∀ m r t, m.Making L pair free pending → W c m r t →
      (∃ e, read r = .error e ∧ t = m) ∨ t.Making L pair free' pending') :
    Ensures (W.amid Published.Others) (fun _ t => t.Making L pair free' pending')
      (Sound L .none) (Prog.await c read) s := by
  apply ensures_await
  · intro r t a answer ok
    obtain ⟨m, making, answer⟩ := making.amid answer
    obtain ⟨e, failed, -⟩ | saved := saves m r t making answer
    · rw [ok] at failed
      cases failed
    · exact saved
  · intro r t e answer _
    obtain ⟨m, making, answer⟩ := making.amid answer
    obtain ⟨-, -, rfl⟩ | saved := saves m r t making answer
    · exact making.given_up
    · exact saved.given_up

theorem Published.Making.preKeyId {i : Nat} (making : s.Making L pair free pending) :
    Ensures W (fun id t => id.toNat = preKeyNumber offset i ∧ t.Making L pair free pending)
      (Sound L .none) (Prog.ofExit (preKeyId offset i) : Prog C R SignalProtocolError UInt32)
      s := by
  apply ensures_ofExit
  · intro id returned
    exact ⟨(preKeyId_eq_ret.mp returned).2, making⟩
  · exact making.given_up

end Calls

variable {free : FreeIds}

theorem savePreKey_ensures (record : PreKeyRecord K) (making : s.Making L pair free pending)
    (unused : record.id ∈ free.preKeys) (matching : record.keyPair.Matches) :
    Ensures L.replenishWorld (fun _ =>
        Published.Making L pair { free with preKeys := free.preKeys \ {record.id} }
          { pending with preKeys := record.entity :: pending.preKeys })
      (Sound L .none) (Prog.await (.savePreKey record.id record) id) s := by
  apply making.save
  rintro m r t making (⟨e, failed, same⟩ | rfl)
  · exact .inl ⟨e, failed, same⟩
  · exact .inr (making.savePreKey record unused matching)

theorem saveKyberPreKey_ensures (record : KyberPreKeyRecord)
    (making : s.Making L pair free pending) (unused : record.id ∈ free.kyberPreKeys)
    (opens : L.OpensKyber pair.publicKey record record.entity) :
    Ensures L.replenishWorld (fun _ =>
        Published.Making L pair { free with kyberPreKeys := free.kyberPreKeys \ {record.id} }
          { pending with pqPreKeys := record.entity :: pending.pqPreKeys })
      (Sound L .none) (Prog.await (.saveKyberPreKey record.id record) id) s := by
  apply making.save
  rintro m r t making (⟨e, failed, same⟩ | rfl)
  · exact .inl ⟨e, failed, same⟩
  · exact .inr (making.saveKyberPreKey record unused opens)

theorem generatePreKeys_ensures (is : List Nat) (preKeys : List (PreKeyRecord K))
    (distinct : is.Nodup) (few : ∀ i ∈ is, i ≤ 100)
    {signed : List SignedPreKeyEntity} {pqPreKeys lastResort : List KyberPreKeyEntity}
    (making : s.Making L pair ⟨NumbersAfter offset is, signedPreKeys, kyberPreKeys⟩
      ⟨preKeys.map PreKeyRecord.entity, signed, pqPreKeys, lastResort⟩) :
    Ensures L.replenishWorld
      (fun made => Published.Making L pair ⟨∅, signedPreKeys, kyberPreKeys⟩
        ⟨made.map PreKeyRecord.entity, signed, pqPreKeys, lastResort⟩)
      (Sound L .none) (generatePreKeys offset is preKeys) s := by
  induction is generalizing preKeys s with
  | nil => exact { making with preKeys := fun _ member => member.elim }
  | cons i is ih =>
      refine (making.ask (V := fun _ => True) fun _ _ _ _ same => ⟨same, trivial⟩).bind ?_
      rintro privateKey s ⟨-, making⟩
      refine making.preKeyId.bind ?_
      rintro preKeyId s ⟨number, making⟩
      refine (savePreKey_ensures ⟨preKeyId, .ofPrivate privateKey⟩ making
        ⟨i, List.mem_cons_self, number⟩ rfl).bind ?_
      intro _ s making
      refine ih _ (List.nodup_cons.mp distinct).2 (fun j member => few j (.tail _ member)) ?_
      refine Published.Making.fewer { making with
        preKeys := making.preKeys.mono (numbersAfter_cons distinct few number) } ⟨?_, ?_, ?_, ?_⟩
      · rw [List.map_append, List.map_singleton]
        exact append_within_cons
      · exact List.Subset.refl _
      · exact List.Subperm.refl _
      · exact List.Subset.refl _

/-- Those of the last numbers that are not taken stay free. -/
theorem generateKyberPreKeys_ensures (is later : List Nat) (pqPreKeys : List KyberPreKeyRecord)
    (distinct : (is ++ later).Nodup) (few : ∀ i ∈ is ++ later, i ≤ 100)
    {free : Set UInt32} {preKeys : List PreKeyEntity} {signed : List SignedPreKeyEntity}
    {lastResort : List KyberPreKeyEntity}
    (making : s.Making L pair ⟨free, signedPreKeys, NumbersAfter offset (is ++ later)⟩
      ⟨preKeys, signed, pqPreKeys.map KyberPreKeyRecord.entity, lastResort⟩) :
    Ensures L.replenishWorld
      (fun made => Published.Making L pair ⟨free, signedPreKeys, NumbersAfter offset later⟩
        ⟨preKeys, signed, made.map KyberPreKeyRecord.entity, lastResort⟩)
      (Sound L .none) (generateKyberPreKeys offset pair is pqPreKeys) s := by
  induction is generalizing pqPreKeys s with
  | nil => exact making
  | cons i is ih =>
      refine making.preKeyId.bind ?_
      rintro preKeyId s ⟨number, making⟩
      refine (making.await fun m r t making answer => answer).bind ?_
      rintro key s ⟨⟨halves, signed⟩, making⟩
      refine (saveKyberPreKey_ensures ⟨preKeyId, key⟩ making
        ⟨i, List.mem_cons_self, number⟩ ⟨halves, ?_, rfl⟩).bind ?_
      · rw [← making.pair, ← making.sound.pair, making.pair]
        exact signed
      intro _ s making
      refine ih _ (List.nodup_cons.mp distinct).2 (fun j member => few j (.tail _ member)) ?_
      refine Published.Making.fewer { making with
        kyberPreKeys := making.kyberPreKeys.mono (numbersAfter_cons distinct few number) }
          ⟨?_, ?_, ?_, ?_⟩
      · exact List.Subperm.refl _
      · exact List.Subset.refl _
      · rw [List.map_append, List.map_singleton]
        exact append_within_cons
      · exact List.Subset.refl _

theorem Published.Making.opensOwn {free : FreeIds} (making : s.Making L pair free pending)
    {message signature : Bytes}
    (signed : L.Verifies (K.publicKey pair.privateKey) message signature) :
    L.Verifies pair.publicKey message signature := by
  have matching := making.sound.pair
  rw [making.pair] at matching
  exact matching ▸ signed

theorem generateSignedPreKey_ensures {id : UInt32} (making : s.Making L pair free pending)
    (unused : id ∈ free.signedPreKeys) :
    Ensures L.replenishWorld (fun record =>
        Published.Making L pair { free with signedPreKeys := free.signedPreKeys \ {id} }
          { pending with signedPreKeys := record.entity :: pending.signedPreKeys })
      (Sound L .none) (generateSignedPreKey pair id) s := by
  refine (making.ask (V := fun _ => True) fun _ _ _ _ same => ⟨same, trivial⟩).bind ?_
  rintro privateKey s ⟨-, making⟩
  refine (making.await fun m r t making answer => answer).bind ?_
  rintro signature s ⟨signed, making⟩
  refine (making.ask (V := fun _ => True) fun _ _ _ _ same => ⟨same, trivial⟩).bind ?_
  rintro timestamp s ⟨-, making⟩
  have opens := making.opensOwn signed
  refine Ensures.bind (making.save ?_) fun _ s made => ensures_ret made
  rintro m r t making (⟨e, failed, same⟩ | rfl)
  · exact .inl ⟨e, failed, same⟩
  · exact .inr (making.saveSignedPreKey ⟨id, timestamp, .ofPrivate privateKey, signature⟩ unused
      ⟨rfl, opens, rfl⟩)

theorem generateLastResortKey_ensures {n : Nat} {pqPreKeys : List KyberPreKeyRecord}
    (making : s.Making L pair free pending)
    (unused : NumbersAfter offset [n] ⊆ free.kyberPreKeys) :
    Ensures L.replenishWorld (fun record =>
        Published.Making L pair { free with kyberPreKeys := free.kyberPreKeys \ {record.id} }
          { pending with lastResort := record.entity :: pending.lastResort })
      (Sound L .none) (generateLastResortKey pair offset n pqPreKeys) s := by
  refine making.preKeyId.bind ?_
  rintro preKeyId s ⟨number, making⟩
  refine Ensures.bind (ensures_ofExit (fun _ _ => making) making.given_up) ?_
  intro _ s making
  refine (making.await fun m r t making answer => answer).bind ?_
  rintro key s ⟨⟨halves, signed⟩, making⟩
  have opens := making.opensOwn signed
  refine Ensures.bind (making.save ?_) fun _ s made => ensures_ret made
  rintro m r t making (⟨e, failed, same⟩ | rfl)
  · exact .inl ⟨e, failed, same⟩
  · exact .inr (making.storeLastResort ⟨preKeyId, key⟩
      (unused ⟨n, List.mem_singleton_self n, number⟩) ⟨halves, opens, rfl⟩)

theorem Published.Making.reserved {free' : FreeIds} (making : s.Making L pair free pending)
    (preKeys : free'.preKeys ⊆ free.preKeys)
    (signedPreKeys : free'.signedPreKeys ⊆ free.signedPreKeys)
    (kyberPreKeys : free'.kyberPreKeys ⊆ free.kyberPreKeys) : s.Making L pair free' pending where
  sound := making.sound
  pair := making.pair
  preKeys := making.preKeys.mono preKeys
  signedPreKeys := making.signedPreKeys.mono signedPreKeys
  kyberPreKeys := making.kyberPreKeys.mono kyberPreKeys

/-- What was made, besides last resort keys from before. -/
def ReplenishedKeys.offered (keys : ReplenishedKeys K) (lastResort : List KyberPreKeyEntity) :
    OfferedKeys where
  preKeys := keys.preKeys.map PreKeyRecord.entity
  signedPreKeys := [keys.signedPreKey.entity]
  pqPreKeys := keys.pqPreKeys.map KyberPreKeyRecord.entity
  lastResort := keys.pqLastResortKey.toList.map KyberPreKeyRecord.entity ++ lastResort

theorem replenishPreKeys_ensures {lastResort : List KyberPreKeyEntity} {useLastResortKey : Bool}
    {preKeyCount kyberPreKeyCount : UInt32} (batch : preKeyCount.toNat ≤ 100)
    (kyberBatch : kyberPreKeyCount.toNat ≤ 100)
    (making : s.Making L pair ⟨∅, ∅, ∅⟩ ⟨[], [], [], lastResort⟩) :
    Ensures L.replenishWorld
      (fun keys => Published.Making L pair ⟨∅, ∅, ∅⟩ (keys.offered lastResort))
      (Sound L .none)
      (replenishPreKeys pair useLastResortKey preKeyCount kyberPreKeyCount) s := by
  have preKeysFree (offset : UInt32) : NumbersAfter offset (List.range preKeyCount.toNat) ⊆
      NumbersAfter offset (List.range 101) :=
    numbersAfter_mono (List.range_subset.mpr (Nat.le_succ_of_le batch))
  have kyberFree (offset : UInt32) :
      NumbersAfter offset (List.range kyberPreKeyCount.toNat ++ [kyberPreKeyCount.toNat]) ⊆
        NumbersAfter offset (List.range 101) := by
    rw [← List.range_succ]
    exact numbersAfter_mono (List.range_subset.mpr (Nat.succ_le_succ kyberBatch))
  refine (making.await fun m r t making answer => answer).bind ?_
  rintro preKeysOffsetId s ⟨unused, making⟩
  replace making : s.Making L pair ⟨NumbersAfter preKeysOffsetId (List.range preKeyCount.toNat),
      ∅, ∅⟩ _ := { making with preKeys := unused.mono (preKeysFree _) }
  refine (making.await fun m r t making answer => answer).bind ?_
  rintro nextSignedPreKeyId s ⟨unused, making⟩
  replace making : s.Making L pair ⟨_, {nextSignedPreKeyId}, ∅⟩ _ :=
    { making with signedPreKeys := unused }
  refine (making.await fun m r t making answer => answer).bind ?_
  rintro pqPreKeysOffsetId s ⟨unused, making⟩
  replace making : s.Making L pair ⟨_, _, NumbersAfter pqPreKeysOffsetId
      (List.range kyberPreKeyCount.toNat ++ [kyberPreKeyCount.toNat])⟩ _ :=
    { making with kyberPreKeys := unused.mono (kyberFree _) }
  refine (generatePreKeys_ensures _ [] List.nodup_range ?_ making).bind ?_
  · intro i member
    rw [List.mem_range] at member
    omega
  intro preKeys s making
  refine (generateKyberPreKeys_ensures _ _ [] ?_ ?_ making).bind ?_
  · rw [← List.range_succ]
    exact List.nodup_range
  · intro i member
    rw [← List.range_succ, List.mem_range] at member
    omega
  intro pqPreKeys s making
  refine (generateSignedPreKey_ensures making (Set.mem_singleton _)).bind ?_
  intro signedPreKey s making
  cases useLastResortKey with
  | false =>
      exact ensures_ret
        (making.reserved (Set.empty_subset _) (Set.empty_subset _) (Set.empty_subset _))
  | true =>
      refine (generateLastResortKey_ensures making (Set.Subset.refl _)).bind ?_
      intro lastResort s making
      exact ensures_ret
        (making.reserved (Set.empty_subset _) (Set.empty_subset _) (Set.empty_subset _))

end Making

/-! ## Refreshing -/

section Refreshing

variable {L : KeyLibrary K} {kind kind' : ServiceIdKind} {s t : Published K}

open Published AccountManager

abbrev KeyLibrary.refreshWorld (L : KeyLibrary K) (kind : ServiceIdKind) :
    Prog.World (RefreshCall K) (RefreshAnswer K) (Published K) :=
  (L.answers kind).amid Published.Others

theorem Published.Sound.making (sound : s.Sound L .none) :
    s.Making L s.vault.identityKeyPair ⟨∅, ∅, ∅⟩ .none :=
  ⟨sound, rfl, fun _ => False.elim, fun _ => False.elim, fun _ => False.elim⟩

/-- What is uploaded for an identity is what is pending. -/
structure PreKeyState.Carries (state : PreKeyState K) (pair : KeyPair K) (pending : OfferedKeys) :
    Prop where
  identityKey : state.identityKey = pair.publicKey
  preKeys : state.preKeys = pending.preKeys
  signedPreKey : state.signedPreKey ∈ pending.signedPreKeys
  pqPreKeys : state.pqPreKeys = pending.pqPreKeys
  lastResort : state.pqLastResortKey.toList ⊆ pending.lastResort

variable {pair : KeyPair K} {free : FreeIds} {pending : OfferedKeys} {state : PreKeyState K}

/-- What was pending is offered once it is uploaded. -/
theorem Published.Making.uploaded {shelf : KeyShelf K} (making : s.Making L pair free pending)
    (carries : state.Carries pair pending) (uploaded : s.shelf.Uploaded state shelf) :
    Sound L .none { s with shelf := shelf } := by
  obtain ⟨left, pqLeft, fewer, pqFewer, rfl⟩ := uploaded
  obtain ⟨identityKey, preKeys, signedPreKey, pqPreKeys, lastResort⟩ := carries
  obtain ⟨⟨matching, -, given, answers⟩, same, -, -, -⟩ := making
  have before {α : Type} {new left old given : List α} (fewer : left.Sublist old) :
      ((new ++ left) ++ given).Subperm (new ++ (old ++ given)) := by
    rw [List.append_assoc]
    exact ((fewer.append_right given).append_left new).subperm
  refine ⟨matching, identityKey.trans (congrArg _ same.symm), given, answers.fewer ⟨?_, ?_, ?_, ?_⟩⟩
  · change ((state.preKeys ++ left) ++ _).Subperm (pending.preKeys ++ _)
    rw [preKeys]
    exact before fewer
  · change [state.signedPreKey] ++ s.given.map _ ⊆
      pending.signedPreKeys ++ (s.shelf.signedPreKey.toList ++ s.given.map _)
    refine List.append_subset.mpr ⟨?_, ?_⟩
    · exact List.cons_subset.mpr ⟨List.mem_append_left _ signedPreKey, List.nil_subset _⟩
    · exact List.subset_append_of_subset_right _ (List.subset_append_right _ _)
  · change ((state.pqPreKeys ++ pqLeft) ++ _).Subperm (pending.pqPreKeys ++ _)
    rw [pqPreKeys]
    exact before pqFewer
  · change (state.pqLastResortKey.or s.shelf.pqLastResortKey).toList ++ s.given.flatMap _ ⊆
      pending.lastResort ++ (s.shelf.pqLastResortKey.toList ++ s.given.flatMap _)
    refine List.append_subset.mpr ⟨?_, ?_⟩
    · cases made : state.pqLastResortKey with
      | some own =>
          rw [made] at lastResort
          exact List.subset_append_of_subset_left _ lastResort
      | none =>
          exact List.subset_append_of_subset_right _ (List.subset_append_left _ _)
    · exact List.subset_append_of_subset_right _ (List.subset_append_right _ _)

theorem Published.Making.register (making : s.Making L pair free pending)
    (carries : state.Carries pair pending) :
    Ensures (L.refreshWorld kind) (fun _ => Sound L .none) (Sound L .none)
      (Prog.await (.registerPreKeys kind' state) id) s := by
  have upload (r : Except ServiceError Unit) (t : Published K)
      (answer : L.refreshWorld kind (.registerPreKeys kind' state) s r t) : t.Sound L .none := by
    obtain ⟨m, making, rfl | ⟨-, shelf, uploaded, rfl⟩⟩ := making.amid answer
    · exact making.given_up
    · exact making.uploaded carries uploaded
  apply ensures_await
  · exact fun r t _ answer _ => upload r t answer
  · exact fun r t _ answer _ => upload r t answer

/-- The last resort key that is uploaded is one of those there were, or the new one. -/
theorem uploadedLastResort_subset {keys : ReplenishedKeys K}
    (lastResortKeys : List KyberPreKeyRecord) :
    ((lastResortKeys.head?.or keys.pqLastResortKey).map KyberPreKeyRecord.entity).toList ⊆
      (keys.offered (lastResortKeys.map KyberPreKeyRecord.entity)).lastResort := by
  cases lastResortKeys with
  | nil => cases made : keys.pqLastResortKey <;> simp [ReplenishedKeys.offered, made]
  | cons first others => simp [ReplenishedKeys.offered]

theorem orProtocolError_eq_ok {α : Type} {r : Except SignalProtocolError α} {a : α} :
    orProtocolError r = .ok a ↔ r = .ok a := by
  cases r <;> simp [orProtocolError]

theorem refreshPreKeys_ensures {useLastResortKey : Bool} (sound : s.Sound L .none) :
    Ensures (L.refreshWorld kind) (fun _ => Sound L .none) (Sound L .none)
      (refreshPreKeys kind' useLastResortKey) s := by
  refine (sound.making.await (V := fun pair m => pair = m.vault.identityKeyPair)
    fun m r t making answer => ⟨answer.1, fun pair ok => ?_⟩).bind ?_
  · exact answer.2 pair (orProtocolError_eq_ok.mp ok)
  rintro pair s ⟨rfl, making⟩
  refine (making.sound.making.await (V := fun keys m => keys ⊆ m.vault.lastResortKeys)
    fun m r t making answer => ⟨answer.1, fun keys ok => ?_⟩).bind ?_
  · exact answer.2 keys (orProtocolError_eq_ok.mp ok)
  rintro lastResortKeys t ⟨known, making⟩
  -- The keys that were loaded are still there when the others have been made.
  replace making : t.Making L s.vault.identityKeyPair ⟨∅, ∅, ∅⟩
      ⟨[], [], [], lastResortKeys.map KyberPreKeyRecord.entity⟩ := by
    obtain ⟨⟨matching, shelf, given, answers⟩, same, preKeys, signedPreKeys, kyberPreKeys⟩ := making
    refine ⟨⟨matching, shelf, given, answers.preKeys, answers.signedPreKeys,
      answers.kyberPreKeys, ?_⟩, same, preKeys, signedPreKeys, kyberPreKeys⟩
    exact List.append_subset.mpr ⟨List.map_subset _ known, answers.lastResort⟩
  have batch : preKeyBatchSize.toNat ≤ 100 := by decide
  refine Ensures.bind (P := fun keys => Published.Making L s.vault.identityKeyPair ⟨∅, ∅, ∅⟩
    (keys.offered (lastResortKeys.map KyberPreKeyRecord.entity))) (Ensures.mapErr ?_ _) ?_
  · apply Ensures.lift (W := L.replenishWorld)
    · exact fun _ _ _ _ answer => answer
    · exact replenishPreKeys_ensures batch batch making
  intro keys t making
  rw [uploadedLastResortKey_eq, preKeyEntities_eq, kyberEntities_eq]
  exact making.register ⟨rfl, rfl, List.mem_singleton_self _, rfl,
    uploadedLastResort_subset lastResortKeys⟩

theorem asks_sound {c : RefreshCall K} {r : RefreshAnswer K c} (asks : c.Asks)
    (answer : L.refreshWorld kind c s r t) (sound : s.Sound L .none) : t.Sound L .none := by
  obtain ⟨m, making, answer⟩ := sound.making.amid answer
  cases c with
  | replenish | registerPreKeys => cases asks
  | getIdentityKeyPair | loadLastResortKyberPreKeys =>
      obtain ⟨rfl, -⟩ := answer
      exact making.sound
  | _ =>
      obtain rfl := answer
      exact making.sound

theorem checkPreKeys_asks {sha256 : Bytes → Bytes} :
    Calls RefreshCall.Asks (checkPreKeys sha256 kind : RefreshProg K Bool) := by
  refine CallsWhen.bind (calls_await trivial) fun signedId => ?_
  cases signedId with
  | none => trivial
  | some signedId =>
      refine CallsWhen.bind (calls_await trivial) fun kyberId => ?_
      cases kyberId with
      | none => trivial
      | some kyberId =>
          refine CallsWhen.bind (calls_await trivial) fun signed => ?_
          refine CallsWhen.bind (calls_await trivial) fun kyber => ?_
          refine CallsWhen.bind (calls_await trivial) fun pair => ?_
          exact calls_await trivial

theorem hasRepeatedUseKeys_asks :
    Calls RefreshCall.Asks (hasRepeatedUseKeys : RefreshProg K Bool) := by
  refine CallsWhen.bind (calls_await trivial) fun signedCount => ?_
  split
  · refine CallsWhen.bind (calls_await trivial) fun kyberCount => ?_
    split
    · refine CallsWhen.bind (calls_await trivial) fun signedId => ?_
      split
      · exact CallsWhen.bind (calls_await trivial) fun kyberId => trivial
      · trivial
    · trivial
  · trivial

theorem updatePreKeyBundle_ensures {sha256 : Bytes → Bytes} {useLastResortKey : Bool}
    (sound : s.Sound L .none) :
    Ensures (L.refreshWorld kind) (fun _ => Sound L .none) (Sound L .none)
      (updatePreKeyBundle sha256 kind' useLastResortKey) s := by
  have asks {α : Type} {p : RefreshProg K α} {s : Published K} (calls : Calls RefreshCall.Asks p)
      (sound : s.Sound L .none) :
      Ensures (L.refreshWorld kind) (fun _ => Sound L .none) (Sound L .none) p s :=
    calls.ensures (fun _ _ _ _ asks answer => asks_sound asks answer) sound
  refine Ensures.bind (asks (calls_await trivial) sound) fun status s sound => ?_
  refine (asks checkPreKeys_asks sound).bind fun upToDate s sound => ?_
  split
  · refine (asks hasRepeatedUseKeys_asks sound).bind fun sufficient s sound => ?_
    cases sufficient with
    | true => exact sound
    | false => exact refreshPreKeys_ensures sound
  · exact refreshPreKeys_ensures sound

/-- Whatever is refreshed, given out and used, everything that is out can be answered. -/
theorem KeyLibrary.Step.sound {sha256 : Bytes → Bytes} (step : L.Step sha256 kind s t)
    (sound : s.Sound L .none) : t.Sound L .none := by
  cases step with
  | refresh happens => exact (updatePreKeyBundle_ensures sound).happens (fun _ _ => id) happens
  | others step => exact (sound.making.others step).sound

theorem Published.Sound.run {sha256 : Bytes → Bytes} (sound : s.Sound L .none)
    (run : ReflTransGen (L.Step sha256 kind) s t) : t.Sound L .none := by
  induction run with
  | refl => exact sound
  | tail _ step ih => exact step.sound ih

end Refreshing

/-- However refreshes of keys end, and whatever the server and others do before, during and after
    them, whoever was given keys can start a session with them, and no one-time key was given
    twice. -/
theorem KeyLibrary.given_keys_open (L : KeyLibrary K) (sha256 : Bytes → Bytes)
    (kind : ServiceIdKind) {s t : Published K} (sound : s.Sound L .none)
    (run : ReflTransGen (L.Step sha256 kind) s t) :
    (∀ keys ∈ t.given, t.vault.Opens L keys) ∧
      ((t.given.flatMap (·.preKey.toList)).map (·.keyId)).Nodup ∧
      ((t.given.flatMap (·.oneTimeKyber.toList)).map (·.keyId)).Nodup := by
  obtain ⟨-, -, given, answers⟩ := sound.run run
  refine ⟨fun keys member => ?_, ?_, ?_⟩
  · exact KeyVault.Answers.opens answers member (given keys member)
  · exact ((List.sublist_append_right _ _).map _).nodup answers.preKeys.distinct
  · exact ((List.sublist_append_right _ _).map _).nodup answers.kyberPreKeys.distinct

namespace Sample

/-- Signatures are the message and the key. -/
def byteLibrary : KeyLibrary byteCurve where
  Verifies (key : UInt8) message signature := signature = message ++ [key]
  KyberPair publicKey secretKey := secretKey = publicKey

def newDevice : Published byteCurve where
  vault := ⟨byteKeyPair, fun _ => none, fun _ => none, fun _ => none, []⟩
  shelf := ⟨byteKeyPair.publicKey, [], none, [], none⟩
  given := []

/-- A store whose numbers start at 0, once. -/
def firstNumber {V : Type} (kept : UInt32 → Option V) : Except SignalProtocolError UInt32 :=
  if (List.range 101).all fun i => (kept (.ofNat (preKeyNumber 0 i))).isNone then .ok 0
  else .error (.other "no number")

def vaultEnv : (c : PreKeyCall byteCurve) → Published byteCurve →
    PreKeyAnswer byteCurve c × Published byteCurve
  | .nextPreKeyId, s => (firstNumber s.vault.preKeys, s)
  | .nextSignedPreKeyId, s =>
      (if s.vault.signedPreKeys 1 = none then .ok 1 else .error (.other "no number"), s)
  | .nextPqPreKeyId, s => (firstNumber s.vault.kyberPreKeys, s)
  | .generateKeyPair, s => ((9 : UInt8), s)
  | .generateKyberKey (signingKey : UInt8), s => (.ok ⟨[1], [1], [1, signingKey]⟩, s)
  | .calculateSignature (key : UInt8) message, s => (.ok (message ++ [key]), s)
  | .now, s => (1700000000000, s)
  | .savePreKey id record, s =>
      (.ok (), { s with vault.preKeys := Function.update s.vault.preKeys id (some record) })
  | .saveKyberPreKey id record, s =>
      (.ok (), { s with
        vault.kyberPreKeys := Function.update s.vault.kyberPreKeys id (some record) })
  | .saveSignedPreKey id record, s =>
      (.ok (), { s with
        vault.signedPreKeys := Function.update s.vault.signedPreKeys id (some record) })
  | .storeLastResortKyberPreKey id record, s =>
      (.ok (), { s with
        vault.kyberPreKeys := Function.update s.vault.kyberPreKeys id (some record)
        vault.lastResortKeys := record :: s.vault.lastResortKeys })

/-- A server that has nothing, and takes what it is given in place of what it had. -/
def deviceEnv : (c : RefreshCall byteCurve) → Published byteCurve →
    RefreshAnswer byteCurve c × Published byteCurve
  | .getPreKeyStatus _, s => (.error .unauthorized, s)
  | .checkPreKeys _ _, s => (.ok false, s)
  | .registerPreKeys kind state, s =>
      (.ok (), if kind = .aci then { s with shelf := ⟨state.identityKey, state.preKeys,
        some state.signedPreKey, state.pqPreKeys,
        state.pqLastResortKey.or s.shelf.pqLastResortKey⟩ } else s)
  | .signedPrekeyId, s | .lastResortKyberPrekeyId, s => (.ok none, s)
  | .getSignedPreKey _, s | .getKyberPreKey _, s => (.error (.other "no key"), s)
  | .getIdentityKeyPair, s => (.ok s.vault.identityKeyPair, s)
  | .signedPreKeysCount, s | .kyberPreKeysCount _, s => (.ok 0, s)
  | .loadLastResortKyberPreKeys, s => (.ok s.vault.lastResortKeys, s)
  | .replenish c, s => vaultEnv c s

def refreshedDevice : Published byteCurve :=
  ((AccountManager.updatePreKeyBundle id .aci true).run deviceEnv newDevice).state

end Sample

open Sample

theorem firstNumber_unused {V : Type} {kept : UInt32 → Option V} {offset : UInt32}
    (given : firstNumber kept = .ok offset) :
    Unused kept (NumbersAfter offset (List.range 101)) := by
  unfold firstNumber at given
  split at given
  case isFalse => cases given
  case isTrue free =>
      cases given
      rintro id ⟨i, member, number⟩
      have own : UInt32.ofNat (preKeyNumber 0 i) = id := by
        change _ = preKeyNumber 0 i at number
        rw [← number, UInt32.ofNat_toNat]
      have absent := List.all_eq_true.mp free i member
      rw [own, Option.isNone_iff_eq_none] at absent
      exact absent

theorem vaultEnv_answers (c : PreKeyCall byteCurve) (s : Published byteCurve) :
    byteLibrary.replenishing c s (vaultEnv c s).1 (vaultEnv c s).2 := by
  cases c with
  | nextPreKeyId | nextPqPreKeyId => exact ⟨rfl, fun offset given => firstNumber_unused given⟩
  | nextSignedPreKeyId =>
      refine ⟨rfl, fun id given => ?_⟩
      change (if s.vault.signedPreKeys 1 = none then _ else _) = _ at given
      split at given
      case isTrue free =>
          cases given
          rintro _ rfl
          exact free
      case isFalse => cases given
  | generateKeyPair | now => rfl
  | generateKyberKey =>
      refine ⟨rfl, ?_⟩
      rintro _ ⟨⟩
      exact ⟨rfl, rfl⟩
  | calculateSignature =>
      refine ⟨rfl, ?_⟩
      rintro _ ⟨⟩
      rfl
  | savePreKey | saveKyberPreKey | saveSignedPreKey | storeLastResortKyberPreKey =>
      exact .inr rfl

theorem deviceEnv_answers (c : RefreshCall byteCurve) (s : Published byteCurve) :
    byteLibrary.answers .aci c s (deviceEnv c s).1 (deviceEnv c s).2 := by
  cases c with
  | registerPreKeys kind state =>
      by_cases own : kind = .aci
      · refine .inr ⟨own, _, ⟨[], [], List.nil_sublist _, List.nil_sublist _, rfl⟩, ?_⟩
        simp only [deviceEnv, own, if_true, List.append_nil]
      · exact .inl (if_neg own)
  | getIdentityKeyPair =>
      refine ⟨rfl, ?_⟩
      rintro _ ⟨⟩
      rfl
  | loadLastResortKyberPreKeys =>
      refine ⟨rfl, ?_⟩
      rintro _ ⟨⟩
      exact List.Subset.refl _
  | replenish c => exact vaultEnv_answers c s
  | _ => rfl

theorem newDevice_sound : newDevice.Sound byteLibrary .none :=
  ⟨rfl, rfl, nofun, backed_nil, backed_nil, backed_nil, List.nil_subset _⟩

theorem refreshedDevice_reached :
    byteLibrary.Step id .aci newDevice refreshedDevice :=
  .refresh (happens_amid (happens_run deviceEnv_answers
    (AccountManager.updatePreKeyBundle id .aci true) newDevice))

theorem gives_first {shelf : KeyShelf K} {signedPreKey : SignedPreKeyEntity}
    {preKey : PreKeyEntity} {preKeys : List PreKeyEntity} {pqPreKey : KyberPreKeyEntity}
    {pqPreKeys : List KyberPreKeyEntity} (signed : shelf.signedPreKey = some signedPreKey)
    (first : shelf.preKeys = preKey :: preKeys)
    (pqFirst : shelf.pqPreKeys = pqPreKey :: pqPreKeys) :
    shelf.Gives ⟨shelf.identityKey, some preKey, signedPreKey, pqPreKey, true⟩ preKeys pqPreKeys :=
  ⟨rfl, signed, .of_eq first, .of_eq pqFirst, List.nil_subset _⟩

/-- A new device uploads its first keys, and somebody is given some of them. -/
theorem first_keys_open : ∃ (s : Published byteCurve) (keys : GivenKeys byteCurve),
    ReflTransGen (byteLibrary.Step id .aci) newDevice s ∧ keys ∈ s.given ∧
      keys.preKey.isSome ∧ s.vault.Opens byteLibrary keys := by
  have signed : refreshedDevice.shelf.signedPreKey.isSome := by decide +kernel
  have preKeys : refreshedDevice.shelf.preKeys.length = 100 := by decide +kernel
  have pqPreKeys : refreshedDevice.shelf.pqPreKeys.length = 100 := by decide +kernel
  obtain ⟨signedPreKey, signed⟩ := Option.isSome_iff_exists.mp signed
  obtain ⟨preKey, others, preKeys⟩ := List.exists_cons_of_length_eq_add_one preKeys
  obtain ⟨pqPreKey, pqOthers, pqPreKeys⟩ := List.exists_cons_of_length_eq_add_one pqPreKeys
  have gives := gives_first signed preKeys pqPreKeys
  have run := (ReflTransGen.single refreshedDevice_reached).tail (.others (.give gives))
  obtain ⟨opens, -, -⟩ := byteLibrary.given_keys_open id .aci newDevice_sound run
  exact ⟨_, _, run, List.mem_cons_self, rfl, opens _ List.mem_cons_self⟩

end SignalService
