import SignalService.Effect.Lockers
import SignalService.Sessions.Locking
import SignalService.Reference

/-! # The guards of the session locks

`session_lock.rs` keeps one mutex for every peer it was ever asked for, in a map that all clones
share. Whatever tasks do with them, a peer has one guard at most, and waits for no other peer's.
The tasks of this crate take one lock at a time, so that they never wait in a circle.
-/

namespace SignalService

open Effect Prog

/-- `SessionLocks`: which map it points to. -/
structure SessionLocks where
  peers : Nat
  deriving DecidableEq, Repr

/-- The derived `Clone`, which copies the pointer. -/
def SessionLocks.clone (locks : SessionLocks) : SessionLocks := { peers := locks.peers }

/-- One of the clones that come from `origin`. -/
inductive SessionLocks.CloneOf (origin : SessionLocks) : SessionLocks → Prop where
  | origin : CloneOf origin origin
  | clone {locks : SessionLocks} (cloned : CloneOf origin locks) : CloneOf origin locks.clone

theorem SessionLocks.CloneOf.peers {origin locks : SessionLocks} (cloned : CloneOf origin locks) :
    locks.peers = origin.peers := by
  induction cloned with
  | origin => rfl
  | clone _ same => exact same

/-- The calls of the session locks. `SessionLocks::lock` locks the map, looks the peer up and puts a
    new mutex there if it finds none, unlocks the map and waits for the mutex. A map whose lock is
    poisoned is used as it is. -/
def lockUse : Call → Use Empty ServiceId
  | .lock peer => .acquire peer
  | .unlock peer => .release peer
  | _ => .plain

/-- The same, for the peers of protocol addresses. -/
def peerLockUse : Call → Use ProtocolAddress Peer
  | .lock peer => .acquire (.inl peer)
  | .unlock peer => .release (.inl peer)
  | _ => .plain

/-- The program holds one session lock at a time, whatever it is answered. -/
abbrev OneLock {ε α : Type} (held : Option ServiceId) (p : Async ε α) : Prop :=
  Locked lockUse Empty.elim (fun _ _ => True) (fun _ => False) held p

theorem oneLock_of_peers {X : Externals} {ε α : Type} {p : Async ε α} {held : Option ServiceId}
    (locked : Locked peerLockUse (peerOf X) (fun _ _ => True) (fun _ => False) (held.map .inl) p) :
    OneLock held p := by
  induction p generalizing held with
  | done x => simpa [Locked] using locked
  | call c k ih =>
      cases c with
      | lock peer =>
          simp only [Locked, peerLockUse, Option.map_eq_none_iff] at locked
          simp only [OneLock, Locked, lockUse]
          exact ⟨locked.1, fun r _ => ih r (locked.2 r trivial)⟩
      | unlock peer =>
          simp only [Locked, peerLockUse, Option.map_eq_some_iff, Sum.inl.injEq,
            exists_eq_right] at locked
          simp only [OneLock, Locked, lockUse]
          exact ⟨locked.1, fun r _ => ih r (locked.2 r trivial)⟩
      | _ =>
          simp only [Locked, peerLockUse] at locked
          simp only [OneLock, Locked, lockUse]
          exact ⟨.inl rfl, fun r _ => ih r (locked.2 r trivial)⟩

section Programs

variable {X : Externals}

theorem peers_covered : Covers X peerLockUse (fun _ _ => True) (fun _ => False) where
  lock _ := rfl
  unlock _ := rfl
  outer _ := rfl
  getIdentity _ := rfl
  loadSession _ := .inl rfl
  identified id device msgType contents loc _ := by
    cases msgType with
    | whisper | preKey => exact .bind trivial fun _ => ⟨.inl rfl, fun _ _ => trivial⟩
    | senderKey => exact ⟨.inl rfl, fun _ _ => trivial⟩
    | plaintext => trivial
  sealedInside held msgType contents remote loc _ := by
    cases msgType with
    | whisper | preKey => exact .bind trivial fun _ => ⟨.inl rfl, fun _ _ => trivial⟩
    | senderKey => exact ⟨.inl rfl, fun _ _ => trivial⟩
    | plaintext => trivial
  senderKey plaintext := by
    unfold ingestSenderKey
    split
    · trivial
    · refine .bind (.mapErr _ trivial) fun skdm => ?_
      refine .bind (.mapErr _ ⟨.inl rfl, fun _ _ => trivial⟩) fun _ => ?_
      exact .bind (.mapErr _ trivial) fun _ => trivial

theorem openEnvelope_oneLock {cipher : ServiceCipher} {envelope : Envelope} :
    OneLock none (openEnvelope X cipher envelope) := by
  have locked : Locked peerLockUse (peerOf X) (fun _ _ => True) (fun _ => False)
      ((none : Option ServiceId).map .inl) (openEnvelope X cipher envelope) :=
    peers_covered.openEnvelope
  exact oneLock_of_peers locked

variable {sender : MessageSender} {recipient : ServiceId} {content : OutgoingContent}
  {timestamp : Nat} {online : Bool}

/-- The program leaves the session locks alone. -/
abbrev Unlocking {ε α : Type} (p : Async ε α) : Prop := Calls (fun c => lockUse c = .plain) p

theorem Serves.plain {D : ProtocolAddress → Prop} {c : Call}
    (serves : sender.Serves X D recipient c) : lockUse c = .plain := by
  cases serves <;> rfl

theorem sendAttempt_unlocking {access : Option UnidentifiedAccess} :
    Unlocking (sender.sendAttempt X recipient content timestamp online access) := by
  refine .bind (MessageSender.createEncryptedMessages_calls.mono fun _ => Serves.plain)
    fun messages => ?_
  cases messages with
  | none => trivial
  | some messages =>
      have submitted : Unlocking (MessageSender.submit X access
          ⟨recipient, timestamp, messages.messages, online⟩) := by
        cases access <;> exact ⟨rfl, fun _ _ => trivial⟩
      refine .bind submitted.attempt fun result => ?_
      cases result with
      | ok response => trivial
      | error e =>
          have repaired : Unlocking (sender.repair X recipient access e) :=
            (MessageSender.repair_serves (D := fun _ => True) (fun _ => trivial) e).mono
              fun _ => Serves.plain
          exact .bind repaired fun _ => trivial

theorem sendLoop_unlocking (attempts : Nat) (access : Option UnidentifiedAccess) :
    Unlocking (sender.sendLoop X recipient content timestamp online attempts access) := by
  induction attempts generalizing access with
  | zero => trivial
  | succ attempts ih =>
      refine .bind sendAttempt_unlocking fun outcome => ?_
      cases outcome with
      | inl sent => trivial
      | inr next => exact ih next

theorem trySendContent_oneLock {access : Option UnidentifiedAccess} :
    OneLock none (sender.trySendContent X recipient access content timestamp online) := by
  have entered : lockUse (.lock recipient) = .acquire recipient := rfl
  have left : lockUse (.unlock recipient) = .release recipient := rfl
  exact CallsWhen.locked_section entered left ((sendLoop_unlocking 4 access).mono fun _ => .inl)

end Programs

/-! ## Tasks -/

/-- What a task does with sessions. -/
inductive SessionWork where
  | trySendContent (sender : MessageSender) (recipient : ServiceId)
      (access : Option UnidentifiedAccess) (content : OutgoingContent) (timestamp : Nat)
      (online : Bool)
  | openEnvelope (cipher : ServiceCipher) (envelope : Envelope)

namespace SessionWork

def prog (X : Externals) : SessionWork → Async Unit Unit
  | .trySendContent sender recipient access content timestamp online =>
      (sender.trySendContent X recipient access content timestamp online).forget
  | .openEnvelope cipher envelope => (SignalService.openEnvelope X cipher envelope).forget

/-- One after the other, however each ends. -/
def progs (X : Externals) : List SessionWork → Async Unit Unit
  | [] => .done (.ret ())
  | work :: rest => (work.prog X).bind fun _ => progs X rest

theorem progs_oneLock {X : Externals} (works : List SessionWork) :
    OneLock none (progs X works) := by
  induction works with
  | nil => rfl
  | cons work rest ih =>
      refine Locked.bind ?_ fun _ => ih
      cases work with
      | trySendContent => exact trySendContent_oneLock.forget
      | openEnvelope => exact openEnvelope_oneLock.forget

end SessionWork

section Tasks

variable {ι : Type} [DecidableEq ι]

/-- Tasks that run together, each with its own copy of the session locks. -/
def lockers (locks : ι → SessionLocks) (progs : ι → Async Unit Unit)
    (turns : List (Turn Call Answer ι)) : Lockers Call Answer ServiceId Nat ι :=
  Lockers.run lockUse (fun i => (locks i).peers) (Lockers.start progs) turns

/-- The map, the lines and the guards of the session locks. -/
def lockTable (origin : SessionLocks) (s : Lockers Call Answer ServiceId Nat ι) :
    Mutexes ServiceId ι :=
  s.tables origin.peers

/-- A peer has one guard at most, and all there are are in one place. -/
def OneGuard (origin : SessionLocks) (s : Lockers Call Answer ServiceId Nat ι) : Prop :=
  (∀ peer, ((lockTable origin s).guards.filter (·.key = peer)).length ≤ 1) ∧
    ∀ map ≠ origin.peers, (s.tables map).guards = []

/-- Who waits for a mutex waits for a guard of the same peer, or for others who do; and where
    nobody has one, the first in line gets it next. -/
structure WaitsForPeer (s : Mutexes ServiceId ι) : Prop where
  guard : ∀ i peer mutex, s.stage i = .queued peer mutex →
    ∀ guard ∈ s.guards, guard.mutex = mutex → guard.key = peer
  line : ∀ i peer mutex, s.stage i = .queued peer mutex →
    ∀ j ∈ s.queue mutex, s.stage j = .queued peer mutex
  free : ∀ i peer mutex, s.stage i = .queued peer mutex → (s.queue mutex).head? = some i →
    (∀ guard ∈ s.guards, guard.key ≠ peer) → s.Gets i

omit [DecidableEq ι] in
theorem waitsForPeer {s : Mutexes ServiceId ι} (sound : s.Sound) :
    WaitsForPeer s where
  guard i peer mutex queued guard live same := by
    refine sound.same_key live ?_
    rw [same]
    exact sound.entry i peer mutex queued
  line i peer mutex queued j member := sound.line_key queued member
  free i peer mutex queued first unguarded := by
    refine ⟨peer, mutex, queued, first, fun guard live same => ?_⟩
    refine unguarded guard live (sound.same_key live ?_)
    rw [same]
    exact sound.entry i peer mutex queued

/-- Whatever tasks do with clones of the session locks, a peer has one guard at most, keeps its
    mutex, and has no other peer to wait for. Tasks that send and receive request no lock while
    they have one, and never wait in a circle. -/
theorem sessionLocks_safe (origin : SessionLocks) (locks : ι → SessionLocks)
    (clones : ∀ i, SessionLocks.CloneOf origin (locks i)) :
    (∀ (progs : ι → Async Unit Unit) (turns : List (Turn Call Answer ι)),
      OneGuard origin (lockers locks progs turns) ∧
      WaitsForPeer (lockTable origin (lockers locks progs turns)) ∧
      ∀ peer mutex, (lockTable origin (lockers locks progs turns)).entries peer = some mutex →
        ∀ later, (lockTable origin (lockers locks progs (turns ++ later))).entries peer =
          some mutex) ∧
    (∀ (X : Externals) (works : ι → List SessionWork) (turns : List (Turn Call Answer ι)),
      (∀ i peer,
        Lockers.Requests lockUse (lockers locks (fun i => SessionWork.progs X (works i)) turns) i
          peer →
        ¬ (lockers locks (fun i => SessionWork.progs X (works i)) turns).Holds i) ∧
      ∀ i, ¬ Relation.TransGen (Lockers.WaitsFor lockUse (fun i => (locks i).peers)
        (lockers locks (fun i => SessionWork.progs X (works i)) turns)) i i) := by
  constructor
  · intro progs turns
    have sound : (lockers locks progs turns).Sound := Lockers.sound_start.run turns
    refine ⟨⟨(sound origin.peers).one_guard, fun map other => ?_⟩,
      waitsForPeer (sound origin.peers), fun peer mutex entry later => ?_⟩
    · have untouched : (lockers locks progs turns).tables map = Mutexes.empty :=
        Lockers.run_tables_of_ne (fun i same => other (same.symm.trans (clones i).peers)) turns
      rw [untouched]
      rfl
    · have kept : ((Lockers.run lockUse (fun i => (locks i).peers) (lockers locks progs turns)
          later).tables origin.peers).entries peer = some mutex := sound.run_entries entry later
      unfold lockers Lockers.run at kept ⊢
      rw [List.foldl_append]
      exact kept
  · intro X works turns
    have sound : (lockers locks (fun i => SessionWork.progs X (works i)) turns).Sound :=
      Lockers.sound_start.run turns
    have tidy : ∀ i, Lockers.Tidy lockUse (fun i => (locks i).peers) Empty.elim (fun _ => False)
        (lockers locks (fun i => SessionWork.progs X (works i)) turns) i :=
      Lockers.tidy_run Lockers.sound_start
        (Lockers.tidy_start fun i => SessionWork.progs_oneLock (works i))
    refine ⟨fun i peer requests => (tidy i).not_holds requests, fun i => ?_⟩
    exact Lockers.no_circle sound tidy

end Tasks

/-! A message is sent to a peer while one of the peer is received, with a clone of the locks. -/

namespace Sample

def sessionLocks : SessionLocks := ⟨7⟩

def cloned : Bool → SessionLocks
  | false => sessionLocks
  | true => sessionLocks.clone

theorem cloned_cloneOf : ∀ i, SessionLocks.CloneOf sessionLocks (cloned i)
  | false => .origin
  | true => .clone .origin

def fromPeer : Envelope where
  type := some 1
  sourceServiceId := some (Reference.serviceIdString (.aci Reference.remoteAci))
  sourceDeviceId := some 1
  destinationServiceId := some (Reference.serviceIdString (.aci Reference.localAci))
  clientTimestamp := some 5
  serverTimestamp := some 6
  content := some [1]

def sendAndReceive : Bool → List SessionWork
  | false => [.trySendContent Reference.primary (.aci Reference.remoteAci) none
      (.encrypted Reference.dataContentBytes) 7 false]
  | true => [.openEnvelope Reference.primary.cipher fromPeer]

/-- The sender takes the lock, and the receiver gets in line for it. -/
def contended : List (Turn Call Answer Bool) :=
  List.replicate 4 (.poll false Call.fallback) ++ List.replicate 4 (.poll true Call.fallback)

def contendedState : Lockers Call Answer ServiceId Nat Bool :=
  lockers cloned (fun i => SessionWork.progs reference (sendAndReceive i)) contended

end Sample

theorem contended_peer :
    (lockTable Sample.sessionLocks Sample.contendedState).guards =
        [⟨false, .aci Reference.remoteAci, 0⟩] ∧
      (lockTable Sample.sessionLocks Sample.contendedState).stage true =
        .queued (.aci Reference.remoteAci) 0 ∧
      OneGuard Sample.sessionLocks Sample.contendedState ∧
      (∀ i peer, Lockers.Requests lockUse Sample.contendedState i peer →
        ¬ Sample.contendedState.Holds i) ∧
      ∀ i, ¬ Relation.TransGen (Lockers.WaitsFor lockUse (fun i => (Sample.cloned i).peers)
        Sample.contendedState) i i := by
  obtain ⟨locks, tasks⟩ := sessionLocks_safe Sample.sessionLocks Sample.cloned Sample.cloned_cloneOf
  obtain ⟨requests, circles⟩ := tasks reference Sample.sendAndReceive Sample.contended
  exact ⟨rfl, rfl, (locks _ Sample.contended).1, requests, circles⟩

end SignalService
