import SignalService.Attachments.Resume
import SignalService.Groups.Manager
import SignalService.Revision.Spaced

/-! # Credentials that last

The cache in memory over any number of authorizations: what is in it is what came last, whole.
A server that gives credentials for as long as it is asked to is asked once in eight days.
-/

namespace SignalService.Groups

open Effect Prog
open Revision (Spaced)

variable {U : UrlSyntax}

/-- A request for credentials that was sent, or credentials that went into the cache. -/
inductive Visit where
  | sent (day : Nat)
  | refilled (day : Nat)
  deriving DecidableEq

namespace Visit

def day : Visit → Nat
  | .sent day => day
  | .refilled day => day

def isRefill : Visit → Bool
  | .sent _ => false
  | .refilled _ => true

end Visit

/-- `InMemoryCredentialsCache`, the time, and a log of what happened, the last first. -/
structure CacheState where
  map : CredentialsMap := []
  clock : Nat
  log : List Visit := []

variable (X : Externals) (D : ManagerExternals U)

/-- Credentials that are received at a time are for that day and for the seven after it. -/
def WeekAhead (clock : Nat) (map : CredentialsMap) : Prop :=
  ∀ i ≤ 7, (map.get (daySeconds clock + i * secondsPerDay)).isSome = true

/-- The cache in memory, a clock that does not go back, and a server that gives credentials for
    all days that it is asked for, if it gives any. -/
def cacheWorld : Prog.World (ManagerCall U) ManagerAnswer CacheState
  | .http .now, s, now, t => s.clock ≤ now ∧ t = { s with clock := now }
  | .http (.fillBytes _), s, _, t => t = s
  | .http (.send _), s, answer, t =>
      (∀ response map, answer = .ok response → GroupsManager.readCredentials X D response = .ret map →
        WeekAhead s.clock map) ∧ t = { s with log := .sent (daySeconds s.clock) :: s.log }
  | .cacheGet key, s, answer, t => answer = .ok (s.map.get key) ∧ t = s
  | .cacheWrite map, s, answer, t =>
      answer = .ok () ∧ t = { s with map, log := .refilled (daySeconds s.clock) :: s.log }

namespace GroupsManager

variable {X D} {manager : GroupsManager U} {s t : CacheState} {params : GroupSecretParams}

/-- An authorization made from the cached credential of the day. -/
def Redeems (D : ManagerExternals U) (manager : GroupsManager U) (s : CacheState)
    (params : GroupSecretParams) (auth : HttpAuth) : Prop :=
  ∃ response bytes credential randomness,
    s.map.get (daySeconds s.clock) = some response ∧
    D.receive response manager.serverPublicParams manager.aci manager.pni (daySeconds s.clock) =
      some bytes ∧
    D.newAuthCredential bytes = some credential ∧
    manager.authorize D params credential randomness = .ok auth

theorem getAuthorizationString_happens {response : AuthCredentialWithPniResponse}
    {x : Exit ServiceError HttpAuth}
    (happens : Happens (cacheWorld X D)
      (manager.getAuthorizationString D params response (daySeconds s.clock)) s x t) :
    t = s ∧ ∀ auth, x = .ret auth → s.map.get (daySeconds s.clock) = some response →
      Redeems D manager s params auth := by
  have quiet : Calls (fun c => ∃ length, c = ManagerCall.http (.fillBytes length))
      (manager.getAuthorizationString D params response (daySeconds s.clock)) :=
    calls_getAuthorizationString manager fun length => ⟨length, rfl⟩
  have same : t = s := quiet.happens_kept (by rintro _ s r t ⟨length, rfl⟩ kept; exact kept) happens
  refine ⟨same, ?_⟩
  rintro auth rfl cached
  obtain ⟨es, trace⟩ := happens.trace
  obtain ⟨bytes, credential, randomness, received, made, authorized⟩ :=
    getAuthorizationString_trace trace
  exact ⟨response, bytes, credential, randomness, cached, received, made, authorized⟩

end GroupsManager

namespace CacheState

def advanced (s : CacheState) (now : Nat) : CacheState := { s with clock := now }

def sent (s : CacheState) : CacheState :=
  { s with log := .sent (daySeconds s.clock) :: s.log }

def refilled (s : CacheState) (map : CredentialsMap) : CacheState :=
  { s with map, log := .refilled (daySeconds s.clock) :: s.log }

end CacheState

namespace GroupsManager

variable {X D} {manager : GroupsManager U} {s t : CacheState} {params : GroupSecretParams}

theorem fetchCredentials_happens {today todayPlus7Days : Nat}
    {x : Exit ServiceError CredentialsMap}
    (happens : Happens (cacheWorld X D) (http (manager.fetchCredentials X D today todayPlus7Days))
      s x t) :
    (t = s ∧ ∀ map, x ≠ .ret map) ∨ (t = s.sent ∧ ∀ map, x = .ret map → WeekAhead s.clock map) := by
  unfold fetchCredentials at happens
  cases built : manager.identifiedPushService.request D.toUrlParsers .get
      (.service (credentialsPath today todayPlus7Days)) .noOverride with
  | error e =>
      rw [built] at happens
      obtain ⟨rfl, rfl⟩ := happens_done.mp happens
      exact .inl ⟨rfl, nofun⟩
  | ok builder =>
      rw [built] at happens
      cases builder with
      | none =>
          obtain ⟨rfl, rfl⟩ := happens_done.mp happens
          exact .inl ⟨rfl, nofun⟩
      | some request =>
          obtain ⟨answer, m, ⟨weekly, rfl⟩, rest⟩ := happens_call.mp happens
          cases answer with
          | error e =>
              obtain ⟨rfl, rfl⟩ := happens_done.mp rest
              exact .inr ⟨rfl, nofun⟩
          | ok response =>
              obtain ⟨rfl, rfl⟩ := happens_done.mp rest
              exact .inr ⟨rfl, fun map read => weekly response map rfl read⟩

/-- The cached credential of the day, or what became of fetching it. -/
theorem credentialFor_happens {todayPlus7Days : Nat}
    {x : Exit ServiceError AuthCredentialWithPniResponse}
    (happens : Happens (cacheWorld X D)
      (manager.credentialFor X D (daySeconds s.clock) todayPlus7Days) s x t) :
    (∀ response, x = .ret response → t.map.get (daySeconds s.clock) = some response) ∧
      (t = s ∨ (s.map.get (daySeconds s.clock) = none ∧
        (t = s.sent ∨ ∃ map, WeekAhead s.clock map ∧ t = s.sent.refilled map))) := by
  unfold credentialFor at happens
  obtain ⟨answer, m, ⟨rfl, rfl⟩, rest⟩ := happens_call.mp happens
  cases cached : m.map.get (daySeconds m.clock) with
  | some response =>
      simp only [cached, id, Prog.ofExcept, Exit.ofExcept_ok, ret_bind] at rest
      obtain ⟨rfl, rfl⟩ := happens_done.mp rest
      exact ⟨fun _ ended => by cases ended; exact cached, .inl rfl⟩
  | none =>
      simp only [cached, id, Prog.ofExcept, Exit.ofExcept_ok, ret_bind] at rest
      rcases happens_bind.mp rest with ⟨e, failed, rfl⟩ | ⟨panic, failed, rfl⟩ |
        ⟨map, u, fetched, rest⟩
      · refine ⟨fun response ended => absurd ended (Exit.throw_ne_ret e response), ?_⟩
        rcases fetchCredentials_happens failed with ⟨rfl, -⟩ | ⟨rfl, -⟩
        · exact .inl rfl
        · exact .inr ⟨rfl, .inl rfl⟩
      · refine ⟨fun response ended => absurd ended (Exit.panic_ne_ret panic response), ?_⟩
        rcases fetchCredentials_happens failed with ⟨rfl, -⟩ | ⟨rfl, -⟩
        · exact .inl rfl
        · exact .inr ⟨rfl, .inl rfl⟩
      · rcases fetchCredentials_happens fetched with ⟨-, never⟩ | ⟨rfl, week⟩
        · exact absurd rfl (never map)
        · obtain ⟨_, v, ⟨rfl, rfl⟩, rest⟩ := happens_call.mp rest
          obtain ⟨_, w, ⟨rfl, rfl⟩, rest⟩ := happens_call.mp rest
          obtain ⟨rfl, rfl⟩ := happens_done.mp rest
          refine ⟨?_, .inr ⟨rfl, .inr ⟨map, week map rfl, rfl⟩⟩⟩
          intro response ended
          exact Exit.ofOption_throw_eq_ret.mp ended

/-- What an authorization may leave behind: the cache as it was, or one that was filled because
    it had nothing for the day. -/
def Leaves (s : CacheState) (now : Nat) (t : CacheState) : Prop :=
  t = s.advanced now ∨ (s.map.get (daySeconds now) = none ∧ (t = (s.advanced now).sent ∨
    ∃ map, WeekAhead now map ∧ t = (s.advanced now).sent.refilled map))

theorem Leaves.clock {now : Nat} (leaves : Leaves s now t) : t.clock = now := by
  rcases leaves with rfl | ⟨-, rfl | ⟨map, -, rfl⟩⟩ <;> rfl

theorem getAuthorizationForToday_happens {x : Exit ServiceError HttpAuth}
    (happens : Happens (cacheWorld X D) (manager.getAuthorizationForToday X D params) s x t) :
    ∃ now, s.clock ≤ now ∧ Leaves s now t ∧
      ∀ auth, x = .ret auth → Redeems D manager t params auth := by
  obtain ⟨now, m, ⟨later, rfl⟩, rest⟩ := happens_call.mp happens
  refine ⟨now, later, ?_⟩
  simp only [ret_bind] at rest
  rcases happens_bind.mp rest with ⟨e, failed, rfl⟩ | ⟨panic, failed, rfl⟩ |
    ⟨response, u, found, rest⟩
  · exact ⟨(credentialFor_happens (s := s.advanced now) failed).2, nofun⟩
  · exact ⟨(credentialFor_happens (s := s.advanced now) failed).2, nofun⟩
  · obtain ⟨cached, leaves⟩ := credentialFor_happens (s := s.advanced now) found
    have same : u.clock = now := Leaves.clock leaves
    subst same
    obtain ⟨rfl, redeems⟩ := getAuthorizationString_happens rest
    exact ⟨leaves, fun auth ended => redeems auth ended (cached response rfl)⟩

/-! ## Runs -/

/-- An authorization that was asked for, what came of it, and what it left. -/
structure Authorized (U : UrlSyntax) where
  manager : GroupsManager U
  params : GroupSecretParams
  result : Exit ServiceError HttpAuth
  after : CacheState

/-- Managers that share a cache, one after the other. -/
inductive Authorizations (X : Externals) (D : ManagerExternals U) :
    CacheState → List (Authorized U) → CacheState → Prop where
  | nil (s : CacheState) : Authorizations X D s [] s
  | cons {s t u : CacheState} {manager : GroupsManager U} {params : GroupSecretParams}
      {x : Exit ServiceError HttpAuth} {log : List (Authorized U)} :
      Happens (cacheWorld X D) (manager.getAuthorizationForToday X D params) s x t →
      Authorizations X D t log u → Authorizations X D s (⟨manager, params, x, t⟩ :: log) u

def eightDays : Nat := 8 * secondsPerDay

/-- Whatever the cache does not have is eight days away from all that went into it. -/
structure Lasting (start : Nat) (s : CacheState) : Prop where
  since : ∀ visit ∈ s.log, daySeconds start ≤ visit.day
  upto : ∀ visit ∈ s.log, visit.day ≤ daySeconds s.clock
  spaced : Spaced eightDays Visit.day Visit.isRefill s.log
  missing : ∀ k, s.map.get (k * secondsPerDay) = none →
    (∀ visit ∈ s.log, visit.day ≤ k * secondsPerDay) →
    ∀ visit ∈ s.log, visit.isRefill = true → visit.day + eightDays ≤ k * secondsPerDay

theorem daySeconds_mono {a b : Nat} (le : a ≤ b) : daySeconds a ≤ daySeconds b :=
  Nat.mul_le_mul_right _ (Nat.div_le_div_right le)

theorem Lasting.advanced {start now : Nat} (lasting : Lasting start s) (later : s.clock ≤ now) :
    Lasting start (s.advanced now) :=
  ⟨lasting.since, fun visit member => (lasting.upto visit member).trans (daySeconds_mono later),
    lasting.spaced, lasting.missing⟩

theorem Lasting.sent {start : Nat} (lasting : Lasting start s) (later : start ≤ s.clock)
    (absent : s.map.get (daySeconds s.clock) = none) : Lasting start s.sent := by
  have away := lasting.missing (s.clock / 86400000) absent lasting.upto
  refine ⟨?_, ?_, lasting.spaced.cons away, ?_⟩
  · exact List.forall_mem_cons.mpr ⟨daySeconds_mono later, lasting.since⟩
  · exact List.forall_mem_cons.mpr ⟨le_rfl, lasting.upto⟩
  · intro k missing after visit member refill
    obtain ⟨-, after⟩ := List.forall_mem_cons.mp after
    rcases List.mem_cons.mp member with rfl | member
    · cases refill
    · exact lasting.missing k missing after visit member refill

theorem Lasting.refilled {start : Nat} {map : CredentialsMap} (lasting : Lasting start s)
    (later : start ≤ s.clock) (absent : s.map.get (daySeconds s.clock) = none)
    (week : WeekAhead s.clock map) : Lasting start (s.refilled map) := by
  have away := lasting.missing (s.clock / 86400000) absent lasting.upto
  refine ⟨?_, ?_, lasting.spaced.cons away, ?_⟩
  · exact List.forall_mem_cons.mpr ⟨daySeconds_mono later, lasting.since⟩
  · exact List.forall_mem_cons.mpr ⟨le_rfl, lasting.upto⟩
  · intro k missing after visit member refill
    obtain ⟨today, -⟩ := List.forall_mem_cons.mp after
    have beyond : daySeconds s.clock + eightDays ≤ k * secondsPerDay := by
      by_contra near
      simp only [Visit.day, daySeconds, eightDays, secondsPerDay] at today near
      have covered := week (k - s.clock / 86400000) (by omega)
      have same : daySeconds s.clock + (k - s.clock / 86400000) * secondsPerDay =
          k * secondsPerDay := by
        simp only [daySeconds, secondsPerDay]
        omega
      rw [same] at covered
      simp only [CacheState.refilled] at missing
      rw [missing] at covered
      cases covered
    rcases List.mem_cons.mp member with rfl | member
    · exact beyond
    · have := lasting.upto visit member
      simp only [eightDays] at beyond ⊢
      omega

theorem Lasting.leaves {start now : Nat} (lasting : Lasting start s) (begun : start ≤ s.clock)
    (later : s.clock ≤ now) (leaves : Leaves s now t) : Lasting start t := by
  have advanced := lasting.advanced later
  rcases leaves with rfl | ⟨absent, rfl | ⟨map, week, rfl⟩⟩
  · exact advanced
  · exact advanced.sent (begun.trans later) absent
  · exact (advanced.sent (begun.trans later) absent).refilled (begun.trans later) absent week

theorem Lasting.run {start : Nat} {log : List (Authorized U)} (lasting : Lasting start s)
    (begun : start ≤ s.clock) (run : Authorizations X D s log t) :
    Lasting start t ∧ ∀ authorized ∈ log, ∀ auth, authorized.result = .ret auth →
      Redeems D authorized.manager authorized.after authorized.params auth := by
  induction run with
  | nil s => exact ⟨lasting, fun _ member => absurd member List.not_mem_nil⟩
  | cons happens _ ih =>
      obtain ⟨now, later, leaves, redeems⟩ := getAuthorizationForToday_happens happens
      have begun' := leaves.clock.symm ▸ begun.trans later
      obtain ⟨lasting', rest⟩ := ih (lasting.leaves begun later leaves) begun'
      exact ⟨lasting', List.forall_mem_cons.mpr ⟨redeems, rest⟩⟩

/-- Once credentials went into the cache, none are asked for before eight days are over; so there
    are as few requests that succeed as there can be. Each authorization is made of what the
    cache has for its day. -/
theorem credentials_last {start : Nat} {log : List (Authorized U)}
    (run : Authorizations X D { clock := start } log t) :
    Spaced eightDays Visit.day Visit.isRefill t.log ∧
      t.log.countP Visit.isRefill * eightDays ≤
        daySeconds t.clock - daySeconds start + eightDays ∧
      ∀ authorized ∈ log, ∀ auth, authorized.result = .ret auth →
        Redeems D authorized.manager authorized.after authorized.params auth := by
  have lasting : Lasting start { clock := start } :=
    ⟨by simp, by simp, Revision.spaced_nil, by simp⟩
  obtain ⟨lasting, redeems⟩ := lasting.run le_rfl run
  exact ⟨lasting.spaced, lasting.spaced.countP_mul_le lasting.since lasting.upto, redeems⟩

end GroupsManager

namespace Sample

open SignalService.Sample (plainUrls cdnService cdnExternals zeros)

/-- Eight days of credentials from the first day on. -/
def weekExternals : ManagerExternals plainUrls where
  toUrlParsers := cdnExternals.toUrlParsers
  jsonCredentialResponse _ :=
    some ((List.range 8).map fun i => ⟨"AA==", i * secondsPerDay⟩)
  base64Relaxed _ := some [0]
  hex bytes := toString bytes.length
  newAuthCredentialResponse bytes := some ⟨bytes⟩
  receive response _ _ _ _ := some response.serialized
  newAuthCredential bytes := some ⟨bytes⟩
  present credential _ _ randomness := credential.serialized ++ randomness
  deriveFromMasterKey key := ⟨key.bytes⟩
  serializePublicParams params := some params.serialized

def weekManager : GroupsManager plainUrls := ⟨removedAci, ⟨⟨7⟩⟩, cdnService, ⟨[]⟩⟩

def weekMap : CredentialsMap := (List.range 8).map fun i => (i * secondsPerDay, ⟨[0]⟩)

def firstDay : CacheState := ⟨weekMap, 0, [.refilled 0, .sent 0]⟩

def seventhDay : CacheState := ⟨weekMap, 518400000, [.refilled 0, .sent 0]⟩

theorem weekAhead_weekMap : WeekAhead 0 weekMap := by
  intro i le
  interval_cases i <;> rfl

theorem fetched_on_first_day :
    Happens (cacheWorld reference weekExternals)
      (weekManager.getAuthorizationForToday reference weekExternals ⟨[]⟩) { clock := 0 }
      (.ret ⟨"0", "33"⟩) firstDay := by
  refine .call (c := ManagerCall.http .now) (r := (0 : Nat)) (m := { clock := 0 }) ⟨le_rfl, rfl⟩ ?_
  refine .call (c := ManagerCall.cacheGet 0) (r := .ok none) (m := { clock := 0 }) ⟨rfl, rfl⟩ ?_
  refine .call (r := .ok ⟨200, [], some []⟩) (m := ⟨[], 0, [.sent 0]⟩) ⟨?_, rfl⟩ ?_
  · rintro response map ⟨⟩ read
    cases read
    exact weekAhead_weekMap
  refine .call (c := ManagerCall.cacheWrite weekMap) (r := .ok ()) (m := firstDay) ⟨rfl, rfl⟩ ?_
  refine .call (c := ManagerCall.cacheGet 0) (r := .ok (some ⟨[0]⟩)) (m := firstDay) ⟨rfl, rfl⟩ ?_
  exact .call (c := ManagerCall.http (.fillBytes 32)) (r := zeros 32) rfl (.done _ _)

theorem cached_on_seventh_day :
    Happens (cacheWorld reference weekExternals)
      (weekManager.getAuthorizationForToday reference weekExternals ⟨[]⟩) firstDay
      (.ret ⟨"0", "33"⟩) seventhDay := by
  refine .call (c := ManagerCall.http .now) (r := (518400000 : Nat)) (m := seventhDay)
    ⟨Nat.zero_le _, rfl⟩ ?_
  refine .call (c := ManagerCall.cacheGet 518400) (r := .ok (some ⟨[0]⟩)) (m := seventhDay)
    ⟨rfl, rfl⟩ ?_
  exact .call (c := ManagerCall.http (.fillBytes 32)) (r := zeros 32) rfl (.done _ _)

end Sample

open Groups.Sample in
/-- Two authorizations, six days apart, take one request. -/
theorem credentials_last_a_week :
    Spaced GroupsManager.eightDays Visit.day Visit.isRefill seventhDay.log ∧
      seventhDay.log.countP Visit.isRefill * GroupsManager.eightDays ≤
        daySeconds seventhDay.clock - daySeconds 0 + GroupsManager.eightDays ∧
      GroupsManager.Redeems weekExternals weekManager seventhDay ⟨[]⟩ ⟨"0", "33"⟩ := by
  obtain ⟨spaced, count, redeems⟩ := GroupsManager.credentials_last
    (.cons fetched_on_first_day (.cons cached_on_seventh_day (.nil _)))
  exact ⟨spaced, count, redeems _ (List.mem_cons_of_mem _ List.mem_cons_self) _ rfl⟩

end SignalService.Groups
