import SignalService.Attachments.Resume
import SignalService.Effect.Runs

/-! # Waiting for a transfer archive

`PushService::get_transfer_archive`: the service holds one request after another for five minutes
at most, until there is an archive, an error, or no time left. Instants and durations are counted
in nanoseconds.
-/

namespace SignalService

open Effect

inductive TransferArchiveError where
  | relinkRequested
  | continueWithoutUpload

inductive TransferArchiveResult where
  | available (cdn : Nat) (key : String)
  | error (error : TransferArchiveError)

inductive ArchiveCall (U : UrlSyntax) where
  | now
  /-- `timeout` is in seconds. -/
  | send (request : HttpRequest U) (timeout : Nat)

@[reducible] def ArchiveAnswer {U : UrlSyntax} : ArchiveCall U → Type
  | .now => Nat
  | .send _ _ => Except ServiceError HttpResponse

abbrev ArchiveProg (U : UrlSyntax) (α : Type) :=
  Prog (ArchiveCall U) ArchiveAnswer ServiceError α

/-- serde_json, and the last `Instant` of the platform. -/
structure ArchiveExternals (U : UrlSyntax) extends UrlParsers U where
  jsonTransferArchive : Bytes → Option TransferArchiveResult
  lastInstant : Nat

namespace PushService

variable {U : UrlSyntax} (X : Externals) (W : ArchiveExternals U) (service : PushService U)

def nanosPerSec : Nat := 10 ^ 9

/-- Five minutes at most, rounded to seconds. No error of `f64` is as large as a nanosecond at
these sizes, so what is rounded up is what is half a second or more. -/
def pollSecs (remaining : Nat) : Nat :=
  (min remaining (5 * 60 * nanosPerSec) + nanosPerSec / 2) / nanosPerSec

def archiveEndpoint (pollSecs : Nat) : Endpoint U :=
  .service ("/v1/devices/transfer_archive?timeout=" ++ toString pollSecs)

/-- What is made of a response: there is nothing if the archive is not ready. -/
def readTransferArchive (response : HttpResponse) :
    Except ServiceError (Option TransferArchiveResult) :=
  if response.status = 200 then do
    let bytes ← response.bytes
    if bytes = [] then throw (.invalidFrame "200 response had empty body")
    else match W.jsonTransferArchive bytes with
      | none => throw .jsonDecodeError
      | some result => return some result
  else if response.status = 204 then return none
  else do
    let body ← response.text X
    throw (.unhandledResponseCode response.status body)

def pollTransferArchive (pollSecs : Nat) : ArchiveProg U HttpResponse := do
  let builder ← Prog.ofExcept
    (service.request W.toUrlParsers .get (archiveEndpoint pollSecs) .noOverride)
  match builder with
  | none => Prog.throw (.http "builder")
  | some request => Prog.await (.send request (pollSecs + 15)) id

/-- The loop; there is nothing if the fuel does not last. -/
def pollLoop (deadline : Nat) : Nat → ArchiveProg U (Option TransferArchiveResult)
  | 0 => return none
  | fuel + 1 => do
      let now : Nat ← Prog.ask ArchiveCall.now
      let remaining := deadline - now
      if remaining = 0 then Prog.throw (.timeout "timed out waiting for transfer archive")
      else
        let response ← pollTransferArchive W service (pollSecs remaining)
        match ← Prog.ofExcept (readTransferArchive X W response) with
        | some result => return some result
        | none => pollLoop deadline fuel

def getTransferArchive (totalTimeout fuel : Nat) :
    ArchiveProg U (Option TransferArchiveResult) := do
  let start : Nat ← Prog.ask ArchiveCall.now
  if start + totalTimeout ≤ W.lastInstant then pollLoop X W service (start + totalTimeout) fuel
  else Prog.panic "overflow when adding duration to instant"

/-! ## How long is waited -/

theorem pollSecs_le (remaining : Nat) : pollSecs remaining ≤ 5 * 60 := by
  unfold pollSecs nanosPerSec
  omega

theorem pollSecs_le_remaining (remaining : Nat) :
    pollSecs remaining * nanosPerSec ≤ remaining + nanosPerSec / 2 := by
  unfold pollSecs nanosPerSec
  omega

theorem readTransferArchive_eq_none {response : HttpResponse}
    (notReady : readTransferArchive X W response = .ok none) : response.status = 204 := by
  unfold readTransferArchive at notReady
  split at notReady
  case isTrue =>
    cases body : response.bytes with
    | error e =>
        rw [body] at notReady
        cases notReady
    | ok bytes =>
        rw [body] at notReady
        dsimp only [bind, Except.bind] at notReady
        split at notReady
        · cases notReady
        · split at notReady <;> cases notReady
  case isFalse =>
    split at notReady
    case isTrue status => exact status
    case isFalse =>
      cases body : response.text X with
      | error e =>
          rw [body] at notReady
          cases notReady
      | ok text =>
          rw [body] at notReady
          cases notReady

/-! ## Rounds -/

/-- A request before the deadline, which asks for no more time than is left, up to the rounding. -/
structure Asks (deadline instant : Nat) (request : HttpRequest U) : Prop where
  early : instant < deadline
  made : service.request W.toUrlParsers .get (archiveEndpoint (pollSecs (deadline - instant)))
    .noOverride = .ok (some request)
  short : pollSecs (deadline - instant) ≤ 5 * 60
  left : pollSecs (deadline - instant) * nanosPerSec ≤ deadline - instant + nanosPerSec / 2

/-- A round in which the archive was not ready. -/
structure ArchiveRound (U : UrlSyntax) where
  instant : Nat
  request : HttpRequest U
  response : HttpResponse

namespace ArchiveRound

def events (deadline : Nat) (r : ArchiveRound U) : List (Event (ArchiveCall U) ArchiveAnswer) :=
  [⟨.now, r.instant⟩, ⟨.send r.request (pollSecs (deadline - r.instant) + 15), .ok r.response⟩]

structure Fits (W : ArchiveExternals U) (service : PushService U) (deadline : Nat)
    (r : ArchiveRound U) : Prop where
  asks : Asks W service deadline r.instant r.request
  notReady : r.response.status = 204

end ArchiveRound

/-- The last round: the deadline has passed, or a request cannot be made, is not answered, or is
answered by something else than that the archive is not ready. -/
inductive Stops (deadline : Nat) : List (Event (ArchiveCall U) ArchiveAnswer) →
    Exit ServiceError (Option TransferArchiveResult) → Prop where
  | late {instant : Nat} (passed : deadline ≤ instant) :
      Stops deadline [⟨.now, instant⟩] (.throw (.timeout "timed out waiting for transfer archive"))
  | unasked {instant : Nat} {e : ServiceError} (early : instant < deadline)
      (failed : service.request W.toUrlParsers .get
        (archiveEndpoint (pollSecs (deadline - instant))) .noOverride = .error e) :
      Stops deadline [⟨.now, instant⟩] (.throw e)
  | unanswered {instant : Nat} {request : HttpRequest U} {e : ServiceError}
      (asks : Asks W service deadline instant request) :
      Stops deadline [⟨.now, instant⟩,
        ⟨.send request (pollSecs (deadline - instant) + 15), .error e⟩] (.throw e)
  | answered {instant : Nat} {request : HttpRequest U} {response : HttpResponse}
      (asks : Asks W service deadline instant request) (other : response.status ≠ 204) :
      Stops deadline [⟨.now, instant⟩,
        ⟨.send request (pollSecs (deadline - instant) + 15), .ok response⟩]
        (.ofExcept (readTransferArchive X W response))

section Rounds

open Prog

variable {X W service} {deadline fuel : Nat} {es : List (Event (ArchiveCall U) ArchiveAnswer)}
  {x : Exit ServiceError (Option TransferArchiveResult)}

theorem exists_request {method : Method} {endpoint : Endpoint U} {override : HttpAuthOverride}
    {builder : RequestBuilder U}
    (made : service.request W.toUrlParsers method endpoint override = .ok builder) :
    ∃ request, builder = some request := by
  unfold PushService.request at made
  cases url : endpoint.intoUrl W.toUrlParsers service.cfg with
  | error e =>
      rw [url] at made
      cases made
  | ok url' =>
      rw [url] at made
      cases made
      exact ⟨_, rfl⟩

theorem readTransferArchive_notReady {response : HttpResponse} (status : response.status = 204) :
    readTransferArchive X W response = .ok none := by
  unfold readTransferArchive
  rw [if_neg (by omega), if_pos status]
  rfl

/-- What one round can do. -/
theorem pollLoop_succ (trace : Trace (pollLoop X W service deadline (fuel + 1)) es x) :
    (∃ r : ArchiveRound U, r.Fits W service deadline ∧ ∃ later, es = r.events deadline ++ later ∧
      Trace (pollLoop X W service deadline fuel) later x) ∨ Stops X W service deadline es x := by
  obtain ⟨instant, later, rfl, rest⟩ := trace_call.mp trace
  by_cases passed : deadline - instant = 0
  · have rest : Trace (.done (.throw (.timeout "timed out waiting for transfer archive")))
        later x := by
      simpa [passed, Prog.throw] using rest
    obtain ⟨rfl, rfl⟩ := trace_done.mp rest
    exact .inr (.late (Nat.sub_eq_zero_iff_le.mp passed))
  have early : instant < deadline := Nat.sub_ne_zero_iff_lt.mp passed
  have rest : Trace ((pollTransferArchive W service (pollSecs (deadline - instant))).bind
      fun response => (Prog.ofExcept (readTransferArchive X W response)).bind fun found =>
        match found with
        | some result => .done (.ret (some result))
        | none => pollLoop X W service deadline fuel) later x := by
    simpa [passed] using rest
  unfold pollTransferArchive at rest
  cases made : service.request W.toUrlParsers .get
      (archiveEndpoint (pollSecs (deadline - instant))) .noOverride with
  | error e =>
      rw [made] at rest
      obtain ⟨rfl, rfl⟩ := trace_done.mp rest
      exact .inr (.unasked early made)
  | ok builder =>
      obtain ⟨request, rfl⟩ := exists_request made
      rw [made] at rest
      obtain ⟨answer, others, rfl, next⟩ := trace_call.mp rest
      have asks : Asks W service deadline instant request :=
        ⟨early, made, pollSecs_le _, pollSecs_le_remaining _⟩
      cases answer with
      | error e =>
          obtain ⟨rfl, rfl⟩ := trace_done.mp next
          exact .inr (.unanswered asks)
      | ok response =>
          have next : Trace ((Prog.ofExcept (readTransferArchive X W response)).bind _) others x :=
            next
          by_cases notReady : response.status = 204
          · rw [readTransferArchive_notReady notReady] at next
            exact .inl ⟨⟨instant, request, response⟩, ⟨asks, notReady⟩, others, rfl, next⟩
          · have ended : others = [] ∧ x = .ofExcept (readTransferArchive X W response) := by
              cases read : readTransferArchive X W response with
              | error e =>
                  rw [read] at next
                  exact trace_done.mp next
              | ok found =>
                  cases found with
                  | none => exact absurd (readTransferArchive_eq_none X W read) notReady
                  | some result =>
                      rw [read] at next
                      exact trace_done.mp next
            obtain ⟨rfl, rfl⟩ := ended
            exact .inr (.answered asks notReady)

/-- Once there is time left, a request is made of it. -/
theorem trace_asks {instant : Nat} {request : HttpRequest U}
    {answer : Except ServiceError HttpResponse}
    (asks : Asks W service deadline instant request)
    (rest : Trace ((Prog.ofExcept answer).bind fun response =>
      (Prog.ofExcept (readTransferArchive X W response)).bind fun found =>
        match found with
        | some result => .done (.ret (some result))
        | none => pollLoop X W service deadline fuel) es x) :
    Trace (pollLoop X W service deadline (fuel + 1)) (⟨.now, instant⟩ ::
      ⟨.send request (pollSecs (deadline - instant) + 15), answer⟩ :: es) x := by
  refine trace_call.mpr ⟨instant, _, rfl, ?_⟩
  have early : deadline - instant ≠ 0 := Nat.sub_ne_zero_iff_lt.mpr asks.early
  simp only [Prog.ret_bind, if_neg early]
  unfold pollTransferArchive
  rw [asks.made]
  exact trace_call.mpr ⟨answer, es, rfl, rest⟩

theorem trace_round {r : ArchiveRound U} (fits : r.Fits W service deadline)
    (rest : Trace (pollLoop X W service deadline fuel) es x) :
    Trace (pollLoop X W service deadline (fuel + 1)) (r.events deadline ++ es) x := by
  refine trace_asks fits.asks ?_
  rw [Prog.ofExcept, Exit.ofExcept_ok, Prog.ret_bind, readTransferArchive_notReady fits.notReady]
  exact rest

theorem trace_of_stops (stops : Stops X W service deadline es x) :
    Trace (pollLoop X W service deadline (fuel + 1)) es x := by
  cases stops with
  | @late instant passed =>
      refine trace_call.mpr ⟨instant, [], rfl, ?_⟩
      simp only [Prog.ret_bind, if_pos (Nat.sub_eq_zero_iff_le.mpr passed)]
      exact .done _
  | @unasked instant e early failed =>
      refine trace_call.mpr ⟨instant, [], rfl, ?_⟩
      simp only [Prog.ret_bind, if_neg (Nat.sub_ne_zero_iff_lt.mpr early)]
      unfold pollTransferArchive
      rw [failed]
      exact .done _
  | unanswered asks => exact trace_asks asks (.done _)
  | @answered instant request response asks other =>
      refine trace_asks asks ?_
      rw [Prog.ofExcept, Exit.ofExcept_ok, Prog.ret_bind]
      cases read : readTransferArchive X W response with
      | error e => exact .done _
      | ok found =>
          cases found with
          | none => exact absurd (readTransferArchive_eq_none X W read) other
          | some result => exact .done _

theorem pollLoop_rounds (trace : Trace (pollLoop X W service deadline fuel) es x) :
    ∃ (rounds : List (ArchiveRound U)) (last : List (Event (ArchiveCall U) ArchiveAnswer)),
      es = rounds.flatMap (ArchiveRound.events deadline) ++ last ∧
      (∀ r ∈ rounds, r.Fits W service deadline) ∧
      (Stops X W service deadline last x ∨ x = .ret none ∧ rounds.length = fuel) := by
  induction fuel generalizing es with
  | zero =>
      obtain ⟨rfl, rfl⟩ := trace_done.mp trace
      exact ⟨[], [], rfl, by simp, .inr ⟨rfl, rfl⟩⟩
  | succ fuel ih =>
      rcases pollLoop_succ trace with ⟨r, fits, later, rfl, others⟩ | stops
      · obtain ⟨rounds, last, rfl, all, ends⟩ := ih others
        refine ⟨r :: rounds, last, by simp, List.forall_mem_cons.mpr ⟨fits, all⟩, ?_⟩
        exact ends.imp id fun ⟨ended, spent⟩ => ⟨ended, by rw [List.length_cons, spent]⟩
      · exact ⟨[], es, rfl, by simp, .inl stops⟩

/-- Instants that are some time apart, all of them between two others. -/
theorem length_mul_lt {apart bound : Nat} {instants : List Nat}
    (spaced : instants.Pairwise fun a b => a + apart ≤ b) {start : Nat}
    (after : ∀ t ∈ instants, start ≤ t) (before : ∀ t ∈ instants, t < bound)
    (some : instants ≠ []) : start + instants.length * apart < bound + apart := by
  induction instants generalizing start with
  | nil => exact absurd rfl some
  | cons first others ih =>
      obtain ⟨apartFrom, spaced⟩ := List.pairwise_cons.mp spaced
      obtain ⟨since, -⟩ := List.forall_mem_cons.mp after
      obtain ⟨early, earlier⟩ := List.forall_mem_cons.mp before
      by_cases none : others = []
      · subst none
        simp only [List.length_singleton, one_mul]
        omega
      · have rest := ih spaced apartFrom earlier none
        rw [List.length_cons, Nat.succ_mul]
        omega

theorem trace_of_loop {totalTimeout start : Nat} (inside : start + totalTimeout ≤ W.lastInstant)
    (rest : Trace (pollLoop X W service (start + totalTimeout) fuel) es x) :
    Trace (getTransferArchive X W service totalTimeout fuel) (⟨.now, start⟩ :: es) x := by
  refine trace_call.mpr ⟨start, es, rfl, ?_⟩
  simpa only [Prog.ret_bind, if_pos inside] using rest

/-- A run that got as far as its rounds: how it ends, and how many of them there can be. -/
structure Polled (X : Externals) (W : ArchiveExternals U) (service : PushService U)
    (totalTimeout fuel : Nat) (es : List (Event (ArchiveCall U) ArchiveAnswer))
    (x : Exit ServiceError (Option TransferArchiveResult)) (start : Nat)
    (rounds : List (ArchiveRound U)) (last : List (Event (ArchiveCall U) ArchiveAnswer)) :
    Prop where
  events : es = ⟨.now, start⟩ ::
    (rounds.flatMap (ArchiveRound.events (start + totalTimeout)) ++ last)
  fits : ∀ r ∈ rounds, r.Fits W service (start + totalTimeout)
  ends : Stops X W service (start + totalTimeout) last x ∨ x = .ret none ∧ rounds.length = fuel
  /-- Rounds that take some time each come to an end. -/
  stops : ∀ apart, 0 < apart → totalTimeout + apart ≤ fuel * apart →
    (∀ r ∈ rounds, start ≤ r.instant) →
    (rounds.map ArchiveRound.instant).Pairwise (fun a b => a + apart ≤ b) →
    Stops X W service (start + totalTimeout) last x

/-- What is waited for, however the service answers and whatever time that takes. -/
theorem getTransferArchive_polls {totalTimeout : Nat}
    (trace : Trace (getTransferArchive X W service totalTimeout fuel) es x) :
    (∃ start, W.lastInstant < start + totalTimeout ∧ es = [⟨.now, start⟩] ∧ x.Panics) ∨
      ∃ start rounds last, Polled X W service totalTimeout fuel es x start rounds last := by
  obtain ⟨start, later, rfl, rest⟩ := trace_call.mp trace
  by_cases inside : start + totalTimeout ≤ W.lastInstant
  · have rest : Trace (pollLoop X W service (start + totalTimeout) fuel) later x := by
      simpa [inside] using rest
    obtain ⟨rounds, last, rfl, fits, ends⟩ := pollLoop_rounds rest
    refine .inr ⟨start, rounds, last, rfl, fits, ends, ?_⟩
    intro apart positive enough after spaced
    rcases ends with stops | ⟨-, spent⟩
    · exact stops
    · have some : rounds.map ArchiveRound.instant ≠ [] := by
        intro none
        rw [List.map_eq_nil_iff] at none
        rw [none, List.length_nil] at spent
        rw [← spent, Nat.zero_mul] at enough
        omega
      have short := length_mul_lt spaced (List.forall_mem_map.mpr after)
        (List.forall_mem_map.mpr fun r member => (fits r member).asks.early) some
      rw [List.length_map, spent] at short
      exact absurd short (by omega)
  · have rest : Trace (Prog.panic "overflow when adding duration to instant") later x := by
      simpa [inside] using rest
    obtain ⟨rfl, rfl⟩ := trace_done.mp rest
    exact .inl ⟨start, Nat.lt_of_not_le inside, rfl, trivial⟩

end Rounds

end PushService

namespace Sample

/-- An object with 3 under `cdn` and `key` under `key`. -/
def archiveBody : Bytes :=
  [123, 34, 99, 100, 110, 34, 58, 51, 44, 34, 107, 101, 121, 34, 58, 34, 107, 101, 121, 34, 125]

/-- The path, and the query after the question mark. -/
def archiveExternals : ArchiveExternals plainUrls where
  parse _ := some plainUrl
  join base path := some (match path.splitOn "?" with
    | [path, query] => (base.setPath path).setQuery (some query)
    | _ => base.setPath path)
  jsonTransferArchive bytes := if bytes = archiveBody then some (.available 3 "key") else none
  lastInstant := 2 ^ 63 * 10 ^ 9

theorem exists_asks {deadline instant : Nat} (early : instant < deadline) :
    ∃ request, PushService.Asks archiveExternals cdnService deadline instant request :=
  ⟨_, early, rfl, PushService.pollSecs_le _, PushService.pollSecs_le_remaining _⟩

end Sample

open Sample Reference PushService Prog in
/-- The archive is there when it is asked for a second time. -/
theorem archive_at_second_poll : ∃ es,
    Trace (getTransferArchive reference archiveExternals cdnService (60 * 10 ^ 9) 3) es
      (.ret (some (.available 3 "key"))) ∧
    ∃ start rounds last, Polled reference archiveExternals cdnService (60 * 10 ^ 9) 3 es
      (.ret (some (.available 3 "key"))) start rounds last := by
  have trace : ∃ es, Trace (getTransferArchive reference archiveExternals cdnService
      (60 * 10 ^ 9) 3) es (.ret (some (.available 3 "key"))) := by
    have inside : 0 + 60 * 10 ^ 9 ≤ archiveExternals.lastInstant := by decide
    obtain ⟨request, first⟩ := exists_asks (show 0 < 0 + 60 * 10 ^ 9 by decide)
    obtain ⟨request', second⟩ := exists_asks (show 10 ^ 10 < 0 + 60 * 10 ^ 9 by decide)
    have notReady : ArchiveRound.Fits archiveExternals cdnService (0 + 60 * 10 ^ 9)
        ⟨0, request, ⟨204, [], some []⟩⟩ := ⟨first, rfl⟩
    have ready : (⟨200, [], some archiveBody⟩ : HttpResponse).status ≠ 204 := by decide
    have found : readTransferArchive reference archiveExternals ⟨200, [], some archiveBody⟩ =
        .ok (some (.available 3 "key")) := rfl
    have stops : Stops reference archiveExternals cdnService (0 + 60 * 10 ^ 9) _ _ :=
      .answered second ready
    rw [found] at stops
    exact ⟨_, trace_of_loop inside (trace_round notReady (trace_of_stops stops))⟩
  obtain ⟨es, trace⟩ := trace
  rcases getTransferArchive_polls trace with ⟨-, -, -, panics⟩ | polled
  · exact panics.elim
  · exact ⟨es, trace, polled⟩

end SignalService
