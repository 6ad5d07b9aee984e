import PortfolioManager.Connectors.ZerodhaTokenFailures
import PortfolioManager.Library.CivilDays

/-! # The expiry of a session

The broker ends a session at six o'clock in Kolkata on the day after it issued the token. The exchanger
computes the same moment from a clock it reads after the response, so the two agree on one Kolkata day only.
-/

namespace PortfolioManager.Connectors.Zerodha

open PortfolioManager.Python PortfolioManager.Domain PortfolioManager.Application Checked CivilDays HttpxKiteTokenExchanger

/-- The broker's expiry of a token issued at an instant, in microseconds. -/
def brokerExpiry (issuedAt : Instant) : ℤ := nextDayAt microsPerDay kolkataOffset sixHours issuedAt.micros

/-- Two instants lie on one day in Kolkata. -/
def SameKolkataDay (first second : Instant) : Prop := kolkataDay first.micros = kolkataDay second.micros

/-- The exchanger computes the broker's expiry of a token issued when it reads its clock. -/
theorem sessionExpiry_eq_ok_iff_brokerExpiry {observedAt expiresAt : Instant} :
    sessionExpiry observedAt = .ok expiresAt ↔ expiresAt.micros = brokerExpiry observedAt := by
  rw [sessionExpiry_eq_ok_iff]
  refine ⟨fun dated => dated.2, fun value => ⟨?_, value⟩⟩
  have inRange := expiresAt.inRange
  rw [value] at inRange
  simp only [InDatetimeRange, datetimeSpan, brokerExpiry, nextDayAt, dayOf, microsPerDay, sixHours, kolkataOffset] at inRange
  simp only [kolkataDay, calendarDays, microsPerDay, kolkataOffset]
  omega

theorem brokerExpiry_le_iff {first second : Instant} :
    brokerExpiry first ≤ brokerExpiry second ↔ kolkataDay first.micros ≤ kolkataDay second.micros :=
  nextDayAt_le_nextDayAt_iff (by decide)

/-- The session of an exchange expires at the broker's expiry of a token issued when the clock was read. -/
theorem exists_expiry_of_returned {validate : EnvelopeValidator} {reading : Datetime} {credentials : KiteApiCredentials}
    {requestToken : String} {outcome : HttpOutcome} {session : KiteSession} {readAt : Instant}
    (returned : (exchange validate reading credentials requestToken outcome).1 = .ok session)
    (read : asUtc reading "clock value" = .ok readAt) :
    session.accessToken ≠ none ∧ ∃ expiresAt, session.expiresAt = some expiresAt ∧ sessionExpiry readAt = .ok expiresAt := by
  obtain ⟨_, _, _, _, _, _, _, _, _, opened⟩ := exchange_eq_ok_iff.mp returned
  obtain ⟨_, token, now, expiresAt, read', dated, expiry⟩ := openSession_eq_ok_iff.mp opened
  cases read.symm.trans read'
  exact ⟨by simp [token], expiresAt, expiry, dated⟩

/-! ## The gate -/

section Gate

variable {session : KiteSession} {reading : Datetime} {endpoint : KiteEndpoint} {outcome : HttpOutcome}

/-- A transport on the session is ready and sends one request before the expiry, and is expired, sends nothing
and raises an `AUTHENTICATION` error from then on. -/
structure GatedBy (session : KiteSession) (expiresAt : Instant) : Prop where
  early : ∀ reading now endpoint outcome, asUtc reading "clock value" = .ok now → now < expiresAt →
    (∃ state, HttpxKiteTransport.authenticationState session reading = .ok state ∧ state.status = .ready) ∧
      ∃ request, (HttpxKiteTransport.fetch session reading endpoint outcome).2 = [request]
  late : ∀ reading now endpoint outcome, asUtc reading "clock value" = .ok now → ¬now < expiresAt →
    (∃ state, HttpxKiteTransport.authenticationState session reading = .ok state ∧ state.status = .expired ∧
      state.expiresAt = some expiresAt) ∧
      ∃ error, HttpxKiteTransport.fetch session reading endpoint outcome = (.error (.own (.connector error)), []) ∧
        error.kind = .authentication

theorem gatedBy_of_expiry {expiresAt : Instant} (present : session.accessToken ≠ none)
    (expiry : session.expiresAt = some expiresAt) : GatedBy session expiresAt := by
  constructor
  · intro reading now endpoint outcome read before
    have live : HttpxKiteTransport.Live session reading := by
      refine ⟨present, fun expiresAt' expiry' => ⟨now, read, ?_⟩⟩
      cases expiry.symm.trans expiry'
      exact before
    obtain ⟨accessToken, _, fetched⟩ := @HttpxKiteTransport.fetch_of_live session reading endpoint outcome live
    exact ⟨⟨_, HttpxKiteTransport.authenticationState_of_live live, rfl⟩, _, congrArg Prod.snd fetched⟩
  · intro reading now endpoint outcome read after
    have late := not_lt.mp after
    refine ⟨⟨_, HttpxKiteTransport.authenticationState_of_expired present expiry read late, rfl, rfl⟩, ?_⟩
    rw [HttpxKiteTransport.fetch_of_expired present expiry read late, raiseHttp_eq_error _ (by decide)]
    exact ⟨_, rfl, rfl⟩

/-- A session that is not live sends nothing. -/
theorem sends_nothing_of_not_live (ended : ¬HttpxKiteTransport.Live session reading) :
    (HttpxKiteTransport.fetch session reading endpoint outcome).2 = [] := by
  rcases HttpxKiteTransport.gate_cases session reading with
    live | missing | ⟨present, expiresAt, expiry, ⟨now, read, late⟩ | ⟨error, unread⟩⟩
  · exact absurd live ended
  · rw [HttpxKiteTransport.fetch_of_missing missing]
  · rw [HttpxKiteTransport.fetch_of_expired present expiry read late]
  · rw [HttpxKiteTransport.fetch_of_unreadable present expiry unread]

end Gate

/-! ## The expiry and the gate agree -/

/-- The computed expiry is six o'clock in Kolkata on the next day, more than six and at most thirty hours away;
it never goes back, is one for each day, and is the one a transport on the session goes by. -/
theorem expiry_and_gate (observedAt : Instant) (inRange : InDatetimeRange (brokerExpiry observedAt)) :
    ∃ expiresAt, sessionExpiry observedAt = .ok expiresAt ∧
      (kolkataDay expiresAt.micros = kolkataDay observedAt.micros + 1 ∧
        clockOf microsPerDay kolkataOffset expiresAt.micros = sixHours) ∧
      (sixHours < expiresAt.micros - observedAt.micros ∧ expiresAt.micros - observedAt.micros ≤ sixHours + microsPerDay) ∧
      (∀ later laterExpiry, observedAt ≤ later → sessionExpiry later = .ok laterExpiry → expiresAt ≤ laterExpiry) ∧
      (∀ other, SameKolkataDay other observedAt → sessionExpiry other = .ok expiresAt) ∧
      ∀ validate reading credentials requestToken outcome session,
        (exchange validate reading credentials requestToken outcome).1 = .ok session →
        asUtc reading "clock value" = .ok observedAt → GatedBy session expiresAt := by
  have dated : sessionExpiry observedAt = .ok ⟨brokerExpiry observedAt, inRange⟩ := sessionExpiry_eq_ok_iff_brokerExpiry.mpr rfl
  refine ⟨⟨brokerExpiry observedAt, inRange⟩, dated, ?_, nextDayAt_sub_bounds (by decide) _, ?_, ?_, ?_⟩
  · exact (eq_nextDayAt_iff (by decide) (by decide) (by decide)).mp rfl
  · intro later laterExpiry order laterDated
    change brokerExpiry observedAt ≤ laterExpiry.micros
    rw [sessionExpiry_eq_ok_iff_brokerExpiry.mp laterDated]
    exact nextDayAt_le_nextDayAt (by decide) order
  · intro other sameDay
    refine sessionExpiry_eq_ok_iff_brokerExpiry.mpr ?_
    exact le_antisymm (brokerExpiry_le_iff.mpr sameDay.ge) (brokerExpiry_le_iff.mpr sameDay.le)
  · intro validate reading credentials requestToken outcome session returned read
    obtain ⟨present, expiresAt, expiry, dated'⟩ := exists_expiry_of_returned returned read
    cases dated.symm.trans dated'
    exact gatedBy_of_expiry present expiry

/-- A midnight in Kolkata. -/
def midnightInstant : Instant where
  micros := 63921810600000000

def midnight : Datetime := midnightInstant.toDatetime

theorem asUtc_midnight : asUtc midnight "clock value" = .ok midnightInstant := asUtc_toDatetime midnightInstant "clock value"

theorem expiry_and_gate_sample :
    ∃ expiresAt, sessionExpiry midnightInstant = .ok expiresAt ∧ kolkataDay expiresAt.micros = 739837 := by
  obtain ⟨expiresAt, dated, ⟨day, _⟩, _⟩ := expiry_and_gate midnightInstant (by decide)
  exact ⟨expiresAt, dated, day⟩

/-- The session of an exchange whose clock reads midnight. -/
def midnightSession : KiteSession where
  apiKey := "exchange-api-key"
  accessToken := some "granted-token"
  expiresAt := some { micros := 63921918600000000 }
  apiKeyed := by decide
  tokenShape := by decide

theorem midnightSession_returned :
    (exchange (sampleValidate "exchange-api-key" "granted-token") midnight sampleApplication "request-token"
      (.ok (sampleGrant "exchange-api-key" "granted-token"))).1 = .ok midnightSession := by
  refine exchange_eq_ok_iff.mpr ⟨by decide, _, rfl, ⟨by decide, by decide⟩, by decide, rfl, _, sampleValidate_body _ _, rfl, ?_⟩
  exact openSession_eq_ok_iff.mpr ⟨rfl, rfl, midnightInstant, _, asUtc_midnight, rfl, rfl⟩

/-- The last moment a clock can show, twelve hours behind UTC. -/
def lastReading : Datetime where
  wall := 315537897599999999
  utcoffset := some (-43200000000)

/-- A later clock reading without a UTC value overflows, where the session has expired. -/
theorem late_reading_overflows :
    (exchange (sampleValidate "exchange-api-key" "granted-token") midnight sampleApplication "request-token"
        (.ok (sampleGrant "exchange-api-key" "granted-token"))).1 = .ok midnightSession ∧
      lastReading.Aware ∧
      HttpxKiteTransport.authenticationState midnightSession lastReading = .error (.overflowError "date value out of range") ∧
      HttpxKiteTransport.fetch midnightSession lastReading .holdings (.error .timeout) =
        (.error (.own (.builtin (.overflowError "date value out of range"))), []) :=
  ⟨midnightSession_returned, rfl, rfl, rfl⟩

/-! ## The broker's expiry -/

/-- A session ends by the broker's expiry of a token issued at an instant. -/
structure EndsInTime (session : KiteSession) (issuedAt : Instant) : Prop where
  expiry : ∃ expiresAt, session.expiresAt = some expiresAt ∧ expiresAt.micros ≤ brokerExpiry issuedAt
  silent : ∀ reading endpoint outcome, (∀ now, asUtc reading "clock value" = .ok now → brokerExpiry issuedAt ≤ now.micros) →
    (HttpxKiteTransport.fetch session reading endpoint outcome).2 = []

/-- A session whose token was issued before the clock was read ends in time exactly when no midnight in Kolkata
lies between the two. -/
theorem endsInTime_iff {validate : EnvelopeValidator} {reading : Datetime} {credentials : KiteApiCredentials}
    {requestToken : String} {outcome : HttpOutcome} {session : KiteSession} {issuedAt readAt : Instant}
    (returned : (exchange validate reading credentials requestToken outcome).1 = .ok session)
    (read : asUtc reading "clock value" = .ok readAt) (order : issuedAt ≤ readAt) :
    EndsInTime session issuedAt ↔ SameKolkataDay issuedAt readAt := by
  obtain ⟨present, expiresAt, expiry, dated⟩ := exists_expiry_of_returned returned read
  have computed := sessionExpiry_eq_ok_iff_brokerExpiry.mp dated
  constructor
  · rintro ⟨⟨expiresAt', expiry', bound⟩, _⟩
    cases expiry.symm.trans expiry'
    rw [computed] at bound
    exact le_antisymm (dayOf_le_dayOf (by decide) order) (brokerExpiry_le_iff.mp bound)
  · intro sameDay
    have bound : expiresAt.micros ≤ brokerExpiry issuedAt := computed.trans_le (brokerExpiry_le_iff.mpr sameDay.ge)
    refine ⟨⟨expiresAt, expiry, bound⟩, fun reading endpoint outcome after => sends_nothing_of_not_live ?_⟩
    rintro ⟨_, early⟩
    obtain ⟨now, read, before⟩ := early expiresAt expiry
    exact absurd (bound.trans (after now read)) (not_le.mpr before)

theorem endsInTime_iff_sample : EndsInTime midnightSession midnightInstant :=
  (endsInTime_iff midnightSession_returned asUtc_midnight le_rfl).mpr rfl

/-- One second before midnight. -/
def beforeMidnight : Instant where
  micros := 63921810599000000

/-- Six o'clock in Kolkata on the day that begins at that midnight. -/
def sixOClock : Instant where
  micros := 63921832200000000

/-- A token issued before midnight is used a day longer than the broker keeps it. -/
theorem kept_past_broker_expiry :
    (exchange (sampleValidate "exchange-api-key" "granted-token") midnight sampleApplication "request-token"
        (.ok (sampleGrant "exchange-api-key" "granted-token"))).1 = .ok midnightSession ∧
      asUtc midnight "clock value" = .ok midnightInstant ∧ beforeMidnight ≤ midnightInstant ∧
      sixOClock.micros = brokerExpiry beforeMidnight ∧
      (HttpxKiteTransport.fetch midnightSession sixOClock.toDatetime .holdings (.error .timeout)).2 ≠ [] ∧
      ¬EndsInTime midnightSession beforeMidnight := by
  have sent : (HttpxKiteTransport.fetch midnightSession sixOClock.toDatetime .holdings (.error .timeout)).2 ≠ [] := by
    decide
  refine ⟨midnightSession_returned, asUtc_midnight, by decide, by decide, sent, fun ends => sent ?_⟩
  refine ends.silent _ _ _ fun now read => ?_
  rw [asUtc_toDatetime, Except.ok.injEq] at read
  exact read ▸ le_refl _

end PortfolioManager.Connectors.Zerodha
