import PortfolioManager.Connectors.ZerodhaAuthEffects

/-! # The state in the login URL

The nonce goes out encoded twice, inside the redirect parameters of the login query. What a browser reads
back from there is the nonce, and a `complete` with it finds the entry of the `start` that made the URL.
-/

namespace PortfolioManager.Connectors.Zerodha.KiteAuthorizationService

open PortfolioManager.Python PortfolioManager.Domain PortfolioManager.Application Checked Transcript

variable {S τ : Type*} {store : KiteNonceStore S} {pending : S → String → Option PendingKiteAuthorization}

/-- The redirect parameters of a nonce. -/
def redirectParams (nonce : String) : String := urlencode [("state", nonce)]

theorem urlQuery_loginUrl (apiKey nonce : String) :
    urlQuery (loginUrl apiKey nonce) = urlencode [("v", "3"), ("api_key", apiKey), ("redirect_params", redirectParams nonce)] := by
  have split : loginUrl apiKey nonce = "https://kite.zerodha.com/connect/login" ++ "?" ++
      urlencode [("v", "3"), ("api_key", apiKey), ("redirect_params", redirectParams nonce)] := rfl
  have plain : ("https://kite.zerodha.com/connect/login".toList.all fun character => character ≠ '#' ∧ character ≠ '?') := by
    decide
  rw [split]
  apply urlQuery_append
  · exact fun character member => of_decide_eq_true (List.all_eq_true.mp plain character member)
  · exact hash_not_mem_urlencode _

theorem redirectParams_ne_empty (nonce : String) : redirectParams nonce ≠ "" := by
  intro empty
  have characters := toList_urlencode [("state", nonce)]
  rw [← redirectParams, empty, List.map_singleton, List.intercalate_singleton] at characters
  simp [encodedPair] at characters

theorem parseQs_redirectParams {nonce : String} (present : nonce ≠ "") :
    parseQs (redirectParams nonce) = some [("state", [nonce])] :=
  parseQs_urlencode (List.nodup_singleton _) (by simpa using present)

theorem parseQs_loginUrl {apiKey : String} (present : apiKey ≠ "") (nonce : String) :
    parseQs (urlQuery (loginUrl apiKey nonce)) =
      some [("v", ["3"]), ("api_key", [apiKey]), ("redirect_params", [redirectParams nonce])] := by
  have filled : ∀ pair ∈ [("v", "3"), ("api_key", apiKey), ("redirect_params", redirectParams nonce)], pair.2 ≠ "" := by
    simp [present, redirectParams_ne_empty]
  rw [urlQuery_loginUrl]
  exact parseQs_urlencode (by simp) filled

theorem ne_empty_of_isCredential {value : String} (valid : isCredential value = true) : value ≠ "" :=
  (isHeaderValue_iff.mp (Bool.and_eq_true_iff.mp valid).1).1

theorem ne_empty_of_isNonce {nonce : String} (valid : isNonce nonce = true) : nonce ≠ "" := by
  rintro rfl
  contradiction

/-- The entry of a start that returned is pending, under the digest of its nonce. -/
theorem pending_of_start (contract : store.Contract pending) {reading : Datetime} {request : StartRequest} {state last : S}
    {begun : KiteAuthorizationStart} (returned : start store reading request state = (.ok begun, last)) :
    request.WellFormed ∧ begun.loginUrl = loginUrl request.apiKey request.nonce ∧
      ∃ now authorization, Authorizes request now authorization ∧ authorization.expiresAt = begun.expiresAt ∧
        pending last (digest request.nonce) = some authorization := by
  obtain ⟨validated, now, authorization, made, issued, rfl⟩ := start_eq_ok returned
  have authorizes := (authorize_eq_ok_iff.mp made).2
  refine ⟨validateStart_eq_ok_iff.mp validated, rfl, now, authorization, authorizes, rfl, ?_⟩
  have added := (contract.issued authorization state (congrArg Prod.fst issued)).2
  rw [issued] at added
  rw [added, ← authorizes.nonce, Function.update_self]

/-- A complete whose state is pending and unexpired asks the exchanger once and answers for the entry. -/
theorem complete_of_pending (contract : store.Contract pending) {exchanger : KiteTokenExchanger τ} {reading : Datetime}
    {request : CompleteRequest} {state : S} {log : ExchangeLog τ} {authorization : PendingKiteAuthorization} {now : Instant}
    (wellFormed : request.WellFormed) (present : pending state (digest request.state) = some authorization)
    (read : asUtc reading "clock value" = .ok now) (early : now < authorization.expiresAt) :
    ∃ answer, (complete store exchanger reading request state log).1 = answer.map (resultOf authorization) ∧
      (complete store exchanger reading request state log).2.2.entries =
        log.entries ++ [((request.credentials, request.requestToken), answer)] := by
  have accepted : accept (store.consume (digest request.state) state).1 reading = .ok authorization := by
    rw [(contract.consumed _ state).1]
    exact accept_eq_ok_iff.mpr ⟨present, now, read, early⟩
  rw [complete_of_wellFormed _ _ _ _ _ _ wellFormed, accepted]
  exact ⟨_, rfl, rfl⟩

/-- The URL of a start decodes to version 3, the API key and one state, the nonce; a complete with that state passes
its validation, consumes the entry of that start and reaches the exchange for its tenant and connection, as long as
nothing else consumes the entry and the clock is before its expiry. -/
theorem login_url_carries_state (contract : store.Contract pending) {reading : Datetime} {request : StartRequest}
    {state last : S} {begun : KiteAuthorizationStart} (returned : start store reading request state = (.ok begun, last)) :
    ∃ redirect decoded,
      parseQs (urlQuery begun.loginUrl) =
        some [("v", ["3"]), ("api_key", [request.apiKey]), ("redirect_params", [redirect])] ∧
      parseQs redirect = some [("state", [decoded])] ∧ decoded = request.nonce ∧ validateNonce decoded = .ok () ∧
      ∃ authorization, pending last (digest decoded) = some authorization ∧
        (authorization.tenantId = request.tenantId ∧ authorization.connectionId = request.connectionId) ∧
        ∀ (calls : List StoreCall) (exchanger : KiteTokenExchanger τ) (later : Datetime) (now : Instant)
          (again : CompleteRequest) (log : ExchangeLog τ), (∀ call ∈ calls, ¬call.Consumes (digest decoded)) →
          again.state = decoded → isCredential again.requestToken = true → asUtc later "clock value" = .ok now →
          now < begun.expiresAt →
          (store.consume (digest again.state) (performAll store calls last)).1 = some authorization ∧
            pending (complete store exchanger later again (performAll store calls last) log).2.1 =
              Function.update (pending (performAll store calls last)) (digest again.state) none ∧
            ∃ answer, (complete store exchanger later again (performAll store calls last) log).1 =
                answer.map (fun session => ⟨request.tenantId, request.connectionId, session⟩) ∧
              (complete store exchanger later again (performAll store calls last) log).2.2.entries =
                log.entries ++ [((again.credentials, again.requestToken), answer)] := by
  obtain ⟨⟨keyed, shaped⟩, url, issuedAt, authorization, authorizes, expiry, present⟩ := pending_of_start contract returned
  refine ⟨redirectParams request.nonce, request.nonce, ?_, parseQs_redirectParams (ne_empty_of_isNonce shaped), rfl,
    validateNonce_eq_ok_iff.mpr shaped, authorization, present, ⟨authorizes.tenant, authorizes.connection⟩, ?_⟩
  · rw [url]
    exact parseQs_loginUrl (ne_empty_of_isCredential keyed) request.nonce
  · intro calls exchanger later now again log kept sameState token read early
    have wellFormed : again.WellFormed := ⟨sameState ▸ shaped, token⟩
    have still : pending (performAll store calls last) (digest again.state) = some authorization := by
      rw [sameState]
      exact pending_performAll_of_some contract present kept
    refine ⟨?_, (complete_effect contract exchanger later again _ log).removed wellFormed, ?_⟩
    · rw [(contract.consumed _ _).1, still]
    · have result : resultOf authorization = fun session => ⟨request.tenantId, request.connectionId, session⟩ := by
        funext session
        rw [resultOf, authorizes.tenant, authorizes.connection]
      rw [← result]
      exact complete_of_pending contract wellFormed still read (expiry ▸ early)

theorem login_url_carries_state_sample :
    ∃ begun redirect, (start memoryStore sampleReading sampleStart fun _ => none).1 = .ok begun ∧
      parseQs (urlQuery begun.loginUrl) =
        some [("v", ["3"]), ("api_key", [sampleStart.apiKey]), ("redirect_params", [redirect])] ∧
      parseQs redirect = some [("state", [sampleStart.nonce])] := by
  have wellFormed : sampleStart.WellFormed := ⟨by decide, by decide⟩
  have dated : ∃ now expiresAt, Dates sampleReading now expiresAt := ⟨sampleNow, sampleExpiry, rfl, rfl⟩
  have effect := start_effect memoryStore_contract memoryStore_accepting sampleReading sampleStart fun _ => none
  obtain ⟨now, authorization, _, _, begun, _⟩ := effect.added wellFormed dated (by simp)
  cases outcome : start memoryStore sampleReading sampleStart fun _ => none with
  | mk answer last =>
    rw [outcome] at begun
    obtain rfl : answer = _ := begun
    obtain ⟨redirect, decoded, outer, inner, rfl, _⟩ :=
      @login_url_carries_state _ Unit _ _ memoryStore_contract _ _ _ _ _ outcome
    exact ⟨_, redirect, rfl, outer, inner⟩

end PortfolioManager.Connectors.Zerodha.KiteAuthorizationService
