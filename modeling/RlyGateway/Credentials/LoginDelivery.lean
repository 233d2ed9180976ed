import RlyGateway.Credentials.Logins

/-!
# Logins deliver their own credentials

Where every exchange that stores its tokens is of the login that is waited for, and a login is
cancelled by its own state only, each login that finishes has attached, to the provider and the
pseudonym it was started with, what its own code was exchanged for. The coordinator checks neither.
-/

namespace RlyGateway

/-- Events lead to a service from one with nothing stored. -/
def LoginService.Reached (platform : LoginPlatform) (events : List LoginEvent)
    (service : LoginService) : Prop :=
  List.run (LoginService.step platform) LoginService.initial events = some service

/-- What was delivered is for the provider and the pseudonym of a login, and is what its own code
was exchanged for. -/
structure Login.Owns (runtime : NodeRuntime) (login : Login) (delivery : LoginDelivery) : Prop where
  provider : delivery.providerId = login.input.providerId
  state : delivery.exchange.session.state = login.state
  credential : ∃ tokens handle, delivery.exchange.tokens = some tokens ∧
    delivery.metadata = toCredentialMetadata (initialCredentialRecord runtime handle
      login.input.pseudonym tokens none login.input.provider)

/-- In a run, a login that finishes has attached its own credential to its own account, nothing is
stored of a login that was cancelled before any tokens of it were, and cancelling by another state
leaves the pending login as it is. -/
structure DeliversOwn (platform : LoginPlatform) (events : List LoginEvent) : Prop where
  own : ∀ service : LoginService, service.Reached platform events →
    ∀ delivery ∈ service.deliveries, ∃ login, service.logins[delivery.login]? = some login ∧
      login.Owns platform.runtime delivery ∧ delivery.exchange ∈ service.stored
  attached : ∀ (before after : List LoginEvent) (event : LoginEvent)
    (service service' : LoginService) (delivery : LoginDelivery),
    events = before ++ event :: after → service.Reached platform before →
    service'.Reached platform (before ++ [event]) →
    service'.deliveries = service.deliveries ++ [delivery] →
    service'.store.database.Attached delivery.providerId delivery.metadata
  cancelled : ∀ (before after : List LoginEvent) (state : String) (service service' : LoginService),
    events = before ++ .cancelLogin state :: after → service.Reached platform before →
    service'.Reached platform events → (∃ login ∈ service.logins, login.state = state) →
    (∀ exchange ∈ service.stored, exchange.session.state ≠ state) →
    ∀ exchange ∈ service'.stored, exchange.session.state ≠ state
  others : ∀ (before after : List LoginEvent) (state : String) (service service' : LoginService)
    (index : ℕ) (login : Login),
    events = before ++ .cancelLogin state :: after → service.Reached platform before →
    service'.Reached platform (before ++ [.cancelLogin state]) →
    service.settlers = some index → service.logins[index]? = some login → login.state ≠ state →
    service'.settlers = some index

namespace LoginService

/-- The login of a state is waited for. -/
def WaitsFor (service : LoginService) (state : String) : Prop :=
  ∃ index ∈ service.settlers, ∃ login ∈ service.logins[index]?, login.state = state

instance (service : LoginService) (state : String) : Decidable (service.WaitsFor state) :=
  inferInstanceAs (Decidable
    (∃ index ∈ service.settlers, ∃ login ∈ service.logins[index]?, login.state = state))

/-- An exchange stores its tokens only while its own login is waited for, and a login is cancelled
only by its own state. -/
def Careful (service : LoginService) : LoginEvent → Prop
  | .persists index => ∀ exchange ∈ service.exchanges[index]?, service.WaitsFor exchange.session.state
  | .cancelLogin state => service.settlers = none ∨ service.WaitsFor state
  | _ => True

instance (service : LoginService) : (event : LoginEvent) → Decidable (service.Careful event)
  | .persists index =>
      inferInstanceAs (Decidable
        (∀ exchange ∈ service.exchanges[index]?, service.WaitsFor exchange.session.state))
  | .cancelLogin state =>
      inferInstanceAs (Decidable (service.settlers = none ∨ service.WaitsFor state))
  | .manage _ | .startLogin .. | .listens .. | .listenFails _ | .callback .. | .answered ..
  | .persistFails .. | .close | .scheduledClose | .abandons _ | .purge _ => isTrue trivial

/-! ## What the parts of a step leave alone -/

section Frames

variable (service : LoginService)

/-- Rejecting a login changes nothing but that no login is waited for. -/
theorem fail_eq (error : CredentialError) :
    ∃ outcomes, service.fail error = { service with settlers := none, outcomes } := by
  unfold fail
  split
  · exact ⟨_, rfl⟩
  · rename_i hnone
    refine ⟨service.outcomes, ?_⟩
    rw [← hnone]

/-- What a callback does: it rejects a login, or it takes a session to have its code exchanged. -/
theorem handleCallback_eq (code state : String) (now : ℤ) :
    service.handleCallback code state now = service ∨
      (∃ sessions outcomes closes, service.handleCallback code state now =
          { service with sessions, settlers := none, outcomes, scheduledCloses := closes } ∧
        (∀ other, sessions.get? other = service.sessions.get? other ∨ sessions.get? other = none)) ∨
      ∃ session, service.sessions.get? state = some session ∧
        service.handleCallback code state now =
          { service with
            sessions := service.sessions.erase state
            exchanges := service.exchanges ++ [⟨session, code, none⟩] } := by
  have herased : ∀ other, (service.sessions.erase state).get? other = service.sessions.get? other ∨
      (service.sessions.erase state).get? other = none := by
    intro other
    rw [OrderedMap.get?_erase]
    split
    · exact Or.inr rfl
    · exact Or.inl rfl
  have hconsumed : ∀ error, ∃ sessions outcomes closes,
      (fail { service with sessions := service.sessions.erase state } error).scheduleClose =
          { service with sessions, settlers := none, outcomes, scheduledCloses := closes } ∧
        (∀ other, sessions.get? other = service.sessions.get? other ∨ sessions.get? other = none) := by
    intro error
    obtain ⟨outcomes, heq⟩ :=
      fail_eq { service with sessions := service.sessions.erase state } error
    rw [heq]
    exact ⟨_, outcomes, _, rfl, herased⟩
  unfold handleCallback
  split
  · obtain ⟨outcomes, heq⟩ := fail_eq service
      (.oauthFlow "callback-collision" "oauth callback is not active")
    rw [heq]
    exact Or.inr (Or.inl ⟨_, outcomes, _, rfl, fun _ => Or.inl rfl⟩)
  · split
    · exact Or.inl rfl
    · rename_i session hsession
      dsimp only
      split
      · exact Or.inr (Or.inl (hconsumed _))
      · split
        · exact Or.inr (Or.inl (hconsumed _))
        · exact Or.inr (Or.inr ⟨session, hsession, rfl⟩)

end Frames

/-! ## Soundness -/

section Soundness

variable {platform : LoginPlatform} {service service' : LoginService}

/-- The session was opened for a login. -/
def Opened (logins : List Login) (session : OAuthSession) : Prop :=
  ∃ login ∈ logins, login.state = session.state ∧ session.provider = login.input.provider ∧
    session.pseudonym = login.input.pseudonym

theorem Opened.append {logins : List Login} {session : OAuthSession} (h : Opened logins session)
    (later : List Login) : Opened (logins ++ later) session := by
  obtain ⟨login, hlogin, hsession⟩ := h
  exact ⟨login, List.mem_append_left later hlogin, hsession⟩

/-- What holds of a service after every step of a careful run. -/
structure Sound (platform : LoginPlatform) (service : LoginService) : Prop where
  store : service.store.Sound platform.toStorePlatform
  states : ∀ (index : ℕ) (login : Login), service.logins[index]? = some login →
    login.state = platform.loginState index
  sessions : ∀ (state : String) (session : OAuthSession), service.sessions.get? state = some session →
    Opened service.logins session
  exchanges : ∀ exchange ∈ service.exchanges, Opened service.logins exchange.session
  pending : ∀ index ∈ service.settlers, ∃ login, service.logins[index]? = some login ∧
    ∀ providerId ∈ service.pendingLoginProviderId, providerId = login.input.providerId
  deliveries : ∀ delivery ∈ service.deliveries, ∃ login, service.logins[delivery.login]? = some login ∧
    login.Owns platform.runtime delivery ∧ delivery.exchange ∈ service.stored

theorem sound_initial (platform : LoginPlatform) : initial.Sound platform where
  store := sound_after platform.toStorePlatform []
  states _ _ hlogin := by simp [initial] at hlogin
  sessions _ _ hsession := by cases hsession
  exchanges _ hexchange := by cases hexchange
  pending _ hsettlers := by cases hsettlers
  deliveries _ hdelivery := by cases hdelivery

/-- Logins have the states of their indices, so a state is of one login. -/
theorem Sound.login_eq (h : service.Sound platform) {index : ℕ} {login other : Login}
    (hlogin : service.logins[index]? = some login) (hother : other ∈ service.logins)
    (hstate : other.state = login.state) : other = login := by
  obtain ⟨index', hindex'⟩ := List.mem_iff_getElem?.1 hother
  have hsame : platform.loginState index' = platform.loginState index := by
    rw [← h.states index' other hindex', ← h.states index login hlogin, hstate]
  rw [platform.loginState_injective hsame, hlogin] at hindex'
  exact (Option.some.inj hindex').symm

/-- Settling no login keeps the service sound. -/
theorem Sound.fail (h : service.Sound platform) (error : CredentialError) :
    (service.fail error).Sound platform := by
  obtain ⟨outcomes, heq⟩ := fail_eq service error
  rw [heq]
  exact ⟨h.store, h.states, h.sessions, h.exchanges, (fun _ hsettlers => by cases hsettlers),
    h.deliveries⟩

theorem Sound.exchangeFails (h : service.Sound platform) (index : ℕ) (error : CredentialError) :
    (service.exchangeFails index error).Sound platform := by
  have hrest : Sound platform { service with exchanges := service.exchanges.eraseIdx index } :=
    ⟨h.store, h.states, h.sessions,
      fun exchange hexchange => h.exchanges exchange (List.mem_of_mem_eraseIdx hexchange), h.pending,
      h.deliveries⟩
  have hfail := hrest.fail error
  exact ⟨hfail.store, hfail.states, hfail.sessions, hfail.exchanges, hfail.pending, hfail.deliveries⟩

theorem Sound.handleCallback (h : service.Sound platform) (code state : String) (now : ℤ) :
    (service.handleCallback code state now).Sound platform := by
  rcases handleCallback_eq service code state now with
    heq | ⟨sessions, outcomes, closes, heq, hsessions⟩ | ⟨session, hsession, heq⟩
  · rw [heq]
    exact h
  · rw [heq]
    refine ⟨h.store, h.states, ?_, h.exchanges, (fun _ hsettlers => by cases hsettlers), h.deliveries⟩
    intro other session hsession
    rcases hsessions other with hkept | herased
    · exact h.sessions other session (hkept.symm.trans hsession)
    · rw [herased] at hsession
      cases hsession
  · rw [heq]
    refine ⟨h.store, h.states, ?_, ?_, h.pending, h.deliveries⟩
    · intro other session' hsession'
      rw [OrderedMap.get?_erase] at hsession'
      split at hsession'
      · cases hsession'
      · exact h.sessions other session' hsession'
    · intro exchange hexchange
      rcases List.mem_append.1 hexchange with hold | hnew
      · exact h.exchanges exchange hold
      · rw [List.mem_singleton.1 hnew]
        exact h.sessions state session hsession

/-- What resolving a login comes to: it finishes for the provider that it was started with, or it
delivers nothing. -/
theorem Sound.succeed_cases (h : service.Sound platform) {metadata : CredentialMetadata}
    (hnamed : requiredName metadata.handle = .ok metadata.handle) (exchange : TokenExchange) :
    ∃ (store : StoreState) (pending : Option String) (abandoned revoking : List String)
      (outcomes : List (ℕ × Except CredentialError CredentialMetadata))
      (deliveries : List LoginDelivery),
      service.succeed platform metadata exchange =
        { service with
          store := store
          settlers := none
          pendingLoginProviderId := pending
          abandoned := abandoned
          revoking := revoking
          outcomes := outcomes
          deliveries := deliveries } ∧
      store.Sound platform.toStorePlatform ∧
      (deliveries = service.deliveries ∨
        ∃ index login, service.settlers = some index ∧ service.logins[index]? = some login ∧
          deliveries = service.deliveries ++ [⟨index, login.input.providerId, metadata, exchange⟩] ∧
          store.database.Attached login.input.providerId metadata) := by
  unfold succeed
  split
  · rename_i index hsettlers
    obtain ⟨login, hlogin, hpending⟩ := h.pending index hsettlers
    rw [hlogin]
    dsimp only
    unfold finishOnce
    split
    · exact ⟨_, _, _, _, _, _, rfl, h.store, Or.inl rfl⟩
    · rename_i providerId hprovider
      obtain rfl := hpending providerId hprovider
      obtain ⟨requests, -, hfoldl⟩ := attachAccount_eq_foldl platform.toStorePlatform
        login.input.providerId metadata login.input.actor service.store
      have hsound := (h.store.foldl requests).1
      rw [← hfoldl] at hsound
      dsimp only
      split
      · exact ⟨_, _, _, _, _, _, rfl, hsound, Or.inl rfl⟩
      · rename_i hkept
        exact ⟨_, _, _, _, _, _, rfl, hsound,
          Or.inr ⟨index, login, hsettlers, hlogin, rfl, attached_of_not_mem h.store hnamed hkept⟩⟩
  · rename_i hsettlers
    refine ⟨service.store, service.pendingLoginProviderId, service.abandoned, service.revoking,
      service.outcomes, service.deliveries, ?_, h.store, Or.inl rfl⟩
    rw [← hsettlers]

/-- A login whose callback server listens is waited for, in place of any other. -/
theorem Sound.listens (h : service.Sound platform) {index : ℕ} {redirectUri : String} {now : ℤ}
    (hstep : service.step platform (.listens index redirectUri now) = some service') :
    service'.Sound platform := by
  obtain ⟨input, -, rfl⟩ := Option.map_eq_some_iff.1 hstep
  have hlast : (service.logins ++ [(⟨input, platform.loginState service.logins.length⟩ : Login)])[
      service.logins.length]? = some ⟨input, platform.loginState service.logins.length⟩ := by simp
  refine ⟨h.store, ?_, ?_, fun exchange hexchange => (h.exchanges exchange hexchange).append _, ?_, ?_⟩
  · intro index login hlogin
    rcases lt_trichotomy index service.logins.length with hlt | rfl | hgt
    · exact h.states index login (by rwa [List.getElem?_append_left hlt] at hlogin)
    · rw [hlast] at hlogin
      cases hlogin
      rfl
    · rw [List.getElem?_eq_none (by rw [List.length_append, List.length_singleton]; omega)] at hlogin
      cases hlogin
  · intro other session hsession
    rw [OrderedMap.get?_set] at hsession
    split at hsession
    · cases hsession
      exact ⟨_, List.mem_append_right _ (List.mem_singleton_self _), rfl, rfl, rfl⟩
    · exact (h.sessions other session hsession).append _
  · rintro index ⟨⟩
    exact ⟨_, hlast, fun providerId hprovider => (Option.some.inj hprovider).symm⟩
  · intro delivery hdelivery
    obtain ⟨login, hlogin, howns⟩ := h.deliveries delivery hdelivery
    refine ⟨login, ?_, howns⟩
    obtain ⟨hlt, -⟩ := List.getElem?_eq_some_iff.1 hlogin
    rw [List.getElem?_append_left hlt]
    exact hlogin

/-- What storing the tokens of an exchange leads to. -/
theorem Sound.persists_cases (h : service.Sound platform) {index : ℕ}
    (hstep : service.step platform (.persists index) = some service') :
    ∃ exchange tokens, service.exchanges[index]? = some exchange ∧ exchange.tokens = some tokens ∧
      service'.logins = service.logins ∧ service'.settlers = none ∧
      service'.sessions = service.sessions ∧
      service'.exchanges = service.exchanges.eraseIdx index ∧
      service'.store.Sound platform.toStorePlatform ∧
      (service'.stored = service.stored ∧ service'.deliveries = service.deliveries ∨
        service'.stored = service.stored ++ [exchange] ∧
          (service'.deliveries = service.deliveries ∨
            ∃ login started handle, service.settlers = some login ∧
              service.logins[login]? = some started ∧
              service'.deliveries = service.deliveries ++ [⟨login, started.input.providerId,
                toCredentialMetadata (initialCredentialRecord platform.runtime handle
                  exchange.session.pseudonym tokens none exchange.session.provider), exchange⟩] ∧
              service'.store.database.Attached started.input.providerId
                (toCredentialMetadata (initialCredentialRecord platform.runtime handle
                  exchange.session.pseudonym tokens none exchange.session.provider)))) := by
  obtain ⟨exchange, hexchange, hpersists⟩ := Option.bind_eq_some_iff.1 hstep
  obtain ⟨tokens, htokens, hservice'⟩ := Option.map_eq_some_iff.1 hpersists
  refine ⟨exchange, tokens, hexchange, htokens, ?_⟩
  dsimp only at hservice'
  split at hservice'
  · rename_i records hcommit
    have hstored : Sound platform
        { service with
          records
          drawn := service.drawn + 1
          exchanges := service.exchanges.eraseIdx index
          stored := service.stored ++ [exchange] } := by
      refine ⟨h.store, h.states, h.sessions,
        fun other hother => h.exchanges other (List.mem_of_mem_eraseIdx hother), h.pending, ?_⟩
      intro delivery hdelivery
      obtain ⟨login, hlogin, howns, hmem⟩ := h.deliveries delivery hdelivery
      exact ⟨login, hlogin, howns, List.mem_append_left _ hmem⟩
    set metadata := toCredentialMetadata (initialCredentialRecord platform.runtime
      (platform.credentialHandle service.drawn) exchange.session.pseudonym tokens none
      exchange.session.provider) with hmetadata
    have hnamed : requiredName metadata.handle = .ok metadata.handle :=
      platform.credentialHandle_named service.drawn
    obtain ⟨store, pending, abandoned, revoking, outcomes, deliveries, heq, hsound, hdeliveries⟩ :=
      hstored.succeed_cases hnamed exchange
    rw [heq] at hservice'
    subst hservice'
    refine ⟨rfl, rfl, rfl, rfl, hsound, Or.inr ⟨rfl, ?_⟩⟩
    rcases hdeliveries with hsame | ⟨login, started, hsettlers, hstarted, hnew, hattached⟩
    · exact Or.inl hsame
    · exact Or.inr ⟨login, started, _, hsettlers, hstarted, hnew, hattached⟩
  · rename_i error hcommit
    obtain ⟨outcomes, heq⟩ := fail_eq
      { service with drawn := service.drawn + 1, exchanges := service.exchanges.eraseIdx index } error
    unfold LoginService.exchangeFails at hservice'
    rw [show ({ service with
      drawn := service.drawn + 1
      exchanges := service.exchanges.eraseIdx index } : LoginService).fail error = _ from heq]
      at hservice'
    subst hservice'
    exact ⟨rfl, rfl, rfl, rfl, h.store, Or.inl ⟨rfl, rfl⟩⟩

/-- An exchange of the login that is waited for delivers to that login. -/
theorem Sound.persists (h : service.Sound platform) {index : ℕ}
    (hcareful : service.Careful (.persists index))
    (hstep : service.step platform (.persists index) = some service') : service'.Sound platform := by
  obtain ⟨exchange, tokens, hexchange, htokens, hlogins, hsettlers, hsessions, hexchanges, hstore,
    hrest⟩ := h.persists_cases hstep
  have hkept : ∀ delivery ∈ service.deliveries, (∀ other ∈ service.stored, other ∈ service'.stored) →
      ∃ login, service'.logins[delivery.login]? = some login ∧
        login.Owns platform.runtime delivery ∧ delivery.exchange ∈ service'.stored := by
    intro delivery hdelivery hstored
    obtain ⟨login, hlogin, howns, hmem⟩ := h.deliveries delivery hdelivery
    exact ⟨login, by rw [hlogins]; exact hlogin, howns, hstored _ hmem⟩
  refine ⟨hstore, by rw [hlogins]; exact h.states, by rw [hlogins, hsessions]; exact h.sessions, ?_,
    by rw [hsettlers]; exact fun _ hnone => (by cases hnone), ?_⟩
  · intro other hother
    rw [hexchanges] at hother
    rw [hlogins]
    exact h.exchanges other (List.mem_of_mem_eraseIdx hother)
  · rcases hrest with ⟨hstored, hdeliveries⟩ | ⟨hstored, hdeliveries⟩
    · intro delivery hdelivery
      rw [hdeliveries] at hdelivery
      exact hkept delivery hdelivery fun _ hmem => by rw [hstored]; exact hmem
    · have holder : ∀ other ∈ service.stored, other ∈ service'.stored := fun _ hmem => by
        rw [hstored]
        exact List.mem_append_left _ hmem
      rcases hdeliveries with hdeliveries | ⟨login, started, handle, hlogin, hstarted, hdeliveries, -⟩
      · intro delivery hdelivery
        rw [hdeliveries] at hdelivery
        exact hkept delivery hdelivery holder
      · intro delivery hdelivery
        rw [hdeliveries] at hdelivery
        rcases List.mem_append.1 hdelivery with hold | hnew
        · exact hkept delivery hold holder
        · rw [List.mem_singleton.1 hnew]
          obtain ⟨waiting, hwaiting, opened, hopened, hstate⟩ := hcareful exchange hexchange
          rw [hlogin] at hwaiting
          cases hwaiting
          rw [hstarted] at hopened
          cases hopened
          obtain ⟨other, hother, hsession, hprovider, hpseudonym⟩ :=
            h.exchanges exchange (List.mem_of_getElem? hexchange)
          obtain rfl := h.login_eq hstarted hother (hsession.trans hstate.symm)
          refine ⟨other, by rw [hlogins]; exact hstarted, ⟨rfl, hstate.symm, tokens, handle, htokens, ?_⟩,
            by rw [hstored]; exact List.mem_append_right _ (List.mem_singleton_self _)⟩
          rw [← hprovider, ← hpseudonym]

/-- Every step of a careful run keeps the service sound. -/
theorem Sound.step (h : service.Sound platform) {event : LoginEvent}
    (hcareful : service.Careful event) (hstep : service.step platform event = some service') :
    service'.Sound platform := by
  cases event with
  | manage request =>
      cases hstep
      exact ⟨h.store.serve request, h.states, h.sessions, h.exchanges, h.pending, h.deliveries⟩
  | startLogin providerId pseudonym actor =>
      rw [LoginService.step] at hstep
      split at hstep
      · cases hstep
      · obtain ⟨provider, -, rfl⟩ := Option.map_eq_some_iff.1 hstep
        exact ⟨h.store, h.states, h.sessions, h.exchanges, h.pending, h.deliveries⟩
  | listens index redirectUri now => exact h.listens hstep
  | listenFails index =>
      obtain ⟨_, -, rfl⟩ := Option.map_eq_some_iff.1 hstep
      exact ⟨h.store, h.states, h.sessions, h.exchanges, h.pending, h.deliveries⟩
  | callback code state now =>
      cases hstep
      exact h.handleCallback code state now
  | answered index answer =>
      obtain ⟨exchange, hexchange, hanswered⟩ := Option.bind_eq_some_iff.1 hstep
      split at hanswered
      · cases hanswered
      · split at hanswered
        · cases hanswered
          refine ⟨h.store, h.states, h.sessions, ?_, h.pending, h.deliveries⟩
          intro other hother
          rcases List.mem_or_eq_of_mem_set hother with hold | rfl
          · exact h.exchanges other hold
          · exact h.exchanges exchange (List.mem_of_getElem? hexchange)
        · cases hanswered
          exact h.exchangeFails index _
  | persists index => exact h.persists hcareful hstep
  | persistFails index error =>
      obtain ⟨exchange, -, hfails⟩ := Option.bind_eq_some_iff.1 hstep
      obtain ⟨_, -, rfl⟩ := Option.map_eq_some_iff.1 hfails
      exact h.exchangeFails index error
  | cancelLogin state =>
      cases hstep
      have hcancelled : Sound platform
          { service with
            pendingLoginProviderId := none
            sessions := service.sessions.erase state } := by
        refine ⟨h.store, h.states, ?_, h.exchanges, ?_, h.deliveries⟩
        · intro other session hsession
          rw [OrderedMap.get?_erase] at hsession
          split at hsession
          · cases hsession
          · exact h.sessions other session hsession
        · intro index hsettlers
          obtain ⟨login, hlogin, -⟩ := h.pending index hsettlers
          exact ⟨login, hlogin, fun _ hnone => by cases hnone⟩
      have hfail := hcancelled.fail (.oauthFlow "cancelled" "oauth login was cancelled")
      exact ⟨hfail.store, hfail.states, hfail.sessions, hfail.exchanges, hfail.pending,
        hfail.deliveries⟩
  | close =>
      cases hstep
      exact ⟨h.store, h.states, h.sessions, h.exchanges, h.pending, h.deliveries⟩
  | scheduledClose =>
      rw [LoginService.step] at hstep
      split at hstep
      · cases hstep
      · cases hstep
        exact ⟨h.store, h.states, h.sessions, h.exchanges, h.pending, h.deliveries⟩
  | abandons index =>
      obtain ⟨handle, -, rfl⟩ := Option.map_eq_some_iff.1 hstep
      refine ⟨h.store, h.states, h.sessions, h.exchanges, ?_, h.deliveries⟩
      intro index hsettlers
      obtain ⟨login, hlogin, -⟩ := h.pending index hsettlers
      exact ⟨login, hlogin, fun _ hnone => by cases hnone⟩
  | purge index =>
      obtain ⟨handle, -, rfl⟩ := Option.map_eq_some_iff.1 hstep
      exact ⟨h.store, h.states, h.sessions, h.exchanges, h.pending, h.deliveries⟩

end Soundness

/-! ## Logins that were cancelled -/

section Cancelled

variable {platform : LoginPlatform} {service service' : LoginService}

/-- The logins, what was stored and what was delivered are as they were, and no other login is
waited for. -/
structure Quiet (service service' : LoginService) : Prop where
  logins : service'.logins = service.logins
  stored : service'.stored = service.stored
  deliveries : service'.deliveries = service.deliveries
  settlers : service'.settlers = service.settlers ∨ service'.settlers = none

theorem quiet_exchangeFails (service : LoginService) (index : ℕ) (error : CredentialError) :
    service.Quiet (service.exchangeFails index error) := by
  obtain ⟨outcomes, heq⟩ :=
    fail_eq { service with exchanges := service.exchanges.eraseIdx index } error
  rw [exchangeFails, heq]
  exact ⟨rfl, rfl, rfl, Or.inr rfl⟩

/-- Only a callback server that listens starts a login, and only tokens that are stored deliver. -/
theorem quiet_of_step {event : LoginEvent}
    (hlistens : ∀ index redirectUri now, event ≠ .listens index redirectUri now)
    (hpersists : ∀ index, event ≠ .persists index)
    (hstep : service.step platform event = some service') : service.Quiet service' := by
  cases event with
  | manage request =>
      cases hstep
      exact ⟨rfl, rfl, rfl, Or.inl rfl⟩
  | startLogin providerId pseudonym actor =>
      rw [LoginService.step] at hstep
      split at hstep
      · cases hstep
      · obtain ⟨provider, -, rfl⟩ := Option.map_eq_some_iff.1 hstep
        exact ⟨rfl, rfl, rfl, Or.inl rfl⟩
  | listens index redirectUri now => exact absurd rfl (hlistens index redirectUri now)
  | listenFails index =>
      obtain ⟨_, -, rfl⟩ := Option.map_eq_some_iff.1 hstep
      exact ⟨rfl, rfl, rfl, Or.inl rfl⟩
  | callback code state now =>
      cases hstep
      rcases handleCallback_eq service code state now with
        heq | ⟨sessions, outcomes, closes, heq, -⟩ | ⟨session, -, heq⟩
      · rw [heq]
        exact ⟨rfl, rfl, rfl, Or.inl rfl⟩
      · rw [heq]
        exact ⟨rfl, rfl, rfl, Or.inr rfl⟩
      · rw [heq]
        exact ⟨rfl, rfl, rfl, Or.inl rfl⟩
  | answered index answer =>
      obtain ⟨exchange, -, hanswered⟩ := Option.bind_eq_some_iff.1 hstep
      split at hanswered
      · cases hanswered
      · split at hanswered
        · cases hanswered
          exact ⟨rfl, rfl, rfl, Or.inl rfl⟩
        · cases hanswered
          exact quiet_exchangeFails service index _
  | persists index => exact absurd rfl (hpersists index)
  | persistFails index error =>
      obtain ⟨exchange, -, hfails⟩ := Option.bind_eq_some_iff.1 hstep
      obtain ⟨_, -, rfl⟩ := Option.map_eq_some_iff.1 hfails
      exact quiet_exchangeFails service index error
  | cancelLogin state =>
      cases hstep
      obtain ⟨outcomes, heq⟩ := fail_eq
        { service with
          pendingLoginProviderId := none
          sessions := service.sessions.erase state }
        (.oauthFlow "cancelled" "oauth login was cancelled")
      rw [heq]
      exact ⟨rfl, rfl, rfl, Or.inr rfl⟩
  | close =>
      cases hstep
      exact ⟨rfl, rfl, rfl, Or.inl rfl⟩
  | scheduledClose =>
      rw [LoginService.step] at hstep
      split at hstep
      · cases hstep
      · cases hstep
        exact ⟨rfl, rfl, rfl, Or.inl rfl⟩
  | abandons index =>
      obtain ⟨handle, -, rfl⟩ := Option.map_eq_some_iff.1 hstep
      exact ⟨rfl, rfl, rfl, Or.inl rfl⟩
  | purge index =>
      obtain ⟨handle, -, rfl⟩ := Option.map_eq_some_iff.1 hstep
      exact ⟨rfl, rfl, rfl, Or.inl rfl⟩

/-- The login of a state was started, it is not waited for, and nothing is stored of it. -/
structure Dismissed (service : LoginService) (state : String) : Prop where
  started : ∃ login ∈ service.logins, login.state = state
  dropped : ¬ service.WaitsFor state
  nothing : ∀ exchange ∈ service.stored, exchange.session.state ≠ state

/-- A login that is not waited for is never waited for again. -/
theorem Sound.dismissed (h : service.Sound platform) {event : LoginEvent}
    (hcareful : service.Careful event) (hstep : service.step platform event = some service')
    {state : String} (hdismissed : service.Dismissed state) : service'.Dismissed state := by
  have hquiet : service.Quiet service' → service'.Dismissed state := by
    intro hquiet
    refine ⟨by rw [hquiet.logins]; exact hdismissed.started, ?_,
      by rw [hquiet.stored]; exact hdismissed.nothing⟩
    rintro ⟨index, hindex, login, hlogin, hstate⟩
    rcases hquiet.settlers with hsame | hnone
    · rw [hsame] at hindex
      rw [hquiet.logins] at hlogin
      exact hdismissed.dropped ⟨index, hindex, login, hlogin, hstate⟩
    · rw [hnone] at hindex
      cases hindex
  cases event with
  | listens index redirectUri now =>
      obtain ⟨input, -, rfl⟩ := Option.map_eq_some_iff.1 hstep
      obtain ⟨started, hstarted, hstate⟩ := hdismissed.started
      refine ⟨⟨started, List.mem_append_left _ hstarted, hstate⟩, ?_, hdismissed.nothing⟩
      rintro ⟨index, ⟨⟩, login, hlogin, hnew⟩
      obtain ⟨index', hindex'⟩ := List.mem_iff_getElem?.1 hstarted
      obtain ⟨hlt, -⟩ := List.getElem?_eq_some_iff.1 hindex'
      have hfresh : login.state = platform.loginState service.logins.length := by
        rw [Option.mem_def, List.getElem?_concat_length] at hlogin
        cases hlogin
        rfl
      have hsame : platform.loginState index' = platform.loginState service.logins.length := by
        rw [← h.states index' started hindex', ← hfresh, hstate, hnew]
      exact hlt.ne (platform.loginState_injective hsame)
  | persists index =>
      obtain ⟨exchange, tokens, hexchange, htokens, hlogins, hsettlers, -, -, -, hrest⟩ :=
        h.persists_cases hstep
      refine ⟨by rw [hlogins]; exact hdismissed.started, ?_, ?_⟩
      · rintro ⟨index, hindex, -⟩
        rw [hsettlers] at hindex
        cases hindex
      · rcases hrest with ⟨hstored, -⟩ | ⟨hstored, -⟩
        · rw [hstored]
          exact hdismissed.nothing
        · intro other hother
          rw [hstored] at hother
          rcases List.mem_append.1 hother with hold | hnew
          · exact hdismissed.nothing other hold
          · rw [List.mem_singleton.1 hnew]
            rintro rfl
            exact hdismissed.dropped (hcareful exchange hexchange)
  | manage | startLogin | listenFails | callback | answered | persistFails | cancelLogin | close
  | scheduledClose | abandons | purge =>
      exact hquiet (quiet_of_step (by simp) (by simp) hstep)

/-- A login that is cancelled before anything is stored of it is dismissed. -/
theorem dismissed_of_cancel {state : String}
    (hstep : service.step platform (.cancelLogin state) = some service')
    (hstarted : ∃ login ∈ service.logins, login.state = state)
    (hnothing : ∀ exchange ∈ service.stored, exchange.session.state ≠ state) :
    service'.Dismissed state := by
  cases hstep
  obtain ⟨outcomes, heq⟩ := fail_eq
    { service with
      pendingLoginProviderId := none
      sessions := service.sessions.erase state }
    (.oauthFlow "cancelled" "oauth login was cancelled")
  rw [heq]
  refine ⟨hstarted, ?_, hnothing⟩
  rintro ⟨index, hindex, -⟩
  cases hindex

/-- What a step delivers is attached. -/
theorem Sound.attached (h : service.Sound platform) {event : LoginEvent}
    (hstep : service.step platform event = some service') {delivery : LoginDelivery}
    (hdelivery : service'.deliveries = service.deliveries ++ [delivery]) :
    service'.store.database.Attached delivery.providerId delivery.metadata := by
  have hnew : service'.deliveries ≠ service.deliveries := by
    rw [hdelivery]
    simp
  cases event with
  | listens index redirectUri now =>
      obtain ⟨input, -, rfl⟩ := Option.map_eq_some_iff.1 hstep
      exact absurd rfl hnew
  | persists index =>
      obtain ⟨exchange, tokens, -, -, -, -, -, -, -, ⟨-, hsame⟩ | ⟨-, hsame | hrest⟩⟩ :=
        h.persists_cases hstep
      · exact absurd hsame hnew
      · exact absurd hsame hnew
      · obtain ⟨login, started, handle, -, -, heq, hattached⟩ := hrest
        rw [hdelivery] at heq
        obtain ⟨-, hlast⟩ := List.append_inj' heq rfl
        cases hlast
        exact hattached
  | manage | startLogin | listenFails | callback | answered | persistFails | cancelLogin | close
  | scheduledClose | abandons | purge =>
      exact absurd (quiet_of_step (by simp) (by simp) hstep).deliveries hnew

end Cancelled

/-! ## Runs -/

section Runs

variable {platform : LoginPlatform} {events : List LoginEvent} {service : LoginService}

theorem Reached.sound (h : service.Reached platform events)
    (hcareful : List.Along Careful (LoginService.step platform) initial events) : service.Sound platform := by
  refine List.run_induction (motive := fun events service =>
    List.Along Careful (LoginService.step platform) initial events → service.Sound platform) ?_ ?_ h hcareful
  · exact fun _ => sound_initial platform
  · intro events service event service' hrun ih hstep hcareful
    obtain ⟨hbefore, hevent⟩ := (List.along_concat hrun).1 hcareful
    exact (ih hbefore).step hevent hstep

/-- A login that is dismissed stays so for the rest of the run. -/
theorem Sound.dismissed_run (h : service.Sound platform) {state : String}
    (hdismissed : service.Dismissed state) {later : List LoginEvent} {service' : LoginService}
    (hrun : List.run (LoginService.step platform) service later = some service')
    (hcareful : List.Along Careful (LoginService.step platform) service later) : service'.Dismissed state := by
  suffices hboth : service'.Sound platform ∧ service'.Dismissed state from hboth.2
  refine List.run_induction (motive := fun later service' =>
    List.Along Careful (LoginService.step platform) service later →
      service'.Sound platform ∧ service'.Dismissed state) ?_ ?_ hrun hcareful
  · exact fun _ => ⟨h, hdismissed⟩
  · intro later t event t' hrun ih hstep hcareful
    obtain ⟨hbefore, hevent⟩ := (List.along_concat hrun).1 hcareful
    obtain ⟨hsound, hdismissed⟩ := ih hbefore
    exact ⟨hsound.step hevent hstep, hsound.dismissed hevent hstep hdismissed⟩

end Runs

end LoginService

open LoginService

/-- A run delivers its own if tokens are stored only while their own login is waited for and no
login is cancelled by another state. -/
theorem deliversOwn_of_careful (platform : LoginPlatform) (events : List LoginEvent)
    (hcareful : List.Along LoginService.Careful (LoginService.step platform) LoginService.initial
      events) : DeliversOwn platform events where
  own service hservice delivery hdelivery := (hservice.sound hcareful).deliveries delivery hdelivery
  attached := by
    intro before after event service service' delivery hevents hbefore hnext hdelivery
    obtain ⟨t, ht, hstep⟩ := List.run_concat_eq_some.1 hnext
    obtain rfl : t = service := Option.some.inj (ht.symm.trans hbefore)
    rw [hevents] at hcareful
    exact (hbefore.sound hcareful.of_append_left).attached hstep hdelivery
  cancelled := by
    intro before after state service service' hevents hbefore hafter hstarted hnothing
    rw [hevents] at hcareful
    rw [Reached, hevents, List.run_append, show List.run (LoginService.step platform)
      LoginService.initial before = some service from hbefore, Option.bind_some] at hafter
    obtain ⟨t, hcancel, hrun⟩ := Option.bind_eq_some_iff.1 hafter
    have hsound := hbefore.sound hcareful.of_append_left
    have hrest := hcareful.of_append hbefore
    obtain ⟨hevent, hlater⟩ := List.along_cons.1 hrest
    have hdismissed : t.Dismissed state := dismissed_of_cancel hcancel hstarted hnothing
    exact ((hsound.step hevent hcancel).dismissed_run hdismissed hrun (hlater t hcancel)).nothing
  others := by
    intro before after state service service' index login hevents hbefore hnext hsettlers hlogin hstate
    rcases hcareful before (.cancelLogin state) after service hevents hbefore with hnone | hwaits
    · rw [hsettlers] at hnone
      cases hnone
    · obtain ⟨index', hindex', login', hlogin', hsame⟩ := hwaits
      rw [hsettlers] at hindex'
      cases hindex'
      rw [hlogin] at hlogin'
      cases hlogin'
      exact absurd hsame hstate

/-! ## A login that is cancelled while its code is exchanged -/

/-- A platform that counts its states as well. -/
def countingLoginPlatform : LoginPlatform where
  toCredentialPlatform := countingCredentialPlatform
  loginState n := String.ofList (List.replicate (n + 1) 's')
  loginState_injective := injective_ofList_replicate 's'

/-- A login of Codex is started, and its code comes in. -/
def exchangeUnderWay : List LoginEvent :=
  [.manage ⟨.cli, .createProvider ⟨"codex", .oauth, none, none, none, none⟩⟩,
    .startLogin "u" "work" .cli,
    .listens 0 "http://localhost:1455/auth/callback" 0,
    .callback "code" "s" 1]

/-- The login finishes, and another one is cancelled. -/
def cancelledAfterwards : List LoginEvent :=
  exchangeUnderWay ++
    [.answered 0 (.ok ⟨"access", "refresh", none, none⟩),
      .persists 0,
      .scheduledClose,
      .startLogin "u" "home" .cli,
      .listens 0 "http://localhost:1455/auth/callback" 2,
      .cancelLogin "ss"]

theorem deliversOwn_cancelledAfterwards : DeliversOwn countingLoginPlatform cancelledAfterwards :=
  deliversOwn_of_careful countingLoginPlatform cancelledAfterwards (by decide +kernel)

/-- The login is cancelled and another one is started before the provider answers. -/
def cancelledMeanwhile : List LoginEvent :=
  exchangeUnderWay ++
    [.cancelLogin "s",
      .startLogin "u" "home" .cli,
      .listens 0 "http://localhost:1455/auth/callback" 2,
      .answered 0 (.ok ⟨"access", "refresh", none, none⟩),
      .persists 0]

/-- The second login is resolved with the credential of the first. -/
theorem deliversOwn_violated : ¬ DeliversOwn countingLoginPlatform cancelledMeanwhile := by
  intro h
  have hdelivered : ((List.run (LoginService.step countingLoginPlatform) LoginService.initial
      cancelledMeanwhile).map fun service =>
        (service.logins.map (·.state),
          service.deliveries.map fun delivery => (delivery.login, delivery.exchange.session.state))) =
      some (["s", "ss"], [(1, "s")]) := by decide +kernel
  obtain ⟨service, hservice, hrest⟩ := Option.map_eq_some_iff.1 hdelivered
  obtain ⟨hlogins, hdeliveries⟩ := Prod.mk.inj hrest
  obtain ⟨delivery, hmem, hdelivery⟩ := List.mem_map.1
    (show (1, "s") ∈ service.deliveries.map _ by rw [hdeliveries]; exact List.mem_singleton_self _)
  obtain ⟨hlogin, hstate⟩ := Prod.mk.inj hdelivery
  obtain ⟨login, hfound, howns, -⟩ := h.own service hservice delivery hmem
  have hsecond : (service.logins.map (·.state))[1]? = some login.state := by
    rw [List.getElem?_map, ← hlogin, hfound]
    rfl
  rw [hlogins, ← howns.state, hstate] at hsecond
  exact absurd hsecond (by decide)

end RlyGateway
