import RlyGateway.Management.SessionStore

/-!
# The protocol of management sessions

What the calls made so far decide about the answer to the next one: which bootstrap tokens are
still good, which sessions are live, and which CSRF token is the latest of a session.
-/

namespace RlyGateway

open SessionStore (hashToken)

section Protocol

variable (platform : ManagementPlatform)

/-- The call issues the bootstrap token, with that expiry. -/
def IssuesBootstrap (token : String) (expiresAt : ℤ) (before : List TimedCall)
    (timed : TimedCall) : Prop :=
  answerAfter platform before timed = .bootstrap token expiresAt

/-- The call issues the CSRF token for a session. -/
def IssuesCsrf (id csrfToken : String) (before : List TimedCall) (timed : TimedCall) : Prop :=
  ∃ expiresAt, answerAfter platform before timed = .record (some ⟨id, csrfToken, expiresAt⟩)

/-- The call is the exchange that creates the session, with that expiry. -/
def CreatesSession (id : String) (expiresAt : ℤ) (before : List TimedCall)
    (timed : TimedCall) : Prop :=
  ∃ token csrfToken, timed.call = .exchangeBootstrap token ∧
    answerAfter platform before timed = .record (some ⟨id, csrfToken, expiresAt⟩)

/-- A session is live from the exchange that created it until its expiry, unless it has been revoked
since. -/
def LiveSession (history : List TimedCall) (id : String) (now : ℤ) : Prop :=
  ∃ expiresAt, history.Since (CreatesSession platform id expiresAt)
    (fun _ timed => timed.call = .revoke id ∨ timed.call = .revokeAll) ∧ now < expiresAt

/-- The CSRF token is the latest that was issued for the session. -/
def LatestCsrf (history : List TimedCall) (id csrfToken : String) : Prop :=
  history.Since (IssuesCsrf platform id csrfToken)
    fun before timed => ∃ csrfToken, IssuesCsrf platform id csrfToken before timed

/-- The protocol of the sessions over a history of calls. -/
structure SessionProtocol (history : List TimedCall) : Prop where
  /-- A bootstrap token yields one session at most. -/
  once : ∀ before first middle second after token record,
    history = before ++ first :: (middle ++ second :: after) →
      first.call = .exchangeBootstrap token → second.call = .exchangeBootstrap token →
        answerAfter platform before first = .record (some record) →
          answerAfter platform (before ++ first :: middle) second = .record none
  /-- It does so before its expiry, with no call that revokes everything in between. -/
  inTime : ∀ before timed after token record, history = before ++ timed :: after →
    timed.call = .exchangeBootstrap token →
      answerAfter platform before timed = .record (some record) →
        ∃ expiresAt, before.Since (IssuesBootstrap platform token expiresAt)
          (fun _ timed => timed.call = .revokeAll) ∧ timed.clock.check < expiresAt
  hasSession : ∀ before timed after id, history = before ++ timed :: after →
    timed.call = .hasSession id →
      (answerAfter platform before timed = .holds true ↔
        LiveSession platform before id timed.clock.check)
  matchesCsrf : ∀ before timed after id csrfToken, history = before ++ timed :: after →
    timed.call = .matchesCsrf id csrfToken →
      (answerAfter platform before timed = .holds true ↔
        LiveSession platform before id timed.clock.check ∧
          LatestCsrf platform before id csrfToken)

end Protocol

variable {platform : ManagementPlatform} {store : SessionStore} {clock : ClockReadings}

theorem hashToken_inj {token token' : String} :
    hashToken platform token = hashToken platform token' ↔ token = token' :=
  platform.hashToken_injective.eq_iff

/-! ## What a call does -/

@[simp] theorem storeAfter_nil : storeAfter platform [] = .empty := rfl

@[simp] theorem storeAfter_concat (history : List TimedCall) (timed : TimedCall) :
    storeAfter platform (history ++ [timed]) =
      (timed.perform platform (storeAfter platform history)).2 := by
  rw [storeAfter, List.foldl_append]
  rfl

namespace SessionStore

theorem liveSession_fst (id : String) : (store.liveSession platform clock id).1 =
    store.sessions.live? StoredSession.expiresAt clock.check (hashToken platform id) := by
  rw [← OrderedMap.live?_purge clock.purge_le_check]
  unfold liveSession OrderedMap.live? purge
  dsimp only
  cases (store.sessions.purge StoredSession.expiresAt clock.purge).get? (hashToken platform id) with
  | none => rfl
  | some session =>
      rw [Option.filter_some]
      by_cases h : clock.check < session.expiresAt
      · simp [h]
      · simp [h]

theorem liveSession_snd (id : String) :
    (store.liveSession platform clock id).2 = store.purge clock.purge := by
  unfold liveSession
  dsimp only
  split <;> rfl

end SessionStore

/-- What a call can answer and leave, with what is live at the time. -/
inductive Performs (platform : ManagementPlatform) (store : SessionStore) (clock : ClockReadings) :
    SessionCall → SessionAnswer → SessionStore → Prop
  | issued : Performs platform store clock .issueBootstrap
      (.bootstrap (platform.randomToken store.drawn) (clock.stamp + BOOTSTRAP_TTL_MS))
      { store.purge clock.purge with
        bootstraps := (store.purge clock.purge).bootstraps.set
          (hashToken platform (platform.randomToken store.drawn)) (clock.stamp + BOOTSTRAP_TTL_MS)
        drawn := store.drawn + 1 }
  | exchanged (token : String) (expiresAt : ℤ)
      (hlive : store.bootstraps.live? id clock.check (hashToken platform token) = some expiresAt) :
      Performs platform store clock (.exchangeBootstrap token)
        (.record (some ⟨platform.randomToken store.drawn, platform.randomToken (store.drawn + 1),
          clock.stamp + SESSION_TTL_MS⟩))
        { bootstraps := (store.purge clock.purge).bootstraps.erase (hashToken platform token)
          sessions := (store.purge clock.purge).sessions.set
            (hashToken platform (platform.randomToken store.drawn))
            ⟨clock.stamp + SESSION_TTL_MS,
              hashToken platform (platform.randomToken (store.drawn + 1))⟩
          drawn := store.drawn + 2 }
  | refused (token : String)
      (hlive : store.bootstraps.live? id clock.check (hashToken platform token) = none) :
      Performs platform store clock (.exchangeBootstrap token) (.record none)
        { store.purge clock.purge with
          bootstraps := (store.purge clock.purge).bootstraps.erase (hashToken platform token) }
  | hasSession (id : String) :
      Performs platform store clock (.hasSession id)
        (.holds (store.sessions.live? StoredSession.expiresAt clock.check
          (hashToken platform id)).isSome) (store.purge clock.purge)
  | matchesCsrf (id csrfToken : String) :
      Performs platform store clock (.matchesCsrf id csrfToken)
        (.holds ((store.sessions.live? StoredSession.expiresAt clock.check
          (hashToken platform id)).any fun session =>
            safeEqual session.csrfHash (hashToken platform csrfToken))) (store.purge clock.purge)
  | rotated (id : String) (session : StoredSession)
      (hlive : store.sessions.live? StoredSession.expiresAt clock.check (hashToken platform id) =
        some session) :
      Performs platform store clock (.rotateCsrf id)
        (.record (some ⟨id, platform.randomToken store.drawn, session.expiresAt⟩))
        { store.purge clock.purge with
          sessions := (store.purge clock.purge).sessions.set (hashToken platform id)
            ⟨session.expiresAt, hashToken platform (platform.randomToken store.drawn)⟩
          drawn := store.drawn + 1 }
  | notRotated (id : String) :
      Performs platform store clock (.rotateCsrf id) (.record none) (store.purge clock.purge)
  | revoked (id : String) : Performs platform store clock (.revoke id) .done
      { store with sessions := store.sessions.erase (hashToken platform id) }
  | revokedAll : Performs platform store clock .revokeAll .done
      { store with bootstraps := .empty, sessions := .empty }

/-- An exchange goes by what is live when it checks. -/
theorem performs_exchangeBootstrap (token : String) :
    Performs platform store clock (.exchangeBootstrap token)
      (.record (store.exchangeBootstrap platform clock token).1)
      (store.exchangeBootstrap platform clock token).2 := by
  have hlive : store.bootstraps.live? id clock.check (hashToken platform token) =
      ((store.bootstraps.purge id clock.purge).get? (hashToken platform token)).filter
        fun expiresAt => clock.check < expiresAt := by
    rw [← OrderedMap.live?_purge clock.purge_le_check]
    rfl
  unfold SessionStore.exchangeBootstrap
  dsimp only [SessionStore.purge]
  split
  · rename_i hnone
    rw [hnone] at hlive
    exact .refused token hlive
  · rename_i expiresAt hsome
    rw [hsome, Option.filter_some] at hlive
    split
    · rename_i hexpired
      rw [if_neg (by simpa using hexpired)] at hlive
      exact .refused token hlive
    · rename_i htime
      rw [if_pos (by simpa using htime)] at hlive
      exact .exchanged token expiresAt hlive

/-- Every call does one of these. -/
theorem performs_perform (platform : ManagementPlatform) (store : SessionStore)
    (timed : TimedCall) : Performs platform store timed.clock timed.call (timed.perform platform store).1
      (timed.perform platform store).2 := by
  obtain ⟨call, clock⟩ := timed
  cases call with
  | issueBootstrap => exact .issued
  | exchangeBootstrap token => exact performs_exchangeBootstrap token
  | hasSession id =>
      dsimp only [TimedCall.perform, SessionStore.hasSession]
      rw [SessionStore.liveSession_fst, SessionStore.liveSession_snd]
      exact .hasSession id
  | matchesCsrf id csrfToken =>
      dsimp only [TimedCall.perform, SessionStore.matchesCsrf]
      rw [SessionStore.liveSession_fst, SessionStore.liveSession_snd]
      exact .matchesCsrf id csrfToken
  | rotateCsrf id =>
      dsimp only [TimedCall.perform, SessionStore.rotateCsrf]
      rw [SessionStore.liveSession_fst, SessionStore.liveSession_snd]
      cases hlive : store.sessions.live? StoredSession.expiresAt clock.check
          (hashToken platform id) with
      | none => exact .notRotated id
      | some session => exact .rotated id session hlive
  | revoke id => exact .revoked id
  | revokeAll => exact .revokedAll

/-! ## Fresh tokens -/

namespace SessionStore

/-- The keys of both maps are digests of tokens drawn before. -/
structure Drawn (platform : ManagementPlatform) (store : SessionStore) : Prop where
  bootstraps : ∀ key expiresAt, store.bootstraps.get? key = some expiresAt →
    ∃ n < store.drawn, key = hashToken platform (platform.randomToken n)
  sessions : ∀ key session, store.sessions.get? key = some session →
    ∃ n < store.drawn, key = hashToken platform (platform.randomToken n)

theorem drawn_empty : empty.Drawn platform where
  bootstraps _ _ h := by cases h
  sessions _ _ h := by cases h

namespace Drawn

theorem of_keys (h : store.Drawn platform) {store' : SessionStore}
    (hdrawn : store.drawn ≤ store'.drawn)
    (hbootstraps : ∀ key expiresAt, store'.bootstraps.get? key = some expiresAt →
      store.bootstraps.get? key = some expiresAt ∨
        ∃ n < store'.drawn, key = hashToken platform (platform.randomToken n))
    (hsessions : ∀ key session, store'.sessions.get? key = some session →
      (∃ session, store.sessions.get? key = some session) ∨
        ∃ n < store'.drawn, key = hashToken platform (platform.randomToken n)) :
    store'.Drawn platform := by
  constructor
  · intro key expiresAt hget
    rcases hbootstraps key expiresAt hget with hold | hnew
    · obtain ⟨n, hn, hkey⟩ := h.bootstraps key expiresAt hold
      exact ⟨n, by omega, hkey⟩
    · exact hnew
  · intro key session hget
    rcases hsessions key session hget with ⟨session', hold⟩ | hnew
    · obtain ⟨n, hn, hkey⟩ := h.sessions key session' hold
      exact ⟨n, by omega, hkey⟩
    · exact hnew

/-- No token still to be drawn has been issued for a session or a bootstrap. -/
theorem bootstraps_eq_none (h : store.Drawn platform) {n : ℕ} (hn : store.drawn ≤ n) :
    store.bootstraps.get? (hashToken platform (platform.randomToken n)) = none := by
  rw [Option.eq_none_iff_forall_not_mem]
  intro expiresAt hget
  obtain ⟨m, hm, hkey⟩ := h.bootstraps _ _ hget
  have hsame := platform.randomToken_injective (hashToken_inj.1 hkey)
  omega

theorem sessions_eq_none (h : store.Drawn platform) {n : ℕ} (hn : store.drawn ≤ n) :
    store.sessions.get? (hashToken platform (platform.randomToken n)) = none := by
  rw [Option.eq_none_iff_forall_not_mem]
  intro session hget
  obtain ⟨m, hm, hkey⟩ := h.sessions _ _ hget
  have hsame := platform.randomToken_injective (hashToken_inj.1 hkey)
  omega

end Drawn

end SessionStore

/-- Keys of a written map: the one written, or one that was there. -/
theorem get?_set_purge {ν : Type} {expiry : ν → ℤ} {m : OrderedMap String ν}
    {now : ℤ} {key key' : String} {value value' : ν}
    (h : ((m.purge expiry now).set key value).get? key' = some value') :
    (key' = key ∧ value' = value) ∨ (key ≠ key' ∧ m.get? key' = some value') := by
  rw [OrderedMap.get?_set] at h
  split at h
  · rename_i heq
    cases h
    exact .inl ⟨heq.symm, rfl⟩
  · rename_i hne
    exact .inr ⟨hne, OrderedMap.get?_of_get?_purge h⟩

theorem get?_erase_purge {ν : Type} {expiry : ν → ℤ} {m : OrderedMap String ν}
    {now : ℤ} {key key' : String} {value : ν}
    (h : ((m.purge expiry now).erase key).get? key' = some value) :
    key ≠ key' ∧ m.get? key' = some value := by
  rw [OrderedMap.get?_erase] at h
  split at h
  · cases h
  · rename_i hne
    exact ⟨hne, OrderedMap.get?_of_get?_purge h⟩

/-- A call draws on. -/
theorem Performs.drawn_le {call : SessionCall} {answer : SessionAnswer} {store' : SessionStore}
    (h : Performs platform store clock call answer store') : store.drawn ≤ store'.drawn := by
  cases h with
  | issued => exact Nat.le_succ _
  | exchanged token expiresAt hlive => exact Nat.le_add_right _ 2
  | rotated id session hlive => exact Nat.le_succ _
  | _ => exact le_rfl

/-- A call keeps the keys digests of drawn tokens. -/
theorem Performs.drawn {call : SessionCall} {answer : SessionAnswer} {store' : SessionStore}
    (h : Performs platform store clock call answer store') (hdrawn : store.Drawn platform) :
    store'.Drawn platform := by
  have hpurge : ∀ (key : String) (session : StoredSession),
      (store.sessions.purge StoredSession.expiresAt clock.purge).get? key = some session →
        ∃ session, store.sessions.get? key = some session :=
    fun key session hget => ⟨session, OrderedMap.get?_of_get?_purge hget⟩
  refine hdrawn.of_keys h.drawn_le ?_ ?_
  · intro key expiresAt hget
    cases h with
    | issued =>
        rcases get?_set_purge hget with ⟨rfl, -⟩ | ⟨-, hold⟩
        · exact .inr ⟨store.drawn, Nat.lt_succ_self _, rfl⟩
        · exact .inl hold
    | exchanged token expiresAt' hlive => exact .inl (get?_erase_purge hget).2
    | refused token hlive => exact .inl (get?_erase_purge hget).2
    | revoked id => exact .inl hget
    | revokedAll => cases hget
    | _ => exact .inl (OrderedMap.get?_of_get?_purge hget)
  · intro key session hget
    cases h with
    | exchanged token expiresAt hlive =>
        rcases get?_set_purge hget with ⟨rfl, -⟩ | ⟨-, hold⟩
        · exact .inr ⟨store.drawn, by dsimp only; omega, rfl⟩
        · exact .inl ⟨session, hold⟩
    | rotated id session' hlive =>
        rcases get?_set_purge hget with ⟨rfl, -⟩ | ⟨-, hold⟩
        · exact .inl ⟨session', (OrderedMap.live?_eq_some.1 hlive).1⟩
        · exact .inl ⟨session, hold⟩
    | revoked id =>
        rw [OrderedMap.get?_erase] at hget
        split at hget
        · cases hget
        · exact .inl ⟨session, hget⟩
    | revokedAll => cases hget
    | _ => exact .inl (hpurge key session hget)

theorem drawn_storeAfter (history : List TimedCall) :
    (storeAfter platform history).Drawn platform := by
  induction history using List.reverseRecOn with
  | nil => exact SessionStore.drawn_empty
  | append_singleton history timed ih =>
      rw [storeAfter_concat]
      exact (performs_perform platform _ timed).drawn ih

/-! ## Bootstrap tokens -/

/-- What is live of the bootstrap tokens after a call: the one that it issues, and those that were
live before, but for the one that is exchanged and unless all are revoked. -/
theorem Performs.bootstraps {call : SessionCall} {answer : SessionAnswer} {store' : SessionStore}
    (h : Performs platform store clock call answer store') (hdrawn : store.Drawn platform)
    {now : ℤ} (hnow : clock.stamp ≤ now) {token : String} {expiresAt : ℤ} :
    store'.bootstraps.live? id now (hashToken platform token) = some expiresAt ↔
      (answer = .bootstrap token expiresAt ∧ now < expiresAt) ∨
        (store.bootstraps.live? id now (hashToken platform token) = some expiresAt ∧
          ¬ (call = .exchangeBootstrap token ∨ call = .revokeAll)) := by
  have hpurge : clock.purge ≤ now :=
    (clock.purge_le_check.trans clock.check_le_stamp).trans hnow
  have hkept : (store.bootstraps.purge id clock.purge).live? id now (hashToken platform token) =
      store.bootstraps.live? id now (hashToken platform token) := OrderedMap.live?_purge hpurge
  cases h with
  | issued =>
      rw [OrderedMap.live?_set]
      by_cases heq : platform.randomToken store.drawn = token
      · subst heq
        have hfresh : store.bootstraps.live? id now
            (hashToken platform (platform.randomToken store.drawn)) = none := by
          rw [OrderedMap.live?, hdrawn.bootstraps_eq_none le_rfl, Option.filter_none]
        rw [if_pos rfl, hfresh, Option.filter_eq_some_iff]
        simp [eq_comm]
      · rw [if_neg (mt hashToken_inj.1 heq)]
        simp [SessionStore.purge, hkept, heq]
  | exchanged token' expiresAt' hlive =>
      rw [OrderedMap.live?_erase]
      by_cases heq : token' = token
      · simp [heq]
      · rw [if_neg (mt hashToken_inj.1 heq)]
        simp [SessionStore.purge, hkept, heq]
  | refused token' hlive =>
      rw [OrderedMap.live?_erase]
      by_cases heq : token' = token
      · simp [heq]
      · rw [if_neg (mt hashToken_inj.1 heq)]
        simp [SessionStore.purge, hkept, heq]
  | revoked id => simp
  | revokedAll => simp
  | _ => simp [SessionStore.purge, hkept]

/-- A token drawn before that is there after a call was there before it. -/
theorem Performs.bootstraps_back {call : SessionCall} {answer : SessionAnswer}
    {store' : SessionStore} (h : Performs platform store clock call answer store') {n : ℕ}
    (hn : n < store.drawn) {expiresAt : ℤ}
    (hget : store'.bootstraps.get? (hashToken platform (platform.randomToken n)) =
      some expiresAt) :
    store.bootstraps.get? (hashToken platform (platform.randomToken n)) = some expiresAt := by
  cases h with
  | issued =>
      rcases get?_set_purge hget with ⟨hsame, -⟩ | ⟨-, hold⟩
      · have heq := platform.randomToken_injective (hashToken_inj.1 hsame)
        omega
      · exact hold
  | exchanged => exact (get?_erase_purge hget).2
  | refused => exact (get?_erase_purge hget).2
  | revoked => exact hget
  | revokedAll => cases hget
  | _ => exact OrderedMap.get?_of_get?_purge hget

/-! ## Sessions -/

/-- When a session expires that is live. -/
def SessionStore.liveExpiry (platform : ManagementPlatform) (store : SessionStore) (now : ℤ)
    (id : String) : Option ℤ :=
  (store.sessions.live? StoredSession.expiresAt now (hashToken platform id)).map (·.expiresAt)

/-- What is live of the sessions after a call: the one that it creates, and those that were live
before, unless revoked. A new CSRF token leaves a session its expiry. -/
theorem Performs.sessions {call : SessionCall} {answer : SessionAnswer} {store' : SessionStore}
    (h : Performs platform store clock call answer store') (hdrawn : store.Drawn platform)
    {now : ℤ} (hnow : clock.stamp ≤ now) {id : String} {expiresAt : ℤ} :
    store'.liveExpiry platform now id = some expiresAt ↔
      ((∃ token csrfToken, call = .exchangeBootstrap token ∧
          answer = .record (some ⟨id, csrfToken, expiresAt⟩)) ∧ now < expiresAt) ∨
        (store.liveExpiry platform now id = some expiresAt ∧
          ¬ (call = .revoke id ∨ call = .revokeAll)) := by
  have hpurge : clock.purge ≤ now :=
    (clock.purge_le_check.trans clock.check_le_stamp).trans hnow
  have hkept : (store.sessions.purge StoredSession.expiresAt clock.purge).live?
      StoredSession.expiresAt now (hashToken platform id) =
        store.sessions.live? StoredSession.expiresAt now (hashToken platform id) :=
    OrderedMap.live?_purge hpurge
  unfold SessionStore.liveExpiry
  cases h with
  | exchanged token expiresAt' hlive =>
      rw [OrderedMap.live?_set]
      by_cases heq : platform.randomToken store.drawn = id
      · subst heq
        have hfresh : store.sessions.live? StoredSession.expiresAt now
            (hashToken platform (platform.randomToken store.drawn)) = none := by
          rw [OrderedMap.live?, hdrawn.sessions_eq_none le_rfl, Option.filter_none]
        rw [if_pos rfl, hfresh, Option.filter_some]
        by_cases htime : now < clock.stamp + SESSION_TTL_MS
        · simp [htime]
          omega
        · simp [htime]
          omega
      · rw [if_neg (mt hashToken_inj.1 heq)]
        simp [SessionStore.purge, hkept, heq]
  | rotated id' session hlive =>
      rw [OrderedMap.live?_set]
      by_cases heq : id' = id
      · subst heq
        rw [if_pos rfl, Option.filter_some]
        -- the session is the one that was live, with the same expiry
        have hget := (OrderedMap.live?_eq_some.1 hlive).1
        rw [OrderedMap.live?, hget, Option.filter_some]
        by_cases htime : now < session.expiresAt
        · simp [htime]
        · simp [htime]
      · rw [if_neg (mt hashToken_inj.1 heq)]
        simp [SessionStore.purge, hkept]
  | revoked id' =>
      rw [OrderedMap.live?_erase]
      by_cases heq : id' = id
      · simp [heq]
      · rw [if_neg (mt hashToken_inj.1 heq)]
        simp [heq]
  | revokedAll => simp
  | _ => simp [SessionStore.purge, hkept]

/-- The CSRF token a session is stored with: the one a call issues for it, or the one it had. -/
theorem Performs.csrf {call : SessionCall} {answer : SessionAnswer} {store' : SessionStore}
    (h : Performs platform store clock call answer store') {id : String} {session : StoredSession}
    (hget : store'.sessions.get? (hashToken platform id) = some session) :
    (∃ csrfToken expiresAt, answer = .record (some ⟨id, csrfToken, expiresAt⟩) ∧
        session.csrfHash = hashToken platform csrfToken) ∨
      ((∃ session', store.sessions.get? (hashToken platform id) = some session' ∧
          session'.csrfHash = session.csrfHash) ∧
        ∀ csrfToken expiresAt, answer ≠ .record (some ⟨id, csrfToken, expiresAt⟩)) := by
  cases h with
  | exchanged token expiresAt hlive =>
      rcases get?_set_purge hget with ⟨hid, rfl⟩ | ⟨hne, hold⟩
      · refine .inl ⟨platform.randomToken (store.drawn + 1), clock.stamp + SESSION_TTL_MS, ?_, rfl⟩
        rw [hashToken_inj.1 hid]
      · refine .inr ⟨⟨session, hold, rfl⟩, ?_⟩
        intro csrfToken expiresAt' heq
        injection heq with heq
        injection heq with heq
        injection heq with heq
        exact hne (congrArg (hashToken platform) heq)
  | rotated id' session' hlive =>
      rcases get?_set_purge hget with ⟨hid, rfl⟩ | ⟨hne, hold⟩
      · refine .inl ⟨platform.randomToken store.drawn, session'.expiresAt, ?_, rfl⟩
        rw [hashToken_inj.1 hid]
      · refine .inr ⟨⟨session, hold, rfl⟩, ?_⟩
        intro csrfToken expiresAt' heq
        injection heq with heq
        injection heq with heq
        injection heq with heq
        exact hne (congrArg (hashToken platform) heq)
  | revoked id' =>
      rw [OrderedMap.get?_erase] at hget
      split at hget
      · cases hget
      · exact .inr ⟨⟨session, hget, rfl⟩, fun csrfToken expiresAt => by simp⟩
  | revokedAll => cases hget
  | issued | refused | hasSession | matchesCsrf | notRotated =>
      exact .inr ⟨⟨session, OrderedMap.get?_of_get?_purge hget, rfl⟩,
        fun csrfToken expiresAt => by simp⟩

/-! ## Over a history -/

/-- The clock has come so far. -/
def ClockReached (history : List TimedCall) (now : ℤ) : Prop :=
  ∀ timed ∈ history, timed.clock.stamp ≤ now

theorem inOrder_concat {history : List TimedCall} {timed : TimedCall} :
    InOrder (history ++ [timed]) ↔ InOrder history ∧ ClockReached history timed.clock.purge := by
  unfold InOrder ClockReached
  rw [List.pairwise_append]
  simp

theorem clockReached_concat {history : List TimedCall} {timed : TimedCall} {now : ℤ} :
    ClockReached (history ++ [timed]) now ↔ ClockReached history now ∧ timed.clock.stamp ≤ now := by
  unfold ClockReached
  simp only [List.mem_append, List.mem_singleton]
  constructor
  · intro h
    exact ⟨fun other hother => h other (.inl hother), h timed (.inr rfl)⟩
  · rintro ⟨hbefore, hlast⟩ other (hother | rfl)
    · exact hbefore other hother
    · exact hlast

/-- The bootstrap tokens that are live have been issued, and since then neither been exchanged nor
revoked. -/
theorem bootstraps_live_iff {history : List TimedCall} (horder : InOrder history) {now : ℤ}
    (hnow : ClockReached history now) {token : String} {expiresAt : ℤ} :
    (storeAfter platform history).bootstraps.live? id now (hashToken platform token) =
        some expiresAt ↔
      history.Since (IssuesBootstrap platform token expiresAt)
        (fun _ timed => timed.call = .exchangeBootstrap token ∨ timed.call = .revokeAll) ∧
          now < expiresAt := by
  induction history using List.reverseRecOn with
  | nil =>
      refine iff_of_false ?_ fun h => List.not_since_nil h.1
      intro h
      cases h
  | append_singleton history timed ih =>
      obtain ⟨hbefore, hlast⟩ := clockReached_concat.1 hnow
      rw [storeAfter_concat,
        (performs_perform platform _ timed).bootstraps (drawn_storeAfter history) hlast,
        ih (inOrder_concat.1 horder).1 hbefore, List.since_concat, or_and_right]
      refine or_congr Iff.rfl ?_
      rw [and_right_comm]

/-- The sessions that are live have been created, and not revoked since. -/
theorem liveExpiry_iff {history : List TimedCall} (horder : InOrder history) {now : ℤ}
    (hnow : ClockReached history now) {id : String} {expiresAt : ℤ} :
    (storeAfter platform history).liveExpiry platform now id = some expiresAt ↔
      history.Since (CreatesSession platform id expiresAt)
        (fun _ timed => timed.call = .revoke id ∨ timed.call = .revokeAll) ∧ now < expiresAt := by
  induction history using List.reverseRecOn with
  | nil =>
      refine iff_of_false ?_ fun h => List.not_since_nil h.1
      intro h
      cases h
  | append_singleton history timed ih =>
      obtain ⟨hbefore, hlast⟩ := clockReached_concat.1 hnow
      rw [storeAfter_concat,
        (performs_perform platform _ timed).sessions (drawn_storeAfter history) hlast,
        ih (inOrder_concat.1 horder).1 hbefore, List.since_concat, or_and_right]
      refine or_congr Iff.rfl ?_
      rw [and_right_comm]

theorem liveSession_iff {history : List TimedCall} (horder : InOrder history) {now : ℤ}
    (hnow : ClockReached history now) {id : String} :
    LiveSession platform history id now ↔ ∃ session, (storeAfter platform history).sessions.live?
      StoredSession.expiresAt now (hashToken platform id) = some session := by
  unfold LiveSession
  simp only [← liveExpiry_iff horder hnow, SessionStore.liveExpiry, Option.map_eq_some_iff]
  constructor
  · rintro ⟨expiresAt, session, hlive, -⟩
    exact ⟨session, hlive⟩
  · rintro ⟨session, hlive⟩
    exact ⟨session.expiresAt, session, hlive, rfl⟩

/-- A session is stored with the digest of its latest CSRF token. -/
theorem csrfHash_eq {history : List TimedCall} {id : String} {session : StoredSession}
    (h : (storeAfter platform history).sessions.get? (hashToken platform id) = some session) :
    ∃ csrfToken, session.csrfHash = hashToken platform csrfToken ∧
      LatestCsrf platform history id csrfToken := by
  induction history using List.reverseRecOn generalizing session with
  | nil => cases h
  | append_singleton history timed ih =>
      rw [storeAfter_concat] at h
      unfold LatestCsrf
      simp only [List.since_concat]
      rcases (performs_perform platform _ timed).csrf h with ⟨csrfToken, expiresAt, hanswer, hhash⟩ |
        ⟨⟨session', hsession', hsame⟩, hnone⟩
      · exact ⟨csrfToken, hhash, .inl ⟨expiresAt, hanswer⟩⟩
      · obtain ⟨csrfToken, hhash, hlatest⟩ := ih hsession'
        refine ⟨csrfToken, hsame.symm.trans hhash, .inr ⟨hlatest, ?_⟩⟩
        rintro ⟨other, expiresAt, hanswer⟩
        exact hnone other expiresAt hanswer

/-- There is one latest CSRF token. -/
theorem LatestCsrf.unique {history : List TimedCall} {id csrfToken csrfToken' : String}
    (h : LatestCsrf platform history id csrfToken)
    (h' : LatestCsrf platform history id csrfToken') : csrfToken = csrfToken' := by
  induction history using List.reverseRecOn with
  | nil => exact absurd h List.not_since_nil
  | append_singleton history timed ih =>
      rcases List.since_concat.1 h with ⟨expiresAt, hanswer⟩ | ⟨hbefore, hnone⟩
      · rcases List.since_concat.1 h' with ⟨expiresAt', hanswer'⟩ | ⟨-, hnone'⟩
        · rw [hanswer] at hanswer'
          injection hanswer' with heq
          injection heq with heq
          injection heq
        · exact absurd ⟨csrfToken, expiresAt, hanswer⟩ hnone'
      · rcases List.since_concat.1 h' with ⟨expiresAt', hanswer'⟩ | ⟨hbefore', -⟩
        · exact absurd ⟨csrfToken', expiresAt', hanswer'⟩ hnone
        · exact ih hbefore hbefore'

/-! ## The protocol -/

/-- An exchange yields a session exactly of a token that is live when it checks. -/
theorem answerAfter_exchangeBootstrap (platform : ManagementPlatform) (history : List TimedCall)
    {timed : TimedCall} {token : String} (hcall : timed.call = .exchangeBootstrap token) :
    (∃ record expiresAt, answerAfter platform history timed = .record (some record) ∧
        (storeAfter platform history).bootstraps.live? id timed.clock.check
          (hashToken platform token) = some expiresAt) ∨
      answerAfter platform history timed = .record none := by
  have hperforms := performs_perform platform (storeAfter platform history) timed
  unfold answerAfter
  rw [hcall] at hperforms
  generalize (timed.perform platform (storeAfter platform history)).1 = answer at hperforms ⊢
  generalize (timed.perform platform (storeAfter platform history)).2 = store at hperforms
  cases hperforms with
  | exchanged _ expiresAt hlive => exact .inl ⟨_, expiresAt, rfl, hlive⟩
  | refused _ hlive => exact .inr rfl

theorem answerAfter_hasSession {history : List TimedCall} {timed : TimedCall} {id : String}
    (hcall : timed.call = .hasSession id) : answerAfter platform history timed =
      .holds ((storeAfter platform history).sessions.live? StoredSession.expiresAt timed.clock.check
        (hashToken platform id)).isSome := by
  rw [answerAfter, TimedCall.perform, hcall]
  dsimp only [SessionStore.hasSession]
  rw [SessionStore.liveSession_fst]

theorem answerAfter_matchesCsrf {history : List TimedCall} {timed : TimedCall}
    {id csrfToken : String} (hcall : timed.call = .matchesCsrf id csrfToken) :
    answerAfter platform history timed =
      .holds (((storeAfter platform history).sessions.live? StoredSession.expiresAt
        timed.clock.check (hashToken platform id)).any fun session =>
          safeEqual session.csrfHash (hashToken platform csrfToken)) := by
  rw [answerAfter, TimedCall.perform, hcall]
  dsimp only [SessionStore.matchesCsrf]
  rw [SessionStore.liveSession_fst]

/-- A token that is spent stays spent: what was drawn and is not there never comes back. -/
theorem bootstraps_eq_none_of_append {before : List TimedCall} (later : List TimedCall) {n : ℕ}
    (hn : n < (storeAfter platform before).drawn)
    (hnone : (storeAfter platform before).bootstraps.get?
      (hashToken platform (platform.randomToken n)) = none) :
    n < (storeAfter platform (before ++ later)).drawn ∧
      (storeAfter platform (before ++ later)).bootstraps.get?
        (hashToken platform (platform.randomToken n)) = none := by
  induction later using List.reverseRecOn with
  | nil =>
      rw [List.append_nil]
      exact ⟨hn, hnone⟩
  | append_singleton later timed ih =>
      obtain ⟨hdrawn, hgone⟩ := ih
      rw [← List.append_assoc, storeAfter_concat]
      have hperforms := performs_perform platform (storeAfter platform (before ++ later)) timed
      refine ⟨hdrawn.trans_le hperforms.drawn_le, ?_⟩
      rw [Option.eq_none_iff_forall_not_mem]
      intro expiresAt hget
      have hback := hperforms.bootstraps_back hdrawn hget
      rw [hgone] at hback
      cases hback

/-- After an exchange its token is not there. -/
theorem bootstraps_exchanged {history : List TimedCall} {timed : TimedCall} {token : String}
    (hcall : timed.call = .exchangeBootstrap token) :
    (storeAfter platform (history ++ [timed])).bootstraps.get? (hashToken platform token) =
      none := by
  rw [storeAfter_concat]
  have hperforms := performs_perform platform (storeAfter platform history) timed
  rw [hcall] at hperforms
  generalize (timed.perform platform (storeAfter platform history)).1 = answer at hperforms
  generalize (timed.perform platform (storeAfter platform history)).2 = store at hperforms ⊢
  cases hperforms with
  | exchanged => rw [OrderedMap.get?_erase, if_pos rfl]
  | refused => rw [OrderedMap.get?_erase, if_pos rfl]

/-- Before a call the clock has not come further than its first reading. -/
theorem InOrder.reached {before after : List TimedCall} {timed : TimedCall}
    (h : InOrder (before ++ timed :: after)) :
    InOrder before ∧ ClockReached before timed.clock.check := by
  obtain ⟨hbefore, -, hcross⟩ := List.pairwise_append.1 h
  refine ⟨hbefore, fun earlier hearlier => ?_⟩
  exact (hcross earlier hearlier timed List.mem_cons_self).trans timed.clock.purge_le_check

/-- The store keeps the protocol over every history of calls. -/
theorem sessionProtocol {history : List TimedCall} (horder : InOrder history) :
    SessionProtocol platform history where
  once := by
    rintro before first middle second after token record rfl hfirst hsecond hanswer
    rcases answerAfter_exchangeBootstrap platform before hfirst with
      ⟨-, expiresAt, -, hlive⟩ | hnone
    · obtain ⟨n, hn, hkey⟩ := (drawn_storeAfter before).bootstraps _ _
        (OrderedMap.live?_eq_some.1 hlive).1
      obtain rfl : token = platform.randomToken n := hashToken_inj.1 hkey
      have hdrawn : n < (storeAfter platform (before ++ [first])).drawn := by
        rw [storeAfter_concat]
        exact hn.trans_le (performs_perform platform _ first).drawn_le
      have hspent := (bootstraps_eq_none_of_append middle hdrawn (bootstraps_exchanged hfirst)).2
      rw [List.append_assoc, List.singleton_append] at hspent
      rcases answerAfter_exchangeBootstrap platform (before ++ first :: middle) hsecond with ⟨-, expiresAt', -, hlive'⟩ | hnone
      · rw [(OrderedMap.live?_eq_some.1 hlive').1] at hspent
        cases hspent
      · exact hnone
    · rw [hanswer] at hnone
      cases hnone
  inTime := by
    rintro before timed after token record rfl hcall hanswer
    obtain ⟨hbefore, hreached⟩ := horder.reached
    rcases answerAfter_exchangeBootstrap platform before hcall with
      ⟨-, expiresAt, -, hlive⟩ | hnone
    · obtain ⟨hsince, htime⟩ := (bootstraps_live_iff hbefore hreached).1 hlive
      exact ⟨expiresAt, hsince.mono (fun _ _ h => h) fun _ _ h => .inr h, htime⟩
    · rw [hanswer] at hnone
      cases hnone
  hasSession := by
    rintro before timed after id rfl hcall
    obtain ⟨hbefore, hreached⟩ := horder.reached
    rw [answerAfter_hasSession hcall, liveSession_iff hbefore hreached, SessionAnswer.holds.injEq,
      Option.isSome_iff_exists]
  matchesCsrf := by
    rintro before timed after id csrfToken rfl hcall
    obtain ⟨hbefore, hreached⟩ := horder.reached
    rw [answerAfter_matchesCsrf hcall, liveSession_iff hbefore hreached, SessionAnswer.holds.injEq,
      Option.any_eq_true]
    constructor
    · rintro ⟨session, hlive, hequal⟩
      refine ⟨⟨session, hlive⟩, ?_⟩
      obtain ⟨latest, hhash, hlatest⟩ := csrfHash_eq (OrderedMap.live?_eq_some.1 hlive).1
      rw [safeEqual, beq_iff_eq, hhash, hashToken_inj] at hequal
      exact hequal ▸ hlatest
    · rintro ⟨⟨session, hlive⟩, hlatest⟩
      refine ⟨session, hlive, ?_⟩
      obtain ⟨latest, hhash, hlatest'⟩ := csrfHash_eq (OrderedMap.live?_eq_some.1 hlive).1
      rw [safeEqual, beq_iff_eq, hhash, hashToken_inj]
      exact hlatest'.unique hlatest

end RlyGateway
