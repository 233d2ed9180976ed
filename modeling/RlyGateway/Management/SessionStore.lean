import RlyGateway.Core.Runtime
import RlyGateway.Library.Expiring
import RlyGateway.Library.Runs

/-!
# Management sessions

`src/management/session-store.ts`: bootstrap tokens, the sessions they are exchanged for, and their
CSRF tokens. Both maps are keyed by the digests of tokens, and purged by most calls. A call reads the
clock up to three times.
-/

namespace RlyGateway

/-- What the sessions take from the platform: random tokens of which no two are equal, and digests
of which no two are equal either. -/
structure ManagementPlatform where
  runtime : NodeRuntime
  hashToken_injective : Function.Injective runtime.sha256Hex
  randomToken : ℕ → String
  randomToken_injective : Function.Injective randomToken

/-- A platform that counts its tokens. -/
def countingManagementPlatform : ManagementPlatform where
  runtime := isoRuntime
  hashToken_injective _ _ h := h
  randomToken n := String.ofList (List.replicate (n + 1) 't')
  randomToken_injective n m h := by
    have hlength := congrArg List.length (String.ofList_injective h)
    rw [List.length_replicate, List.length_replicate] at hlength
    omega

def BOOTSTRAP_TTL_MS : ℤ := 60000

def SESSION_TTL_MS : ℤ := 30 * 60000

/-- What a session is answered as. -/
structure SessionRecord where
  id : String
  csrfToken : String
  expiresAt : ℤ
deriving DecidableEq, Repr

structure StoredSession where
  expiresAt : ℤ
  csrfHash : String
deriving DecidableEq, Repr

/-- The store, and how many random tokens have been drawn. -/
structure SessionStore where
  bootstraps : OrderedMap String ℤ
  sessions : OrderedMap String StoredSession
  drawn : ℕ

/-- What the clock says when a call purges, when it checks an expiry and when it sets one. -/
structure ClockReadings where
  purge : ℤ
  check : ℤ
  stamp : ℤ
  purge_le_check : purge ≤ check
  check_le_stamp : check ≤ stamp

/-- A clock that stands still during a call. -/
def ClockReadings.still (now : ℤ) : ClockReadings := ⟨now, now, now, le_rfl, le_rfl⟩

def safeEqual (left right : String) : Bool := left == right

namespace SessionStore

variable (platform : ManagementPlatform) (clock : ClockReadings)

def empty : SessionStore := ⟨.empty, .empty, 0⟩

def hashToken (token : String) : String := platform.runtime.sha256Hex token

def purge (now : ℤ) (store : SessionStore) : SessionStore where
  bootstraps := store.bootstraps.purge id now
  sessions := store.sessions.purge StoredSession.expiresAt now
  drawn := store.drawn

/-- A fresh bootstrap token and its expiry. -/
def issueBootstrap (store : SessionStore) : (String × ℤ) × SessionStore :=
  let store := store.purge clock.purge
  let token := platform.randomToken store.drawn
  let expiresAt := clock.stamp + BOOTSTRAP_TTL_MS
  ((token, expiresAt), { store with
    bootstraps := store.bootstraps.set (hashToken platform token) expiresAt
    drawn := store.drawn + 1 })

def exchangeBootstrap (token : String) (store : SessionStore) :
    Option SessionRecord × SessionStore :=
  let store := store.purge clock.purge
  let hashed := hashToken platform token
  let found := store.bootstraps.get? hashed
  let store := { store with bootstraps := store.bootstraps.erase hashed }
  match found with
  | none => (none, store)
  | some expiresAt =>
      if expiresAt ≤ clock.check then (none, store)
      else
        let id := platform.randomToken store.drawn
        let csrfToken := platform.randomToken (store.drawn + 1)
        let sessionExpires := clock.stamp + SESSION_TTL_MS
        (some ⟨id, csrfToken, sessionExpires⟩, { store with
          sessions := store.sessions.set (hashToken platform id)
            ⟨sessionExpires, hashToken platform csrfToken⟩
          drawn := store.drawn + 2 })

def liveSession (id : String) (store : SessionStore) : Option StoredSession × SessionStore :=
  let store := store.purge clock.purge
  match store.sessions.get? (hashToken platform id) with
  | none => (none, store)
  | some session => (if session.expiresAt > clock.check then some session else none, store)

def hasSession (id : String) (store : SessionStore) : Bool × SessionStore :=
  let (session, store) := store.liveSession platform clock id
  (session.isSome, store)

def matchesCsrf (id csrfToken : String) (store : SessionStore) : Bool × SessionStore :=
  let (session, store) := store.liveSession platform clock id
  (session.any fun session => safeEqual session.csrfHash (hashToken platform csrfToken), store)

def rotateCsrf (id : String) (store : SessionStore) : Option SessionRecord × SessionStore :=
  let (session, store) := store.liveSession platform clock id
  match session with
  | none => (none, store)
  | some session =>
      let csrfToken := platform.randomToken store.drawn
      (some ⟨id, csrfToken, session.expiresAt⟩, { store with
        sessions := store.sessions.set (hashToken platform id)
          ⟨session.expiresAt, hashToken platform csrfToken⟩
        drawn := store.drawn + 1 })

def revoke (id : String) (store : SessionStore) : SessionStore :=
  { store with sessions := store.sessions.erase (hashToken platform id) }

def revokeAll (store : SessionStore) : SessionStore :=
  { store with bootstraps := .empty, sessions := .empty }

end SessionStore

/-! ## Calls -/

inductive SessionCall where
  | issueBootstrap
  | exchangeBootstrap (token : String)
  | hasSession (id : String)
  | matchesCsrf (id csrfToken : String)
  | rotateCsrf (id : String)
  | revoke (id : String)
  | revokeAll
deriving DecidableEq, Repr

/-- A call and what it reads of the clock. -/
structure TimedCall where
  call : SessionCall
  clock : ClockReadings

inductive SessionAnswer where
  | bootstrap (token : String) (expiresAt : ℤ)
  | record (record : Option SessionRecord)
  | holds (answer : Bool)
  | done
deriving DecidableEq, Repr

/-- What a call answers, and the store after it. -/
def TimedCall.perform (platform : ManagementPlatform) (store : SessionStore) (timed : TimedCall) :
    SessionAnswer × SessionStore :=
  match timed.call with
  | .issueBootstrap =>
      let (issued, store) := store.issueBootstrap platform timed.clock
      (.bootstrap issued.1 issued.2, store)
  | .exchangeBootstrap token =>
      let (record, store) := store.exchangeBootstrap platform timed.clock token
      (.record record, store)
  | .hasSession id =>
      let (answer, store) := store.hasSession platform timed.clock id
      (.holds answer, store)
  | .matchesCsrf id csrfToken =>
      let (answer, store) := store.matchesCsrf platform timed.clock id csrfToken
      (.holds answer, store)
  | .rotateCsrf id =>
      let (record, store) := store.rotateCsrf platform timed.clock id
      (.record record, store)
  | .revoke id => (.done, store.revoke platform id)
  | .revokeAll => (.done, store.revokeAll)

/-- The calls are made one after the other, by a clock that does not go back. -/
def InOrder (history : List TimedCall) : Prop :=
  history.Pairwise fun earlier later => earlier.clock.stamp ≤ later.clock.purge

section History

variable (platform : ManagementPlatform) (history : List TimedCall)

/-- The store after the calls made so far. -/
def storeAfter : SessionStore :=
  history.foldl (fun store timed => (timed.perform platform store).2) .empty

/-- What the next call answers. -/
def answerAfter (timed : TimedCall) : SessionAnswer :=
  (timed.perform platform (storeAfter platform history)).1

end History

end RlyGateway
