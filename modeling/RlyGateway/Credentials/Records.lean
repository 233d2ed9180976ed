import RlyGateway.Core.Runtime
import RlyGateway.Library.OrderedMap

/-!
# Credential records

`src/credentials/record.ts` and the operations of `src/credentials/store.ts`, each taken as a whole:
a commit replaces the generation that it expects by the next one, and a purge removes the record.
-/

namespace RlyGateway

/-! ## Providers -/

/-- `CREDENTIAL_PROVIDERS`. -/
inductive CredentialProviderName where
  | codex
  | gemini
  | claude
  | cline
deriving DecidableEq, Repr

inductive ProviderImportMode where
  | none
  | explicitReadonly
  | optInInteroperability
deriving DecidableEq, Repr

/-- An entry of the provider catalog, as credentials read it. -/
structure CredentialContract where
  name : String
  credentialProvider : Option CredentialProviderName
  importMode : ProviderImportMode
deriving DecidableEq, Repr

def CREDENTIAL_CONTRACTS : List CredentialContract :=
  [⟨"openrouter", none, .none⟩, ⟨"deepseek", none, .none⟩,
    ⟨"codex", some .codex, .explicitReadonly⟩, ⟨"gemini", some .gemini, .explicitReadonly⟩,
    ⟨"antigravity", none, .none⟩, ⟨"cline", some .cline, .optInInteroperability⟩,
    ⟨"claude", some .claude, .explicitReadonly⟩, ⟨"opencode-go", none, .none⟩,
    ⟨"alibaba", none, .none⟩]

/-- `providerContract`. -/
def credentialContract (name : String) : Option CredentialContract :=
  CREDENTIAL_CONTRACTS.find? fun contract => contract.name = name

/-! ## Records -/

/-- What a provider answers with. -/
structure OAuthTokenSet where
  accessToken : String
  refreshToken : String
  expiresAt : Option String
  accountId : Option String
deriving DecidableEq, Repr

structure CredentialMaterial where
  accessToken : String
  refreshToken : String
  accountId : Option String
deriving DecidableEq, Repr

/-- A record of the current schema. -/
structure CredentialRecord where
  provider : CredentialProviderName
  handle : String
  pseudonym : String
  generation : ℕ
  expiresAt : Option String
  refreshFingerprint : String
  sourceFingerprint : Option String
  material : CredentialMaterial
deriving DecidableEq, Repr

/-- A record without its material. -/
structure CredentialMetadata where
  provider : CredentialProviderName
  handle : String
  pseudonym : String
  generation : ℕ
  expiresAt : Option String
  refreshFingerprint : String
  sourceFingerprint : Option String
deriving DecidableEq, Repr

def toCredentialMetadata (record : CredentialRecord) : CredentialMetadata where
  provider := record.provider
  handle := record.handle
  pseudonym := record.pseudonym
  generation := record.generation
  expiresAt := record.expiresAt
  refreshFingerprint := record.refreshFingerprint
  sourceFingerprint := record.sourceFingerprint

def tokenMaterial (tokens : OAuthTokenSet) : CredentialMaterial :=
  ⟨tokens.accessToken, tokens.refreshToken, tokens.accountId⟩

def fingerprintRefreshToken (runtime : NodeRuntime) (refreshToken : String) : String :=
  runtime.sha256Hex refreshToken

def initialCredentialRecord (runtime : NodeRuntime) (handle pseudonym : String)
    (tokens : OAuthTokenSet) (sourceFingerprint : Option String)
    (provider : CredentialProviderName) : CredentialRecord where
  provider
  handle
  pseudonym
  generation := 1
  expiresAt := tokens.expiresAt
  refreshFingerprint := fingerprintRefreshToken runtime tokens.refreshToken
  sourceFingerprint
  material := tokenMaterial tokens

def nextCredentialGeneration (runtime : NodeRuntime) (current : CredentialRecord)
    (tokens : OAuthTokenSet) : CredentialRecord :=
  { current with
    generation := current.generation + 1
    expiresAt := tokens.expiresAt
    refreshFingerprint := fingerprintRefreshToken runtime tokens.refreshToken
    material := tokenMaterial tokens }

/-! ## Errors -/

inductive CredentialError where
  | handleMismatch
  | staleGeneration
  | unready
  /-- An `OAuthFlowError`. -/
  | oauthFlow (code message : String)
  /-- The lock of the credential is held. -/
  | locked
  /-- A failure of the file system. -/
  | fileSystem
deriving DecidableEq, Repr

/-- The provider no longer takes the refresh token. -/
def CredentialError.isInvalidGrant : CredentialError → Bool
  | .oauthFlow code _ => code == "invalid-grant"
  | _ => false

/-! ## The store -/

/-- The stored records by their handles. -/
abbrev CredentialRecords := OrderedMap String CredentialRecord

namespace CredentialRecords

def read (handle : String) (records : CredentialRecords) : Except CredentialError CredentialRecord :=
  match records.get? handle with
  | some record => .ok record
  | none => .error .unready

def metadata (handle : String) (records : CredentialRecords) : Option CredentialMetadata :=
  (records.get? handle).map toCredentialMetadata

/-- The generation that is stored, with `0` for none. -/
def generation (handle : String) (records : CredentialRecords) : ℕ :=
  (records.get? handle).elim 0 (·.generation)

def commit (handle : String) (expectedGeneration : ℕ) (next : CredentialRecord)
    (records : CredentialRecords) : Except CredentialError CredentialRecords :=
  if next.handle ≠ handle then .error .handleMismatch
  else if next.generation ≠ expectedGeneration + 1 then .error .staleGeneration
  else
    match records.get? handle with
    | some current =>
        if current.generation ≠ expectedGeneration then .error .staleGeneration
        else .ok (records.set handle next)
    | none =>
        if expectedGeneration ≠ 0 then .error .staleGeneration
        else .ok (records.set handle next)

def purge (handle : String) (records : CredentialRecords) : CredentialRecords :=
  records.erase handle

variable {handle : String} {expectedGeneration : ℕ} {next : CredentialRecord}
  {records records' : CredentialRecords}

/-- A commit writes the generation after the one that is stored. -/
theorem commit_eq_ok (h : records.commit handle expectedGeneration next = .ok records') :
    next.handle = handle ∧ next.generation = expectedGeneration + 1 ∧
      records.generation handle = expectedGeneration ∧ records' = records.set handle next := by
  unfold commit at h
  unfold generation
  split at h
  · cases h
  · rename_i hhandle
    split at h
    · cases h
    · rename_i hgeneration
      split at h
      · rename_i current hcurrent
        split at h
        · cases h
        · rename_i hexpected
          cases h
          rw [hcurrent]
          exact ⟨not_not.1 hhandle, not_not.1 hgeneration, not_not.1 hexpected, rfl⟩
      · rename_i hnone
        split at h
        · cases h
        · rename_i hexpected
          cases h
          rw [hnone]
          exact ⟨not_not.1 hhandle, not_not.1 hgeneration, (not_not.1 hexpected).symm, rfl⟩

end CredentialRecords

end RlyGateway
