import RlyGateway.Library.Schema
import RlyGateway.Providers.Dispatch
import RlyGateway.Providers.Redaction
import RlyGateway.Registry.CatalogProposal

/-!
# Catalog discovery

`OpenRouterCatalogSource` of `src/providers/catalog-discovery.ts`. A failed request is reported with
the redacted beginning of its body. Where a credential stands in the body, it is hidden behind its
name and a separator, if no match that begins earlier ends in between; it is never hidden as the
member of a JSON object or behind the word Bearer, as values may hold units that no token has.
-/

namespace RlyGateway

/-! ## The source -/

structure CatalogDiscoveryError where
  code : String
  message : List ℕ
deriving DecidableEq, Repr

/-- What a discovery throws. -/
inductive CatalogThrown where
  | discovery (failure : CatalogDiscoveryError)
  | other (failure : Thrown)
deriving DecidableEq, Repr

structure CatalogRequest where
  url : String
  headers : List (String × String)
deriving DecidableEq, Repr

/-- A response, with its text and its JSON where they can be read. -/
structure CatalogResponse where
  status : ℕ
  text : Option (List ℕ)
  json : Option Json
deriving DecidableEq, Repr

/-- `response.ok` -/
def CatalogResponse.ok (response : CatalogResponse) : Bool :=
  200 ≤ response.status && response.status ≤ 299

structure OpenRouterCatalogSource where
  request : CatalogRequest → Except Thrown CatalogResponse
  environment : String → Option String
  credentialRef : Option CredentialRef
  endpoint : String

/-- The constructor, with the endpoint that is given or its own. -/
def OpenRouterCatalogSource.create (request : CatalogRequest → Except Thrown CatalogResponse)
    (environment : String → Option String) (credentialRef : Option CredentialRef)
    (endpoint : Option String) : OpenRouterCatalogSource where
  request := request
  environment := environment
  credentialRef := credentialRef
  endpoint := withoutTrailingSlash (endpoint.getD "https://openrouter.ai/api/v1")

/-- `ERROR_BODY_LIMIT` -/
def errorBodyLimit : ℕ := 200

def parseCatalogStatus (status : ℕ) : String :=
  if status = 401 ∨ status = 403 then "authentication_error"
  else if status = 429 then "rate_limit_error"
  else "api_error"

def openRouterFamily (id : String) : Option String :=
  let family := id.toList.takeWhile (· ≠ '/')
  if family.length = id.toList.length ∨ family = [] then none else some (String.ofList family)

/-- An entry of the catalog, with what it declares. -/
def normalizeOpenRouterModel (entry : Json) : Except CatalogDiscoveryError DiscoveryCandidate := do
  let some id := (entry.strField? "id").filter (· ≠ "")
    | throw ⟨"invalid-response", utf16Units "catalog entry missing model id"⟩
  let contextWindow := (entry.numField? "context_length").filter fun n => n.den = 1 ∧ 0 < n
  let parameters := (((entry.field? "supported_parameters").bind Json.arr?).getD []).filterMap
    Json.str?
  let declared : DeclaredMetadata :=
    { tools := if "tools" ∈ parameters then some true else none
      reasoning := if "reasoning" ∈ parameters then some true else none
      contextWindow := contextWindow.map fun n => n.num.toNat
      maxOutput := none }
  return {
    accessProviderId := "openrouter"
    upstreamModelId := id
    modelFamily := openRouterFamily id
    observedLimits := none
    declared := if declared = ⟨none, none, none, none⟩ then none else some declared }

/-- The schema of an entry; it keeps what is read of it. -/
def catalogEntry (value : Json) : Option Json := do
  let _ ← value.obj?
  let _ ← value.required "id" Json.nonEmptyString
  let _ ← value.optional "context_length" Json.positiveInteger
  let _ ← value.optional "supported_parameters" (Json.items Json.str?)
  return value

/-- `openRouterCatalogSchema`, with the entries. -/
def openRouterCatalogSchema (value : Json) : Option (List Json) := do
  let _ ← value.obj?
  value.required "data" (Json.items catalogEntry)

/-- The message of a failed request. -/
def failedRequestMessage (status : ℕ) (body : List ℕ) : List ℕ :=
  let detail := redactUpstreamError (body.take errorBodyLimit)
  utf16Units ("catalog request failed (" ++ toString status ++ ")") ++
    if detail = [] then [] else utf16Units ": " ++ detail

/-- What is made of a response. -/
def readCatalog (now : String) (response : CatalogResponse) :
    Except CatalogDiscoveryError DiscoverySnapshot := do
  if ¬ response.ok then
    throw ⟨parseCatalogStatus response.status,
      failedRequestMessage response.status (response.text.getD [])⟩
  let some payload := response.json
    | throw ⟨"invalid-response", utf16Units "catalog response was not JSON"⟩
  let some entries := openRouterCatalogSchema payload
    | throw ⟨"invalid-response",
        utf16Units "catalog response did not match the OpenRouter /models shape"⟩
  let models ← entries.mapM normalizeOpenRouterModel
  return ⟨"openrouter-api-v1", now, none, models⟩

/-- The credential of a source is looked up before the request, and what the request throws is kept
unless it has timed out. -/
def OpenRouterCatalogSource.discover (source : OpenRouterCatalogSource) (timedOut aborted : Bool)
    (now : String) : Except CatalogThrown DiscoverySnapshot := do
  let secret ← match source.credentialRef with
    | none => Except.ok none
    | some ref => ((resolveEnvironmentCredential ⟨ref, source.environment, none, false⟩).map
        some).mapError .other
  let headers := ("accept", "application/json") ::
    (secret.map fun secret => ("authorization", "Bearer " ++ secret)).toList
  let attempt : Except CatalogThrown DiscoverySnapshot := do
    let response ← (source.request ⟨source.endpoint ++ "/models", headers⟩).mapError .other
    (readCatalog now response).mapError .discovery
  match attempt with
  | .ok snapshot => .ok snapshot
  | .error failure =>
      if timedOut ∧ ¬ aborted then
        .error (.discovery ⟨"api_error", utf16Units "catalog discovery timed out"⟩)
      else .error failure

/-! ## Credentials in a text -/

/-- The name of a credential, in any case. -/
structure CredentialName where
  units : List ℕ
  named : units.map lowerUnit ∈ credentialKeys

/-- Spaces between the parts of a text. -/
structure Gap where
  units : List ℕ
  spaces : ∀ unit ∈ units, isSpaceUnit unit = true

/-- How a credential is written before its value. -/
inductive CredentialLead where
  | pair (key : CredentialName) (gap : Gap) (separator : ℕ)
      (separates : isSeparatorUnit separator = true) (gap' : Gap)
  | member (key : CredentialName) (gap gap' : Gap)
  | bearer (word : List ℕ) (isWord : word.map lowerUnit = utf16Units "bearer") (gap : Gap)
      (nonempty : gap.units ≠ [])

def CredentialLead.units : CredentialLead → List ℕ
  | .pair key gap separator _ gap' => key.units ++ (gap.units ++ separator :: gap'.units)
  | .member key gap gap' => 34 :: (key.units ++ 34 :: (gap.units ++ 58 :: (gap'.units ++ [34])))
  | .bearer word _ gap _ => word ++ gap.units

/-- A text with a credential, whose value is left out. -/
structure CredentialSpot where
  before : List ℕ
  lead : CredentialLead
  length : ℕ
  after : List ℕ
  delimited : Delimited after

namespace CredentialSpot

variable (spot : CredentialSpot)

/-- The text with a value in the place of the credential. -/
def text (value : List ℕ) : List ℕ := spot.before ++ spot.lead.units ++ (value ++ spot.after)

/-- What is made of a text does not tell the value. -/
def Hides {β : Type} (f : List ℕ → β) : Prop :=
  ∀ value value', IsValue spot.length value → IsValue spot.length value' →
    f (spot.text value) = f (spot.text value')

/-- A pair is written so that it is redacted: no token that begins earlier reaches into it; no pair
that begins earlier ends before its value; and the value is too short to end in the word Bearer, or
nothing follows that this would make a token. -/
def Redacted : Prop :=
  spot.length = 0 ∨
    match spot.lead with
    | .pair _ _ _ _ _ =>
        let named := spot.lead.units
        let marked := named ++ List.replicate spot.length 33
        let front := (bearerMatch.scan named 0 spot.before).1
        bearerMatch.overlap spot.before named = 0 ∧
          (credentialPair.overlap front marked = 0 ∨
            named.length < credentialPair.overlap front marked) ∧
          (spot.length < 6 ∨ bearerTail spot.after = none)
    | _ => False

/-- The beginning of the text. -/
def cut (limit : ℕ) : CredentialSpot :=
  let room := limit - (spot.before ++ spot.lead.units).length
  { spot with
    length := min spot.length room
    after := spot.after.take (room - spot.length)
    delimited := by
      have h := spot.delimited
      unfold Delimited at h ⊢
      cases hafter : spot.after with
      | nil => simp
      | cons unit after =>
          rw [hafter] at h
          cases room - spot.length with
          | zero => simp
          | succ room =>
              rw [List.take_succ_cons]
              exact delimited_cons (isValueUnit_of_delimited h) _ }

end CredentialSpot

/-! ## What stands before a value -/

theorem CredentialName.isKeyUnit (key : CredentialName) :
    ∀ unit ∈ key.units, isKeyUnit unit = true := forall_isKeyUnit key.named

theorem Gap.isKeyUnit (gap : Gap) : ∀ unit ∈ gap.units, isKeyUnit unit = false :=
  fun unit hunit => isKeyUnit_of_isSpaceUnit (gap.spaces unit hunit)

theorem isKeyUnit_of_isSeparatorUnit {unit : ℕ} (h : isSeparatorUnit unit = true) :
    isKeyUnit unit = false := by
  cases hkey : isKeyUnit unit with
  | false => rfl
  | true =>
      rw [isSeparatorUnit_of_isKeyUnit hkey] at h
      cases h

theorem lowerUnit_ne_of_isKeyUnit {unit : ℕ} (h : isKeyUnit unit = false) : lowerUnit unit ≠ 98 := by
  intro heq
  rw [isKeyUnit_of_lowerUnit (by rw [heq]; decide)] at h
  cases h

/-- No name has the first letter of the other word. -/
theorem CredentialName.lowerUnit_ne (key : CredentialName) :
    ∀ unit ∈ key.units, lowerUnit unit ≠ 98 := by
  have hnames : ∀ key ∈ credentialKeys, 98 ∉ key := by decide
  intro unit hunit heq
  exact hnames _ key.named (heq ▸ List.mem_map_of_mem hunit)

theorem isLetterUnit_of_isSpaceUnit {unit : ℕ} (h : isSpaceUnit unit = true) :
    isLetterUnit unit = false := by
  have hkey := isKeyUnit_of_isSpaceUnit h
  simp only [RlyGateway.isKeyUnit, Bool.or_eq_false_iff] at hkey
  exact hkey.1

theorem endsWord_append (front : List ℕ) {last : ℕ} (h : isLetterUnit last = false) :
    EndsWord (front ++ [last]) := ⟨front, last, rfl, h⟩

theorem EndsWord.append {text : List ℕ} (h : EndsWord text) (front : List ℕ) :
    EndsWord (front ++ text) := by
  obtain ⟨start, last, rfl, hlast⟩ := h
  exact ⟨front ++ start, last, (List.append_assoc ..).symm, hlast⟩

theorem Gap.endsWord (gap : Gap) (h : gap.units ≠ []) : EndsWord gap.units :=
  ⟨gap.units.dropLast, gap.units.getLast h, (List.dropLast_append_getLast h).symm,
    isLetterUnit_of_isSpaceUnit (gap.spaces _ (List.getLast_mem h))⟩

theorem CredentialLead.endsWord (lead : CredentialLead) : EndsWord lead.units := by
  cases lead with
  | pair key gap separator separates gap' =>
      refine EndsWord.append (EndsWord.append ?_ _) _
      by_cases hgap : gap'.units = []
      · rw [hgap]
        have hkey := isKeyUnit_of_isSeparatorUnit separates
        simp only [RlyGateway.isKeyUnit, Bool.or_eq_false_iff] at hkey
        exact endsWord_append [] hkey.1
      · exact (gap'.endsWord hgap).append [separator]
  | member key gap gap' =>
      have hquote : EndsWord [34] := endsWord_append [] (by decide)
      have hends := (hquote.append (gap.units ++ 58 :: gap'.units)).append (34 :: key.units ++ [34])
      simpa [CredentialLead.units] using hends
  | bearer word isWord gap nonempty => exact (gap.endsWord nonempty).append word

/-! ## Tokens and pairs that begin before the name -/

/-- A token that reaches into a word without its first letter covers it. -/
theorem le_bearerMatch {item : ℕ} {tail word rest replacement : List ℕ} {more : ℕ}
    (hword : ∀ unit ∈ word, isKeyUnit unit = true) (hfive : 5 ≤ word.length)
    (hshort : ∀ count < 6, 0 < count →
      (word.map lowerUnit).take count = (utf16Units "bearer").drop (6 - count) → count < word.length)
    (h : bearerMatch (item :: (tail ++ (word ++ rest))) = some (replacement, more))
    (hmore : tail.length < more) : tail.length + word.length ≤ more := by
  obtain ⟨length, hfound, hlength, -, rfl⟩ := bearerMatch_eq_some h
  rw [← List.cons_append] at hfound hlength
  have hspaces : ∀ unit ∈ word, isSpaceUnit unit = false := fun unit hunit =>
    isSpaceUnit_of_isBearerUnit unit (isBearerUnit_of_isKeyUnit (hword unit hunit))
  by_cases hsix : 6 ≤ (item :: tail).length
  · rw [List.drop_append_of_le_length hsix] at hlength
    have hdrop : ((item :: tail).drop 6).length = tail.length - 5 := by
      rw [List.length_drop, List.length_cons]
      omega
    rw [List.length_cons] at hsix
    cases hbehind : (item :: tail).drop 6 with
    | nil =>
        rw [hbehind] at hlength hdrop
        cases word with
        | nil => simpa using hmore.le
        | cons unit word =>
            rw [List.nil_append, List.cons_append, bearerTail,
              hspaces unit (List.mem_cons_self ..)] at hlength
            cases hlength
    | cons space behind =>
        rw [hbehind, List.cons_append, bearerTail] at hlength
        rw [hbehind, List.length_cons] at hdrop
        split at hlength
        · obtain ⟨inner, hinner, rfl⟩ := Option.map_eq_some_iff.1 hlength
          have hcovers := le_spacedRun
            (fun unit hunit => isBearerUnit_of_isKeyUnit (hword unit hunit))
            isSpaceUnit_of_isBearerUnit hinner (by omega)
          omega
        · cases hlength
  · -- the word Bearer would end in the other one
    obtain ⟨count, hcount⟩ := Nat.exists_eq_add_of_lt (Nat.lt_of_not_le hsix)
    have hcount' : (item :: tail).length + (count + 1) = 6 := by omega
    have hitem : 0 < (item :: tail).length := by simp
    have htake : ((item :: tail ++ (word ++ rest)).take 6).map lowerUnit =
        (item :: tail).map lowerUnit ++ (word.map lowerUnit).take (count + 1) := by
      rw [← hcount', List.take_length_add_append, List.take_append_of_le_length (by omega),
        List.map_append, List.map_take]
    have hends : (word.map lowerUnit).take (count + 1) =
        (utf16Units "bearer").drop (6 - (count + 1)) := by
      rw [← hfound, htake, show 6 - (count + 1) = ((item :: tail).map lowerUnit).length by
        rw [List.length_map]; omega, List.drop_left]
    have hlong := hshort (count + 1) (by omega) (Nat.succ_pos count) hends
    rw [← hcount', List.drop_length_add_append, List.drop_append_of_le_length hlong.le] at hlength
    cases hrest : word.drop (count + 1) with
    | nil =>
        rw [List.drop_eq_nil_iff] at hrest
        omega
    | cons unit behind =>
        have hunit : unit ∈ word := List.mem_of_mem_drop (hrest ▸ List.mem_cons_self ..)
        rw [hrest, List.cons_append, bearerTail, hspaces unit hunit] at hlength
        cases hlength

/-- A word that a token reaches into stands for itself, or what is left behind the token does. -/
theorem replaceAll_bearerMatch_named {before word gap : List ℕ}
    (hword : ∀ unit ∈ word, isKeyUnit unit = true) (hfive : 5 ≤ word.length)
    (hshort : ∀ count < 6, 0 < count →
      (word.map lowerUnit).take count = (utf16Units "bearer").drop (6 - count) → count < word.length)
    (hgap : ∀ unit ∈ gap, isKeyUnit unit = false)
    (hreaches : 0 < bearerMatch.overlap before (word ++ gap)) :
    ∃ written token left, token.map lowerUnit = utf16Units "bearer" ∧
      (∀ unit ∈ left, isKeyUnit unit = false) ∧
      bearerMatch.replaceAll (before ++ (word ++ gap)) =
        written ++ (token ++ utf16Units " [REDACTED]" ++ left) := by
  obtain ⟨written, item, tail, replacement, more, -, hfound, hcovered, hwritten⟩ :=
    MatchPattern.exists_of_overlap hreaches
  have hcovers := le_bearerMatch hword hfive hshort hfound (by omega)
  obtain ⟨length, htoken, -, rfl, -⟩ := bearerMatch_eq_some hfound
  have hleft : ∀ unit ∈ gap.drop (bearerMatch.overlap before (word ++ gap) - word.length),
      isKeyUnit unit = false := fun unit hunit => hgap unit (List.mem_of_mem_drop hunit)
  refine ⟨written, _, _, htoken, hleft, ?_⟩
  rw [MatchPattern.replaceAll_append, hwritten, List.drop_append, List.drop_of_length_le (by omega),
    List.nil_append, List.append_assoc]
  have hkept := MatchPattern.replaceAll_append_of_none (p := bearerMatch) [] (fun item tail hsuffix =>
    bearerMatch_cons (lowerUnit_ne_of_isKeyUnit (hleft item (hsuffix.mem (List.mem_cons_self ..)))) _)
  rw [List.append_nil] at hkept
  rw [hkept, show bearerMatch.replaceAll [] = [] from rfl, List.append_nil]

/-- Nothing is open behind the quote of a member. -/
theorem not_openPair_member (before : List ℕ) (key : CredentialName) (gap gap' : Gap)
    (length : ℕ) : ¬ OpenPair (before ++ (CredentialLead.member key gap gap').units) length := by
  have hsplit : before ++ (CredentialLead.member key gap gap').units =
      (before ++ 34 :: (key.units ++ 34 :: (gap.units ++ 58 :: gap'.units))) ++ [34] := by
    simp [CredentialLead.units]
  have hquote : bearerMatch.Bars 34 := bearerMatch_bars (by decide) (by decide)
  have hreplaced := MatchPattern.replaceAll_bar bearerMatch_bounded hquote
    (before ++ 34 :: (key.units ++ 34 :: (gap.units ++ 58 :: gap'.units))) []
  rw [OpenPair, hsplit, hreplaced, show bearerMatch.replaceAll [] = [] from rfl,
    MatchPattern.overlap_append_bar credentialPair_bounded
      (credentialPair_bars (by decide) (by decide) (by decide))]
  exact lt_irrefl 0

/-- Nothing is open behind the word Bearer. -/
theorem not_openPair_bearer {word : List ℕ} (before : List ℕ)
    (hword : word.map lowerUnit = utf16Units "bearer") (gap : Gap) (hgap : gap.units ≠ [])
    (length : ℕ) : ¬ OpenPair (before ++ (word ++ gap.units)) length := by
  have hnone := bearerTail_of_spaces gap.spaces
  have hletters : ∀ unit ∈ word, isKeyUnit unit = true := by
    intro unit hunit
    have hletter := isLetterUnit_of_lowerUnit (hword ▸ List.mem_map_of_mem hunit)
    simp [isKeyUnit, hletter]
  have hlength : word.length = 6 := by
    have hlengths := congrArg List.length hword
    rw [List.length_map] at hlengths
    exact hlengths.trans (by decide)
  -- the word has no border: no beginning of it is also its end
  have hshort : ∀ count < 6, 0 < count →
      (word.map lowerUnit).take count = (utf16Units "bearer").drop (6 - count) →
        count < word.length := by
    rw [hword, hlength]
    decide
  rw [OpenPair]
  obtain hzero | hreaches := Nat.eq_zero_or_pos (bearerMatch.overlap before (word ++ gap.units))
  · have hkept := replaceAll_bearerMatch_word [] hword
      (fun unit hunit => lowerUnit_ne_of_isSpaceUnit (gap.spaces unit hunit))
      (by rwa [List.append_nil])
    rw [List.append_nil, show bearerMatch.replaceAll [] = [] from rfl, List.append_nil] at hkept
    rw [MatchPattern.replaceAll_append_of_overlap hzero, hkept,
      overlap_credentialPair_word _ _ hword hgap gap.spaces]
    exact lt_irrefl 0
  · obtain ⟨written, token, left, htoken, hleft, hreplaced⟩ := replaceAll_bearerMatch_named hletters
      (by omega) hshort gap.isKeyUnit hreaches
    rw [hreplaced, overlap_credentialPair_redacted written left _ htoken hleft]
    exact lt_irrefl 0

/-! ## Pairs -/

theorem pairTail_spaces {spaces : List ℕ} (h : ∀ unit ∈ spaces, isSpaceUnit unit = true)
    (rest : List ℕ) : pairTail (spaces ++ rest) = (pairTail rest).map (· + spaces.length) := by
  induction spaces with
  | nil => simp
  | cons unit spaces ih =>
      obtain ⟨hunit, hspaces⟩ := List.forall_mem_cons.1 h
      rw [List.cons_append, pairTail, if_pos hunit, ih hspaces, Option.map_map]
      rfl

theorem Gap.exists_cons (gap : Gap) {separator : ℕ} (h : isSeparatorUnit separator = true)
    (rest : List ℕ) : ∃ unit behind, gap.units ++ separator :: rest = unit :: behind ∧
      RlyGateway.isKeyUnit unit = false := by
  cases hgap : gap.units with
  | nil => exact ⟨separator, rest, rfl, isKeyUnit_of_isSeparatorUnit h⟩
  | cons unit spaces =>
      exact ⟨unit, _, rfl, gap.isKeyUnit unit (hgap ▸ List.mem_cons_self ..)⟩

theorem isKeyUnit_of_mem_gaps (gap gap' : Gap) {separator : ℕ}
    (h : isSeparatorUnit separator = true) :
    ∀ unit ∈ gap.units ++ separator :: gap'.units, isKeyUnit unit = false := by
  intro unit hunit
  obtain hunit | hunit := List.mem_append.1 hunit
  · exact gap.isKeyUnit unit hunit
  · obtain rfl | hunit := List.mem_cons.1 hunit
    · exact isKeyUnit_of_isSeparatorUnit h
    · exact gap'.isKeyUnit unit hunit

/-- A pair is found with its whole value. -/
theorem credentialPair_named {key value : List ℕ} {separator length : ℕ} (gap gap' : Gap)
    (hkey : key.map lowerUnit ∈ credentialKeys) (hseparator : isSeparatorUnit separator = true)
    (hvalue : IsValue length value) (hlength : 0 < length) :
    credentialPair (key ++ (gap.units ++ separator :: gap'.units) ++ value) =
      some (key ++ utf16Units "=[REDACTED]",
        (key ++ (gap.units ++ separator :: gap'.units)).length + length - 1) := by
  have hne : value ≠ [] := by
    rintro rfl
    exact hlength.ne hvalue.length_eq
  obtain ⟨unit, behind, hrest, hunit⟩ := gap.exists_cons hseparator (gap'.units ++ value)
  have hsplit : key ++ (gap.units ++ separator :: gap'.units) ++ value =
      key ++ (gap.units ++ separator :: (gap'.units ++ value)) := by simp
  have hname : credentialKey? (key ++ (gap.units ++ separator :: (gap'.units ++ value))) =
      some key.length := by
    rw [hrest, credentialKey?_bar hunit, credentialKey?_key hkey]
  have hspace : isSpaceUnit separator = false := by
    simp only [isSeparatorUnit, decide_eq_true_eq] at hseparator
    simp only [isSpaceUnit, decide_eq_false_iff_not]
    omega
  have hrun := spacedRun_run hvalue.units isSpaceUnit_of_isValueUnit hne delimited_nil
  rw [List.append_nil] at hrun
  have htail : pairTail (gap.units ++ separator :: (gap'.units ++ value)) =
      some (value.length + gap'.units.length + 1 + gap.units.length) := by
    rw [pairTail_spaces gap.spaces, pairTail, hspace, hseparator,
      spacedRun_spaces gap'.spaces, hrun]
    rfl
  rw [hsplit, credentialPair, hname, Option.bind_some, List.drop_left, List.take_left, htail,
    Option.map_some, hvalue.length_eq]
  simp only [List.length_append, List.length_cons]
  congr 2
  omega

/-- A pair that reaches into a name covers it. -/
theorem le_credentialPair_named {item separator more : ℕ} {tail key rest replacement : List ℕ}
    (hkey : ∀ unit ∈ key, isKeyUnit unit = true) (hseparator : isKeyUnit separator = false)
    (h : credentialPair (item :: (tail ++ (key ++ separator :: rest))) = some (replacement, more))
    (hmore : tail.length < more) : tail.length + key.length ≤ more := by
  obtain ⟨count, length, hname, htail, -, hcount⟩ := credentialPair_eq_some h
  rw [← List.cons_append] at hname htail h
  have hname' : credentialKey? (item :: tail ++ key) = some count := by
    rw [← credentialKey?_bar hseparator (item :: tail ++ key) rest, List.append_assoc]
    exact hname
  have hbound := (credentialKey?_le hname').2
  have hpositive := (pairTail_le htail).1
  obtain hshort | hlong := le_or_gt count (item :: tail).length
  · have hcovers := le_credentialPair (fun unit hunit => isValueUnit_of_isKeyUnit (hkey unit hunit))
      (fun unit hunit => isSeparatorUnit_of_isKeyUnit (hkey unit hunit)) hname hshort h
      (by rw [List.length_cons]; omega)
    rw [List.length_cons] at hcovers
    omega
  · -- the name goes on into this one, and ends with it
    obtain ⟨inside, rfl⟩ := Nat.exists_eq_add_of_lt hlong
    rw [List.length_append] at hbound
    rw [show (item :: tail).length + inside + 1 = (item :: tail).length + (inside + 1) by omega,
      List.drop_length_add_append, List.drop_append_of_le_length (by omega)] at htail
    cases hrest : key.drop (inside + 1) with
    | nil =>
        rw [List.drop_eq_nil_iff] at hrest
        rw [List.length_cons] at hcount
        omega
    | cons unit behind =>
        have hunit := hkey unit (List.mem_of_mem_drop (hrest ▸ List.mem_cons_self ..))
        have hspace := isSpaceUnit_of_isBearerUnit unit (isBearerUnit_of_isKeyUnit hunit)
        rw [hrest, List.cons_append, pairTail, hspace, isSeparatorUnit_of_isKeyUnit hunit] at htail
        cases htail

/-- What is left of a name with its separator is no pair. -/
theorem scan_credentialPair_left {left : List ℕ} (h : ∀ unit ∈ left, isKeyUnit unit = false)
    (rest : List ℕ) : credentialPair.scan rest 0 left = (left, 0) :=
  MatchPattern.scan_of_none fun item _ hsuffix =>
    credentialPair_cons (h item (hsuffix.mem (List.mem_cons_self ..))) _

/-- How a pair that begins in front of a name is open behind the separator. -/
theorem overlap_credentialPair_named {key front : List ℕ} {separator length : ℕ} (gap gap' : Gap)
    (hkey : key.map lowerUnit ∈ credentialKeys) (hseparator : isSeparatorUnit separator = true)
    (hlength : 0 < length) :
    0 < credentialPair.overlap (front ++ (key ++ (gap.units ++ separator :: gap'.units)))
        (List.replicate length 33) ↔
      credentialPair.overlap front (key ++ (gap.units ++ separator :: gap'.units) ++
          List.replicate length 33) = 0 ∨
        (key ++ (gap.units ++ separator :: gap'.units)).length <
          credentialPair.overlap front (key ++ (gap.units ++ separator :: gap'.units) ++
            List.replicate length 33) := by
  set named := key ++ (gap.units ++ separator :: gap'.units) with hnamed
  set marks := List.replicate length 33
  have hmarks : IsValue length marks := isValue_replicate (by decide) length
  have hgap := isKeyUnit_of_mem_gaps gap gap' hseparator
  have hsplit : credentialPair.overlap (front ++ named) marks =
      (credentialPair.scan marks (credentialPair.overlap front (named ++ marks)) named).2 := by
    rw [MatchPattern.overlap, MatchPattern.scan_append]
    rfl
  rw [hsplit]
  obtain hzero | hreaches := Nat.eq_zero_or_pos (credentialPair.overlap front (named ++ marks))
  · refine iff_of_true ?_ (.inl hzero)
    have hfound := credentialPair_named gap gap' hkey hseparator hmarks hlength
    rw [← hnamed] at hfound
    rw [hzero]
    cases hcons : named with
    | nil =>
        rw [hcons] at hnamed
        exact absurd hnamed.symm (by simp)
    | cons item rest =>
        rw [hcons, List.cons_append] at hfound
        rw [MatchPattern.scan, hfound, List.length_cons]
        simp only
        rw [MatchPattern.scan_of_length_le (by omega)]
        show 0 < _ - rest.length
        omega
  · obtain hlong | hshort := Nat.lt_or_ge named.length
      (credentialPair.overlap front (named ++ marks))
    · refine iff_of_true ?_ (.inr hlong)
      rw [MatchPattern.scan_of_length_le hlong.le]
      exact Nat.sub_pos_of_lt hlong
    · refine iff_of_false ?_ (not_or.2 ⟨hreaches.ne', Nat.not_lt.2 hshort⟩)
      obtain ⟨-, item, tail, replacement, more, -, hfound, hcovered, -⟩ :=
        MatchPattern.exists_of_overlap hreaches
      obtain ⟨unit, behind, hrest, hunit⟩ := gap.exists_cons hseparator (gap'.units ++ marks)
      rw [hnamed, List.append_assoc, List.append_assoc, List.cons_append, hrest] at hfound
      have hcovers := le_credentialPair_named (forall_isKeyUnit hkey) hunit hfound (by omega)
      rw [MatchPattern.scan_eq_drop hshort, hnamed, List.drop_append,
        List.drop_of_length_le (by rw [← hnamed]; omega), List.nil_append,
        scan_credentialPair_left fun unit hunit => hgap unit (List.mem_of_mem_drop hunit)]
      exact lt_irrefl 0

/-- A pair is open behind its separator where no token reaches into it and no other pair ends in
it. -/
theorem openPair_pair_iff (before : List ℕ) (key : CredentialName) (gap : Gap) {separator : ℕ}
    (hseparator : isSeparatorUnit separator = true) (gap' : Gap) {length : ℕ} (hlength : 0 < length) :
    let named := (CredentialLead.pair key gap separator hseparator gap').units
    let marked := named ++ List.replicate length 33
    let front := (bearerMatch.scan named 0 before).1
    OpenPair (before ++ named) length ↔ bearerMatch.overlap before named = 0 ∧
      (credentialPair.overlap front marked = 0 ∨
        named.length < credentialPair.overlap front marked) := by
  intro named marked front
  have hgap := isKeyUnit_of_mem_gaps gap gap' hseparator
  have hnames : ∀ key ∈ credentialKeys, 5 ≤ key.length ∧ ∀ count < 6, 0 < count →
      key.take count = (utf16Units "bearer").drop (6 - count) → count < key.length := by decide
  obtain ⟨hfive, hshort⟩ := hnames _ key.named
  rw [List.length_map] at hfive hshort
  obtain hzero | hreaches := Nat.eq_zero_or_pos (bearerMatch.overlap before named)
  · have hkept : bearerMatch.replaceAll (named ++ []) = named ++ bearerMatch.replaceAll [] := by
      refine MatchPattern.replaceAll_append_of_none [] fun item tail hsuffix => bearerMatch_cons ?_ _
      obtain hitem | hitem := List.mem_append.1 (hsuffix.mem (List.mem_cons_self ..))
      · exact key.lowerUnit_ne item hitem
      · exact lowerUnit_ne_of_isKeyUnit (hgap item hitem)
    rw [List.append_nil, show bearerMatch.replaceAll [] = [] from rfl, List.append_nil] at hkept
    rw [OpenPair, MatchPattern.replaceAll_append_of_overlap hzero, hkept, and_iff_right hzero]
    exact overlap_credentialPair_named gap gap' key.named hseparator hlength
  · refine iff_of_false ?_ fun h => hreaches.ne' h.1
    obtain ⟨written, token, left, htoken, hleft, hreplaced⟩ :=
      replaceAll_bearerMatch_named key.isKeyUnit hfive hshort hgap hreaches
    rw [OpenPair, show before ++ named = before ++ (key.units ++ _) from rfl, hreplaced,
      overlap_credentialPair_redacted written left _ htoken hleft]
    exact lt_irrefl 0

/-! ## Credentials that do not show -/

namespace CredentialSpot

variable (spot : CredentialSpot)

/-- The redacted text hides the value where the pair is redacted. -/
theorem hides_redactUpstreamError_iff : spot.Hides redactUpstreamError ↔ spot.Redacted := by
  obtain ⟨before, lead, length, after, delimited⟩ := spot
  obtain rfl | hlength := Nat.eq_zero_or_pos length
  · refine iff_of_true (fun value value' hvalue hvalue' => ?_) (.inl rfl)
    rw [List.length_eq_zero_iff.1 hvalue.length_eq, List.length_eq_zero_iff.1 hvalue'.length_eq]
  · have hhides := redactUpstreamError_hides_iff hlength (lead.endsWord.append before) delimited
    refine Iff.trans hhides ?_
    rw [Redacted, or_iff_right hlength.ne']
    cases lead with
    | pair key gap separator separates gap' =>
        have hopen := openPair_pair_iff before key gap separates gap' hlength
        simp only at hopen ⊢
        rw [hopen, and_assoc]
    | member key gap gap' =>
        exact iff_of_false (fun h => not_openPair_member before key gap gap' length h.1) id
    | bearer word isWord gap nonempty =>
        exact iff_of_false (fun h => not_openPair_bearer before isWord gap nonempty length h.1) id

/-- The beginning of the text is the text of what is cut off, while there is room for the value. -/
theorem take_text {limit : ℕ} (hroom : (spot.before ++ spot.lead.units).length < limit)
    {value : List ℕ} (hvalue : value.length = spot.length) :
    (spot.text value).take limit = (spot.cut limit).text
      (value.take (limit - (spot.before ++ spot.lead.units).length)) := by
  rw [text, List.take_append, List.take_of_length_le hroom.le, List.take_append, hvalue]
  rfl

theorem take_text_of_le {limit : ℕ} (hroom : limit ≤ (spot.before ++ spot.lead.units).length)
    (value : List ℕ) : (spot.text value).take limit = (spot.before ++ spot.lead.units).take limit :=
  List.take_append_of_le_length hroom

/-- A beginning of the text hides the value where it does as a text of its own. -/
theorem hides_take_iff (limit : ℕ) :
    spot.Hides (fun body => redactUpstreamError (body.take limit)) ↔ (spot.cut limit).Redacted := by
  obtain hroom | hroom := le_or_gt limit (spot.before ++ spot.lead.units).length
  · refine iff_of_true (fun value value' _ _ => ?_) (.inl ?_)
    · simp only [spot.take_text_of_le hroom]
    · show min spot.length (limit - _) = 0
      omega
  · rw [← hides_redactUpstreamError_iff]
    constructor
    · intro h value value' hvalue hvalue'
      have hpad : ∀ {value : List ℕ}, IsValue (spot.cut limit).length value →
          IsValue spot.length (value ++ List.replicate (spot.length - value.length) 33) ∧
            (value ++ List.replicate (spot.length - value.length) 33).take
              (limit - (spot.before ++ spot.lead.units).length) = value := by
        intro value hvalue
        have hlength : value.length =
            min spot.length (limit - (spot.before ++ spot.lead.units).length) := hvalue.length_eq
        refine ⟨⟨?_, fun unit hunit => ?_⟩, ?_⟩
        · rw [List.length_append, List.length_replicate]
          omega
        · obtain hunit | hunit := List.mem_append.1 hunit
          · exact hvalue.units unit hunit
          · rw [List.eq_of_mem_replicate hunit]
            decide
        · rw [List.take_append, List.take_of_length_le (by omega), List.take_replicate,
            show min (limit - (spot.before ++ spot.lead.units).length - value.length)
              (spot.length - value.length) = 0 by omega]
          exact List.append_nil _
      have heq := h _ _ (hpad hvalue).1 (hpad hvalue').1
      simp only [spot.take_text hroom (hpad hvalue).1.length_eq, (hpad hvalue).2,
        spot.take_text hroom (hpad hvalue').1.length_eq, (hpad hvalue').2] at heq
      exact heq
    · intro h value value' hvalue hvalue'
      have htake : ∀ {value : List ℕ}, IsValue spot.length value → IsValue (spot.cut limit).length
          (value.take (limit - (spot.before ++ spot.lead.units).length)) := by
        intro value hvalue
        refine ⟨?_, fun unit hunit => hvalue.units unit (List.mem_of_mem_take hunit)⟩
        rw [List.length_take, hvalue.length_eq]
        exact Nat.min_comm _ _
      simp only [spot.take_text hroom hvalue.length_eq, spot.take_text hroom hvalue'.length_eq]
      exact h _ _ (htake hvalue) (htake hvalue')

end CredentialSpot

/-! ## Failed requests -/

/-- A call of `discover` whose request is answered with a body. -/
structure CatalogCall where
  environment : String → Option String
  credentialRef : Option CredentialRef
  endpoint : Option String
  status : ℕ
  json : Option Json
  timedOut : Bool
  aborted : Bool
  now : String

def CatalogCall.discover (call : CatalogCall) (body : List ℕ) :
    Except CatalogThrown DiscoverySnapshot :=
  (OpenRouterCatalogSource.create (fun _ => .ok ⟨call.status, some body, call.json⟩)
    call.environment call.credentialRef call.endpoint).discover call.timedOut call.aborted call.now

/-- A call that fails with the message of its body. -/
def failedCall : CatalogCall where
  environment := fun _ => none
  credentialRef := none
  endpoint := none
  status := 500
  json := none
  timedOut := false
  aborted := false
  now := "2026-08-22T00:00:00.000Z"

theorem discover_failedCall (body : List ℕ) : failedCall.discover body =
    .error (.discovery ⟨"api_error", failedRequestMessage 500 body⟩) := rfl

/-- The message tells the redacted beginning of the body. -/
theorem failedRequestMessage_inj {status : ℕ} {body body' : List ℕ}
    (h : failedRequestMessage status body = failedRequestMessage status body') :
    redactUpstreamError (body.take errorBodyLimit) =
      redactUpstreamError (body'.take errorBodyLimit) := by
  have hrest := List.append_cancel_left h
  have hseparator : utf16Units ": " = [58, 32] := by decide
  rw [hseparator] at hrest
  split at hrest
  · next hnil =>
      split at hrest
      · next hnil' => rw [hnil, hnil']
      · cases hrest
  · split at hrest
    · cases hrest
    · exact List.append_cancel_left hrest

/-- A call sees nothing else of the body. -/
theorem CatalogCall.discover_congr (call : CatalogCall) {body body' : List ℕ}
    (h : redactUpstreamError (body.take errorBodyLimit) =
      redactUpstreamError (body'.take errorBodyLimit)) :
    call.discover body = call.discover body' := by
  have hread : readCatalog call.now ⟨call.status, some body, call.json⟩ =
      readCatalog call.now ⟨call.status, some body', call.json⟩ := by
    simp only [readCatalog, CatalogResponse.ok, failedRequestMessage, Option.getD_some, h]
  unfold CatalogCall.discover OpenRouterCatalogSource.discover
  simp only [OpenRouterCatalogSource.create, Except.mapError, bind, Except.bind, hread]

/-- The redacted text hides a credential exactly where its pair is redacted, and what a discovery
throws does exactly where this is so in the part of the body that it reports. -/
theorem hidesCredential_iff (spot : CredentialSpot) :
    (spot.Hides redactUpstreamError ↔ spot.Redacted) ∧
      ((∀ call : CatalogCall, spot.Hides call.discover) ↔ (spot.cut errorBodyLimit).Redacted) := by
  refine ⟨spot.hides_redactUpstreamError_iff, ?_⟩
  rw [← spot.hides_take_iff]
  constructor
  · intro h value value' hvalue hvalue'
    have hfailed := h failedCall value value' hvalue hvalue'
    rw [discover_failedCall, discover_failedCall] at hfailed
    have hmessage := congrArg CatalogDiscoveryError.message
      (CatalogThrown.discovery.inj (Except.error.inj hfailed))
    exact failedRequestMessage_inj hmessage
  · intro h call value value' hvalue hvalue'
    exact call.discover_congr (h value value' hvalue hvalue')

/-- A secret as the member of a JSON object. -/
def memberSpot : CredentialSpot where
  before := []
  lead := .member ⟨utf16Units "secret", by decide⟩ ⟨[], by simp⟩ ⟨[], by simp⟩
  length := 1
  after := [34]
  delimited := delimited_cons (by decide) []

/-- It shows in the text and in the message. -/
theorem not_hidesCredential :
    (¬ ∀ spot : CredentialSpot, spot.Hides redactUpstreamError) ∧
      ¬ ∀ (spot : CredentialSpot) (call : CatalogCall), spot.Hides call.discover := by
  have hshown : redactUpstreamError (memberSpot.text [97]) ≠
      redactUpstreamError (memberSpot.text [98]) := by decide
  have hfirst : IsValue memberSpot.length [97] := isValue_replicate (by decide) 1
  have hsecond : IsValue memberSpot.length [98] := isValue_replicate (by decide) 1
  constructor
  · intro h
    exact hshown (h memberSpot _ _ hfirst hsecond)
  · intro h
    have hfailed := h memberSpot failedCall _ _ hfirst hsecond
    rw [discover_failedCall, discover_failedCall] at hfailed
    have hmessage := failedRequestMessage_inj (congrArg CatalogDiscoveryError.message
      (CatalogThrown.discovery.inj (Except.error.inj hfailed)))
    exact hshown hmessage

end RlyGateway
