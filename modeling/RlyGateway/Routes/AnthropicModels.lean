import RlyGateway.Library.Paging
import RlyGateway.Routing.ModelProjection

/-!
# Model discovery

`GET /v1/models`: the projections of a session's universe in pages, and a client that follows
`last_id` with `after_id` while `has_more` is true.

The pages keep the order of the projections (provider name, then registry order), the cursor compares
ids, and an id ends in a digest: the client sees every projection exactly when the ids happen to
ascend at the ends of the pages.
-/

namespace RlyGateway

variable (runtime : NodeRuntime)

/-! ## The route -/

/-- A `limit` the query schema accepts. -/
structure PageLimit where
  value : ℕ
  pos : 1 ≤ value
  le : value ≤ 100

/-- A query the query schema accepts. -/
structure ModelsQuery where
  limit : Option PageLimit
  before_id : Option String
  after_id : Option String

/-- The limit of a query without one. -/
def DEFAULT_LIMIT : PageLimit := ⟨20, by decide, by decide⟩

/-- One listed model. -/
structure ModelEntry where
  id : String
  display_name : String
  created_at : String
deriving DecidableEq, Repr

/-- The reply to a query. -/
structure ModelsReply where
  data : List ModelEntry
  has_more : Bool
  first_id : Option String
  last_id : Option String
  note : Option String
deriving DecidableEq, Repr

/-- The `created_at` of a projection. -/
def projectionCreatedAt (projection : ModelProjection) : String :=
  match runtime.dateParse projection.verifiedAt with
  | none => runtime.isoString 0
  | some milliseconds => runtime.isoString milliseconds

/-- A projection as it is listed. -/
def modelEntry (projection : ModelProjection) : ModelEntry where
  id := projection.id
  display_name := projection.displayName
  created_at := projectionCreatedAt runtime projection

/-- Why discovery lists nothing. -/
def discoveryNote (registry : RegistryDocument) (snapshot : ModelUniverseSnapshot)
    (projections : List ModelProjection) : Option String :=
  if 0 < projections.length then none
  else if snapshot.bindings.length = 0 then
    some "No enabled provider with a ready account pool is bound; model discovery is empty."
  else
    let configured := (snapshot.bindings.map fun binding =>
      (modelsForProvider registry binding.providerName).length).sum
    if configured = 0 then
      some "No reviewed model is available for the bound providers; model discovery is empty."
    else
      some ("All " ++ toString configured ++ " configured model(s) are EXPERIMENTAL without reviewed " ++
        "compatibility evidence. Enable gateway.modelDiscovery.experimentalModels=true to expose " ++
        "them, or wait for canary review.")

/-- The projections a query selects, before the page is cut. -/
def modelsWindow (query : ModelsQuery) (projections : List ModelProjection) :
    List ModelProjection :=
  let window := match query.after_id with
    | none => projections
    | some after_id => projections.filter fun projection => textLt after_id projection.id
  match query.before_id with
  | none => window
  | some before_id => window.filter fun projection => textLt projection.id before_id

/-- The reply of `GET /v1/models`. -/
def getModels (registry : RegistryDocument) (snapshot : ModelUniverseSnapshot)
    (effective : Option EffectiveSnapshot) (query : ModelsQuery) : ModelsReply :=
  let projections := projectModelUniverse runtime registry snapshot effective
  let limit := (query.limit.getD DEFAULT_LIMIT).value
  let window := modelsWindow query projections
  let page := window.take limit
  { data := page.map (modelEntry runtime)
    has_more := limit < window.length
    first_id := page.head?.map (·.id)
    last_id := page.getLast?.map (·.id)
    note := discoveryNote registry snapshot projections }

/-! ## A client that follows the cursor -/

section Client

variable (registry : RegistryDocument) (snapshot : ModelUniverseSnapshot)
  (effective : Option EffectiveSnapshot) (limit : PageLimit)

/-- The replies a client gets that starts at a cursor and asks for the page after `last_id` while
`has_more` is true, or `none` if it has not ended after `fuel` requests. -/
def listModels : ℕ → Option String → Option (List ModelsReply)
  | 0, _ => none
  | fuel + 1, after_id =>
      let reply := getModels runtime registry snapshot effective ⟨some limit, none, after_id⟩
      if reply.has_more then (listModels fuel reply.last_id).map (reply :: ·) else some [reply]

/-- The key by which the cursor compares projections. -/
def cursorKey (projection : ModelProjection) : List ℕ := utf16Units projection.id

/-- The client's requests end, and its replies list every projection of the universe once: they are
the pages of a walk over the projections with their places in the list, and the places shown are a
rearrangement of all places. -/
def ListsEachOnce : Prop :=
  let projections := projectModelUniverse runtime registry snapshot effective
  ∃ fuel replies pages, listModels runtime registry snapshot effective limit fuel none = some replies ∧
    walk (fun placed : ModelProjection × ℕ => cursorKey placed.1) limit.value projections.zipIdx fuel
      none = some pages ∧
    replies.map (·.data) = pages.map (·.map fun placed => modelEntry runtime placed.1) ∧
    pages.flatten.Perm projections.zipIdx

theorem itemsAfter_cursorKey (projections : List ModelProjection) (after_id : Option String) :
    itemsAfter cursorKey projections (after_id.map utf16Units) =
      modelsWindow ⟨some limit, none, after_id⟩ projections := by
  rcases after_id with - | after_id
  · rfl
  · refine List.filter_congr fun projection _ => ?_
    exact decide_eq_decide.2 Iff.rfl

/-- The data of the client's replies are the pages of a walk over the projections. -/
theorem listModels_data (fuel : ℕ) (after_id : Option String) :
    (listModels runtime registry snapshot effective limit fuel after_id).map
        (·.map (·.data)) =
      (walk cursorKey limit.value (projectModelUniverse runtime registry snapshot effective) fuel
        (after_id.map utf16Units)).map (·.map (·.map (modelEntry runtime))) := by
  induction fuel generalizing after_id with
  | zero => rfl
  | succ fuel ih =>
      have hcursor : ∀ last : Option ModelProjection,
          last.map cursorKey = (last.map (·.id)).map utf16Units := by
        intro last
        rw [Option.map_map]
        rfl
      rw [listModels, walk, itemsAfter_cursorKey limit, hcursor]
      simp only [getModels, Option.getD_some, decide_eq_true_eq]
      split
      · rw [Option.map_map, Option.map_map]
        have hrest := ih (((modelsWindow ⟨some limit, none, after_id⟩
          (projectModelUniverse runtime registry snapshot effective)).take limit.value).getLast?.map
            (·.id))
        simpa [Option.map_map, Function.comp_def] using congrArg (Option.map (_ :: ·)) hrest
      · rfl

/-- The client's requests always end. -/
theorem listModels_isSome : (listModels runtime registry snapshot effective limit
    ((projectModelUniverse runtime registry snapshot effective).length + 1) none).isSome := by
  have hends : (walk cursorKey limit.value
      (projectModelUniverse runtime registry snapshot effective)
      ((projectModelUniverse runtime registry snapshot effective).length + 1) none).isSome :=
    walk_isSome limit.pos (Nat.lt_succ_self _)
  have hdata := listModels_data runtime registry snapshot effective limit
    ((projectModelUniverse runtime registry snapshot effective).length + 1) none
  rw [← Option.isSome_map, hdata, Option.map_none, Option.isSome_map]
  exact hends

/-- A walk over the projections with their places shows each of them once exactly when the ids ascend
at the ends of the pages. -/
theorem walk_zipIdx_perm_iff (projections : List ModelProjection) :
    (∃ fuel pages, walk (fun placed : ModelProjection × ℕ => cursorKey placed.1) limit.value
        projections.zipIdx fuel none = some pages ∧ pages.flatten.Perm projections.zipIdx) ↔
      AscendsAtPageEnds limit.value (projections.map cursorKey) := by
  have hkeys : projections.zipIdx.map (fun placed => cursorKey placed.1) =
      projections.map cursorKey := by
    rw [← Function.comp_def, ← List.map_map, List.zipIdx_map_fst]
  have hnodup : projections.zipIdx.Nodup := by
    refine List.Nodup.of_map Prod.snd ?_
    rw [List.zipIdx_map_snd]
    exact List.nodup_range'
  rw [← hkeys, ← walk_perm_iff limit.pos hnodup]

/-- Following the cursor lists every projection once exactly when the ids ascend at the ends of the
pages. -/
theorem listsEachOnce_iff : ListsEachOnce runtime registry snapshot effective limit ↔
    AscendsAtPageEnds limit.value
      ((projectModelUniverse runtime registry snapshot effective).map cursorKey) := by
  set projections := projectModelUniverse runtime registry snapshot effective with hprojections
  rw [← walk_zipIdx_perm_iff]
  constructor
  · rintro ⟨fuel, replies, pages, -, hpages, -, hperm⟩
    exact ⟨fuel, pages, hpages, hperm⟩
  · rintro ⟨fuel, pages, hpages, hperm⟩
    have hdata := listModels_data runtime registry snapshot effective limit fuel none
    have hplain : (walk (fun placed : ModelProjection × ℕ => cursorKey placed.1) limit.value
        projections.zipIdx fuel none).map (·.map (·.map Prod.fst)) =
          walk cursorKey limit.value (projections.zipIdx.map Prod.fst) fuel none :=
      walk_map Prod.fst projections.zipIdx fuel none
    rw [List.zipIdx_map_fst, hpages, Option.map_some] at hplain
    rw [Option.map_none, ← hprojections, ← hplain, Option.map_some] at hdata
    obtain ⟨replies, hreplies, hsame⟩ := Option.map_eq_some_iff.1 hdata
    refine ⟨fuel, replies, pages, hreplies, hpages, ?_, hperm⟩
    rw [hsame, List.map_map]
    refine List.map_congr_left fun page _ => ?_
    rw [Function.comp_apply, List.map_map]
    rfl

end Client

/-! ## Two models in descending order -/

/-- The row of a reviewed Codex model. -/
def codexRow (upstreamModelId : String) : ModelEvidence where
  logicalId := "codex/" ++ upstreamModelId
  identity := ⟨"codex", upstreamModelId, none⟩
  verifiedAt := "2026-07-18"
  fixtureVersion := "codex-oauth-chat-v1"
  capabilities := ⟨true, true, true, false, true, false, true, .conservativeEstimate⟩
  limits := ⟨none, none⟩
  reasoning := ⟨true, .binary, none, false, false, false⟩
  compatibility := ⟨.VERIFIED, "claude-code-2.1.229", "canary", "2026-07-18", none⟩

/-- Two reviewed models of one provider. -/
def codexRegistry : RegistryDocument := ⟨1, [codexRow "gpt-5.6-sol", codexRow "gpt-5.6-terra"]⟩

/-- A session bound to that provider. -/
def codexSnapshot : ModelUniverseSnapshot :=
  ⟨1, "policy", 1, [⟨"provider-1", "codex", "pool-1"⟩], false⟩

/-- The concrete platform with the SHA-256 digests of the two models. -/
def digestRuntime : NodeRuntime :=
  { isoRuntime with
    sha256Hex := fun text =>
      if text = "codex\x00gpt-5.6-sol" then
        "8e2cb0cca7e1d21394bd9ad18072686d45011995b35103a0586bcf52b2200000"
      else if text = "codex\x00gpt-5.6-terra" then
        "2981473d535776321464f436ccb9174bbf4477c2c6ce46bcb5c482b5df547f02"
      else text }

/-- With one model a page, the client never gets to the second model. -/
theorem not_listsEachOnce_of_descending :
    ¬ ListsEachOnce digestRuntime codexRegistry codexSnapshot none ⟨1, by decide, by decide⟩ := by
  rintro ⟨fuel, replies, pages, -, hpages, -, hperm⟩
  have hascends := (walk_zipIdx_perm_iff ⟨1, by decide, by decide⟩ _).1 ⟨fuel, pages, hpages, hperm⟩
  obtain ⟨-, hafter⟩ := hascends 1 (utf16Units "claude-rly-codex-8e2cb0cca7e1") (by decide)
    (by decide +kernel)
  have hlisted : utf16Units "claude-rly-codex-2981473d5357" ∈ List.drop (1 * 1)
      ((projectModelUniverse digestRuntime codexRegistry codexSnapshot none).map cursorKey) := by
    decide +kernel
  have hlt := hafter _ hlisted
  revert hlt
  decide

end RlyGateway
