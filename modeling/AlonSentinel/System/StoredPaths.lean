import AlonSentinel.Monitoring.JsonPath
import AlonSentinel.System.AttemptOverrides

/-! The JSON paths of stored monitors. The validator refuses blank paths only, and the check reads
them by a grammar of its own.
-/

namespace AlonSentinel.System

open Api
open Domain
open Monitoring
open UnicodeText

/-- The paths that the assertions of a payload give. -/
def givenJsonPaths (payload : UpsertHttpSiteMonitorRequest) : List String :=
  payload.jsonPathExists.getD []
    ++ (payload.jsonPathEquals.getD []).map JsonPathValueAssertion.path
    ++ (payload.jsonPathNotEquals.getD []).map JsonPathValueAssertion.path

/-- The paths that the assertions of a row have. -/
def storedJsonPaths (row : SiteMonitor) : List String :=
  row.jsonPathExists.getD []
    ++ (row.jsonPathEquals.getD []).map JsonPathValueAssertion.path
    ++ (row.jsonPathNotEquals.getD []).map JsonPathValueAssertion.path

/-- Every path of a row is read, whatever value it is followed into. -/
def PathsEvaluable (row : SiteMonitor) : Prop :=
  ∀ path ∈ storedJsonPaths row, ∃ tokens, parseJsonPath path = .ok tokens

variable {libraries : PayloadLibraries} {lookupHost : LookupHost} {allowPrivate : Bool}
  {payload : UpsertHttpSiteMonitorRequest} {normalized : NormalizedHttpMonitorPayload}
  {row : SiteMonitor}

theorem normalizeJsonPathExists_ok {values stored : Option (List String)} {fieldName : String}
    (ok : normalizeJsonPathExists values fieldName = .ok stored)
    : stored.getD [] = (values.getD []).map trim := by
  unfold normalizeJsonPathExists normalizeHttpAssertionTexts at ok
  cases values with
  | none =>
      cases ok
      rfl
  | some values =>
      simp only [rejectIf_bind] at ok
      obtain ⟨_, _, ⟨⟩⟩ := ok
      rfl

theorem normalizeJsonPathValueAssertions_ok
    {assertions stored : Option (List JsonPathValueAssertion)} {fieldName : String}
    (ok : normalizeJsonPathValueAssertions assertions fieldName = .ok stored)
    : (stored.getD []).map JsonPathValueAssertion.path
      = ((assertions.getD []).map JsonPathValueAssertion.path).map trim := by
  unfold normalizeJsonPathValueAssertions at ok
  cases assertions with
  | none =>
      cases ok
      rfl
  | some assertions =>
      simp only [rejectIf_bind] at ok
      obtain ⟨_, _, ⟨⟩⟩ := ok
      simp [Function.comp_def]

/-- The columns have the given paths, trimmed. -/
theorem storedJsonPaths_eq
    (stores : (RetriedPayload.http payload).Stores libraries lookupHost allowPrivate row)
    : storedJsonPaths row = (givenJsonPaths payload).map trim := by
  obtain ⟨normalized, db, now, siteId, after, accepted, done⟩ := stores
  have columns
      : row.jsonPathExists = normalized.jsonPathExists
        ∧ row.jsonPathEquals = normalized.jsonPathEquals
        ∧ row.jsonPathNotEquals = normalized.jsonPathNotEquals := by
    rcases done with upserted | ⟨monitorId, updated⟩
    · obtain ⟨base, rfl | rfl⟩ := upsertSiteMonitor_row upserted
      · exact ⟨rfl, rfl, rfl⟩
      · exact ⟨rfl, rfl, rfl⟩
    · obtain ⟨base, rfl⟩ := updateSiteMonitorById_row updated
      exact ⟨rfl, rfl, rfl⟩
  have isAccepted := acceptedHttp accepted
  obtain ⟨existsColumn, equalsColumn, notEqualsColumn⟩ := columns
  rw [storedJsonPaths, givenJsonPaths, existsColumn, equalsColumn, notEqualsColumn,
    normalizeJsonPathExists_ok isAccepted.pathsExist,
    normalizeJsonPathValueAssertions_ok isAccepted.pathsEqual,
    normalizeJsonPathValueAssertions_ok isAccepted.pathsDiffer, List.map_append, List.map_append]

/-- The stored paths are read exactly if every given path is one of the grammar. -/
theorem storedPaths_evaluable_iff
    (stores : (RetriedPayload.http payload).Stores libraries lookupHost allowPrivate row)
    : PathsEvaluable row ↔ ∀ path ∈ givenJsonPaths payload, IsJsonPath path := by
  have isJsonPath_trim (path : String) : IsJsonPath (trim path) ↔ IsJsonPath path := by
    simp only [IsJsonPath, trim_trim]
  simp only [PathsEvaluable, parseJsonPath_isOk, storedJsonPaths_eq stores, List.forall_mem_map,
    isJsonPath_trim]

------------------------------------------------------------
-- Two dots
------------------------------------------------------------

/-- The shop's monitor with a path that must exist. -/
def pathPayload (path : String) : UpsertHttpSiteMonitorRequest :=
  { shopPayload 1 none with jsonPathExists := some [path] }

/-- What the upsert of the payload stores. -/
def storedPath (path : String) : Option SiteMonitor := do
  let normalized ←
    (validateAndNormalizeHttpMonitorPayload shopLibraries shopLookup (pathPayload path)
      false).toOption
  let (row, _) ←
    (upsertHttpMonitorBySiteIdAndTargetUrl smallDatabase 0 1
      ((pathPayload path).params normalized)).toOption
  return row

theorem storedPath_stores {path : String} {row : SiteMonitor} (stored : storedPath path = some row)
    : (RetriedPayload.http (pathPayload path)).Stores shopLibraries shopLookup false row := by
  obtain ⟨normalized, accepted, upserted⟩ := Option.bind_eq_some_iff.mp stored
  obtain ⟨⟨stored, after⟩, done, same⟩ := Option.bind_eq_some_iff.mp upserted
  cases same
  exact ⟨normalized, _, _, _, after, Fallible.toOption_eq_some.mp accepted,
    .inl (Fallible.toOption_eq_some.mp done)⟩

theorem storedPaths_evaluable_firstItem
    : ∃ row, storedPath " $.items[0].name" = some row ∧ PathsEvaluable row := by
  have scenario
      : ((storedPath " $.items[0].name").isSome
          && (parseJsonPath " $.items[0].name").toOption.isSome) = true := by
    decide +kernel
  obtain ⟨isStored, isRead⟩ := Bool.and_eq_true_iff.mp scenario
  obtain ⟨row, stored⟩ := Option.isSome_iff_exists.mp isStored
  obtain ⟨tokens, read⟩ := Option.isSome_iff_exists.mp isRead
  refine ⟨row, stored, (storedPaths_evaluable_iff (storedPath_stores stored)).mpr ?_⟩
  intro path member
  obtain rfl := List.mem_singleton.mp member
  exact parseJsonPath_isOk.mp ⟨tokens, Fallible.toOption_eq_some.mp read⟩

/-- The validator accepts a path with two dots, which no check can read. -/
theorem storedPaths_not_evaluable
    : ∃ row,
        (RetriedPayload.http (pathPayload "items..name")).Stores shopLibraries shopLookup false row
        ∧ ¬PathsEvaluable row := by
  have scenario
      : ((storedPath "items..name").any fun row =>
          (storedJsonPaths row).all fun path => path = "items..name"
            && (parseJsonPath path).toOption.isNone) = true := by
    decide +kernel
  obtain ⟨row, stored, unread⟩ := (Option.any_eq_true _ _).mp scenario
  refine ⟨row, storedPath_stores stored, fun evaluable => ?_⟩
  have isGiven : "items..name" ∈ storedJsonPaths row := by
    have trimmed : trim "items..name" = "items..name" := by decide +kernel
    rw [storedJsonPaths_eq (storedPath_stores stored)]
    exact List.mem_map.mpr ⟨"items..name", List.mem_singleton.mpr rfl, trimmed⟩
  obtain ⟨tokens, read⟩ := evaluable _ isGiven
  have isUnread := (Bool.and_eq_true_iff.mp (List.all_eq_true.mp unread _ isGiven)).2
  rw [Fallible.toOption_eq_some.mpr read] at isUnread
  cases isUnread

end AlonSentinel.System
