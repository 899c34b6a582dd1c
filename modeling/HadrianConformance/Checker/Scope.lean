import HadrianConformance.Base.Python

/-!
# Endpoint scope and path mapping

The class tables of `ConformanceChecker` (`scripts/openapi-conformance.py:277–348`) and the
predicates that read them, `_is_out_of_scope`, `_path_matches_pattern` and
`_is_method_out_of_scope` (lines 454–491).
-/

namespace HadrianConformance

/-- `PATH_MAPPING` (lines 278–300): OpenAI path to Hadrian path. -/
def pathMapping : List (String × String) := [
  ("/chat/completions", "/api/v1/chat/completions"),
  ("/completions", "/api/v1/completions"),
  ("/embeddings", "/api/v1/embeddings"),
  ("/models", "/api/v1/models"),
  ("/models/{model}", "/api/v1/models/{model}"),
  ("/files", "/api/v1/files"),
  ("/files/{file_id}", "/api/v1/files/{file_id}"),
  ("/files/{file_id}/content", "/api/v1/files/{file_id}/content"),
  ("/audio/speech", "/api/v1/audio/speech"),
  ("/audio/transcriptions", "/api/v1/audio/transcriptions"),
  ("/audio/translations", "/api/v1/audio/translations"),
  ("/images/generations", "/api/v1/images/generations"),
  ("/images/edits", "/api/v1/images/edits"),
  ("/images/variations", "/api/v1/images/variations"),
  ("/moderations", "/api/v1/moderations"),
  ("/vector_stores", "/api/v1/vector_stores"),
  ("/vector_stores/{vector_store_id}", "/api/v1/vector_stores/{vector_store_id}"),
  ("/vector_stores/{vector_store_id}/files", "/api/v1/vector_stores/{vector_store_id}/files"),
  ("/vector_stores/{vector_store_id}/files/{file_id}",
    "/api/v1/vector_stores/{vector_store_id}/files/{file_id}"),
  ("/vector_stores/{vector_store_id}/search", "/api/v1/vector_stores/{vector_store_id}/search"),
  ("/responses", "/api/v1/responses")]

/-- `OUT_OF_SCOPE_PREFIXES` (lines 303–323). -/
def outOfScopePrefixes : List String := [
  "/assistants", "/threads", "/fine_tuning", "/batches", "/organization", "/realtime", "/evals",
  "/uploads", "/audit", "/invites", "/users", "/projects", "/containers", "/conversations",
  "/videos", "/chatkit", "/audio/voice_consents", "/audio/voices", "/skills"]

/-- `OUT_OF_SCOPE_PATHS` (lines 326–342). -/
def outOfScopePaths : List String := [
  "/chat/completions/{completion_id}",
  "/chat/completions/{completion_id}/messages",
  "/models/{model}",
  "/models/{model}/permissions",
  "/moderations",
  "/vector_stores/{vector_store_id}/file_batches",
  "/vector_stores/{vector_store_id}/file_batches/{batch_id}",
  "/vector_stores/{vector_store_id}/file_batches/{batch_id}/cancel",
  "/vector_stores/{vector_store_id}/file_batches/{batch_id}/files",
  "/vector_stores/{vector_store_id}/files/{file_id}/content",
  "/responses/input_tokens",
  "/responses/compact",
  "/responses/{response_id}",
  "/responses/{response_id}/input_items",
  "/responses/{response_id}/cancel"]

/-- `OUT_OF_SCOPE_METHODS` (lines 345–348). -/
def outOfScopeMethods : List (String × List String) := [
  ("/chat/completions", ["get"]),
  ("/vector_stores/{vector_store_id}/files/{file_id}", ["post"])]

/-- The zipped segment test of lines 475–479. -/
def segmentsMatch : List String → List String → Bool
  | pathPart :: path, patternPart :: pattern =>
    ((startsWith patternPart "\x7b" && endsWith patternPart "\x7d") || pathPart == patternPart) &&
      segmentsMatch path pattern
  | _, _ => true

/-- `_path_matches_pattern` (lines 469–480): equal segment counts, and every segment equal
except where the pattern has a `{param}`. -/
def pathMatchesPattern (path pattern : String) : Bool :=
  let pathParts := pySplit path '/'
  let patternParts := pySplit pattern '/'
  pathParts.length == patternParts.length && segmentsMatch pathParts patternParts

/-- `_is_out_of_scope` (lines 454–467). -/
def isOutOfScope (path : String) : Bool :=
  outOfScopePaths.contains path || outOfScopePaths.any (pathMatchesPattern path) ||
    outOfScopePrefixes.any (startsWith path)

/-- `table.get(key)` for one of the class tables. -/
def lookupKey {α : Type} : List (String × α) → String → Option α
  | [], _ => none
  | (k, v) :: rest, key => if k = key then some v else lookupKey rest key

/-- `_is_method_out_of_scope` (lines 482–491): the exact entry decides when there is one,
else any matching pattern that lists the method. -/
def isMethodOutOfScope (path method : String) : Bool :=
  match lookupKey outOfScopeMethods path with
  | some methods => methods.contains method
  | none => outOfScopeMethods.any fun (pattern, methods) =>
      pathMatchesPattern path pattern && methods.contains method

/-- Lines 387–390: the Hadrian counterpart of an OpenAI path, `PATH_MAPPING` or the `/api/v1`
prefix. -/
def hadrianPathFor (openaiPath : String) : String :=
  match lookupKey pathMapping openaiPath with
  | some hadrianPath => if hadrianPath != "" then hadrianPath else "/api/v1" ++ openaiPath
  | none => "/api/v1" ++ openaiPath

end HadrianConformance
