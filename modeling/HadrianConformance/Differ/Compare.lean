import HadrianConformance.Differ.TypeString
import Mathlib.Data.List.Dedup

/-!
# The structural differ

`_compare_schemas` of `scripts/openapi-conformance.py:587–698`, with the report records it
builds (lines 109–148) and the policy tables it reads (lines 47–106). The reasons of
`DOCUMENTED_MISSING_FIELDS` are never read, so only its keys are modelled.
CPython iterates `set(a) & set(b)` (line 654) in string-hash order, which depends on
`PYTHONHASHSEED`; `HashOrder` stands for that order. The nested comparison of a common field
finds `openai_props[field_name]` structurally (`walkAt`, `walkIn`, `walkOf`), so that
the recursion is structural; `walkOf_eq` and `walkAt_eq` say they are the lookups. The walk
is written once over a `Collector`, what the walk builds; `compareSchemas` is the walk with
the code's loop bodies.
-/

namespace HadrianConformance

/-- `DiffType` (lines 109–114). -/
inductive DiffType where
  | missingInHadrian
  | hadrianExtension
  | typeMismatch
  | requiredMismatch
  deriving DecidableEq, Repr

/-- `SchemaDiff` (lines 117–125); `None` is `.null`. -/
structure SchemaDiff where
  path : String
  field : JValue
  diffType : DiffType
  openaiValue : JValue := .null
  hadrianValue : JValue := .null
  description : String := ""
  deriving DecidableEq, Repr

/-- `Violation` (lines 140–148). -/
structure Violation where
  violationType : String
  path : String
  method : String
  field : JValue := .str ""
  location : String := ""
  message : String := ""
  deriving DecidableEq, Repr

/-- The keys of `DOCUMENTED_MISSING_FIELDS` (lines 47–97):
`(openai_path, method, location, field)`. -/
def documentedMissingFields : List (String × String × String × String) := [
  ("/chat/completions", "POST", "request", "safety_identifier"),
  ("/chat/completions", "POST", "request", "prompt_cache_key"),
  ("/chat/completions", "POST", "request", "service_tier"),
  ("/chat/completions", "POST", "request", "prompt_cache_retention"),
  ("/chat/completions", "POST", "request", "modalities"),
  ("/chat/completions", "POST", "request", "verbosity"),
  ("/chat/completions", "POST", "request", "reasoning_effort"),
  ("/chat/completions", "POST", "request", "web_search_options"),
  ("/chat/completions", "POST", "request", "audio"),
  ("/chat/completions", "POST", "request", "store"),
  ("/chat/completions", "POST", "request", "n"),
  ("/chat/completions", "POST", "request", "prediction"),
  ("/chat/completions", "POST", "request", "parallel_tool_calls"),
  ("/chat/completions", "POST", "request", "function_call"),
  ("/chat/completions", "POST", "request", "functions"),
  ("/chat/completions", "POST", "request", "include_obfuscation"),
  ("/completions", "POST", "request", "include_usage"),
  ("/completions", "POST", "request", "include_obfuscation"),
  ("/images/edits", "POST", "response", "output_tokens_details"),
  ("/images/generations", "POST", "response", "output_tokens_details"),
  ("/images/variations", "POST", "response", "output_tokens_details"),
  ("/models", "GET", "response", "object"),
  ("/responses", "POST", "request", "top_logprobs"),
  ("/responses", "POST", "request", "prompt_cache_retention"),
  ("/responses", "POST", "request", "max_tool_calls"),
  ("/responses", "POST", "request", "stream_options"),
  ("/responses", "POST", "request", "conversation"),
  ("/responses", "POST", "request", "format"),
  ("/responses", "POST", "request", "verbosity"),
  ("/responses", "POST", "request", "effort"),
  ("/responses", "POST", "request", "summary"),
  ("/responses", "POST", "request", "generate_summary"),
  ("/responses", "POST", "request", "id"),
  ("/responses", "POST", "request", "version"),
  ("/responses", "POST", "request", "variables"),
  ("/responses", "POST", "request", "context_management"),
  ("/vector_stores/{vector_store_id}/files", "POST", "request", "attributes"),
  ("/vector_stores/{vector_store_id}/files", "POST", "response", "static"),
  ("/vector_stores/{vector_store_id}/files/{file_id}", "GET", "response", "static"),
  ("/vector_stores/{vector_store_id}/search", "POST", "request", "rewrite_query"),
  ("/vector_stores/{vector_store_id}/search", "POST", "response", "search_query"),
  ("/vector_stores/{vector_store_id}/search", "POST", "response", "has_more"),
  ("/vector_stores/{vector_store_id}/search", "POST", "response", "next_page")]

/-- `EXTENSION_MARKER` (line 106). -/
def extensionMarker : String := "**Hadrian Extension:**"

/-- `key in DOCUMENTED_MISSING_FIELDS` for `key = (path, method, location, field)`: a field
name that is not a string equals no key. -/
def isDocumented (path method location : String) : JValue → Bool
  | .str field => (path, method, location, field) ∈ documentedMissingFields
  | _ => false

/-- CPython's iteration order of `set(a) & set(b)`: the common keys, each once, in an order
that only the hash seed decides. -/
structure HashOrder where
  inter : List String → List String → List String
  mem_inter : ∀ a b k, k ∈ inter a b ↔ k ∈ a ∧ k ∈ b
  nodup_inter : ∀ a b, (inter a b).Nodup

/-- One such order: the keys of `a` that `b` has, in the order of `a`. -/
def HashOrder.inOrder : HashOrder where
  inter a b := (a.filter (· ∈ b)).dedup
  mem_inter a b k := by simp
  nodup_inter a b := List.nodup_dedup _

/-- The lists of differences and violations a comparison builds. -/
abbrev Found := List SchemaDiff × List Violation

/-- Two comparisons' lists, one after the other. -/
def Found.app (a b : Found) : Found := (a.1 ++ b.1, a.2 ++ b.2)

/-- The loops of lines 607, 631, 543 and 564: one step per member, results in member order. -/
def collectWith {κ M : Type} (nil : M) (app : M → M → M) (f : κ → JValue → Py M) :
    List (κ × JValue) → Py M
  | [] => pure nil
  | (k, v) :: d => do
    let a ← f k v
    let b ← collectWith nil app f d
    return app a b

/-- Lines 610–616: the difference of a field that Hadrian lacks. -/
def missingDiff (openaiRequired : List JValue) (context fieldName fieldType : String) : SchemaDiff :=
  { path := context, field := .str fieldName, diffType := .missingInHadrian,
    openaiValue := .str fieldType,
    description := "Field '" ++ fieldName ++ "' (" ++ fieldType ++ ") missing in Hadrian" ++
      (if setHas openaiRequired fieldName then " [REQUIRED]" else "") }

/-- Lines 635–641: the difference of a field that only Hadrian has. -/
def extensionDiff (context fieldName fieldType : String) : SchemaDiff :=
  { path := context, field := .str fieldName, diffType := .hadrianExtension,
    hadrianValue := .str fieldType,
    description := "Field '" ++ fieldName ++ "' (" ++ fieldType ++ ") is a Hadrian extension" }

/-- Lines 662–683: the type and required differences of a common field. -/
def commonDiffs (openaiRequired hadrianRequired : List JValue) (context fieldName openaiType
    hadrianType : String) : List SchemaDiff :=
  (if typesCompatible openaiType hadrianType then [] else [{
    path := context, field := .str fieldName, diffType := .typeMismatch,
    openaiValue := .str openaiType, hadrianValue := .str hadrianType,
    description := "Type mismatch for '" ++ fieldName ++ "': OpenAI=" ++ openaiType ++
      ", Hadrian=" ++ hadrianType }]) ++
  (if setHas openaiRequired fieldName && !setHas hadrianRequired fieldName then [{
    path := context, field := .str fieldName, diffType := .requiredMismatch,
    openaiValue := .str "required", hadrianValue := .str "optional",
    description := "Field '" ++ fieldName ++ "' is required in OpenAI but optional in Hadrian" }]
  else [])

/-- Lines 607–628 for one field of `openai_props`. -/
def missingField (hadrianProps : JValue) (openaiRequired : List JValue)
    (context endpointPath method location fieldName : String) (openaiField : JValue) : Py Found := do
  if ← pyContains hadrianProps fieldName then return ([], [])
  let diff := missingDiff openaiRequired context fieldName (← getTypeString openaiField)
  if isDocumented endpointPath method location (.str fieldName) then return ([diff], [])
  return ([diff], [{
    violationType := "undocumented_missing", path := endpointPath, method := method,
    field := .str fieldName, location := location,
    message := "Field '" ++ fieldName ++ "' is missing but not documented in DOCUMENTED_MISSING_FIELDS" }])

/-- Lines 631–651 for one field of `hadrian_props`. -/
def extensionField (openaiProps : JValue) (context endpointPath method location fieldName : String)
    (hadrianField : JValue) : Py Found := do
  if ← pyContains openaiProps fieldName then return ([], [])
  let diff := extensionDiff context fieldName (← getTypeString hadrianField)
  let description ← pyGet hadrianField "description" (.str "")
  if ← pyContains description extensionMarker then return ([diff], [])
  return ([diff], [{
    violationType := "unmarked_extension", path := endpointPath, method := method,
    field := .str fieldName, location := location,
    message := "Field '" ++ fieldName ++ "' is a Hadrian extension but missing '" ++
      extensionMarker ++ "' in description" }])

/-- Line 686: `openai_field.get("type") == "object" and hadrian_field.get("type") == "object"`,
the second `.get` made only when the first test holds. -/
def bothObjects (openaiField hadrianField : JValue) : Py Bool := do
  if (← pyGet openaiField "type" .null) = .str "object" then
    return (← pyGet hadrianField "type" .null) = .str "object"
  return false

/-- Lines 655–696 for one common field, the nested comparison of line 687 given as `nested`. -/
def commonField (nested : Py Found) (openaiField hadrianField : JValue)
    (openaiRequired hadrianRequired : List JValue) (context fieldName : String) : Py Found := do
  let diffs := commonDiffs openaiRequired hadrianRequired context fieldName
    (← getTypeString openaiField) (← getTypeString hadrianField)
  let (nestedDiffs, nestedViolations) ← if ← bothObjects openaiField hadrianField then nested
    else pure ([], [])
  return (diffs ++ nestedDiffs, nestedViolations)

/-- What one walk of `_compare_schemas` builds, and how: the empty result, concatenation, and
the bodies of its three loops (lines 607, 631 and 654, the last given its nested comparison). -/
structure Collector (M : Type) where
  nil : M
  app : M → M → M
  missing : JValue → List JValue → String → String → JValue → Py M
  extension : JValue → String → String → JValue → Py M
  common : Py M → JValue → JValue → List JValue → List JValue → String → String → Py M

/-- The code's collector: the lists of differences and violations. -/
def Collector.code (endpointPath method location : String) : Collector Found where
  nil := ([], [])
  app := Found.app
  missing hadrianProps openaiRequired context :=
    missingField hadrianProps openaiRequired context endpointPath method location
  extension openaiProps context := extensionField openaiProps context endpointPath method location
  common := commonField

/-- The loops of lines 607 and 631. -/
def Collector.collect {M : Type} (col : Collector M) (f : String → JValue → Py M) : Dict → Py M :=
  collectWith col.nil col.app f

/-- The results of the loop of line 654, in order. -/
def Collector.concat {M : Type} (col : Collector M) : List M → M
  | [] => col.nil
  | a :: rest => col.app a (col.concat rest)

section Walk

variable (ho : HashOrder) {M : Type} (col : Collector M)

mutual
/-- The walk of `_compare_schemas` (lines 587–698). -/
def schemaWalk : JValue → JValue → String → Py M
  | .obj openaiSchema, hadrianSchema, context => do
    let openaiProps := (Dict.get? openaiSchema "properties").getD (.obj [])
    let hadrianProps ← pyGet hadrianSchema "properties" (.obj [])
    let openaiRequired ← pySet ((Dict.get? openaiSchema "required").getD (.arr []))
    let hadrianRequired ← pySet (← pyGet hadrianSchema "required" (.arr []))
    let openaiItems ← pyItems openaiProps
    let missing ← col.collect (col.missing hadrianProps openaiRequired context) openaiItems
    let hadrianItems ← pyItems hadrianProps
    let extension ← col.collect (col.extension openaiProps context) hadrianItems
    let common ← (ho.inter (openaiItems.map Prod.fst) (hadrianItems.map Prod.fst)).mapM fun name =>
      walkAt openaiSchema name hadrianProps openaiRequired hadrianRequired context
    return col.app (col.app missing extension) (col.concat common)
  | _, _, _ => throw .attributeError
termination_by structural schema => schema
/-- The common field `name`, looked up under the first `properties` member of the schema. -/
def walkAt : Dict → String → JValue → List JValue → List JValue → String → Py M
  | [], _, _, _, _, _ => throw .keyError
  | (k, v) :: d, name, hadrianProps, openaiRequired, hadrianRequired, context =>
    if k = "properties" then walkIn v name hadrianProps openaiRequired hadrianRequired context
    else walkAt d name hadrianProps openaiRequired hadrianRequired context
termination_by structural schema => schema
/-- The common field `name` of a `properties` value. -/
def walkIn : JValue → String → JValue → List JValue → List JValue → String → Py M
  | .obj props, name, hadrianProps, openaiRequired, hadrianRequired, context =>
    walkOf props name hadrianProps openaiRequired hadrianRequired context
  | _, _, _, _, _, _ => throw .typeError
termination_by structural props => props
/-- Lines 655–696 for `openai_props[name]`, found among the members of `openai_props`. -/
def walkOf : Dict → String → JValue → List JValue → List JValue → String → Py M
  | [], _, _, _, _, _ => throw .keyError
  | (k, openaiField) :: d, name, hadrianProps, openaiRequired, hadrianRequired, context =>
    if k = name then do
      let hadrianField ← pyIndex hadrianProps name
      col.common (schemaWalk openaiField hadrianField (context ++ "." ++ name)) openaiField
        hadrianField openaiRequired hadrianRequired context name
    else walkOf d name hadrianProps openaiRequired hadrianRequired context
termination_by structural props => props
end

end Walk

/-- `_compare_schemas` (lines 587–698). -/
def compareSchemas (ho : HashOrder) (openaiSchema hadrianSchema : JValue)
    (context endpointPath method location : String) : Py Found :=
  schemaWalk ho (Collector.code endpointPath method location) openaiSchema hadrianSchema context

/-- An object schema in the OpenAPI 3.1 nullable form `type: ["object", "null"]`. -/
def nullableObjectField (props : Dict) : JValue :=
  .obj [("type", .arr [.str "object", .str "null"]), ("properties", .obj props)]

/-- Both fields are objects to `_get_type_string`, yet the differ does not look inside them: the
missing `x` is not reported. -/
theorem compareSchemas_nullable_object_skipped :
    getTypeString (nullableObjectField [("x", .obj [("type", .str "string")])]) = .ok "object" ∧
    getTypeString (nullableObjectField []) = .ok "object" ∧
    compareSchemas HashOrder.inOrder
      (.obj [("properties", .obj [("a", nullableObjectField [("x", .obj [("type", .str "string")])])])])
      (.obj [("properties", .obj [("a", nullableObjectField [])])]) "/p request" "/p" "POST" "request" =
      .ok ([], []) := by
  decide

variable {ho : HashOrder} {M : Type} {col : Collector M}

/-- `walkOf` is the walk of `openai_props[name]`. -/
theorem walkOf_eq (props : Dict) (name : String) (hadrianProps : JValue)
    (openaiRequired hadrianRequired : List JValue) (context : String) :
    walkOf ho col props name hadrianProps openaiRequired hadrianRequired context =
    match Dict.get? props name with
    | some openaiField => do
      let hadrianField ← pyIndex hadrianProps name
      col.common (schemaWalk ho col openaiField hadrianField (context ++ "." ++ name)) openaiField
        hadrianField openaiRequired hadrianRequired context name
    | none => throw .keyError := by
  induction props with
  | nil => simp [walkOf]
  | cons kv props ih =>
    obtain ⟨k, v⟩ := kv
    by_cases h : k = name
    · subst h
      simp [walkOf, Dict.get?_cons]
    · simp only [walkOf, Dict.get?_cons, h, if_false, ih]

/-- `walkAt` is the walk of the field `name` of the schema's `properties`. -/
theorem walkAt_eq (schema : Dict) (name : String) (hadrianProps : JValue)
    (openaiRequired hadrianRequired : List JValue) (context : String) :
    walkAt ho col schema name hadrianProps openaiRequired hadrianRequired context =
    match Dict.get? schema "properties" with
    | some props => walkIn ho col props name hadrianProps openaiRequired hadrianRequired context
    | none => throw .keyError := by
  induction schema with
  | nil => simp [walkAt]
  | cons kv schema ih =>
    obtain ⟨k, v⟩ := kv
    by_cases h : k = "properties"
    · subst h
      simp [walkAt, Dict.get?_cons]
    · simp only [walkAt, Dict.get?_cons, h, if_false, ih]

end HadrianConformance
