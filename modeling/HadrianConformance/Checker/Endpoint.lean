import HadrianConformance.Resolver.Resolve
import HadrianConformance.Differ.Compare

/-!
# Comparing one endpoint

`_compare_endpoint` of `scripts/openapi-conformance.py:493–585`: the request body and the
`200` response body, each resolved by its document's resolver and compared, then the query
parameters as flat named entries. The two resolvers' caches are the state.
-/

namespace HadrianConformance

/-- `EndpointDiff` (lines 128–137). The checker builds it at lines 406 and 501 and never sets
`hadrian_extension`; only `endpoint_to_dict` reads it. -/
structure EndpointDiff where
  path : String
  method : String
  requestDiffs : List SchemaDiff := []
  responseDiffs : List SchemaDiff := []
  paramDiffs : List SchemaDiff := []
  missingInHadrian : Bool := false
  hadrianExtension : Bool := false
  deriving DecidableEq, Repr

/-- The caches of `openai_resolver` and `hadrian_resolver` (lines 359–360). -/
structure Caches where
  openai : Cache
  hadrian : Cache
  deriving DecidableEq, Repr

/-- The two documents, each with its own resolver. -/
inductive Side where
  | openai
  | hadrian
  deriving DecidableEq, Repr

/-- The cache of one side's resolver. -/
def Caches.get : Caches → Side → Cache
  | cs, .openai => cs.openai
  | cs, .hadrian => cs.hadrian

/-- The caches with one side's replaced. -/
def Caches.set : Caches → Side → Cache → Caches
  | cs, .openai, c => { cs with openai := c }
  | cs, .hadrian, c => { cs with hadrian := c }

/-- `self.openai_resolver.resolve_schema(x)` and `self.hadrian_resolver.resolve_schema(x)`. -/
def resolveOn (side : Side) (spec : JValue) (n : Nat) (x : JValue) : StateT Caches Py JValue :=
  fun cs => do
    let (v, c) ← resolveSchema spec n x (cs.get side)
    return (v, cs.set side c)

/-- `ConformanceChecker.__init__` (lines 350–360): one resolver per document. -/
def ConformanceChecker.init (openaiSpec hadrianSpec : JValue) : Py Caches := do
  return ⟨← OpenAPIResolver.init openaiSpec, ← OpenAPIResolver.init hadrianSpec⟩

/-- The keys of line 506 down to a request body's JSON schema. -/
def requestBodyKeys : List String := ["requestBody", "content", "application/json", "schema"]

/-- The keys of line 523 down to the `200` response's JSON schema. -/
def responseKeys : List String := ["responses", "200", "content", "application/json", "schema"]

/-- A chain of `.get(key, {})` from an operation. -/
def bodySchema (op : JValue) (keys : List String) : Py JValue :=
  keys.foldlM (fun x key => pyGet x key (.obj [])) op

/-- Lines 509–520 and 526–537: when both bodies are truthy, each is resolved by its own
document's resolver and the two are compared. -/
def compareBodies (ho : HashOrder) (openaiSpec hadrianSpec : JValue) (n : Nat)
    (openaiBody hadrianBody : JValue) (context path methodUpper location : String) :
    StateT Caches Py Found := do
  if pyTruthy openaiBody && pyTruthy hadrianBody then
    let resolvedOpenai ← resolveOn .openai openaiSpec n openaiBody
    let resolvedHadrian ← resolveOn .hadrian hadrianSpec n hadrianBody
    compareSchemas ho resolvedOpenai resolvedHadrian context path methodUpper location
  else return ([], [])

/-- `d[k] = v` in a dict whose keys are hashable JSON values. -/
def keySet : List (JValue × JValue) → JValue → JValue → List (JValue × JValue)
  | [], k, v => [(k, v)]
  | (k', v') :: d, k, v => if pyKeyEq k' k then (k', v) :: d else (k', v') :: keySet d k v

/-- `k in d` for such a dict. -/
def keyHas (d : List (JValue × JValue)) (k : JValue) : Bool := d.any fun kv => pyKeyEq kv.1 k

/-- One step of the comprehension of lines 540–541. -/
def addQueryParam (acc : List (JValue × JValue)) (p : JValue) : Py (List (JValue × JValue)) := do
  if (← pyGet p "in" .null) = .str "query" then
    let name ← pyGet p "name" .null
    if pyHashable name then return keySet acc name p else throw .typeError
  else return acc

/-- Lines 540–541: `{p.get("name"): p for p in op.get("parameters", []) if p.get("in") == "query"}`. -/
def queryParams (op : JValue) : Py (List (JValue × JValue)) := do
  let params ← pyIter (← pyGet op "parameters" (.arr []))
  params.foldlM addQueryParam []

/-- Lines 546 and 567: `param.get("schema", {}).get("type")`. -/
def paramType (param : JValue) : Py JValue := do
  pyGet (← pyGet param "schema" (.obj [])) "type" .null

/-- Lines 547–553: the difference of a query parameter that Hadrian lacks. -/
def missingParamDiff (path : String) (name paramType : JValue) : SchemaDiff :=
  { path := path ++ " params", field := name, diffType := .missingInHadrian, openaiValue := paramType,
    description := "Query parameter '" ++ pyStr name ++ "' missing in Hadrian" }

/-- Lines 568–574: the difference of a query parameter that only Hadrian has. -/
def extensionParamDiff (path : String) (name paramType : JValue) : SchemaDiff :=
  { path := path ++ " params", field := name, diffType := .hadrianExtension,
    hadrianValue := paramType,
    description := "Query parameter '" ++ pyStr name ++ "' is a Hadrian extension" }

/-- Lines 543–562 for one OpenAI query parameter. -/
def missingParam (hadrianParams : List (JValue × JValue)) (path methodUpper : String)
    (name openaiParam : JValue) : Py Found := do
  if keyHas hadrianParams name then return ([], [])
  let diff := missingParamDiff path name (← paramType openaiParam)
  if isDocumented path methodUpper "param" name then return ([diff], [])
  return ([diff], [{
    violationType := "undocumented_missing", path := path, method := methodUpper, field := name,
    location := "param",
    message := "Query parameter '" ++ pyStr name ++
      "' is missing but not documented in DOCUMENTED_MISSING_FIELDS" }])

/-- Lines 564–583 for one Hadrian query parameter. -/
def extensionParam (openaiParams : List (JValue × JValue)) (path methodUpper : String)
    (name hadrianParam : JValue) : Py Found := do
  if keyHas openaiParams name then return ([], [])
  let diff := extensionParamDiff path name (← paramType hadrianParam)
  let description ← pyGet hadrianParam "description" (.str "")
  if ← pyContains description extensionMarker then return ([diff], [])
  return ([diff], [{
    violationType := "unmarked_extension", path := path, method := methodUpper, field := name,
    location := "param",
    message := "Query parameter '" ++ pyStr name ++ "' is a Hadrian extension but missing '" ++
      extensionMarker ++ "' in description" }])

/-- The parameter loops of lines 543 and 564, results in order. -/
def collectParams (f : JValue → JValue → Py Found) : List (JValue × JValue) → Py Found :=
  collectWith ([], []) Found.app f

/-- `_compare_endpoint` (lines 493–585). -/
def compareEndpoint (ho : HashOrder) (openaiSpec hadrianSpec : JValue) (n : Nat) (path method : String)
    (openaiOp hadrianOp : JValue) : StateT Caches Py (EndpointDiff × List Violation) := do
  let methodUpper := pyUpper method
  let openaiBody ← bodySchema openaiOp requestBodyKeys
  let hadrianBody ← bodySchema hadrianOp requestBodyKeys
  let (requestDiffs, requestViolations) ← compareBodies ho openaiSpec hadrianSpec n openaiBody
    hadrianBody (path ++ " request") path methodUpper "request"
  let openaiResp ← bodySchema openaiOp responseKeys
  let hadrianResp ← bodySchema hadrianOp responseKeys
  let (responseDiffs, responseViolations) ← compareBodies ho openaiSpec hadrianSpec n openaiResp
    hadrianResp (path ++ " response") path methodUpper "response"
  let openaiParams ← queryParams openaiOp
  let hadrianParams ← queryParams hadrianOp
  let (missingDiffs, missingViolations) ←
    collectParams (missingParam hadrianParams path methodUpper) openaiParams
  let (extensionDiffs, extensionViolations) ←
    collectParams (extensionParam openaiParams path methodUpper) hadrianParams
  let diff : EndpointDiff := {
    path := path, method := methodUpper, requestDiffs := requestDiffs,
    responseDiffs := responseDiffs, paramDiffs := missingDiffs ++ extensionDiffs }
  return (diff, requestViolations ++ responseViolations ++ missingViolations ++ extensionViolations)

end HadrianConformance
