import HadrianConformance.Checker.Scope
import HadrianConformance.Checker.Endpoint

/-!
# The conformance check

`check_conformance` of `scripts/openapi-conformance.py:362–452`: the loop over the OpenAI
paths and their methods, which fills a `ConformanceReport`, and the scan of the Hadrian paths
for extensions. The report and the two resolvers' caches are the loop's state.
-/

namespace HadrianConformance

/-- `ConformanceReport` (lines 151–164). -/
structure ConformanceReport where
  openaiVersion : JValue
  hadrianVersion : JValue
  totalOpenaiEndpoints : Nat
  totalHadrianEndpoints : Nat
  endpointsChecked : Nat
  fullyConformant : Nat
  endpointsWithDiffs : List EndpointDiff := []
  outOfScopeEndpoints : List String := []
  hadrianOnlyEndpoints : List String := []
  violations : List Violation := []
  deriving DecidableEq, Repr

/-- The methods of line 394, in order. -/
def httpMethods : List String := ["get", "post", "put", "patch", "delete"]

/-- `f in path` for two strings. -/
def pathContains (f path : String) : Bool := pyContains.infixOf f.data path.data

/-- `f in path` holds exactly when `path` is some text, then `f`, then some text. -/
theorem pathContains_iff (f path : String) :
    pathContains f path = true ↔ ∃ pre post : String, pre ++ f ++ post = path := by
  rw [pathContains, pyContains.infixOf_iff]
  constructor
  · rintro ⟨s, t, h⟩
    exact ⟨⟨s⟩, ⟨t⟩, String.ext (by simpa using h)⟩
  · rintro ⟨pre, post, rfl⟩
    exact ⟨pre.data, post.data, by simp⟩

/-- Line 385: `endpoint_filter and endpoint_filter not in openai_path`. -/
def filteredOut (endpointFilter : Option String) (openaiPath : String) : Bool :=
  match endpointFilter with
  | some f => f != "" && !pathContains f openaiPath
  | none => false

/-- Lines 403–416: the entry and the violation of an endpoint Hadrian lacks. -/
def missingEndpoint (openaiPath methodUpper : String) : EndpointDiff × Violation :=
  ({ path := openaiPath, method := methodUpper, missingInHadrian := true },
   { violationType := "missing_endpoint", path := openaiPath, method := methodUpper,
     message := "Endpoint " ++ methodUpper ++ " " ++ openaiPath ++ " is not implemented in Hadrian" })

/-- Whether an endpoint's comparison found a difference (line 427). -/
def EndpointDiff.hasDiffs (diff : EndpointDiff) : Bool :=
  !diff.requestDiffs.isEmpty || !diff.responseDiffs.isEmpty || !diff.paramDiffs.isEmpty

/-- Lines 421–430: a compared endpoint's result entered in the report. -/
def ConformanceReport.addCompared (report : ConformanceReport) (diff : EndpointDiff)
    (violations : List Violation) : ConformanceReport :=
  let report := { report with violations := report.violations ++ violations }
  if diff.hasDiffs then { report with endpointsWithDiffs := report.endpointsWithDiffs ++ [diff] }
  else { report with fullyConformant := report.fullyConformant + 1 }

/-- Lines 403–417: a missing endpoint entered in the report. -/
def ConformanceReport.addMissing (report : ConformanceReport) (openaiPath methodUpper : String) :
    ConformanceReport :=
  let (diff, violation) := missingEndpoint openaiPath methodUpper
  { report with endpointsWithDiffs := report.endpointsWithDiffs ++ [diff],
                violations := report.violations ++ [violation] }

section Loop

variable (ho : HashOrder) (openaiSpec hadrianSpec : JValue) (n : Nat)

/-- Lines 395–430: one method of one OpenAI path. -/
def checkMethod (openaiPath : String) (openaiMethods hadrianMethods : JValue)
    (st : ConformanceReport × Caches) (method : String) : Py (ConformanceReport × Caches) := do
  if (← pyContains openaiMethods method) && !isMethodOutOfScope openaiPath method then
    let report := { st.1 with endpointsChecked := st.1.endpointsChecked + 1 }
    if ← pyContains hadrianMethods method then
      let openaiOp ← pyIndex openaiMethods method
      let hadrianOp ← pyIndex hadrianMethods method
      let ((diff, violations), caches) ←
        compareEndpoint ho openaiSpec hadrianSpec n openaiPath method openaiOp hadrianOp st.2
      return (report.addCompared diff violations, caches)
    else return (report.addMissing openaiPath (pyUpper method), st.2)
  else return st

/-- Lines 377–430: one OpenAI path and its methods. -/
def checkPath (endpointFilter : Option String) (hadrianPaths : JValue)
    (st : ConformanceReport × Caches) (entry : String × JValue) : Py (ConformanceReport × Caches) :=
  if isOutOfScope entry.1 then
    pure ({ st.1 with outOfScopeEndpoints := st.1.outOfScopeEndpoints ++ [entry.1] }, st.2)
  else if filteredOut endpointFilter entry.1 then pure st
  else do
    let hadrianMethods ← pyGet hadrianPaths (hadrianPathFor entry.1) (.obj [])
    httpMethods.foldlM (checkMethod ho openaiSpec hadrianSpec n entry.1 entry.2 hadrianMethods) st

end Loop

/-- Lines 436–450 for one Hadrian path: neither an admin path, nor a mapped one, nor the
`/api/v1/` form of an OpenAI path. -/
def isHadrianOnly (openaiPaths : Dict) (hadrianPath : String) : Bool :=
  !startsWith hadrianPath "/admin/" && !pathMapping.any (·.2 == hadrianPath) &&
    startsWith hadrianPath "/api/v1/" &&
    !Dict.contains openaiPaths (pyReplace hadrianPath "/api/v1/" "/")

/-- Lines 436–450 for one Hadrian path: `.startswith` raises on a key that is not a string. -/
def hadrianOnlyStep (openaiPaths : Dict) (acc : List String) : JValue → Py (List String)
  | .str hadrianPath => pure (if isHadrianOnly openaiPaths hadrianPath then acc ++ [hadrianPath] else acc)
  | _ => throw .attributeError

/-- Lines 434–450: the Hadrian-only endpoints, in the Hadrian document's order. -/
def hadrianOnly (openaiPaths : Dict) (hadrianPaths : JValue) : Py (List String) := do
  let paths ← pyIter hadrianPaths
  paths.foldlM (hadrianOnlyStep openaiPaths) []

/-- What `check_conformance` reads before its loop: lines 364–374 and the `.items()` of
line 377. -/
structure Header where
  openaiVersion : JValue
  hadrianVersion : JValue
  totalOpenai : Nat
  totalHadrian : Nat
  openaiItems : Dict
  hadrianPaths : JValue

/-- Lines 364–377, in the order Python evaluates them. -/
def readHeader (openaiSpec hadrianSpec : JValue) : Py Header := do
  let openaiPaths ← pyGet openaiSpec "paths" (.obj [])
  let hadrianPaths ← pyGet hadrianSpec "paths" (.obj [])
  let openaiVersion ← pyGet (← pyGet openaiSpec "info" (.obj [])) "version" (.str "unknown")
  let hadrianVersion ← pyGet (← pyGet hadrianSpec "info" (.obj [])) "version" (.str "unknown")
  let totalOpenai ← pyLen openaiPaths
  let totalHadrian ← pyLen hadrianPaths
  return ⟨openaiVersion, hadrianVersion, totalOpenai, totalHadrian, ← pyItems openaiPaths,
    hadrianPaths⟩

/-- Lines 367–374: the report before the loop. -/
def Header.report (header : Header) : ConformanceReport :=
  { openaiVersion := header.openaiVersion, hadrianVersion := header.hadrianVersion,
    totalOpenaiEndpoints := header.totalOpenai, totalHadrianEndpoints := header.totalHadrian,
    endpointsChecked := 0, fullyConformant := 0 }

/-- `check_conformance` (lines 362–452), with `n` nested calls allowed to `resolve_schema`. -/
def checkConformance (ho : HashOrder) (n : Nat) (openaiSpec hadrianSpec : JValue)
    (endpointFilter : Option String) : StateT Caches Py ConformanceReport := fun caches => do
  let header ← readHeader openaiSpec hadrianSpec
  let (report, caches) ← header.openaiItems.foldlM
    (checkPath ho openaiSpec hadrianSpec n endpointFilter header.hadrianPaths) (header.report, caches)
  let hadrianOnlyEndpoints ← hadrianOnly header.openaiItems header.hadrianPaths
  return ({ report with hadrianOnlyEndpoints := hadrianOnlyEndpoints }, caches)

/-! ### Runs on small documents -/

/-- An operation whose `200` response has the JSON schema `schema`. -/
def okResponse (schema : JValue) : JValue :=
  .obj [("responses", .obj [("200", .obj [("content", .obj [("application/json",
    .obj [("schema", schema)])])])])]

/-- An OpenAI document with one endpoint, `GET /models`, whose response has no fields. -/
def modelsOpenai : JValue :=
  .obj [("paths", .obj [("/models", .obj [("get", okResponse (.obj [("properties", .obj [])]))])])]

/-- A Hadrian document whose `GET /api/v1/models` response has the one field `name`. -/
def modelsHadrianWith (name : String) (field : JValue) : JValue :=
  .obj [("paths", .obj [("/api/v1/models", .obj [("get",
    okResponse (.obj [("properties", .obj [(name, field)])]))])])]

/-- A nullable extension field written `oneOf: [{type: null}, {type: string}]` with the marker
in its own description is reported unmarked: the `oneOf` branch of `resolve_schema` keeps only
the option. -/
theorem checkConformance_oneOf_unmarked :
    (checkConformance HashOrder.inOrder 4 modelsOpenai
      (modelsHadrianWith "b" (.obj [
        ("oneOf", .arr [.obj [("type", .str "null")], .obj [("type", .str "string")]]),
        ("description", .str "**Hadrian Extension:** nullable")])) none ⟨[], []⟩).map
      (·.1.violations) =
    .ok [{
      violationType := "unmarked_extension", path := "/models", method := "GET", field := .str "b",
      location := "response",
      message := "Field 'b' is a Hadrian extension but missing '**Hadrian Extension:**' in description" }] := by
  decide

/-- An OpenAI document whose `GET /models` response is a `$ref` to the document's title. -/
def titleRefOpenai : JValue :=
  .obj [("info", .obj [("title", .str "API")]),
    ("paths", .obj [("/models", .obj [("get", okResponse (.obj [("$ref", .str "#/info/title")]))])])]

/-- A `$ref` to a string aborts the run with `dict("API")`'s `ValueError`, and a boolean schema
as an extension field with the `.get` of its description. -/
theorem checkConformance_malformed_raises :
    (checkConformance HashOrder.inOrder 4 titleRefOpenai (modelsHadrianWith "b" (.obj [])) none
      ⟨[], []⟩).map (·.1) = .error .valueError ∧
    (checkConformance HashOrder.inOrder 4 modelsOpenai (modelsHadrianWith "b" (.bool true)) none
      ⟨[], []⟩).map (·.1) = .error .attributeError := by
  decide

/-- The Hadrian counterpart of `/foo/api/v1/bar` is reported as Hadrian-only: the backward test
replaces every `/api/v1/`, not the prefix alone. -/
theorem checkConformance_mapped_path_reported :
    hadrianPathFor "/foo/api/v1/bar" = "/api/v1/foo/api/v1/bar" ∧
    (checkConformance HashOrder.inOrder 4 (.obj [("paths", .obj [("/foo/api/v1/bar", .obj [])])])
      (.obj [("paths", .obj [("/api/v1/foo/api/v1/bar", .obj [])])]) none ⟨[], []⟩).map
      (·.1.hadrianOnlyEndpoints) = .ok ["/api/v1/foo/api/v1/bar"] := by
  decide

/-- The backward test undoes the `/api/v1` prefix of a path with no inner `/api/v1/`. -/
theorem pyReplace_apiPrefix {openaiPath : String} (hslash : startsWith openaiPath "/")
    (hinner : pathContains "/api/v1/" openaiPath = false) :
    pyReplace ("/api/v1" ++ openaiPath) "/api/v1/" "/" = openaiPath := by
  obtain ⟨_ | ⟨c, rest⟩⟩ := openaiPath
  · simp [startsWith] at hslash
  · obtain rfl : '/' = c := by simpa [startsWith] using hslash
    have hrest : pyContains.infixOf "/api/v1/".data rest = false := by
      simp only [pathContains, pyContains.infixOf, Bool.or_eq_false_iff] at hinner
      exact hinner.2
    simp [pyReplace, replaceAux, List.isPrefixOf, replaceAux_of_not_infix _ _ _ _ hrest]

/-- Every path the Hadrian-only scan reports passes the test of lines 436–450. -/
theorem isHadrianOnly_of_mem_hadrianOnly {openaiPaths : Dict} {hadrianPaths : JValue}
    {result : List String} (h : hadrianOnly openaiPaths hadrianPaths = .ok result) :
    ∀ path ∈ result, isHadrianOnly openaiPaths path = true := by
  obtain ⟨paths, -, h₁⟩ := bind_eq_ok.mp h
  suffices scan : ∀ (paths : List JValue) (acc : List String),
      (∀ path ∈ acc, isHadrianOnly openaiPaths path = true) →
      paths.foldlM (hadrianOnlyStep openaiPaths) acc = .ok result →
      ∀ path ∈ result, isHadrianOnly openaiPaths path = true from
    scan paths [] (by simp) h₁
  intro paths
  induction paths with
  | nil => intro acc hacc h; cases h; exact hacc
  | cons p paths ih =>
    intro acc hacc h
    obtain ⟨acc', hstep, hrest⟩ := bind_eq_ok.mp h
    cases p with
    | str hadrianPath =>
      cases hstep
      refine ih _ (fun path hmem => ?_) hrest
      split at hmem
      · rcases List.mem_append.mp hmem with hmem | hmem
        · exact hacc path hmem
        · rw [List.mem_singleton.mp hmem]; assumption
      · exact hacc path hmem
    | _ => cases hstep

theorem readHeader_openaiItems {openaiSpec hadrianSpec : JValue} {header : Header} {openaiPaths : Dict}
    (h : readHeader openaiSpec hadrianSpec = .ok header)
    (hpaths : pyGet openaiSpec "paths" (.obj []) = .ok (.obj openaiPaths)) :
    header.openaiItems = openaiPaths := by
  simp only [readHeader, hpaths, ok_bind] at h
  obtain ⟨_, -, h₁⟩ := bind_eq_ok.mp h
  obtain ⟨_, -, h₂⟩ := bind_eq_ok.mp h₁
  obtain ⟨_, -, h₃⟩ := bind_eq_ok.mp h₂
  obtain ⟨_, -, h₄⟩ := bind_eq_ok.mp h₃
  obtain ⟨_, -, h₅⟩ := bind_eq_ok.mp h₄
  obtain ⟨_, -, h₆⟩ := bind_eq_ok.mp h₅
  obtain ⟨_, -, h₇⟩ := bind_eq_ok.mp h₆
  simp only [pyItems_obj, pure, Except.pure, Except.ok.injEq] at h₇
  cases h₇
  rfl

/-- The `/api/v1` form of an OpenAI path with no inner `/api/v1/` is never reported as a Hadrian
extension: on such paths the backward test is the inverse of the forward prefix rule. -/
theorem checkConformance_prefixed_path_not_reported {ho : HashOrder} {n : Nat}
    {openaiSpec hadrianSpec : JValue} {endpointFilter : Option String} {caches caches' : Caches}
    {report : ConformanceReport} {openaiPaths : Dict} {openaiPath : String}
    (h : checkConformance ho n openaiSpec hadrianSpec endpointFilter caches = .ok (report, caches'))
    (hpaths : pyGet openaiSpec "paths" (.obj []) = .ok (.obj openaiPaths))
    (hin : Dict.contains openaiPaths openaiPath = true) (hslash : startsWith openaiPath "/")
    (hinner : pathContains "/api/v1/" openaiPath = false) :
    "/api/v1" ++ openaiPath ∉ report.hadrianOnlyEndpoints := by
  obtain ⟨header, hheader, h₁⟩ := bind_eq_ok.mp h
  obtain ⟨_, -, h₂⟩ := bind_eq_ok.mp h₁
  obtain ⟨only, honly, h₃⟩ := bind_eq_ok.mp h₂
  cases h₃
  intro hmem
  have reported := isHadrianOnly_of_mem_hadrianOnly honly _ hmem
  simp [isHadrianOnly, pyReplace_apiPrefix hslash hinner, readHeader_openaiItems hheader hpaths,
    hin] at reported

theorem checkConformance_prefixed_path_not_reported_bar :
    let report : ConformanceReport := {
      openaiVersion := .str "unknown", hadrianVersion := .str "unknown", totalOpenaiEndpoints := 1,
      totalHadrianEndpoints := 1, endpointsChecked := 0, fullyConformant := 0 }
    checkConformance HashOrder.inOrder 4 (.obj [("paths", .obj [("/bar", .obj [])])])
        (.obj [("paths", .obj [("/api/v1/bar", .obj [])])]) none ⟨[], []⟩ = .ok (report, ⟨[], []⟩) ∧
      "/api/v1" ++ "/bar" ∉ report.hadrianOnlyEndpoints := by
  intro report
  have run : checkConformance HashOrder.inOrder 4 (.obj [("paths", .obj [("/bar", .obj [])])])
      (.obj [("paths", .obj [("/api/v1/bar", .obj [])])]) none ⟨[], []⟩ = .ok (report, ⟨[], []⟩) := by
    decide
  exact ⟨run, checkConformance_prefixed_path_not_reported run rfl (by decide) (by decide) (by decide)⟩

end HadrianConformance
