import HadrianConformance.Checker.Check
import HadrianConformance.Differ.Policy

/-!
# The report as the aggregate of the checked endpoints

`check_conformance` (`scripts/openapi-conformance.py:362–452`) keeps its counts and lists
up to date while it walks the OpenAI paths. The design reads the same loop as a list of
visits, one per out-of-scope path and one per checked (path, method) pair, each compared pair
with the differ's notes of its bodies and query parameters (`Differ/Policy`); the report is an
aggregate of the visits, and its violations are the policy's. `checkConformance_eq` shows that
the code computes exactly the design's report, for any two resolvers' states.
-/

namespace HadrianConformance

/-- The differ's notes of one compared endpoint. -/
structure EndpointNotes where
  request : List DiffNote
  response : List DiffNote
  params : List DiffNote
  deriving DecidableEq, Repr

/-- The endpoint entry that the notes of a compared endpoint give. -/
def EndpointNotes.toDiff (notes : EndpointNotes) (path methodUpper : String) : EndpointDiff :=
  { path := path, method := methodUpper, requestDiffs := notes.request.map DiffNote.diff,
    responseDiffs := notes.response.map DiffNote.diff, paramDiffs := notes.params.map DiffNote.diff }

/-- The policy's violations of a compared endpoint, request first, then response, then
parameters. -/
def EndpointNotes.violations (notes : EndpointNotes) (path methodUpper : String) : List Violation :=
  notes.request.filterMap (policy path methodUpper "request") ++
    notes.response.filterMap (policy path methodUpper "response") ++
    notes.params.filterMap (policy path methodUpper "param")

/-- One event of the endpoint loop (lines 377–430). -/
inductive Visit where
  | outOfScope (path : String)
  | missing (path methodUpper : String)
  | compared (path methodUpper : String) (notes : EndpointNotes)
  deriving DecidableEq, Repr

namespace Visit

/-- The OpenAI path of a visit. -/
def path : Visit → String
  | outOfScope path | missing path _ | compared path _ _ => path

/-- A checked (path, method) pair. -/
def isPair : Visit → Bool
  | outOfScope _ => false
  | _ => true

/-- A checked pair that Hadrian has, with no difference of any kind. -/
def conformant : Visit → Bool
  | compared path methodUpper notes => !(notes.toDiff path methodUpper).hasDiffs
  | _ => false

/-- The entry a visit adds to `endpoints_with_diffs`. -/
def entry : Visit → Option EndpointDiff
  | outOfScope _ => none
  | missing path methodUpper => some (missingEndpoint path methodUpper).1
  | compared path methodUpper notes =>
    let diff := notes.toDiff path methodUpper
    if diff.hasDiffs then some diff else none

/-- The violations a visit adds. -/
def violations : Visit → List Violation
  | outOfScope _ => []
  | missing path methodUpper => [(missingEndpoint path methodUpper).2]
  | compared path methodUpper notes => notes.violations path methodUpper

/-- The path a visit adds to `out_of_scope_endpoints`. -/
def outOfScopePath : Visit → Option String
  | outOfScope path => some path
  | _ => none

end Visit

/-- A visit entered in the report. -/
def ConformanceReport.record (report : ConformanceReport) (visit : Visit) : ConformanceReport :=
  { report with
    endpointsChecked := report.endpointsChecked + (if visit.isPair then 1 else 0),
    fullyConformant := report.fullyConformant + (if visit.conformant then 1 else 0),
    endpointsWithDiffs := report.endpointsWithDiffs ++ visit.entry.toList,
    outOfScopeEndpoints := report.outOfScopeEndpoints ++ visit.outOfScopePath.toList,
    violations := report.violations ++ visit.violations }

/-- Visits entered one after another: counted, and listed in order. -/
theorem ConformanceReport.foldl_record (visits : List Visit) (report : ConformanceReport) :
    visits.foldl ConformanceReport.record report =
      { report with
        endpointsChecked := report.endpointsChecked + visits.countP Visit.isPair,
        fullyConformant := report.fullyConformant + visits.countP Visit.conformant,
        endpointsWithDiffs := report.endpointsWithDiffs ++ visits.filterMap Visit.entry,
        outOfScopeEndpoints := report.outOfScopeEndpoints ++ visits.filterMap Visit.outOfScopePath,
        violations := report.violations ++ visits.flatMap Visit.violations } := by
  induction visits generalizing report with
  | nil => simp
  | cons visit visits ih =>
    rw [List.foldl_cons, ih]
    have filterMap_cons {β : Type} (f : Visit → Option β) :
        (visit :: visits).filterMap f = (f visit).toList ++ visits.filterMap f := by
      cases h : f visit <;> simp [List.filterMap_cons, h]
    simp only [ConformanceReport.record, List.countP_cons, filterMap_cons, List.flatMap_cons,
      List.append_assoc, ConformanceReport.mk.injEq, and_true, true_and]
    constructor <;> omega

section Design

variable {σ : Type} (ho : HashOrder) (resolveOpenai resolveHadrian : JValue → StateT σ Py JValue)

/-- Lines 509–520 and 526–537, as the differ sees them. -/
def bodyNotes (openaiBody hadrianBody : JValue) (context : String) :
    StateT σ Py (List DiffNote) := do
  if pyTruthy openaiBody && pyTruthy hadrianBody then
    let resolvedOpenai ← resolveOpenai openaiBody
    let resolvedHadrian ← resolveHadrian hadrianBody
    schemaNotes ho resolvedOpenai resolvedHadrian context
  else return []

/-- Lines 543–562 for one OpenAI query parameter, as the differ sees it. -/
def missingParamNote (hadrianParams : List (JValue × JValue)) (path : String)
    (name openaiParam : JValue) : Py (List DiffNote) := do
  if keyHas hadrianParams name then return []
  return [{ diff := missingParamDiff path name (← paramType openaiParam) }]

/-- Lines 564–583 for one Hadrian query parameter, as the differ sees it. -/
def extensionParamNote (openaiParams : List (JValue × JValue)) (path : String)
    (name hadrianParam : JValue) : Py (List DiffNote) := do
  if keyHas openaiParams name then return []
  let diff := extensionParamDiff path name (← paramType hadrianParam)
  let description ← pyGet hadrianParam "description" (.str "")
  return [{ diff := diff, marked := ← pyContains description extensionMarker }]

/-- `_compare_endpoint` (lines 493–585), as the differ sees it. -/
def endpointNotes (path : String) (openaiOp hadrianOp : JValue) : StateT σ Py EndpointNotes := do
  let openaiBody ← bodySchema openaiOp requestBodyKeys
  let hadrianBody ← bodySchema hadrianOp requestBodyKeys
  let request ← bodyNotes ho resolveOpenai resolveHadrian openaiBody hadrianBody (path ++ " request")
  let openaiResp ← bodySchema openaiOp responseKeys
  let hadrianResp ← bodySchema hadrianOp responseKeys
  let response ← bodyNotes ho resolveOpenai resolveHadrian openaiResp hadrianResp
    (path ++ " response")
  let openaiParams ← queryParams openaiOp
  let hadrianParams ← queryParams hadrianOp
  let missing ← collectWith [] (· ++ ·) (missingParamNote hadrianParams path) openaiParams
  let extension ← collectWith [] (· ++ ·) (extensionParamNote openaiParams path) hadrianParams
  return ⟨request, response, missing ++ extension⟩

/-- Lines 395–430: the visit of one method of an OpenAI path, if it is checked. -/
def methodVisits (openaiPath : String) (openaiMethods hadrianMethods : JValue) (method : String) :
    StateT σ Py (List Visit) := do
  if (← pyContains openaiMethods method) && !isMethodOutOfScope openaiPath method then
    if ← pyContains hadrianMethods method then
      let openaiOp ← pyIndex openaiMethods method
      let hadrianOp ← pyIndex hadrianMethods method
      let notes ← endpointNotes ho resolveOpenai resolveHadrian openaiPath openaiOp hadrianOp
      return [.compared openaiPath (pyUpper method) notes]
    else return [.missing openaiPath (pyUpper method)]
  else return []

/-- Lines 377–430: the visits of one OpenAI path. -/
def pathVisits (endpointFilter : Option String) (hadrianPaths : JValue) (entry : String × JValue) :
    StateT σ Py (List Visit) :=
  if isOutOfScope entry.1 then pure [.outOfScope entry.1]
  else if filteredOut endpointFilter entry.1 then pure []
  else do
    let hadrianMethods ← pyGet hadrianPaths (hadrianPathFor entry.1) (.obj [])
    let visits ← httpMethods.mapM (methodVisits ho resolveOpenai resolveHadrian entry.1 entry.2
      hadrianMethods)
    return visits.flatten

/-- The visits of the endpoint loop, in the order of the OpenAI document. -/
def loopVisits (endpointFilter : Option String) (hadrianPaths : JValue) (openaiItems : Dict) :
    StateT σ Py (List Visit) := do
  let visits ← openaiItems.mapM
    (pathVisits ho resolveOpenai resolveHadrian endpointFilter hadrianPaths)
  return visits.flatten

/-- The visits of a whole check. -/
def checkVisits (openaiSpec hadrianSpec : JValue) (endpointFilter : Option String) :
    StateT σ Py (List Visit) := do
  let header ← readHeader openaiSpec hadrianSpec
  loopVisits ho resolveOpenai resolveHadrian endpointFilter header.hadrianPaths header.openaiItems

/-- The report of the design: the header, the aggregate of the visits and the Hadrian-only
endpoints. -/
def designReport (openaiSpec hadrianSpec : JValue) (endpointFilter : Option String) :
    StateT σ Py ConformanceReport := do
  let header ← readHeader openaiSpec hadrianSpec
  let visits ← loopVisits ho resolveOpenai resolveHadrian endpointFilter header.hadrianPaths
    header.openaiItems
  let hadrianOnlyEndpoints ← hadrianOnly header.openaiItems header.hadrianPaths
  return { header.report with
    endpointsChecked := visits.countP Visit.isPair, fullyConformant := visits.countP Visit.conformant,
    endpointsWithDiffs := visits.filterMap Visit.entry,
    outOfScopeEndpoints := visits.filterMap Visit.outOfScopePath,
    hadrianOnlyEndpoints := hadrianOnlyEndpoints, violations := visits.flatMap Visit.violations }

end Design

/-! ### The code computes the design's report -/

/-- For a request or a response, comparing two bodies is the differ followed by the policy. -/
theorem compareBodies_eq (ho : HashOrder) (openaiSpec hadrianSpec : JValue) (n : Nat)
    (openaiBody hadrianBody : JValue) (context path methodUpper : String) {location : String}
    (hloc : location ≠ "param") :
    compareBodies ho openaiSpec hadrianSpec n openaiBody hadrianBody context path methodUpper
        location =
      notesFound path methodUpper location <$> bodyNotes ho (resolveOn .openai openaiSpec n)
        (resolveOn .hadrian hadrianSpec n) openaiBody hadrianBody context := by
  unfold compareBodies bodyNotes
  split
  · simp only [map_bind, compareSchemas_eq ho hloc, ResolveM.lift_map]
  · simp [notesFound]

section Params

variable {path methodUpper : String}

theorem notesFound_missingParam (hadrianParams : List (JValue × JValue)) (name param : JValue) :
    notesFound path methodUpper "param" <$> missingParamNote hadrianParams path name param =
      missingParam hadrianParams path methodUpper name param := by
  unfold missingParamNote missingParam
  cases keyHas hadrianParams name
  · cases paramType param with
    | error e => rfl
    | ok t =>
      by_cases hd : isDocumented path methodUpper "param" name <;>
        simp [notesFound, policy, fieldSubject, missingParamDiff, hd, pure, Except.pure]
  · rfl

theorem notesFound_extensionParam (openaiParams : List (JValue × JValue)) (name param : JValue) :
    notesFound path methodUpper "param" <$> extensionParamNote openaiParams path name param =
      extensionParam openaiParams path methodUpper name param := by
  unfold extensionParamNote extensionParam
  cases keyHas openaiParams name
  · simp only [Bool.false_eq_true, ite_false, pure_bind]
    cases paramType param with
    | error e => rfl
    | ok t =>
      simp only [ok_bind]
      cases pyGet param "description" (.str "") with
      | error e => rfl
      | ok description =>
        simp only [ok_bind]
        cases pyContains description extensionMarker with
        | error e => rfl
        | ok m =>
          cases m <;> simp [notesFound, policy, fieldSubject, extensionParamDiff, pure, Except.pure]
  · rfl

theorem notesFound_append (location : String) (a b : List DiffNote) :
    notesFound path methodUpper location (a ++ b) =
      Found.app (notesFound path methodUpper location a) (notesFound path methodUpper location b) := by
  simp [notesFound, Found.app]

theorem collectParams_missing (hadrianParams params : List (JValue × JValue)) :
    collectParams (missingParam hadrianParams path methodUpper) params =
      notesFound path methodUpper "param" <$>
        collectWith [] (· ++ ·) (missingParamNote hadrianParams path) params :=
  (map_collectWith (rfl : notesFound path methodUpper "param" [] = ([], []))
    (notesFound_append "param") (notesFound_missingParam hadrianParams) params).symm

theorem collectParams_extension (openaiParams params : List (JValue × JValue)) :
    collectParams (extensionParam openaiParams path methodUpper) params =
      notesFound path methodUpper "param" <$>
        collectWith [] (· ++ ·) (extensionParamNote openaiParams path) params :=
  (map_collectWith (rfl : notesFound path methodUpper "param" [] = ([], []))
    (notesFound_append "param") (notesFound_extensionParam openaiParams) params).symm

end Params

/-- `_compare_endpoint` is the differ followed by the policy: its entry holds the notes'
differences and its violations are the policy's. -/
theorem compareEndpoint_eq (ho : HashOrder) (openaiSpec hadrianSpec : JValue) (n : Nat)
    (path method : String) (openaiOp hadrianOp : JValue) :
    compareEndpoint ho openaiSpec hadrianSpec n path method openaiOp hadrianOp =
      (fun notes => (notes.toDiff path (pyUpper method), notes.violations path (pyUpper method))) <$>
        endpointNotes ho (resolveOn .openai openaiSpec n) (resolveOn .hadrian hadrianSpec n) path
          openaiOp hadrianOp := by
  unfold compareEndpoint endpointNotes
  simp only [compareBodies_eq ho _ _ _ _ _ _ _ _ (by decide : "request" ≠ "param"),
    compareBodies_eq ho _ _ _ _ _ _ _ _ (by decide : "response" ≠ "param"), collectParams_missing,
    collectParams_extension, map_bind, bind_map_left, map_pure, ResolveM.lift_map, notesFound,
    EndpointNotes.toDiff, EndpointNotes.violations, List.map_append, List.filterMap_append,
    List.append_assoc]

/-- A missing endpoint is entered as the code enters it. -/
theorem record_missing (report : ConformanceReport) (openaiPath methodUpper : String) :
    report.record (.missing openaiPath methodUpper) =
      ({ report with endpointsChecked := report.endpointsChecked + 1 }).addMissing openaiPath
        methodUpper := by
  simp [ConformanceReport.record, ConformanceReport.addMissing, Visit.isPair, Visit.conformant,
    Visit.entry, Visit.outOfScopePath, Visit.violations]

/-- A compared endpoint is entered as the code enters it. -/
theorem record_compared (report : ConformanceReport) (openaiPath methodUpper : String)
    (notes : EndpointNotes) :
    report.record (.compared openaiPath methodUpper notes) =
      ({ report with endpointsChecked := report.endpointsChecked + 1 }).addCompared
        (notes.toDiff openaiPath methodUpper) (notes.violations openaiPath methodUpper) := by
  unfold ConformanceReport.record ConformanceReport.addCompared
  cases h : (notes.toDiff openaiPath methodUpper).hasDiffs <;>
    simp [Visit.isPair, Visit.conformant, Visit.entry, Visit.outOfScopePath, Visit.violations, h]

section Loop

variable (ho : HashOrder) (openaiSpec hadrianSpec : JValue) (n : Nat)

/-- One method of the loop enters the method's visits. -/
theorem checkMethod_eq (openaiPath : String) (openaiMethods hadrianMethods : JValue)
    (report : ConformanceReport) (caches : Caches) (method : String) :
    checkMethod ho openaiSpec hadrianSpec n openaiPath openaiMethods hadrianMethods (report, caches)
        method =
      (fun q => (q.1.foldl ConformanceReport.record report, q.2)) <$>
        methodVisits ho (resolveOn .openai openaiSpec n) (resolveOn .hadrian hadrianSpec n)
          openaiPath openaiMethods hadrianMethods method caches := by
  unfold checkMethod methodVisits
  simp only [ResolveM.bind_apply, ResolveM.lift_apply, liftM, apply_ite, ResolveM.ite_apply,
    ResolveM.pure_apply, compareEndpoint_eq, ResolveM.map_apply, map_bind, bind_map_left, map_pure,
    List.foldl_cons, List.foldl_nil, record_missing, record_compared]

/-- A loop over `(record, state)` whose every step enters the results of one stateful
computation runs as all those computations, their results then entered in order. -/
theorem foldlM_record {α ρ ε σ : Type} (record : ρ → ε → ρ) {step : ρ × σ → α → Py (ρ × σ)}
    {g : α → ResolveM σ (List ε)}
    (h : ∀ r s a, step (r, s) a = (fun q => (q.1.foldl record r, q.2)) <$> g a s) :
    ∀ (l : List α) (r : ρ) (s : σ),
      l.foldlM step (r, s) = (fun q => (q.1.foldl record r, q.2)) <$> (List.flatten <$> l.mapM g) s
  | [], r, s => rfl
  | a :: l, r, s => by
    simp only [List.foldlM_cons, h, bind_map_left, foldlM_record record h l, List.mapM_cons,
      ResolveM.map_apply, ResolveM.bind_apply, ResolveM.pure_apply, map_bind, map_pure,
      List.flatten_cons, List.foldl_append, Functor.map_map]
    simp only [map_eq_pure_bind]

/-- One path of the loop enters the path's visits. -/
theorem checkPath_eq (endpointFilter : Option String) (hadrianPaths : JValue)
    (report : ConformanceReport) (caches : Caches) (entry : String × JValue) :
    checkPath ho openaiSpec hadrianSpec n endpointFilter hadrianPaths (report, caches) entry =
      (fun q => (q.1.foldl ConformanceReport.record report, q.2)) <$>
        pathVisits ho (resolveOn .openai openaiSpec n) (resolveOn .hadrian hadrianSpec n)
          endpointFilter hadrianPaths entry caches := by
  unfold checkPath pathVisits
  split
  · simp [ConformanceReport.record, Visit.isPair, Visit.conformant, Visit.entry,
      Visit.outOfScopePath, Visit.violations]
  · split
    · simp
    · simp only [ResolveM.bind_apply, ResolveM.lift_apply, liftM, map_bind, bind_map_left,
        foldlM_record ConformanceReport.record (checkMethod_eq ho openaiSpec hadrianSpec n _ _ _),
        ResolveM.map_apply, ResolveM.pure_apply, map_pure, Functor.map_map]
      simp only [map_eq_pure_bind]

/-- The code computes the design's report. -/
theorem checkConformance_eq (endpointFilter : Option String) :
    checkConformance ho n openaiSpec hadrianSpec endpointFilter =
      designReport ho (resolveOn .openai openaiSpec n) (resolveOn .hadrian hadrianSpec n) openaiSpec
        hadrianSpec endpointFilter := by
  funext caches
  unfold checkConformance designReport loopVisits
  simp only [ResolveM.bind_apply, ResolveM.lift_apply, liftM, map_bind, bind_map_left,
    foldlM_record ConformanceReport.record (checkPath_eq ho openaiSpec hadrianSpec n endpointFilter _),
    ResolveM.map_apply, ResolveM.pure_apply, map_pure, Functor.map_map,
    ConformanceReport.foldl_record, bind_assoc, pure_bind, Header.report, Nat.zero_add,
    List.nil_append]

end Loop

/-! ### What the report says -/

/-- A design report that returned: its counts and lists are those of the check's visits. -/
theorem designReport_eq_ok {σ : Type} {ho : HashOrder}
    {resolveOpenai resolveHadrian : JValue → StateT σ Py JValue} {openaiSpec hadrianSpec : JValue}
    {endpointFilter : Option String} {s s' : σ} {report : ConformanceReport}
    (h : designReport ho resolveOpenai resolveHadrian openaiSpec hadrianSpec endpointFilter s =
      .ok (report, s')) :
    ∃ visits, checkVisits ho resolveOpenai resolveHadrian openaiSpec hadrianSpec endpointFilter s =
        .ok (visits, s') ∧
      report.endpointsChecked = visits.countP Visit.isPair ∧
      report.fullyConformant = visits.countP Visit.conformant ∧
      report.endpointsWithDiffs = visits.filterMap Visit.entry ∧
      report.outOfScopeEndpoints = visits.filterMap Visit.outOfScopePath ∧
      report.violations = visits.flatMap Visit.violations := by
  unfold designReport at h
  obtain ⟨header, s₁, hh, h₁⟩ := ResolveM.bind_eq_ok.mp h
  obtain ⟨hheader, rfl⟩ := ResolveM.lift_eq_ok.mp hh
  obtain ⟨visits, s₂, hv, h₂⟩ := ResolveM.bind_eq_ok.mp h₁
  obtain ⟨only, s₃, honly, h₃⟩ := ResolveM.bind_eq_ok.mp h₂
  obtain ⟨-, rfl⟩ := ResolveM.lift_eq_ok.mp honly
  cases h₃
  refine ⟨visits, ?_, rfl, rfl, rfl, rfl, rfl⟩
  simpa only [checkVisits, ResolveM.bind_apply, ResolveM.lift_apply, liftM, hheader, map_ok, ok_bind]

/-- An entry of `endpoints_with_diffs` is a missing endpoint with no differences, or a compared
one with some. -/
def EndpointDiff.WellFormed (diff : EndpointDiff) : Prop :=
  (diff.missingInHadrian = true ∧ diff.requestDiffs = [] ∧ diff.responseDiffs = [] ∧
    diff.paramDiffs = []) ∨
  (diff.missingInHadrian = false ∧ diff.hasDiffs = true)

theorem Visit.entry_wellFormed : ∀ (visit : Visit) (diff : EndpointDiff), visit.entry = some diff →
    diff.WellFormed
  | .outOfScope _, _, h => by cases h
  | .missing _ _, _, h => by
    cases h
    exact .inl ⟨rfl, rfl, rfl, rfl⟩
  | .compared path methodUpper notes, diff, h => by
    simp only [Visit.entry] at h
    split at h
    · cases h
      exact .inr ⟨rfl, ‹_›⟩
    · cases h

/-- Every checked pair is fully conformant or has an entry. -/
theorem Visit.countP_isPair (visits : List Visit) :
    visits.countP Visit.isPair =
      visits.countP Visit.conformant + (visits.filterMap Visit.entry).length := by
  induction visits with
  | nil => rfl
  | cons visit visits ih =>
    cases visit with
    | outOfScope path => simp [Visit.isPair, Visit.conformant, Visit.entry, ih]
    | missing path methodUpper =>
      simp [Visit.isPair, Visit.conformant, Visit.entry, ih]
      omega
    | compared path methodUpper notes =>
      cases h : (notes.toDiff path methodUpper).hasDiffs <;>
        simp [Visit.isPair, Visit.conformant, Visit.entry, h, ih] <;> omega

/-- Every violation of a check is the policy's verdict on one of the differences the differ
finds, or the violation of a missing endpoint, in the order of the checked pairs; the entries
of `endpoints_with_diffs` are those of the same pairs. -/
theorem checkConformance_violations_policy {ho : HashOrder} {n : Nat}
    {openaiSpec hadrianSpec : JValue} {endpointFilter : Option String} {caches caches' : Caches}
    {report : ConformanceReport}
    (h : checkConformance ho n openaiSpec hadrianSpec endpointFilter caches = .ok (report, caches')) :
    ∃ visits, checkVisits ho (resolveOn .openai openaiSpec n) (resolveOn .hadrian hadrianSpec n)
        openaiSpec hadrianSpec endpointFilter caches = .ok (visits, caches') ∧
      report.endpointsWithDiffs = visits.filterMap Visit.entry ∧
      report.violations = visits.flatMap Visit.violations := by
  rw [checkConformance_eq] at h
  obtain ⟨visits, hv, -, -, hentries, -, hviolations⟩ := designReport_eq_ok h
  exact ⟨visits, hv, hentries, hviolations⟩

/-- An OpenAI document with a response field `a`, an endpoint Hadrian lacks and an
out-of-scope path. -/
def demoOpenai : JValue := .obj [("paths", .obj [
  ("/models", .obj [("get",
    okResponse (.obj [("properties", .obj [("a", .obj [("type", .str "string")])])]))]),
  ("/files", .obj [("post", .obj [])]),
  ("/threads", .obj [])])]

/-- A Hadrian document with `GET /api/v1/models` and no response fields. -/
def demoHadrian : JValue := .obj [("paths", .obj [
  ("/api/v1/models", .obj [("get", okResponse (.obj [("properties", .obj [])]))])])]

/-- The report of `demoOpenai` against `demoHadrian`. -/
def demoReport : ConformanceReport := {
  openaiVersion := .str "unknown", hadrianVersion := .str "unknown",
  totalOpenaiEndpoints := 3, totalHadrianEndpoints := 1, endpointsChecked := 2, fullyConformant := 0,
  endpointsWithDiffs := [
    { path := "/models", method := "GET", responseDiffs := [{
        path := "/models response", field := .str "a", diffType := .missingInHadrian,
        openaiValue := .str "string", description := "Field 'a' (string) missing in Hadrian" }] },
    { path := "/files", method := "POST", missingInHadrian := true }],
  outOfScopeEndpoints := ["/threads"],
  violations := [
    { violationType := "undocumented_missing", path := "/models", method := "GET", field := .str "a",
      location := "response",
      message := "Field 'a' is missing but not documented in DOCUMENTED_MISSING_FIELDS" },
    { violationType := "missing_endpoint", path := "/files", method := "POST",
      message := "Endpoint POST /files is not implemented in Hadrian" }] }

theorem checkConformance_demoReport :
    checkConformance HashOrder.inOrder 4 demoOpenai demoHadrian none ⟨[], []⟩ =
      .ok (demoReport, ⟨[], []⟩) := by
  decide

/-- An OpenAI document whose `GET /models` response has `id` and `object`, and `POST /files`. -/
def acceptedOpenai : JValue := .obj [("paths", .obj [
  ("/models", .obj [("get", okResponse (.obj [("properties", .obj [
    ("id", .obj [("type", .str "string")]), ("object", .obj [("type", .str "string")])])]))]),
  ("/files", .obj [("post", .obj [])])])]

/-- A Hadrian document with both endpoints, its `GET /api/v1/models` response lacking `object`,
a field that `DOCUMENTED_MISSING_FIELDS` lists. -/
def acceptedHadrian : JValue := .obj [("paths", .obj [
  ("/api/v1/models", .obj [("get", okResponse (.obj [("properties", .obj [
    ("id", .obj [("type", .str "string")])])]))]),
  ("/api/v1/files", .obj [("post", .obj [])])])]

/-- The report of `acceptedOpenai` against `acceptedHadrian`: `POST /files` is fully
conformant, and the missing `object` is an entry but no violation. -/
def acceptedReport : ConformanceReport := {
  openaiVersion := .str "unknown", hadrianVersion := .str "unknown",
  totalOpenaiEndpoints := 2, totalHadrianEndpoints := 2, endpointsChecked := 2, fullyConformant := 1,
  endpointsWithDiffs := [
    { path := "/models", method := "GET", responseDiffs := [{
        path := "/models response", field := .str "object", diffType := .missingInHadrian,
        openaiValue := .str "string", description := "Field 'object' (string) missing in Hadrian" }] }] }

theorem checkConformance_acceptedReport :
    checkConformance HashOrder.inOrder 4 acceptedOpenai acceptedHadrian none ⟨[], []⟩ =
      .ok (acceptedReport, ⟨[], []⟩) := by
  decide

theorem checkConformance_violations_policy_demo :
    (∃ visits, checkVisits HashOrder.inOrder (resolveOn .openai demoOpenai 4)
        (resolveOn .hadrian demoHadrian 4) demoOpenai demoHadrian none ⟨[], []⟩ =
          .ok (visits, ⟨[], []⟩) ∧
      demoReport.endpointsWithDiffs = visits.filterMap Visit.entry ∧
      demoReport.violations = visits.flatMap Visit.violations) ∧
    ∃ visits, checkVisits HashOrder.inOrder (resolveOn .openai acceptedOpenai 4)
        (resolveOn .hadrian acceptedHadrian 4) acceptedOpenai acceptedHadrian none ⟨[], []⟩ =
          .ok (visits, ⟨[], []⟩) ∧
      acceptedReport.endpointsWithDiffs = visits.filterMap Visit.entry ∧
      acceptedReport.violations = visits.flatMap Visit.violations :=
  ⟨checkConformance_violations_policy checkConformance_demoReport,
    checkConformance_violations_policy checkConformance_acceptedReport⟩

/-- The counts of a check add up: every checked pair is fully conformant or has an entry, an
entry is a missing endpoint or has differences, and the fully conformant pairs are the
compared ones with no difference of any kind. -/
theorem checkConformance_counts {ho : HashOrder} {n : Nat} {openaiSpec hadrianSpec : JValue}
    {endpointFilter : Option String} {caches caches' : Caches} {report : ConformanceReport}
    (h : checkConformance ho n openaiSpec hadrianSpec endpointFilter caches = .ok (report, caches')) :
    report.endpointsChecked = report.fullyConformant + report.endpointsWithDiffs.length ∧
    (∀ diff ∈ report.endpointsWithDiffs, diff.WellFormed) ∧
    ∃ visits, checkVisits ho (resolveOn .openai openaiSpec n) (resolveOn .hadrian hadrianSpec n)
        openaiSpec hadrianSpec endpointFilter caches = .ok (visits, caches') ∧
      report.endpointsChecked = visits.countP Visit.isPair ∧
      report.fullyConformant = visits.countP Visit.conformant := by
  rw [checkConformance_eq] at h
  obtain ⟨visits, hv, hchecked, hfully, hentries, -, -⟩ := designReport_eq_ok h
  refine ⟨by rw [hchecked, hfully, hentries, Visit.countP_isPair], ?_, visits, hv, hchecked, hfully⟩
  intro diff hdiff
  rw [hentries, List.mem_filterMap] at hdiff
  obtain ⟨visit, -, hvisit⟩ := hdiff
  exact visit.entry_wellFormed diff hvisit

theorem checkConformance_counts_demo :
    (demoReport.endpointsChecked = demoReport.fullyConformant + demoReport.endpointsWithDiffs.length ∧
    (∀ diff ∈ demoReport.endpointsWithDiffs, diff.WellFormed) ∧
    ∃ visits, checkVisits HashOrder.inOrder (resolveOn .openai demoOpenai 4)
        (resolveOn .hadrian demoHadrian 4) demoOpenai demoHadrian none ⟨[], []⟩ =
          .ok (visits, ⟨[], []⟩) ∧
      demoReport.endpointsChecked = visits.countP Visit.isPair ∧
      demoReport.fullyConformant = visits.countP Visit.conformant) ∧
    (acceptedReport.endpointsChecked =
      acceptedReport.fullyConformant + acceptedReport.endpointsWithDiffs.length ∧
    (∀ diff ∈ acceptedReport.endpointsWithDiffs, diff.WellFormed) ∧
    ∃ visits, checkVisits HashOrder.inOrder (resolveOn .openai acceptedOpenai 4)
        (resolveOn .hadrian acceptedHadrian 4) acceptedOpenai acceptedHadrian none ⟨[], []⟩ =
          .ok (visits, ⟨[], []⟩) ∧
      acceptedReport.endpointsChecked = visits.countP Visit.isPair ∧
      acceptedReport.fullyConformant = visits.countP Visit.conformant) :=
  ⟨checkConformance_counts checkConformance_demoReport,
    checkConformance_counts checkConformance_acceptedReport⟩

/-! ### When a check passes -/

/-- A difference the CI accepts: a missing field that `DOCUMENTED_MISSING_FIELDS` lists, an
extension whose description has the marker, or a type or required mismatch. -/
def DiffNote.accepted (path methodUpper location : String) (note : DiffNote) : Bool :=
  match note.diff.diffType with
  | .missingInHadrian => isDocumented path methodUpper location note.diff.field
  | .hadrianExtension => note.marked
  | _ => true

/-- A visit the CI accepts: an out-of-scope path, or a compared pair all of whose differences
it accepts. -/
def Visit.accepted : Visit → Bool
  | .outOfScope _ => true
  | .missing _ _ => false
  | .compared path methodUpper notes =>
    notes.request.all (DiffNote.accepted path methodUpper "request") &&
      notes.response.all (DiffNote.accepted path methodUpper "response") &&
      notes.params.all (DiffNote.accepted path methodUpper "param")

theorem policy_eq_none {path methodUpper location : String} {note : DiffNote} :
    policy path methodUpper location note = none ↔ note.accepted path methodUpper location = true := by
  unfold policy DiffNote.accepted
  cases note.diff.diffType <;> simp

theorem filterMap_policy_eq_nil (path methodUpper location : String) (notes : List DiffNote) :
    notes.filterMap (policy path methodUpper location) = [] ↔
      notes.all (DiffNote.accepted path methodUpper location) = true := by
  simp only [List.filterMap_eq_nil_iff, List.all_eq_true, policy_eq_none]

theorem Visit.violations_eq_nil (visit : Visit) : visit.violations = [] ↔ visit.accepted = true := by
  cases visit with
  | outOfScope => simp [Visit.violations, Visit.accepted]
  | missing => simp [Visit.violations, Visit.accepted]
  | compared path methodUpper notes =>
    simp only [Visit.violations, EndpointNotes.violations, List.append_eq_nil, filterMap_policy_eq_nil,
      Visit.accepted, Bool.and_eq_true]

/-- A check reports no violation exactly when Hadrian has every checked endpoint, every field or
query parameter it lacks is documented, and every field or query parameter only it has carries
the marker; type and required mismatches never make one. -/
theorem checkConformance_violations_nil_iff {ho : HashOrder} {n : Nat} {openaiSpec hadrianSpec : JValue}
    {endpointFilter : Option String} {caches caches' : Caches} {report : ConformanceReport}
    (h : checkConformance ho n openaiSpec hadrianSpec endpointFilter caches = .ok (report, caches')) :
    ∃ visits, checkVisits ho (resolveOn .openai openaiSpec n) (resolveOn .hadrian hadrianSpec n)
        openaiSpec hadrianSpec endpointFilter caches = .ok (visits, caches') ∧
      (report.violations = [] ↔ visits.all Visit.accepted = true) := by
  rw [checkConformance_eq] at h
  obtain ⟨visits, hv, -, -, -, -, hviolations⟩ := designReport_eq_ok h
  refine ⟨visits, hv, ?_⟩
  simp only [hviolations, List.flatMap_eq_nil_iff, Visit.violations_eq_nil, List.all_eq_true]

theorem checkConformance_violations_nil_iff_demo :
    ∃ visits, checkVisits HashOrder.inOrder (resolveOn .openai demoOpenai 4)
        (resolveOn .hadrian demoHadrian 4) demoOpenai demoHadrian none ⟨[], []⟩ =
          .ok (visits, ⟨[], []⟩) ∧
      (demoReport.violations = [] ↔ visits.all Visit.accepted = true) :=
  checkConformance_violations_nil_iff checkConformance_demoReport

end HadrianConformance
