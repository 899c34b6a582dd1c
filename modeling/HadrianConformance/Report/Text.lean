import HadrianConformance.Checker.Independence
import HadrianConformance.Report.Json
import Mathlib.Data.List.Perm.Basic

/-!
# The text report and `main`

`format_text_report` (`scripts/openapi-conformance.py:753–864`) renders a report as lines
joined by newlines: the summary, the endpoints with differences, the Hadrian-only paths, the
CI VIOLATIONS section grouped by violation type, and a legend of the difference icons. `main`
(lines 921–997) runs the check on the two loaded documents, prints one of the two reports and
exits with status 1 when there is a violation; its argument parsing and file handling are
left out.

Two facts tie the text to the check that produced the report. The three groups of the CI
VIOLATIONS section are filters by type, so they list every violation exactly once only because
the policy and the missing endpoints make violations of those three types alone. And the query
parameter lines use an icon that tells two kinds apart (line 806) where the body lines tell four
(lines 787–792); it agrees with the legend because parameter differences are only ever missing
or extension.
-/

namespace HadrianConformance

/-! ### The text, from the source -/

/-- `"=" * 70` and `"-" * 70`. -/
def ruleLine (c : Char) : String := ⟨List.replicate 70 c⟩

/-- Lines 787–792: the icon of a request or response difference. -/
def bodyIcon (diffType : DiffType) : String :=
  let icon := if diffType = .missingInHadrian then "[-]" else "[+]"
  if diffType = .typeMismatch then "[~]"
  else if diffType = .requiredMismatch then "[!]"
  else icon

/-- Line 806: the icon of a query parameter difference. -/
def paramIcon (diffType : DiffType) : String :=
  if diffType = .missingInHadrian then "[-]" else "[+]"

/-- Lines 784–807: one list of an endpoint's differences under its heading, each shown with the
icon `icon` gives its type. -/
def diffSection (heading : String) (icon : DiffType → String) (diffs : List SchemaDiff) :
    List String :=
  if diffs.isEmpty then []
  else ("  " ++ heading) :: diffs.map fun diff => "    " ++ icon diff.diffType ++ " " ++ diff.description

/-- Lines 777–807: the lines of one entry of `endpoints_with_diffs`. -/
def endpointLines (diff : EndpointDiff) : List String :=
  ("\n" ++ diff.method ++ " " ++ diff.path) ::
    if diff.missingInHadrian then ["  [MISSING] Endpoint not implemented in Hadrian"]
    else diffSection "Request body differences:" bodyIcon diff.requestDiffs ++
      diffSection "Response body differences:" bodyIcon diff.responseDiffs ++
      diffSection "Query parameter differences:" paramIcon diff.paramDiffs

/-- Line 832: a missing endpoint under CI VIOLATIONS. -/
def missingEndpointLine (violation : Violation) : String :=
  "  - " ++ violation.method ++ " " ++ violation.path

/-- Lines 838 and 844: a field violation under CI VIOLATIONS. -/
def fieldViolationLine (violation : Violation) : String :=
  "  - " ++ violation.method ++ " " ++ violation.path ++ " [" ++ violation.location ++ "] " ++
    pyStr violation.field

/-- Lines 824–826: the violations of one type, in order. -/
def violationsOfType (violationType : String) (violations : List Violation) : List Violation :=
  violations.filter (·.violationType == violationType)

/-- Lines 828–844: one group of violations under its title, when it has any. -/
def violationGroup (title : String) (line : Violation → String) (violations : List Violation) :
    List String :=
  if violations.isEmpty then [] else "" :: title :: violations.map line

/-- Lines 815–853: the CI VIOLATIONS section, or the PASS banner. -/
def violationsSection (violations : List Violation) : List String :=
  if violations.isEmpty then ["", ruleLine '=', "CI STATUS: PASS (no violations)", ruleLine '=']
  else
    ["", ruleLine '=', "CI VIOLATIONS (will cause CI to fail)", ruleLine '='] ++
    violationGroup "Missing Endpoints (must be implemented):" missingEndpointLine
      (violationsOfType "missing_endpoint" violations) ++
    violationGroup "Undocumented Missing Fields (add to DOCUMENTED_MISSING_FIELDS):"
      fieldViolationLine (violationsOfType "undocumented_missing" violations) ++
    violationGroup ("Unmarked Extensions (add '" ++ extensionMarker ++ "' to description):")
      fieldViolationLine (violationsOfType "unmarked_extension" violations) ++
    ["", "Total violations: " ++ toString violations.length]

/-- Lines 755–770: the title, the versions and the summary counts. -/
def summaryLines (report : ConformanceReport) : List String :=
  [ruleLine '=', "OpenAPI Conformance Report", ruleLine '=',
    "OpenAI spec version: " ++ pyStr report.openaiVersion,
    "Hadrian spec version: " ++ pyStr report.hadrianVersion, "", "Summary:",
    "  - OpenAI endpoints: " ++ toString report.totalOpenaiEndpoints,
    "  - Hadrian endpoints: " ++ toString report.totalHadrianEndpoints,
    "  - Endpoints checked: " ++ toString report.endpointsChecked,
    "  - Fully conformant: " ++ toString report.fullyConformant,
    "  - With differences: " ++ toString report.endpointsWithDiffs.length,
    "  - Out of scope: " ++ toString report.outOfScopeEndpoints.length,
    "  - Hadrian-only (extensions): " ++ toString report.hadrianOnlyEndpoints.length, ""]

/-- Lines 856–862. -/
def legendLines : List String :=
  ["", "Legend:", "  [-] Missing in Hadrian", "  [+] Hadrian extension", "  [~] Type mismatch",
    "  [!] Required/optional mismatch"]

/-- The lines of `format_text_report`, in order. -/
def reportLines (report : ConformanceReport) : List String :=
  summaryLines report ++
    (if report.endpointsWithDiffs.isEmpty then []
    else [ruleLine '-', "Endpoints with Differences:", ruleLine '-'] ++
      report.endpointsWithDiffs.flatMap endpointLines) ++
    (if report.hadrianOnlyEndpoints.isEmpty then []
    else ["", ruleLine '-', "Hadrian Extension Endpoints:", ruleLine '-'] ++
      report.hadrianOnlyEndpoints.map ("  [+] " ++ ·)) ++
    violationsSection report.violations ++ legendLines

/-- `format_text_report` (lines 753–864). -/
def formatTextReport (report : ConformanceReport) : String :=
  "\n".intercalate (reportLines report)

/-- `--format` (lines 926–931). -/
inductive ReportFormat where
  | text
  | json
  deriving DecidableEq, Repr

/-- Lines 980–994 of `main`, once both documents are loaded: the check, what is printed (the
dict `json.dumps` prints, or the text) and the exit status, 1 on any violation. -/
def runMain (ho : HashOrder) (n : Nat) (format : ReportFormat) (endpointFilter : Option String)
    (openaiSpec hadrianSpec : JValue) : Py ((JValue ⊕ String) × Nat) := do
  let caches ← ConformanceChecker.init openaiSpec hadrianSpec
  let (report, _) ← checkConformance ho n openaiSpec hadrianSpec endpointFilter caches
  let printed : JValue ⊕ String := match format with
    | .json => .inl (formatJsonReport report)
    | .text => .inr (formatTextReport report)
  return (printed, if report.violations.isEmpty then 0 else 1)

/-- The icons of the legend (lines 859–862). -/
def legendIcon : DiffType → String
  | .missingInHadrian => "[-]"
  | .hadrianExtension => "[+]"
  | .typeMismatch => "[~]"
  | .requiredMismatch => "[!]"

/-! ### Icons -/

theorem bodyIcon_eq_legendIcon (diffType : DiffType) : bodyIcon diffType = legendIcon diffType := by
  cases diffType <;> rfl

theorem paramIcon_eq_legendIcon {diffType : DiffType}
    (h : diffType = .missingInHadrian ∨ diffType = .hadrianExtension) :
    paramIcon diffType = legendIcon diffType := by
  rcases h with rfl | rfl <;> rfl

example : paramIcon .typeMismatch ≠ legendIcon .typeMismatch := by decide

/-- A section of differences shown with two icons that agree on its differences' types. -/
theorem diffSection_congr {heading : String} {icon₁ icon₂ : DiffType → String} {diffs : List SchemaDiff}
    (h : ∀ diff ∈ diffs, icon₁ diff.diffType = icon₂ diff.diffType) :
    diffSection heading icon₁ diffs = diffSection heading icon₂ diffs := by
  unfold diffSection
  split
  · rfl
  · rw [List.map_congr_left fun diff hdiff => by rw [h diff hdiff]]

/-! ### Every violation in one group -/

/-- The policy's violations are undocumented missing fields and unmarked extensions. -/
theorem policy_violationType {path methodUpper location : String} {note : DiffNote}
    {violation : Violation} (h : policy path methodUpper location note = some violation) :
    violation.violationType = "undocumented_missing" ∨ violation.violationType = "unmarked_extension" := by
  unfold policy at h
  split at h <;> (try split at h) <;> cases h <;> simp

/-- The missing endpoints of a visit, among its entry and among its violations. -/
theorem Visit.missing_entries_violations (visit : Visit) :
    (visit.entry.toList.filter (·.missingInHadrian)).map (fun diff => (diff.method, diff.path)) =
      (violationsOfType "missing_endpoint" visit.violations).map
        (fun violation => (violation.method, violation.path)) := by
  cases visit with
  | outOfScope => rfl
  | missing => rfl
  | compared path methodUpper notes =>
    have hnone : violationsOfType "missing_endpoint" (Visit.compared path methodUpper notes).violations = [] := by
      refine List.filter_eq_nil_iff.mpr fun violation hv => ?_
      simp only [Visit.violations, EndpointNotes.violations, List.mem_append, List.mem_filterMap] at hv
      rcases hv with (⟨_, -, hp⟩ | ⟨_, -, hp⟩) | ⟨_, -, hp⟩ <;>
        rcases policy_violationType hp with h | h <;> simp [h]
    rw [hnone]
    simp only [Visit.entry]
    split <;> rfl

/-- The missing endpoints of a list of visits, among its entries and among its violations. -/
theorem Visit.missing_entries_violations_list (visits : List Visit) :
    ((visits.filterMap Visit.entry).filter (·.missingInHadrian)).map (fun diff => (diff.method, diff.path)) =
      (violationsOfType "missing_endpoint" (visits.flatMap Visit.violations)).map
        (fun violation => (violation.method, violation.path)) := by
  induction visits with
  | nil => rfl
  | cons visit visits ih =>
    have hfilterMap : (visit :: visits).filterMap Visit.entry =
        visit.entry.toList ++ visits.filterMap Visit.entry := by
      cases h : visit.entry <;> simp [List.filterMap_cons, h]
    simp only [violationsOfType] at ih ⊢
    rw [hfilterMap, List.flatMap_cons, List.filter_append, List.filter_append, List.map_append,
      List.map_append, ih]
    exact congrArg (· ++ _) visit.missing_entries_violations

/-- The missing endpoints of a check's report are listed twice in its text, in the same order:
as the `[MISSING]` entries under Endpoints with Differences, and under Missing Endpoints in the
CI VIOLATIONS section. -/
theorem checkConformance_missing_listed {ho : HashOrder} {n : Nat} {openaiSpec hadrianSpec : JValue}
    {endpointFilter : Option String} {caches caches' : Caches} {report : ConformanceReport}
    (h : checkConformance ho n openaiSpec hadrianSpec endpointFilter caches = .ok (report, caches')) :
    (report.endpointsWithDiffs.filter (·.missingInHadrian)).map (fun diff => (diff.method, diff.path)) =
      (violationsOfType "missing_endpoint" report.violations).map
        (fun violation => (violation.method, violation.path)) := by
  rw [checkConformance_eq] at h
  obtain ⟨visits, -, -, -, hentries, -, hviolations⟩ := designReport_eq_ok h
  rw [hentries, hviolations]
  exact Visit.missing_entries_violations_list visits

theorem checkConformance_missing_listed_demo :
    (demoReport.endpointsWithDiffs.filter (·.missingInHadrian)).map (fun diff => (diff.method, diff.path)) =
      (violationsOfType "missing_endpoint" demoReport.violations).map
        (fun violation => (violation.method, violation.path)) :=
  checkConformance_missing_listed checkConformance_demoReport

/-! ### The kinds of parameter differences -/

/-- Every result of a loop of lines 543 or 564 comes from one parameter's step. -/
theorem mem_collectWith {κ β : Type} {f : κ → JValue → Py (List β)} :
    ∀ {xs : List (κ × JValue)} {r : List β}, collectWith [] (· ++ ·) f xs = .ok r →
      ∀ b ∈ r, ∃ k v ns, f k v = .ok ns ∧ b ∈ ns
  | [], _, h, _, hb => by cases h; cases hb
  | (k, v) :: xs, _, h, b, hb => by
    obtain ⟨a, ha, h⟩ := bind_eq_ok.mp h
    obtain ⟨rest, hrest, h⟩ := bind_eq_ok.mp h
    cases h
    rcases List.mem_append.mp hb with hb | hb
    · exact ⟨k, v, a, ha, hb⟩
    · exact mem_collectWith hrest b hb

theorem missingParamNote_diffType {hadrianParams : List (JValue × JValue)} {path : String}
    {name openaiParam : JValue} {notes : List DiffNote}
    (h : missingParamNote hadrianParams path name openaiParam = .ok notes) :
    ∀ note ∈ notes, note.diff.diffType = .missingInHadrian := by
  unfold missingParamNote at h
  by_cases hk : keyHas hadrianParams name = true
  · rw [if_pos hk] at h
    cases h
    simp
  · rw [if_neg hk] at h
    obtain ⟨_, -, h⟩ := bind_eq_ok.mp h
    obtain ⟨_, -, h⟩ := bind_eq_ok.mp h
    cases h
    simp [missingParamDiff]

theorem extensionParamNote_diffType {openaiParams : List (JValue × JValue)} {path : String}
    {name hadrianParam : JValue} {notes : List DiffNote}
    (h : extensionParamNote openaiParams path name hadrianParam = .ok notes) :
    ∀ note ∈ notes, note.diff.diffType = .hadrianExtension := by
  unfold extensionParamNote at h
  by_cases hk : keyHas openaiParams name = true
  · rw [if_pos hk] at h
    cases h
    simp
  · rw [if_neg hk] at h
    obtain ⟨_, -, h⟩ := bind_eq_ok.mp h
    obtain ⟨_, -, h⟩ := bind_eq_ok.mp h
    obtain ⟨_, -, h⟩ := bind_eq_ok.mp h
    obtain ⟨_, -, h⟩ := bind_eq_ok.mp h
    cases h
    simp [extensionParamDiff]

section Runs

variable {ho : HashOrder} {σ : Type} {openai hadrian : JValue → ResolveM σ JValue}

/-- The parameter notes of an endpoint are missing parameters and extensions only. -/
theorem endpointNotes_params {path : String} {openaiOp hadrianOp : JValue} {s s' : σ}
    {notes : EndpointNotes}
    (h : endpointNotes ho openai hadrian path openaiOp hadrianOp s = .ok (notes, s')) :
    ∀ note ∈ notes.params,
      note.diff.diffType = .missingInHadrian ∨ note.diff.diffType = .hadrianExtension := by
  unfold endpointNotes at h
  obtain ⟨_, _, -, h⟩ := ResolveM.bind_eq_ok.mp h
  obtain ⟨_, _, -, h⟩ := ResolveM.bind_eq_ok.mp h
  obtain ⟨_, _, -, h⟩ := ResolveM.bind_eq_ok.mp h
  obtain ⟨_, _, -, h⟩ := ResolveM.bind_eq_ok.mp h
  obtain ⟨_, _, -, h⟩ := ResolveM.bind_eq_ok.mp h
  obtain ⟨_, _, -, h⟩ := ResolveM.bind_eq_ok.mp h
  obtain ⟨_, _, -, h⟩ := ResolveM.bind_eq_ok.mp h
  obtain ⟨_, _, -, h⟩ := ResolveM.bind_eq_ok.mp h
  obtain ⟨missing, _, hm, h⟩ := ResolveM.bind_eq_ok.mp h
  obtain ⟨extension, _, he, h⟩ := ResolveM.bind_eq_ok.mp h
  cases h
  intro note hnote
  rcases List.mem_append.mp hnote with hnote | hnote
  · obtain ⟨_, _, _, hstep, hmem⟩ := mem_collectWith (ResolveM.lift_eq_ok.mp hm).1 note hnote
    exact .inl (missingParamNote_diffType hstep note hmem)
  · obtain ⟨_, _, _, hstep, hmem⟩ := mem_collectWith (ResolveM.lift_eq_ok.mp he).1 note hnote
    exact .inr (extensionParamNote_diffType hstep note hmem)

/-- A compared visit of a method carries the notes of one comparison of its path. -/
theorem methodVisits_compared {openaiPath : String} {openaiMethods hadrianMethods : JValue}
    {method : String} {s s' : σ} {visits : List Visit}
    (h : methodVisits ho openai hadrian openaiPath openaiMethods hadrianMethods method s =
      .ok (visits, s'))
    {path methodUpper : String} {notes : EndpointNotes} (hmem : .compared path methodUpper notes ∈ visits) :
    ∃ openaiOp hadrianOp s₁ s₂,
      endpointNotes ho openai hadrian path openaiOp hadrianOp s₁ = .ok (notes, s₂) := by
  unfold methodVisits at h
  obtain ⟨_, _, -, h₁⟩ := ResolveM.bind_eq_ok.mp h
  split at h₁
  · obtain ⟨_, _, -, h₂⟩ := ResolveM.bind_eq_ok.mp h₁
    split at h₂
    · obtain ⟨openaiOp, _, -, h₃⟩ := ResolveM.bind_eq_ok.mp h₂
      obtain ⟨hadrianOp, _, -, h₄⟩ := ResolveM.bind_eq_ok.mp h₃
      obtain ⟨notes', _, hnotes, h₅⟩ := ResolveM.bind_eq_ok.mp h₄
      cases h₅
      obtain ⟨rfl, -, rfl⟩ := Visit.compared.inj (List.mem_singleton.mp hmem)
      exact ⟨openaiOp, hadrianOp, _, _, hnotes⟩
    · cases h₂
      cases List.mem_singleton.mp hmem
  · cases h₁
    cases hmem

/-- A compared visit of a check carries the notes of one comparison of its path. -/
theorem checkVisits_compared {openaiSpec hadrianSpec : JValue} {endpointFilter : Option String}
    {s s' : σ} {visits : List Visit}
    (h : checkVisits ho openai hadrian openaiSpec hadrianSpec endpointFilter s = .ok (visits, s'))
    {path methodUpper : String} {notes : EndpointNotes} (hmem : .compared path methodUpper notes ∈ visits) :
    ∃ openaiOp hadrianOp s₁ s₂,
      endpointNotes ho openai hadrian path openaiOp hadrianOp s₁ = .ok (notes, s₂) := by
  obtain ⟨_, _, -, h₁⟩ := ResolveM.bind_eq_ok.mp h
  obtain ⟨visitss, _, hm, h₂⟩ := ResolveM.bind_eq_ok.mp h₁
  cases h₂
  obtain ⟨pathVisitList, hpath, hvisit⟩ := List.mem_flatten.mp hmem
  obtain ⟨entry, -, _, _, hrun⟩ := ResolveM.mapM_eq_ok hm pathVisitList hpath
  unfold pathVisits at hrun
  split at hrun
  · cases hrun
    cases List.mem_singleton.mp hvisit
  · split at hrun
    · cases hrun
      cases hvisit
    · obtain ⟨_, _, -, h₃⟩ := ResolveM.bind_eq_ok.mp hrun
      obtain ⟨methodVisitss, _, hms, h₄⟩ := ResolveM.bind_eq_ok.mp h₃
      cases h₄
      obtain ⟨methodVisitList, hmethod, hvisit⟩ := List.mem_flatten.mp hvisit
      obtain ⟨_, -, _, _, hrun'⟩ := ResolveM.mapM_eq_ok hms methodVisitList hmethod
      exact methodVisits_compared hrun' hvisit

end Runs

/-- Every query-parameter difference of a check's entries is a missing parameter or an
extension. -/
theorem checkConformance_paramDiffs_kinds {ho : HashOrder} {n : Nat} {openaiSpec hadrianSpec : JValue}
    {endpointFilter : Option String} {caches caches' : Caches} {report : ConformanceReport}
    (h : checkConformance ho n openaiSpec hadrianSpec endpointFilter caches = .ok (report, caches')) :
    ∀ diff ∈ report.endpointsWithDiffs, ∀ schemaDiff ∈ diff.paramDiffs,
      schemaDiff.diffType = .missingInHadrian ∨ schemaDiff.diffType = .hadrianExtension := by
  rw [checkConformance_eq] at h
  obtain ⟨visits, hv, -, -, hentries, -, -⟩ := designReport_eq_ok h
  intro diff hdiff schemaDiff hs
  rw [hentries, List.mem_filterMap] at hdiff
  obtain ⟨visit, hvisit, hentry⟩ := hdiff
  cases visit with
  | outOfScope => cases hentry
  | missing => cases hentry; cases hs
  | compared path methodUpper notes =>
    simp only [Visit.entry] at hentry
    split at hentry
    · cases hentry
      obtain ⟨note, hnote, rfl⟩ := List.mem_map.mp hs
      obtain ⟨_, _, _, _, hrun⟩ := checkVisits_compared hv hvisit
      exact endpointNotes_params hrun note hnote
    · cases hentry

/-- The lines of an entry (lines 777–807) with every difference shown with the legend's icon of its
type (lines 859–862). -/
def legendEndpointLines (diff : EndpointDiff) : List String :=
  ("\n" ++ diff.method ++ " " ++ diff.path) ::
    if diff.missingInHadrian then ["  [MISSING] Endpoint not implemented in Hadrian"]
    else diffSection "Request body differences:" legendIcon diff.requestDiffs ++
      diffSection "Response body differences:" legendIcon diff.responseDiffs ++
      diffSection "Query parameter differences:" legendIcon diff.paramDiffs

/-- Every difference line of a check's text report shows the legend's icon of its type, though
line 806 tells only two kinds apart for query parameters: parameter differences are only ever
missing or extension. -/
theorem checkConformance_param_icons {ho : HashOrder} {n : Nat} {openaiSpec hadrianSpec : JValue}
    {endpointFilter : Option String} {caches caches' : Caches} {report : ConformanceReport}
    (h : checkConformance ho n openaiSpec hadrianSpec endpointFilter caches = .ok (report, caches')) :
    ∀ diff ∈ report.endpointsWithDiffs, endpointLines diff = legendEndpointLines diff := by
  intro diff hdiff
  have hparams := checkConformance_paramDiffs_kinds h diff hdiff
  rw [endpointLines, legendEndpointLines, show bodyIcon = legendIcon from funext bodyIcon_eq_legendIcon,
    diffSection_congr fun schemaDiff hs => paramIcon_eq_legendIcon (hparams schemaDiff hs)]

/-- An OpenAI `GET /models` with the query parameter `limit`. -/
def limitOpenai : JValue := .obj [("paths", .obj [("/models", .obj [("get", .obj [("parameters",
  .arr [.obj [("name", .str "limit"), ("in", .str "query"), ("schema", .obj [("type", .str "integer")])]])])])])]

/-- A Hadrian `GET /api/v1/models` with the query parameter `order` and no description. -/
def orderHadrian : JValue := .obj [("paths", .obj [("/api/v1/models", .obj [("get", .obj [("parameters",
  .arr [.obj [("name", .str "order"), ("in", .str "query"), ("schema", .obj [("type", .str "string")])]])])])])]

/-- The report of `limitOpenai` against `orderHadrian`: one parameter missing, one extension. -/
def paramsReport : ConformanceReport := {
  openaiVersion := .str "unknown", hadrianVersion := .str "unknown",
  totalOpenaiEndpoints := 1, totalHadrianEndpoints := 1, endpointsChecked := 1, fullyConformant := 0,
  endpointsWithDiffs := [{ path := "/models", method := "GET", paramDiffs := [
    missingParamDiff "/models" (.str "limit") (.str "integer"),
    extensionParamDiff "/models" (.str "order") (.str "string")] }],
  violations := [
    { violationType := "undocumented_missing", path := "/models", method := "GET",
      field := .str "limit", location := "param",
      message := "Query parameter 'limit' is missing but not documented in DOCUMENTED_MISSING_FIELDS" },
    { violationType := "unmarked_extension", path := "/models", method := "GET",
      field := .str "order", location := "param",
      message := "Query parameter 'order' is a Hadrian extension but missing '" ++ extensionMarker ++
        "' in description" }] }

theorem checkConformance_paramsReport :
    checkConformance HashOrder.inOrder 4 limitOpenai orderHadrian none ⟨[], []⟩ =
      .ok (paramsReport, ⟨[], []⟩) := by
  decide

theorem checkConformance_param_icons_limit :
    paramsReport.endpointsWithDiffs.map endpointLines =
      [["\nGET /models", "  Query parameter differences:",
        "    [-] Query parameter 'limit' missing in Hadrian",
        "    [+] Query parameter 'order' is a Hadrian extension"]] ∧
    paramsReport.endpointsWithDiffs.map endpointLines =
      paramsReport.endpointsWithDiffs.map legendEndpointLines :=
  ⟨by decide, List.map_congr_left (checkConformance_param_icons checkConformance_paramsReport)⟩

end HadrianConformance
