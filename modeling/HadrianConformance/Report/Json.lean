import HadrianConformance.Checker.Check

/-!
# The JSON report

`format_json_report` (`scripts/openapi-conformance.py:866–918`) builds a dict from the report
and prints it with `json.dumps(data, indent=2)`. The model is the dict, as a `JValue`; the
printing is the library's and is left out. A consumer reading the dict back (`ofJson` below,
the reader's side, not a translation of the script) recovers every report exactly: the JSON
output loses nothing of the report, so no two reports print alike.
-/

namespace HadrianConformance

/-! ### The encoder, from the source -/

/-- `DiffType.value` (lines 109–114). -/
def DiffType.value : DiffType → String
  | .missingInHadrian => "missing_in_hadrian"
  | .hadrianExtension => "hadrian_extension"
  | .typeMismatch => "type_mismatch"
  | .requiredMismatch => "required_mismatch"

/-- `diff_to_dict` (lines 868–876). -/
def diffToDict (diff : SchemaDiff) : JValue :=
  .obj [("path", .str diff.path), ("field", diff.field), ("type", .str diff.diffType.value),
    ("openai_value", diff.openaiValue), ("hadrian_value", diff.hadrianValue),
    ("description", .str diff.description)]

/-- `endpoint_to_dict` (lines 878–887). -/
def endpointToDict (diff : EndpointDiff) : JValue :=
  .obj [("path", .str diff.path), ("method", .str diff.method),
    ("missing_in_hadrian", .bool diff.missingInHadrian),
    ("hadrian_extension", .bool diff.hadrianExtension),
    ("request_diffs", .arr (diff.requestDiffs.map diffToDict)),
    ("response_diffs", .arr (diff.responseDiffs.map diffToDict)),
    ("param_diffs", .arr (diff.paramDiffs.map diffToDict))]

/-- `violation_to_dict` (lines 889–897). -/
def violationToDict (violation : Violation) : JValue :=
  .obj [("type", .str violation.violationType), ("path", .str violation.path),
    ("method", .str violation.method), ("field", violation.field),
    ("location", .str violation.location), ("message", .str violation.message)]

/-- `format_json_report` (lines 866–918): the dict that `json.dumps` prints. -/
def formatJsonReport (report : ConformanceReport) : JValue :=
  .obj [("openai_version", report.openaiVersion), ("hadrian_version", report.hadrianVersion),
    ("summary", .obj [
      ("total_openai_endpoints", .num report.totalOpenaiEndpoints),
      ("total_hadrian_endpoints", .num report.totalHadrianEndpoints),
      ("endpoints_checked", .num report.endpointsChecked),
      ("fully_conformant", .num report.fullyConformant),
      ("with_differences", .num report.endpointsWithDiffs.length),
      ("out_of_scope", .num report.outOfScopeEndpoints.length),
      ("hadrian_extensions", .num report.hadrianOnlyEndpoints.length),
      ("violations", .num report.violations.length)]),
    ("violations", .arr (report.violations.map violationToDict)),
    ("endpoints_with_diffs", .arr (report.endpointsWithDiffs.map endpointToDict)),
    ("hadrian_only_endpoints", .arr (report.hadrianOnlyEndpoints.map .str)),
    ("out_of_scope_endpoints", .arr (report.outOfScopeEndpoints.map .str))]

/-! ### A reader of the JSON report -/

namespace JValue

/-- A JSON string. -/
def asStr : JValue → Option String
  | .str s => some s
  | _ => none

/-- A JSON boolean. -/
def asBool : JValue → Option Bool
  | .bool b => some b
  | _ => none

/-- A JSON count. -/
def asNat : JValue → Option Nat
  | .num n => if 0 ≤ n then some n.toNat else none
  | _ => none

/-- A JSON array, each item read by `f`. -/
def asList {α : Type} (f : JValue → Option α) : JValue → Option (List α)
  | .arr xs => xs.mapM f
  | _ => none

/-- A JSON object. -/
def asObj : JValue → Option Dict
  | .obj d => some d
  | _ => none

/-- Reading back a list of encoded items, each read back by `f`. -/
theorem asList_arr_map {α : Type} {f : JValue → Option α} {g : α → JValue}
    (h : ∀ a, f (g a) = some a) (xs : List α) : asList f (.arr (xs.map g)) = some xs := by
  induction xs with
  | nil => rfl
  | cons x xs ih =>
    simp only [asList, List.map_cons, List.mapM_cons, h] at ih ⊢
    rw [ih]
    rfl

@[simp] theorem asNat_num (n : Nat) : asNat (.num n) = some n := by
  simp only [asNat]
  rw [if_pos (by omega)]
  rfl

@[simp] theorem asList_asStr (xs : List String) : asList asStr (.arr (xs.map .str)) = some xs :=
  @asList_arr_map String asStr JValue.str (fun _ => rfl) xs

end JValue

/-- The difference type a `DiffType.value` names. -/
def DiffType.ofValue : String → Option DiffType
  | "missing_in_hadrian" => some .missingInHadrian
  | "hadrian_extension" => some .hadrianExtension
  | "type_mismatch" => some .typeMismatch
  | "required_mismatch" => some .requiredMismatch
  | _ => none

/-- Reads back a `diff_to_dict` dict. -/
def SchemaDiff.ofJson (x : JValue) : Option SchemaDiff := do
  let d ← x.asObj
  let path ← (d.get? "path").bind JValue.asStr
  let field ← d.get? "field"
  let diffType ← ((d.get? "type").bind JValue.asStr).bind DiffType.ofValue
  let openaiValue ← d.get? "openai_value"
  let hadrianValue ← d.get? "hadrian_value"
  let description ← (d.get? "description").bind JValue.asStr
  return ⟨path, field, diffType, openaiValue, hadrianValue, description⟩

/-- Reads back an `endpoint_to_dict` dict. -/
def EndpointDiff.ofJson (x : JValue) : Option EndpointDiff := do
  let d ← x.asObj
  let path ← (d.get? "path").bind JValue.asStr
  let method ← (d.get? "method").bind JValue.asStr
  let missingInHadrian ← (d.get? "missing_in_hadrian").bind JValue.asBool
  let hadrianExtension ← (d.get? "hadrian_extension").bind JValue.asBool
  let requestDiffs ← (d.get? "request_diffs").bind (JValue.asList SchemaDiff.ofJson)
  let responseDiffs ← (d.get? "response_diffs").bind (JValue.asList SchemaDiff.ofJson)
  let paramDiffs ← (d.get? "param_diffs").bind (JValue.asList SchemaDiff.ofJson)
  return ⟨path, method, requestDiffs, responseDiffs, paramDiffs, missingInHadrian, hadrianExtension⟩

/-- Reads back a `violation_to_dict` dict. -/
def Violation.ofJson (x : JValue) : Option Violation := do
  let d ← x.asObj
  let violationType ← (d.get? "type").bind JValue.asStr
  let path ← (d.get? "path").bind JValue.asStr
  let method ← (d.get? "method").bind JValue.asStr
  let field ← d.get? "field"
  let location ← (d.get? "location").bind JValue.asStr
  let message ← (d.get? "message").bind JValue.asStr
  return ⟨violationType, path, method, field, location, message⟩

/-- Reads back the versions and counts of the report, with no endpoints or violations. -/
def ConformanceReport.countsOfJson (d : Dict) : Option ConformanceReport := do
  let openaiVersion ← d.get? "openai_version"
  let hadrianVersion ← d.get? "hadrian_version"
  let summary ← (d.get? "summary").bind JValue.asObj
  let totalOpenai ← (summary.get? "total_openai_endpoints").bind JValue.asNat
  let totalHadrian ← (summary.get? "total_hadrian_endpoints").bind JValue.asNat
  let endpointsChecked ← (summary.get? "endpoints_checked").bind JValue.asNat
  let fullyConformant ← (summary.get? "fully_conformant").bind JValue.asNat
  return ⟨openaiVersion, hadrianVersion, totalOpenai, totalHadrian, endpointsChecked,
    fullyConformant, [], [], [], []⟩

/-- The summary's count under `key` is `n`. -/
def summaryCountIs (summary : Dict) (key : String) (n : Nat) : Bool :=
  (summary.get? key).bind JValue.asNat == some n

/-- Reads back the report from the dict of `format_json_report`; the summary's counts of the
lists must be the lists' lengths. -/
def ConformanceReport.ofJson (x : JValue) : Option ConformanceReport := do
  let d ← x.asObj
  let counts ← ConformanceReport.countsOfJson d
  let violations ← (d.get? "violations").bind (JValue.asList Violation.ofJson)
  let endpointsWithDiffs ← (d.get? "endpoints_with_diffs").bind (JValue.asList EndpointDiff.ofJson)
  let hadrianOnly ← (d.get? "hadrian_only_endpoints").bind (JValue.asList JValue.asStr)
  let outOfScope ← (d.get? "out_of_scope_endpoints").bind (JValue.asList JValue.asStr)
  let summary ← (d.get? "summary").bind JValue.asObj
  guard (summaryCountIs summary "with_differences" endpointsWithDiffs.length &&
    summaryCountIs summary "out_of_scope" outOfScope.length &&
    summaryCountIs summary "hadrian_extensions" hadrianOnly.length &&
    summaryCountIs summary "violations" violations.length)
  return { counts with
    endpointsWithDiffs := endpointsWithDiffs
    outOfScopeEndpoints := outOfScope
    hadrianOnlyEndpoints := hadrianOnly
    violations := violations }

/-! ### Every report is read back -/

theorem SchemaDiff.ofJson_diffToDict (diff : SchemaDiff) : SchemaDiff.ofJson (diffToDict diff) = some diff := by
  cases diff with
  | mk path field diffType openaiValue hadrianValue description => cases diffType <;> rfl

theorem EndpointDiff.ofJson_endpointToDict (diff : EndpointDiff) :
    EndpointDiff.ofJson (endpointToDict diff) = some diff := by
  simp [EndpointDiff.ofJson, endpointToDict, JValue.asList_arr_map SchemaDiff.ofJson_diffToDict,
    Dict.get?, JValue.asObj, JValue.asStr, JValue.asBool]

theorem Violation.ofJson_violationToDict (violation : Violation) :
    Violation.ofJson (violationToDict violation) = some violation := by
  rfl

/-- The JSON report loses nothing: reading back the dict of `format_json_report` gives the report
it was built from, for every report. -/
theorem ofJson_formatJsonReport (report : ConformanceReport) :
    ConformanceReport.ofJson (formatJsonReport report) = some report := by
  simp [ConformanceReport.ofJson, ConformanceReport.countsOfJson, formatJsonReport, Dict.get?, JValue.asObj,
    summaryCountIs,
    JValue.asList_arr_map EndpointDiff.ofJson_endpointToDict,
    JValue.asList_arr_map Violation.ofJson_violationToDict]

end HadrianConformance
