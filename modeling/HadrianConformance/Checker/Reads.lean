import HadrianConformance.Checker.Check

/-!
# What the checker reads of a document

`_compare_endpoint` (`scripts/openapi-conformance.py:493–585`) reads an operation only through
the chains `requestBody.content.application/json.schema` and
`responses.200.content.application/json.schema` and the `in` and `name` of its `parameters`
entries, and `check_conformance` (lines 394–426) reads a path item only at the five method
keys. A Reference Object in place of a body or a parameter, and the parameters of a path item,
are never looked at: removing them changes nothing.
-/

namespace HadrianConformance

/-- A `parameters` entry that line 540 can keep: anything but an object whose `in` is not
`"query"`, such as a Reference Object. -/
def readParam : JValue → Bool
  | .obj param => (Dict.get? param "in").getD .null == .str "query"
  | _ => true

/-- A body that reads as `{}`: an object without `content`, such as a Reference Object. -/
def stripBody : JValue → JValue
  | .obj body => if Dict.contains body "content" then .obj body else .obj []
  | body => body

/-- One member of an operation without what the comparison never reads. -/
def stripMember (key : String) (value : JValue) : JValue :=
  if key = "parameters" then
    match value with
    | .arr params => .arr (params.filter readParam)
    | value => value
  else if key = "requestBody" then stripBody value
  else if key = "responses" then
    match value with
    | .obj responses => .obj (responses.map fun r => (r.1, if r.1 = "200" then stripBody r.2 else r.2))
    | value => value
  else value

/-- An operation without the parameters that are not query parameters and with a request body
or `200` response that has no `content` emptied. -/
def stripOp : JValue → JValue
  | .obj op => .obj (op.map fun kv => (kv.1, stripMember kv.1 kv.2))
  | op => op

/-- A path item with its five method keys only, no `parameters`, `summary` or `servers`, and
each operation stripped. -/
def stripPathItem : JValue → JValue
  | .obj item => .obj ((item.filter fun kv => httpMethods.contains kv.1).map fun kv => (kv.1, stripOp kv.2))
  | item => item

/-- A `paths` map whose path items are stripped. -/
def stripPaths : JValue → JValue
  | .obj paths => .obj (paths.map fun kv => (kv.1, stripPathItem kv.2))
  | paths => paths

theorem pyGet_stripBody_content (body : JValue) :
    pyGet (stripBody body) "content" (.obj []) = pyGet body "content" (.obj []) := by
  cases body with
  | obj body =>
    by_cases h : Dict.contains body "content"
    · simp only [stripBody, h, if_true]
    · simp only [Dict.contains, Option.not_isSome_iff_eq_none] at h
      simp [stripBody, Dict.contains, h]
  | _ => rfl

/-- A member of a stripped operation, read with a default that stripping keeps. -/
theorem pyGet_stripOp (op : JValue) (key : String) {default : JValue}
    (hd : stripMember key default = default) :
    pyGet (stripOp op) key default = stripMember key <$> pyGet op key default := by
  cases op with
  | obj op =>
    simp only [stripOp, pyGet_obj, Dict.get?_map]
    cases Dict.get? op key <;> simp [hd, pure, Except.pure]
  | _ => rfl

theorem bodySchema_stripOp_request (op : JValue) :
    bodySchema (stripOp op) requestBodyKeys = bodySchema op requestBodyKeys := by
  simp only [bodySchema, requestBodyKeys, List.foldlM_cons, List.foldlM_nil,
    pyGet_stripOp op "requestBody" (rfl : stripMember "requestBody" (.obj []) = .obj []), bind_map_left,
    stripMember, String.reduceEq, if_false, if_true, pyGet_stripBody_content]

theorem bodySchema_stripOp_response (op : JValue) :
    bodySchema (stripOp op) responseKeys = bodySchema op responseKeys := by
  simp only [bodySchema, responseKeys, List.foldlM_cons, List.foldlM_nil,
    pyGet_stripOp op "responses" (rfl : stripMember "responses" (.obj []) = .obj []), bind_map_left]
  congr 1
  funext responses
  cases responses with
  | obj responses =>
    simp only [stripMember, String.reduceEq, if_false, if_true, pyGet_obj]
    rw [Dict.get?_map responses fun code r => if code = "200" then stripBody r else r]
    cases Dict.get? responses "200" <;> simp only [Option.map_some', Option.map_none', Option.getD_some,
      Option.getD_none, if_true, pure_bind, pyGet_stripBody_content]
  | _ => rfl

/-- A parameter that `readParam` drops leaves the comprehension's dict as it is. -/
theorem addQueryParam_of_not_readParam {p : JValue} (h : readParam p = false)
    (acc : List (JValue × JValue)) : addQueryParam acc p = pure acc := by
  cases p with
  | obj param =>
    simp only [readParam, beq_eq_false_iff_ne] at h
    simp [addQueryParam, h]
  | _ => simp [readParam] at h

theorem foldlM_addQueryParam_filter (params : List JValue) (acc : List (JValue × JValue)) :
    (params.filter readParam).foldlM addQueryParam acc = params.foldlM addQueryParam acc := by
  induction params generalizing acc with
  | nil => rfl
  | cons p params ih =>
    cases h : readParam p
    · simp [List.filter_cons, h, addQueryParam_of_not_readParam h, ih]
    · simp only [List.filter_cons, h, if_true, List.foldlM_cons]
      cases addQueryParam acc p <;> simp [ih]

theorem queryParams_stripOp (op : JValue) : queryParams (stripOp op) = queryParams op := by
  simp only [queryParams, pyGet_stripOp op "parameters" (rfl : stripMember "parameters" (.arr []) = .arr []),
    bind_map_left]
  congr 1
  funext params
  cases params with
  | arr params => simp [stripMember, pyIter, foldlM_addQueryParam_filter]
  | _ => rfl

theorem compareEndpoint_stripOp (ho : HashOrder) (openaiSpec hadrianSpec : JValue) (n : Nat)
    (path method : String) (openaiOp hadrianOp : JValue) :
    compareEndpoint ho openaiSpec hadrianSpec n path method (stripOp openaiOp) (stripOp hadrianOp) =
      compareEndpoint ho openaiSpec hadrianSpec n path method openaiOp hadrianOp := by
  simp only [compareEndpoint, bodySchema_stripOp_request, bodySchema_stripOp_response,
    queryParams_stripOp]

section PathItem

variable {method : String} (hm : method ∈ httpMethods)
include hm

theorem pyContains_stripPathItem (item : JValue) :
    pyContains (stripPathItem item) method = pyContains item method := by
  cases item with
  | obj item =>
    simp only [stripPathItem, pyContains_obj, Dict.contains, Dict.get?_map_values, Dict.get?_filter,
      List.elem_iff.mpr hm, if_true, Option.isSome_map']
  | _ => rfl

theorem pyIndex_stripPathItem (item : JValue) :
    pyIndex (stripPathItem item) method = stripOp <$> pyIndex item method := by
  cases item with
  | obj item =>
    simp only [stripPathItem, pyIndex, Dict.get?_map_values, Dict.get?_filter, List.elem_iff.mpr hm,
      if_true]
    cases Dict.get? item method <;> rfl
  | _ => rfl

theorem checkMethod_stripPathItem (ho : HashOrder) (openaiSpec hadrianSpec : JValue) (n : Nat)
    (openaiPath : String) (openaiMethods hadrianMethods : JValue) (st : ConformanceReport × Caches) :
    checkMethod ho openaiSpec hadrianSpec n openaiPath (stripPathItem openaiMethods)
        (stripPathItem hadrianMethods) st method =
      checkMethod ho openaiSpec hadrianSpec n openaiPath openaiMethods hadrianMethods st method := by
  simp only [checkMethod, pyContains_stripPathItem hm, pyIndex_stripPathItem hm, bind_map_left,
    compareEndpoint_stripOp]

end PathItem

theorem pyGet_stripPaths (paths : JValue) (path : String) :
    pyGet (stripPaths paths) path (.obj []) = stripPathItem <$> pyGet paths path (.obj []) := by
  cases paths with
  | obj paths =>
    simp only [stripPaths, pyGet_obj, Dict.get?_map_values]
    cases Dict.get? paths path <;> rfl
  | _ => rfl

section Loop

variable (ho : HashOrder) (openaiSpec hadrianSpec : JValue) (n : Nat)

theorem foldlM_checkMethod_stripPathItem (openaiPath : String) (openaiMethods hadrianMethods : JValue)
    {methods : List String} (hms : ∀ m ∈ methods, m ∈ httpMethods) (st : ConformanceReport × Caches) :
    methods.foldlM (checkMethod ho openaiSpec hadrianSpec n openaiPath (stripPathItem openaiMethods)
        (stripPathItem hadrianMethods)) st =
      methods.foldlM (checkMethod ho openaiSpec hadrianSpec n openaiPath openaiMethods hadrianMethods) st := by
  induction methods generalizing st with
  | nil => rfl
  | cons m methods ih =>
    simp only [List.foldlM_cons, checkMethod_stripPathItem (hms m (List.mem_cons_self m methods)),
      ih fun m' h => hms m' (List.mem_cons_of_mem m h)]

theorem checkPath_stripPathItem (endpointFilter : Option String) (hadrianPaths : JValue)
    (st : ConformanceReport × Caches) (entry : String × JValue) :
    checkPath ho openaiSpec hadrianSpec n endpointFilter (stripPaths hadrianPaths) st
        (entry.1, stripPathItem entry.2) =
      checkPath ho openaiSpec hadrianSpec n endpointFilter hadrianPaths st entry := by
  simp only [checkPath, pyGet_stripPaths, bind_map_left,
    foldlM_checkMethod_stripPathItem ho openaiSpec hadrianSpec n entry.1 entry.2 _ fun _ h => h]

end Loop

theorem hadrianOnly_stripPaths (openaiPaths : Dict) (hadrianPaths : JValue) :
    hadrianOnly (openaiPaths.map fun e => (e.1, stripPathItem e.2)) (stripPaths hadrianPaths) =
      hadrianOnly openaiPaths hadrianPaths := by
  have step : hadrianOnlyStep (openaiPaths.map fun e => (e.1, stripPathItem e.2)) =
      hadrianOnlyStep openaiPaths := by
    funext acc path
    cases path <;>
      simp only [hadrianOnlyStep, isHadrianOnly, Dict.contains, Dict.get?_map_values, Option.isSome_map']
  cases hadrianPaths with
  | obj paths => simp only [hadrianOnly, step, stripPaths, pyIter, List.map_map]; rfl
  | _ => simp only [hadrianOnly, step, stripPaths]

/-- With the two documents' resolvers as they are, the loop of `check_conformance` and its
scan for Hadrian-only paths compute the same on path items reduced to their methods, with
every operation's Reference Objects as body, `200` response or parameter and its
non-query parameters removed: the checker never reads any of them. -/
theorem checkConformance_loop_reads (ho : HashOrder) (n : Nat) (openaiSpec hadrianSpec : JValue)
    (endpointFilter : Option String) :
    (∀ path method openaiOp hadrianOp,
      compareEndpoint ho openaiSpec hadrianSpec n path method (stripOp openaiOp) (stripOp hadrianOp) =
        compareEndpoint ho openaiSpec hadrianSpec n path method openaiOp hadrianOp) ∧
    (∀ (openaiPaths : Dict) hadrianPaths st,
      (openaiPaths.map fun e => (e.1, stripPathItem e.2)).foldlM
          (checkPath ho openaiSpec hadrianSpec n endpointFilter (stripPaths hadrianPaths)) st =
        openaiPaths.foldlM (checkPath ho openaiSpec hadrianSpec n endpointFilter hadrianPaths) st) ∧
    (∀ (openaiPaths : Dict) hadrianPaths,
      hadrianOnly (openaiPaths.map fun e => (e.1, stripPathItem e.2)) (stripPaths hadrianPaths) =
        hadrianOnly openaiPaths hadrianPaths) := by
  refine ⟨compareEndpoint_stripOp ho openaiSpec hadrianSpec n, fun openaiPaths hadrianPaths st => ?_,
    hadrianOnly_stripPaths⟩
  rw [List.foldlM_map]
  exact congrArg (fun f => openaiPaths.foldlM f st)
    (funext₂ (checkPath_stripPathItem ho openaiSpec hadrianSpec n endpointFilter hadrianPaths))

/-- The query parameter `limit` of type `integer`. -/
def limitParam : JValue :=
  .obj [("name", .str "limit"), ("in", .str "query"), ("schema", .obj [("type", .str "integer")])]

/-- An OpenAI document whose `/models` path item is `item`, with `limitParam` among its
components. -/
def modelsOpenaiWith (item : JValue) : JValue :=
  .obj [("components", .obj [("parameters", .obj [("Limit", limitParam)])]),
    ("paths", .obj [("/models", item)])]

/-- A Hadrian document whose `GET /api/v1/models` has neither bodies nor parameters. -/
def modelsHadrianBare : JValue := .obj [("paths", .obj [("/api/v1/models", .obj [("get", .obj [])])])]

/-- The violations of a check of `modelsOpenaiWith item` against `modelsHadrianBare`. -/
def modelsViolations (item : JValue) : Py (List Violation) :=
  (checkConformance HashOrder.inOrder 4 (modelsOpenaiWith item) modelsHadrianBare none ⟨[], []⟩).map
    (·.1.violations)

/-- The violation of the query parameter `limit` that Hadrian lacks (lines 553–562). -/
def limitMissing : Violation := {
  violationType := "undocumented_missing", path := "/models", method := "GET", field := .str "limit",
  location := "param",
  message := "Query parameter 'limit' is missing but not documented in DOCUMENTED_MISSING_FIELDS" }

/-- The parameter `limit` that Hadrian lacks is reported when the operation writes it out, and
not when it is a Reference Object or a path-level parameter. -/
theorem checkConformance_param_ref_ignored :
    modelsViolations (.obj [("get", .obj [("parameters",
      .arr [.obj [("$ref", .str "#/components/parameters/Limit")]])])]) = .ok [] ∧
    modelsViolations (.obj [("get", .obj [("parameters", .arr [limitParam])])]) = .ok [limitMissing] ∧
    modelsViolations (.obj [("parameters", .arr [limitParam]), ("get", .obj [])]) = .ok [] ∧
    modelsViolations (.obj [("parameters", .arr [limitParam]),
      ("get", .obj [("parameters", .arr [limitParam])])]) = .ok [limitMissing] := by
  decide

end HadrianConformance
