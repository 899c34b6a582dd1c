import HadrianConformance.Differ.Compare
import HadrianConformance.Resolver.Resolve

/-!
# Swapping the two schemas

`_compare_schemas(O, H)` and `_compare_schemas(H, O)` (`scripts/openapi-conformance.py:587–698`)
look at the same fields. A field of `O` that `H` lacks is missing in the first call and an
extension in the second, and a common field has the same two type strings in both, which the
symmetric `_types_compatible` (lines 734–750) compares. So when both calls return, each reports a
missing field exactly where the other reports an extension, and both report the same type
mismatches, at every depth (`compareSchemas_swap`).

The two calls do not fail alike. Only the extension loop reads `hadrian_field.get("description")`
(line 643). Line 686 reads the second field's `type` only when the first field is an object. So a
field schema that is not a dict, such as the boolean schema `true`, can make one direction raise
where the other returns (`compareSchemas_swap_raises`).

`reports` is what a comparison reports at a path and a field. The laws below take the walk one
loop at a time: `reports_collect` for the loops of lines 607 and 631, `reports_commonField` for
one common field, and `compareSchemas_eq_ok` for the whole walk at one level.
-/

namespace HadrianConformance

/-- Whether a comparison reports a difference of type `t` at `path` for `field`. -/
def reports (found : Found) (t : DiffType) (path : String) (field : JValue) : Bool :=
  found.1.any fun d => d.diffType == t && d.path == path && d.field == field

/-- The type of a difference once the two schemas are swapped. -/
def DiffType.swap : DiffType → DiffType
  | .missingInHadrian => .hadrianExtension
  | .hadrianExtension => .missingInHadrian
  | t => t

/-- What the loop of line 607 (`kind` missing) or of line 631 (`kind` extension) reports for the
member `kv`, the other schema's properties being `other`. -/
def fieldMark (kind : DiffType) (context : String) (other : Dict) (t : DiffType) (path : String)
    (field : JValue) (kv : String × JValue) : Bool :=
  kind == t && context == path && .str kv.1 == field && !Dict.contains other kv.1

theorem DiffType.swap_ne {t : DiffType} (h : t ≠ .requiredMismatch) : t.swap ≠ .requiredMismatch := by
  cases t <;> simp_all [DiffType.swap]

theorem fieldMark_swap (kind t : DiffType) (context : String) (other : Dict) (path : String)
    (field : JValue) : fieldMark kind context other t.swap path field =
      fieldMark kind.swap context other t path field := by
  funext kv
  cases kind <;> cases t <;> rfl

@[simp] theorem Collector.code_app (endpointPath method location : String) :
    (Collector.code endpointPath method location).app = Found.app := rfl

@[simp] theorem reports_app (a b : Found) (t : DiffType) (path : String) (field : JValue) :
    reports (Found.app a b) t path field = (reports a t path field || reports b t path field) := by
  simp [reports, Found.app]

theorem reports_concat {endpointPath method location : String} (rs : List Found) (t : DiffType)
    (path : String) (field : JValue) :
    reports ((Collector.code endpointPath method location).concat rs) t path field =
      rs.any fun r => reports r t path field := by
  induction rs with
  | nil => rfl
  | cons r rs ih => simp only [Collector.concat, Collector.code_app, reports_app, ih, List.any_cons]

/-- `_types_compatible` does not depend on the order of its arguments. -/
theorem typesCompatible_comm (a b : String) : typesCompatible a b = typesCompatible b a := by
  have hab : (a == b) = (b == a) := Bool.eq_iff_iff.mpr (by simp only [beq_iff_eq]; exact eq_comm)
  simp only [typesCompatible, hab, Bool.and_comm (isNumeric a)]
  cases a == "number" && b == "double" <;> cases b == "number" && a == "double" <;> simp

/-- Line 686 gives the same answer both ways round, when both ways return. -/
theorem bothObjects_comm {a b : JValue} {x y : Bool} (h₁ : bothObjects a b = .ok x)
    (h₂ : bothObjects b a = .ok y) : x = y := by
  obtain ⟨ta, hta, h₁⟩ := bind_eq_ok.mp h₁
  obtain ⟨tb, htb, h₂⟩ := bind_eq_ok.mp h₂
  by_cases ha : ta = .str "object" <;> by_cases hb : tb = .str "object" <;>
    simp_all [pure, Except.pure]

section Loops

variable {endpointPath method location context : String} {t : DiffType} {path : String}
  {field : JValue}

/-- One field of the loop of line 607 reports only its own difference. -/
theorem reports_missingField {hadrianProps : Dict} {openaiRequired : List JValue} {name : String}
    {openaiField : JValue} {a : Found}
    (h : missingField (.obj hadrianProps) openaiRequired context endpointPath method location name
      openaiField = .ok a) :
    reports a t path field =
      fieldMark .missingInHadrian context hadrianProps t path field (name, openaiField) := by
  cases hc : Dict.contains hadrianProps name
  · obtain ⟨ts, -, h⟩ := bind_eq_ok.mp (by simpa [missingField, hc] using h)
    split at h <;> cases h <;> simp [reports, missingDiff, fieldMark, hc]
  · simp only [missingField, hc, pyContains_obj, pure_bind, if_true] at h
    cases h
    simp [reports, fieldMark, hc]

/-- One field of the loop of line 631 reports only its own difference. -/
theorem reports_extensionField {openaiProps : Dict} {name : String} {hadrianField : JValue}
    {a : Found}
    (h : extensionField (.obj openaiProps) context endpointPath method location name
      hadrianField = .ok a) :
    reports a t path field =
      fieldMark .hadrianExtension context openaiProps t path field (name, hadrianField) := by
  cases hc : Dict.contains openaiProps name
  · obtain ⟨ts, -, h⟩ := bind_eq_ok.mp (by simpa [extensionField, hc] using h)
    obtain ⟨description, -, h⟩ := bind_eq_ok.mp h
    obtain ⟨marked, -, h⟩ := bind_eq_ok.mp h
    split at h <;> cases h <;> simp [reports, extensionDiff, fieldMark, hc]
  · simp only [extensionField, hc, pyContains_obj, pure_bind, if_true] at h
    cases h
    simp [reports, fieldMark, hc]

/-- A loop of line 607 or 631 reports what one of its members reports. -/
theorem reports_collect {step : String → JValue → Py Found} {mark : String × JValue → Bool}
    (hstep : ∀ k v a, step k v = .ok a → reports a t path field = mark (k, v)) :
    ∀ {items : Dict} {r : Found}, (Collector.code endpointPath method location).collect step items = .ok r →
      reports r t path field = items.any mark
  | [], _, h => by cases h; rfl
  | (k, v) :: items, _, h => by
    obtain ⟨a, ha, h⟩ := bind_eq_ok.mp h
    obtain ⟨b, hb, h⟩ := bind_eq_ok.mp h
    cases h
    simp only [Collector.code_app, reports_app, hstep k v a ha, reports_collect hstep hb,
      List.any_cons]

/-- One common field (lines 655–696) reports a type mismatch when `_types_compatible` fails, and
what its nested comparison reports when line 686 lets it run. -/
theorem reports_commonField {nested : Py Found} {openaiField hadrianField : JValue}
    {openaiRequired hadrianRequired : List JValue} {name : String} {rc : Found}
    (h : commonField nested openaiField hadrianField openaiRequired hadrianRequired context name =
      .ok rc) (ht : t ≠ .requiredMismatch) (path : String) (field : JValue) :
    ∃ ta tb b rn, getTypeString openaiField = .ok ta ∧ getTypeString hadrianField = .ok tb ∧
      bothObjects openaiField hadrianField = .ok b ∧
      (if b then nested else pure ([], [])) = .ok rn ∧
      reports rc t path field = ((.typeMismatch == t && context == path && .str name == field &&
        !typesCompatible ta tb) || reports rn t path field) := by
  obtain ⟨ta, hta, h⟩ := bind_eq_ok.mp h
  obtain ⟨tb, htb, h⟩ := bind_eq_ok.mp h
  obtain ⟨b, hb, h⟩ := bind_eq_ok.mp h
  obtain ⟨⟨nd, nv⟩, hn, h⟩ : ∃ rn : Found, (if b then nested else pure ([], [])) = .ok rn ∧
      pure (commonDiffs openaiRequired hadrianRequired context name ta tb ++ rn.1, rn.2) = Except.ok rc := by
    cases b <;> simpa using bind_eq_ok.mp h
  cases h
  refine ⟨ta, tb, b, _, hta, htb, hb, hn, ?_⟩
  have hr : (DiffType.requiredMismatch == t) = false := by simpa using Ne.symm ht
  simp only [reports, commonDiffs, List.any_append]
  split_ifs <;> simp [hr, *]

end Loops

/-! ### One level of the walk -/

section Level

variable {ho : HashOrder} {endpointPath method location context : String}

/-- The common field `name` is compared with the comparison of its two schemas nested. -/
theorem walkAt_code_eq_ok {openaiSchema openaiItems hadrianItems : Dict} {name : String}
    {openaiRequired hadrianRequired : List JValue} {rc : Found}
    (hp : (Dict.get? openaiSchema "properties").getD (.obj []) = .obj openaiItems)
    (h : walkAt ho (Collector.code endpointPath method location) openaiSchema name
      (.obj hadrianItems) openaiRequired hadrianRequired context = .ok rc) :
    ∃ openaiField hadrianField, Dict.get? openaiItems name = some openaiField ∧
      Dict.get? hadrianItems name = some hadrianField ∧
      commonField (compareSchemas ho openaiField hadrianField (context ++ "." ++ name) endpointPath
        method location) openaiField hadrianField openaiRequired hadrianRequired context name =
        .ok rc := by
  rw [walkAt_eq] at h
  cases hprops : Dict.get? openaiSchema "properties" with
  | none => rw [hprops] at h; cases h
  | some props =>
    rw [hprops] at h hp
    cases hp
    simp only [walkIn] at h
    rw [walkOf_eq] at h
    cases hfield : Dict.get? openaiItems name with
    | none => rw [hfield] at h; cases h
    | some openaiField =>
      rw [hfield] at h
      obtain ⟨hadrianField, hindex, h⟩ := bind_eq_ok.mp h
      obtain ⟨_, he, hget⟩ := pyIndex_eq_ok.mp hindex
      cases he
      exact ⟨openaiField, hadrianField, rfl, hget, h⟩

/-- A comparison that returned, one level at a time: the loops of lines 607 and 631 over the
two `properties` and the loop of line 654 over their common keys. -/
theorem compareSchemas_eq_ok {openaiSchema : Dict} {hadrianSchema : JValue} {r : Found}
    (h : compareSchemas ho (.obj openaiSchema) hadrianSchema context endpointPath method location =
      .ok r) :
    ∃ openaiItems hadrianDict hadrianItems openaiRequired hadrianRequired missing extension common,
      (Dict.get? openaiSchema "properties").getD (.obj []) = .obj openaiItems ∧
      hadrianSchema = .obj hadrianDict ∧
      (Dict.get? hadrianDict "properties").getD (.obj []) = .obj hadrianItems ∧
      (Collector.code endpointPath method location).collect
        (missingField (.obj hadrianItems) openaiRequired context endpointPath method location)
        openaiItems = .ok missing ∧
      (Collector.code endpointPath method location).collect
        (extensionField (.obj openaiItems) context endpointPath method location)
        hadrianItems = .ok extension ∧
      (ho.inter (openaiItems.map Prod.fst) (hadrianItems.map Prod.fst)).mapM (fun name =>
        walkAt ho (Collector.code endpointPath method location) openaiSchema name
          (.obj hadrianItems) openaiRequired hadrianRequired context) = .ok common ∧
      r = Found.app (Found.app missing extension)
        ((Collector.code endpointPath method location).concat common) := by
  obtain ⟨hadrianProps, hhp, h⟩ := bind_eq_ok.mp h
  obtain ⟨openaiRequired, -, h⟩ := bind_eq_ok.mp h
  obtain ⟨_, -, h⟩ := bind_eq_ok.mp h
  obtain ⟨hadrianRequired, -, h⟩ := bind_eq_ok.mp h
  obtain ⟨openaiItems, hoi, h⟩ := bind_eq_ok.mp h
  obtain ⟨missing, hm, h⟩ := bind_eq_ok.mp h
  obtain ⟨hadrianItems, hhi, h⟩ := bind_eq_ok.mp h
  obtain ⟨extension, he, h⟩ := bind_eq_ok.mp h
  obtain ⟨common, hc, h⟩ := bind_eq_ok.mp h
  cases h
  obtain ⟨hadrianDict, rfl, rfl⟩ := pyGet_eq_ok hhp
  rw [pyItems_eq_ok hoi] at he
  rw [pyItems_eq_ok hhi] at hm hc
  exact ⟨openaiItems, hadrianDict, hadrianItems, openaiRequired, hadrianRequired, missing,
    extension, common, pyItems_eq_ok hoi, rfl, pyItems_eq_ok hhi, hm, he, hc, rfl⟩

/-- The nested schemas of a walk are smaller than the schema. -/
theorem sizeOf_lt_of_properties {openaiSchema openaiItems : Dict} {name : String}
    {openaiField : JValue}
    (hp : (Dict.get? openaiSchema "properties").getD (.obj []) = .obj openaiItems)
    (hfield : Dict.get? openaiItems name = some openaiField) :
    sizeOf openaiField < sizeOf (JValue.obj openaiSchema) := by
  cases hprops : Dict.get? openaiSchema "properties" with
  | none => rw [hprops] at hp; cases hp; cases hfield
  | some props =>
    rw [hprops] at hp
    cases hp
    have h₁ := List.sizeOf_lt_of_mem (Dict.mem_of_get? hfield)
    have h₂ := List.sizeOf_lt_of_mem (Dict.mem_of_get? hprops)
    simp only [JValue.obj.sizeOf_spec, Prod.mk.sizeOf_spec] at h₁ h₂ ⊢
    omega

end Level

/-! ### Both ways round -/

section Swap

variable {t : DiffType} {context path : String} {field : JValue}

/-- A common field compared both ways round reports swapped differences, when its nested
comparisons do. -/
theorem reports_commonField_swap {nested₁ nested₂ : Py Found} {openaiField hadrianField : JValue}
    {req₁ hreq₁ req₂ hreq₂ : List JValue} {name : String} {rc₁ rc₂ : Found}
    (h₁ : commonField nested₁ openaiField hadrianField req₁ hreq₁ context name = .ok rc₁)
    (h₂ : commonField nested₂ hadrianField openaiField req₂ hreq₂ context name = .ok rc₂)
    (hnested : ∀ rn₁ rn₂, nested₁ = .ok rn₁ → nested₂ = .ok rn₂ →
      reports rn₂ t.swap path field = reports rn₁ t path field)
    (ht : t ≠ .requiredMismatch) : reports rc₂ t.swap path field = reports rc₁ t path field := by
  obtain ⟨ta, tb, b, rn₁, hta, htb, hb, hn₁, hr₁⟩ := reports_commonField h₁ ht path field
  obtain ⟨tb', ta', b', rn₂, htb', hta', hb', hn₂, hr₂⟩ :=
    reports_commonField h₂ (DiffType.swap_ne ht) path field
  cases hta.symm.trans hta'
  cases htb.symm.trans htb'
  cases bothObjects_comm hb hb'
  have htype : (DiffType.typeMismatch == t.swap) = (DiffType.typeMismatch == t) := by
    cases t <;> rfl
  rw [hr₁, hr₂, htype, typesCompatible_comm tb ta]
  cases b
  · cases hn₁; cases hn₂; rfl
  · rw [hnested rn₁ rn₂ hn₁ hn₂]

/-- The loops of line 654 of both calls report alike when each common key does. -/
theorem any_mapM_swap {names₁ names₂ : List String} (hnames : ∀ n, n ∈ names₁ ↔ n ∈ names₂)
    {g₁ g₂ : String → Py Found} {rs₁ rs₂ : List Found} {P₁ P₂ : Found → Bool}
    (h₁ : names₁.mapM g₁ = .ok rs₁) (h₂ : names₂.mapM g₂ = .ok rs₂)
    (hP : ∀ n r₁ r₂, n ∈ names₁ → g₁ n = .ok r₁ → g₂ n = .ok r₂ → P₂ r₂ = P₁ r₁) :
    rs₂.any P₂ = rs₁.any P₁ := by
  refine Bool.eq_iff_iff.mpr ⟨fun h => ?_, fun h => ?_⟩
  · obtain ⟨r₂, hr₂, hp⟩ := List.any_eq_true.mp h
    obtain ⟨n, hn, hg₂⟩ := mem_of_mapM_eq_ok h₂ r₂ hr₂
    obtain ⟨r₁, hr₁, hg₁⟩ := exists_of_mapM_eq_ok h₁ n ((hnames n).mpr hn)
    exact List.any_eq_true.mpr ⟨r₁, hr₁, hP n r₁ r₂ ((hnames n).mpr hn) hg₁ hg₂ ▸ hp⟩
  · obtain ⟨r₁, hr₁, hp⟩ := List.any_eq_true.mp h
    obtain ⟨n, hn, hg₁⟩ := mem_of_mapM_eq_ok h₁ r₁ hr₁
    obtain ⟨r₂, hr₂, hg₂⟩ := exists_of_mapM_eq_ok h₂ n ((hnames n).mp hn)
    exact List.any_eq_true.mpr ⟨r₂, hr₂, (hP n r₁ r₂ hn hg₁ hg₂).symm ▸ hp⟩

variable {ho ho' : HashOrder} {endpointPath method location endpointPath' method' location' : String}

/-- One level of two comparisons both ways round: they report swapped differences when the
comparisons of every pair of smaller field schemas do. -/
theorem reports_compareSchemas_swap_step {openaiSchema : Dict} {hadrianSchema : JValue}
    {context : String} {r₁ r₂ : Found} {t : DiffType} {path : String} {field : JValue}
    (h₁ : compareSchemas ho (.obj openaiSchema) hadrianSchema context endpointPath method location =
      .ok r₁)
    (h₂ : compareSchemas ho' hadrianSchema (.obj openaiSchema) context endpointPath' method'
      location' = .ok r₂)
    (hnested : ∀ openaiField hadrianField context',
      sizeOf openaiField < sizeOf (JValue.obj openaiSchema) → ∀ rn₁ rn₂,
      compareSchemas ho openaiField hadrianField context' endpointPath method location = .ok rn₁ →
      compareSchemas ho' hadrianField openaiField context' endpointPath' method' location' =
        .ok rn₂ → reports rn₂ t.swap path field = reports rn₁ t path field)
    (ht : t ≠ .requiredMismatch) : reports r₂ t.swap path field = reports r₁ t path field := by
  obtain ⟨openaiItems, hadrianDict, hadrianItems, req₁, hreq₁, missing₁, extension₁, common₁,
    hop, rfl, hhp, hm₁, he₁, hc₁, rfl⟩ := compareSchemas_eq_ok h₁
  obtain ⟨hadrianItems', openaiDict, openaiItems', req₂, hreq₂, missing₂, extension₂, common₂,
    hhp', hod, hop', hm₂, he₂, hc₂, rfl⟩ := compareSchemas_eq_ok h₂
  cases hod
  cases hhp.symm.trans hhp'
  cases hop.symm.trans hop'
  have hcommon : reports ((Collector.code endpointPath' method' location').concat common₂) t.swap
      path field = reports ((Collector.code endpointPath method location).concat common₁) t path
      field := by
    rw [reports_concat, reports_concat]
    refine any_mapM_swap (fun n => by simp only [HashOrder.mem_inter, and_comm]) hc₁ hc₂ ?_
    intro name rc₁ rc₂ _ hg₁ hg₂
    obtain ⟨openaiField, hadrianField, hof, hhf, hrc₁⟩ := walkAt_code_eq_ok hop hg₁
    obtain ⟨hadrianField', openaiField', hhf', hof', hrc₂⟩ := walkAt_code_eq_ok hhp hg₂
    cases hof.symm.trans hof'
    cases hhf.symm.trans hhf'
    exact reports_commonField_swap hrc₁ hrc₂
      (hnested openaiField hadrianField _ (sizeOf_lt_of_properties hop hof)) ht
  simp only [reports_app, hcommon,
    reports_collect (fun _ _ _ ha => reports_missingField ha) hm₁,
    reports_collect (fun _ _ _ ha => reports_missingField ha) hm₂,
    reports_collect (fun _ _ _ ha => reports_extensionField ha) he₁,
    reports_collect (fun _ _ _ ha => reports_extensionField ha) he₂, fieldMark_swap]
  cases t <;> simp only [DiffType.swap, Bool.or_comm]

/-- Compared both ways round, two schemas report swapped differences at every depth, when both
comparisons return. -/
theorem reports_compareSchemas_swap (openaiSchema hadrianSchema : JValue) (context : String)
    {r₁ r₂ : Found}
    (h₁ : compareSchemas ho openaiSchema hadrianSchema context endpointPath method location = .ok r₁)
    (h₂ : compareSchemas ho' hadrianSchema openaiSchema context endpointPath' method' location' =
      .ok r₂)
    (t : DiffType) (ht : t ≠ .requiredMismatch) (path : String) (field : JValue) :
    reports r₂ t.swap path field = reports r₁ t path field := by
  cases openaiSchema with
  | obj openaiSchema =>
    exact reports_compareSchemas_swap_step h₁ h₂ (fun openaiField hadrianField _ hlt _ _ hn₁ hn₂ =>
      reports_compareSchemas_swap openaiField hadrianField _ hn₁ hn₂ t ht path field) ht
  | _ => cases h₁
termination_by sizeOf openaiSchema
decreasing_by subst_vars; exact hlt

end Swap

/-- `_compare_schemas` both ways round: `_types_compatible` and the test of line 686 are symmetric,
and when both calls return, each reports an extension where the other reports a missing field,
and both report the same type mismatches, at every depth. -/
theorem compareSchemas_swap (ho ho' : HashOrder)
    (endpointPath method location endpointPath' method' location' : String) :
    (∀ a b, typesCompatible a b = typesCompatible b a) ∧
    (∀ a b x y, bothObjects a b = .ok x → bothObjects b a = .ok y → x = y) ∧
    ∀ openaiSchema hadrianSchema context r₁ r₂,
      compareSchemas ho openaiSchema hadrianSchema context endpointPath method location = .ok r₁ →
      compareSchemas ho' hadrianSchema openaiSchema context endpointPath' method' location' =
        .ok r₂ →
      ∀ path field,
        reports r₂ .hadrianExtension path field = reports r₁ .missingInHadrian path field ∧
        reports r₂ .missingInHadrian path field = reports r₁ .hadrianExtension path field ∧
        reports r₂ .typeMismatch path field = reports r₁ .typeMismatch path field :=
  ⟨typesCompatible_comm, fun _ _ _ _ => bothObjects_comm,
    fun openaiSchema hadrianSchema context _ _ h₁ h₂ path field =>
      ⟨reports_compareSchemas_swap openaiSchema hadrianSchema context h₁ h₂ .missingInHadrian nofun
        path field,
       reports_compareSchemas_swap openaiSchema hadrianSchema context h₁ h₂ .hadrianExtension nofun
        path field,
       reports_compareSchemas_swap openaiSchema hadrianSchema context h₁ h₂ .typeMismatch nofun
        path field⟩⟩

/-- An OpenAI schema whose object field `a` has the field `x` and whose field `b` is an integer. -/
def nestedOpenaiSchema : JValue := .obj [("properties", .obj [
  ("a", .obj [("type", .str "object"), ("properties", .obj [("x", .obj [("type", .str "string")])])]),
  ("b", .obj [("type", .str "integer")])])]

/-- A Hadrian schema whose object field `a` has the field `y` and whose field `b` is a string. -/
def nestedHadrianSchema : JValue := .obj [("properties", .obj [
  ("a", .obj [("type", .str "object"), ("properties", .obj [("y", .obj [("type", .str "string")])])]),
  ("b", .obj [("type", .str "string")])])]

/-- Both ways round return on the nested pair, and the missing `a.x` of one is the other's
extension. -/
theorem compareSchemas_swap_nested :
    ∃ r₁ r₂, compareSchemas HashOrder.inOrder nestedOpenaiSchema nestedHadrianSchema "ctx" "/p"
        "POST" "request" = .ok r₁ ∧
      compareSchemas HashOrder.inOrder nestedHadrianSchema nestedOpenaiSchema "ctx" "/p" "POST"
        "request" = .ok r₂ ∧
      reports r₁ .missingInHadrian "ctx.a" (.str "x") = true ∧
      reports r₂ .hadrianExtension "ctx.a" (.str "x") = true := by
  refine ⟨_, _, rfl, rfl, by decide, ?_⟩
  exact ((compareSchemas_swap HashOrder.inOrder HashOrder.inOrder "/p" "POST" "request" "/p" "POST"
    "request").2.2 nestedOpenaiSchema nestedHadrianSchema "ctx" _ _ rfl rfl "ctx.a" (.str "x")).1.trans
    (by decide)

/-- A schema whose only field `a` is the boolean schema `true`. -/
def booleanFieldSchema : JValue := .obj [("properties", .obj [("a", .bool true)])]

/-- A schema whose only field `a` is a string. -/
def stringFieldSchema : JValue := .obj [("properties", .obj [("a", .obj [("type", .str "string")])])]

/-- Both schemas and `{}` are resolved: resolving them gives them back. The boolean field makes
one direction raise where the other returns: `{}` against `booleanFieldSchema` reads
`True.get("description")` in the extension loop (line 643), and `booleanFieldSchema` against
`stringFieldSchema` reads `True.get("type")` at line 686, which the other direction skips because
`a` is a string there. -/
theorem compareSchemas_swap_raises :
    resolveSchema (.obj []) 3 booleanFieldSchema [] = .ok (booleanFieldSchema, []) ∧
    resolveSchema (.obj []) 3 stringFieldSchema [] = .ok (stringFieldSchema, []) ∧
    resolveSchema (.obj []) 1 (.obj []) [] = .ok (.obj [], []) ∧
    (fun r => reports r .missingInHadrian "ctx" (.str "a")) <$>
      compareSchemas HashOrder.inOrder booleanFieldSchema (.obj []) "ctx" "/p" "POST" "request" =
      .ok true ∧
    compareSchemas HashOrder.inOrder (.obj []) booleanFieldSchema "ctx" "/p" "POST" "request" =
      .error .attributeError ∧
    (fun r => reports r .typeMismatch "ctx" (.str "a")) <$>
      compareSchemas HashOrder.inOrder stringFieldSchema booleanFieldSchema "ctx" "/p" "POST"
        "request" = .ok true ∧
    compareSchemas HashOrder.inOrder booleanFieldSchema stringFieldSchema "ctx" "/p" "POST"
      "request" = .error .attributeError := by
  decide

end HadrianConformance
