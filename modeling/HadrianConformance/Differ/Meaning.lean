import HadrianConformance.Differ.Symmetry

/-!
# What a reported difference means

`_compare_schemas` (`scripts/openapi-conformance.py:587–698`) reports its differences while it
walks two schemas down their common fields. This module says which differences a comparison
that returned reports, without the walk. A difference of type `t` at the path `p` for the field
`f` is reported exactly when two things hold (`compareSchemas_reports_iff`). First, descending from the
two schemas through common fields that line 686 lets the walk enter reaches, at `p`, a pair of
schemas (`Reaches`). Second, that pair differs in `f` at its own level the way `t` says
(`LevelDiff`): `f` is in the first `properties` only (missing), in the second only (extension),
or in both with incompatible type strings (type mismatch) or required in the first and not in
the second (required mismatch).
-/

namespace HadrianConformance

/-- The `properties` of a schema as lines 601–602 read them: the dict under `properties`, `{}`
when there is none. -/
def propertiesOf : JValue → Option Dict
  | .obj schema => match (Dict.get? schema "properties").getD (.obj []) with
    | .obj props => some props
    | _ => none
  | _ => none

/-- The required names of a schema as lines 603–604 read them. -/
def requiredOf : JValue → Py (List JValue)
  | .obj schema => pySet ((Dict.get? schema "required").getD (.arr []))
  | _ => throw .attributeError

/-- What one level of the walk reports for the field `name`, one disjunct per place it is
reported: the loop of line 607, the loop of line 631, and lines 662–683 for a common field. -/
def LevelDiff (O H : JValue) (t : DiffType) (name : String) : Prop :=
  match propertiesOf O, propertiesOf H with
  | some openaiItems, some hadrianItems =>
    (t = .missingInHadrian ∧ name ∈ openaiItems.map Prod.fst ∧ name ∉ hadrianItems.map Prod.fst) ∨
    (t = .hadrianExtension ∧ name ∈ hadrianItems.map Prod.fst ∧ name ∉ openaiItems.map Prod.fst) ∨
    ∃ openaiField hadrianField, Dict.get? openaiItems name = some openaiField ∧
      Dict.get? hadrianItems name = some hadrianField ∧
      ((t = .typeMismatch ∧ ∃ openaiType hadrianType, getTypeString openaiField = .ok openaiType ∧
          getTypeString hadrianField = .ok hadrianType ∧ typesCompatible openaiType hadrianType = false) ∨
        (t = .requiredMismatch ∧ ∃ openaiRequired hadrianRequired, requiredOf O = .ok openaiRequired ∧
          requiredOf H = .ok hadrianRequired ∧ setHas openaiRequired name = true ∧
          setHas hadrianRequired name = false))
  | _, _ => False

/-- The pairs of schemas the walk from `O` and `H` at `context` reaches, with their context
path: a common field of the two `properties` whose schemas line 686 finds both objects is
entered at `context.name`. -/
inductive Reaches : JValue → JValue → String → String → JValue → JValue → Prop
  | here (O H : JValue) (context : String) : Reaches O H context context O H
  | field {O H openaiField hadrianField O' H' : JValue} {openaiItems hadrianItems : Dict}
      {context name path : String} :
      propertiesOf O = some openaiItems → propertiesOf H = some hadrianItems →
      Dict.get? openaiItems name = some openaiField → Dict.get? hadrianItems name = some hadrianField →
      bothObjects openaiField hadrianField = .ok true →
      Reaches openaiField hadrianField (context ++ "." ++ name) path O' H' → Reaches O H context path O' H'

/-- A difference of type `t` at `path` for `field`, described without the walk: a level the walk
reaches at `path` differs in `field` the way `t` says. -/
def Reported (O H : JValue) (context : String) (t : DiffType) (path : String) (field : JValue) :
    Prop :=
  ∃ name O' H', field = .str name ∧ Reaches O H context path O' H' ∧ LevelDiff O' H' t name

theorem propertiesOf_obj {schema props : Dict} (h : propertiesOf (.obj schema) = some props) :
    (Dict.get? schema "properties").getD (.obj []) = .obj props := by
  simp only [propertiesOf] at h
  split at h <;> cases h
  assumption

/-- What is reported from a level: its own differences, and what is reported from the pairs of
common object fields below it. -/
theorem reported_iff {O H : JValue} {openaiItems hadrianItems : Dict}
    (hO : propertiesOf O = some openaiItems) (hH : propertiesOf H = some hadrianItems)
    {context : String} {t : DiffType} {path : String} {field : JValue} :
    Reported O H context t path field ↔
      (path = context ∧ ∃ name, field = .str name ∧ LevelDiff O H t name) ∨
      ∃ name openaiField hadrianField, Dict.get? openaiItems name = some openaiField ∧
        Dict.get? hadrianItems name = some hadrianField ∧
        bothObjects openaiField hadrianField = .ok true ∧
        Reported openaiField hadrianField (context ++ "." ++ name) t path field := by
  constructor
  · rintro ⟨name, O', H', rfl, hreach, hlevel⟩
    cases hreach with
    | here => exact .inl ⟨rfl, name, rfl, hlevel⟩
    | field hO' hH' hof hhf hb hreach =>
      cases hO.symm.trans hO'
      cases hH.symm.trans hH'
      exact .inr ⟨_, _, _, hof, hhf, hb, name, O', H', rfl, hreach, hlevel⟩
  · rintro (⟨rfl, name, rfl, hlevel⟩ | ⟨_, _, _, hof, hhf, hb, name, O', H', rfl, hreach, hlevel⟩)
    · exact ⟨name, O, H, rfl, .here O H _, hlevel⟩
    · exact ⟨name, O', H', rfl, .field hO hH hof hhf hb hreach, hlevel⟩

/-! ### One level of the walk -/

section Level

variable {ho : HashOrder} {endpointPath method location context : String} {t : DiffType}
  {path : String} {field : JValue}

/-- The loop of line 607 (`kind` missing) or 631 (`kind` extension) reports a member's field
at the level's own path, for a name the other side lacks. -/
theorem any_fieldMark {kind : DiffType} {other items : Dict} :
    items.any (fieldMark kind context other t path field) = true ↔
      path = context ∧ ∃ name, field = .str name ∧
        (t = kind ∧ name ∈ items.map Prod.fst ∧ name ∉ other.map Prod.fst) := by
  simp only [List.any_eq_true, fieldMark, Bool.and_eq_true, beq_iff_eq, Bool.not_eq_true',
    ← Bool.not_eq_true, Dict.contains_iff_mem, List.mem_map, Prod.exists, exists_and_right,
    exists_eq_right]
  constructor
  · rintro ⟨name, hmem, ⟨⟨rfl, rfl⟩, rfl⟩, hother⟩
    exact ⟨rfl, name, rfl, rfl, hmem, hother⟩
  · rintro ⟨rfl, name, rfl, rfl, hmem, hother⟩
    exact ⟨name, hmem, ⟨⟨rfl, rfl⟩, rfl⟩, hother⟩

/-- A common field that returned (lines 655–696): its own type and required differences,
then what its nested comparison returned when line 686 lets it run. -/
theorem commonField_eq_ok {nested : Py Found} {openaiField hadrianField : JValue}
    {openaiRequired hadrianRequired : List JValue} {name : String} {rc : Found}
    (h : commonField nested openaiField hadrianField openaiRequired hadrianRequired context name =
      .ok rc) :
    ∃ ta tb b rn, getTypeString openaiField = .ok ta ∧ getTypeString hadrianField = .ok tb ∧
      bothObjects openaiField hadrianField = .ok b ∧
      (if b then nested else pure ([], [])) = .ok rn ∧
      rc = (commonDiffs openaiRequired hadrianRequired context name ta tb ++ rn.1, rn.2) := by
  obtain ⟨ta, hta, h⟩ := bind_eq_ok.mp h
  obtain ⟨tb, htb, h⟩ := bind_eq_ok.mp h
  obtain ⟨b, hb, h⟩ := bind_eq_ok.mp h
  obtain ⟨⟨nd, nv⟩, hn, h⟩ : ∃ rn : Found, (if b then nested else pure ([], [])) = .ok rn ∧
      pure (commonDiffs openaiRequired hadrianRequired context name ta tb ++ rn.1, rn.2) =
        Except.ok rc := by
    cases b <;> simpa using bind_eq_ok.mp h
  cases h
  exact ⟨ta, tb, b, _, hta, htb, hb, hn, rfl⟩

/-- A common field (lines 655–696) reports its type and required differences at the level's
path, and what its nested comparison reports when line 686 lets it run. -/
theorem reports_commonField_eq {nested : Py Found} {openaiField hadrianField : JValue}
    {openaiRequired hadrianRequired : List JValue} {name : String} {rc : Found}
    (h : commonField nested openaiField hadrianField openaiRequired hadrianRequired context name =
      .ok rc) :
    ∃ ta tb b rn, getTypeString openaiField = .ok ta ∧ getTypeString hadrianField = .ok tb ∧
      bothObjects openaiField hadrianField = .ok b ∧
      (if b then nested else pure ([], [])) = .ok rn ∧
      ∀ t path field, reports rc t path field =
        ((.typeMismatch == t && context == path && .str name == field && !typesCompatible ta tb) ||
          (.requiredMismatch == t && context == path && .str name == field &&
            (setHas openaiRequired name && !setHas hadrianRequired name)) ||
          reports rn t path field) := by
  obtain ⟨ta, tb, b, rn, hta, htb, hb, hn, rfl⟩ := commonField_eq_ok h
  refine ⟨ta, tb, b, rn, hta, htb, hb, hn, fun t path field => ?_⟩
  simp only [reports, commonDiffs, List.any_append]
  cases typesCompatible ta tb <;> cases setHas openaiRequired name <;>
    cases setHas hadrianRequired name <;> simp

/-- A comparison that returned, one level at a time, with the `properties` and required names
it read. -/
theorem compareSchemas_level {openaiSchema : Dict} {hadrianSchema : JValue} {r : Found}
    (h : compareSchemas ho (.obj openaiSchema) hadrianSchema context endpointPath method location =
      .ok r) :
    ∃ openaiItems hadrianItems openaiRequired hadrianRequired missing extension common,
      propertiesOf (.obj openaiSchema) = some openaiItems ∧
      propertiesOf hadrianSchema = some hadrianItems ∧
      requiredOf (.obj openaiSchema) = .ok openaiRequired ∧
      requiredOf hadrianSchema = .ok hadrianRequired ∧
      (Collector.code endpointPath method location).collect
        (missingField (.obj hadrianItems) openaiRequired context endpointPath method location)
        openaiItems = .ok missing ∧
      (Collector.code endpointPath method location).collect
        (extensionField (.obj openaiItems) context endpointPath method location)
        hadrianItems = .ok extension ∧
      (ho.inter (openaiItems.map Prod.fst) (hadrianItems.map Prod.fst)).mapM (fun name =>
        walkAt ho (Collector.code endpointPath method location) openaiSchema name
          (.obj hadrianItems) openaiRequired hadrianRequired context) = .ok common ∧
      r = Found.app (Found.app missing extension)
        ((Collector.code endpointPath method location).concat common) := by
  obtain ⟨hadrianProps, hhp, h⟩ := bind_eq_ok.mp h
  obtain ⟨openaiRequired, hor, h⟩ := bind_eq_ok.mp h
  obtain ⟨hadrianRequiredValue, hhr, h⟩ := bind_eq_ok.mp h
  obtain ⟨hadrianRequired, hhreq, h⟩ := bind_eq_ok.mp h
  obtain ⟨openaiItems, hoi, h⟩ := bind_eq_ok.mp h
  obtain ⟨missing, hm, h⟩ := bind_eq_ok.mp h
  obtain ⟨hadrianItems, hhi, h⟩ := bind_eq_ok.mp h
  obtain ⟨extension, he, h⟩ := bind_eq_ok.mp h
  obtain ⟨common, hc, h⟩ := bind_eq_ok.mp h
  cases h
  obtain ⟨hadrianDict, rfl, rfl⟩ := pyGet_eq_ok hhp
  obtain ⟨_, he', rfl⟩ := pyGet_eq_ok hhr
  cases he'
  rw [pyItems_eq_ok hoi] at he
  rw [pyItems_eq_ok hhi] at hm hc
  refine ⟨openaiItems, hadrianItems, openaiRequired, hadrianRequired, missing, extension, common,
    ?_, ?_, hor, hhreq, hm, he, hc, rfl⟩
  · simp only [propertiesOf, pyItems_eq_ok hoi]
  · simp only [propertiesOf, pyItems_eq_ok hhi]

/-- The loop of line 654 reports a common field's own type and required differences, and what
the nested comparisons it runs report. -/
theorem any_common_iff {openaiSchema openaiItems hadrianItems : Dict}
    {openaiRequired hadrianRequired : List JValue} {common : List Found}
    (hp : propertiesOf (.obj openaiSchema) = some openaiItems)
    (hc : (ho.inter (openaiItems.map Prod.fst) (hadrianItems.map Prod.fst)).mapM (fun name =>
        walkAt ho (Collector.code endpointPath method location) openaiSchema name
          (.obj hadrianItems) openaiRequired hadrianRequired context) = .ok common)
    (hnested : ∀ openaiField hadrianField context' rn,
      compareSchemas ho openaiField hadrianField context' endpointPath method location = .ok rn →
      sizeOf openaiField < sizeOf (JValue.obj openaiSchema) →
      (reports rn t path field = true ↔ Reported openaiField hadrianField context' t path field)) :
    common.any (fun rc => reports rc t path field) = true ↔
      (path = context ∧ ∃ name, field = .str name ∧ ∃ openaiField hadrianField,
        Dict.get? openaiItems name = some openaiField ∧
        Dict.get? hadrianItems name = some hadrianField ∧
        ((t = .typeMismatch ∧ ∃ openaiType hadrianType, getTypeString openaiField = .ok openaiType ∧
            getTypeString hadrianField = .ok hadrianType ∧ typesCompatible openaiType hadrianType = false) ∨
          (t = .requiredMismatch ∧ setHas openaiRequired name = true ∧
            setHas hadrianRequired name = false))) ∨
      ∃ name openaiField hadrianField, Dict.get? openaiItems name = some openaiField ∧
        Dict.get? hadrianItems name = some hadrianField ∧
        bothObjects openaiField hadrianField = .ok true ∧
        Reported openaiField hadrianField (context ++ "." ++ name) t path field := by
  have hp' := propertiesOf_obj hp
  rw [any_of_mapM_eq_ok hc]
  constructor
  · rintro ⟨name, -, rc, hg, hrep⟩
    obtain ⟨openaiField, hadrianField, hof, hhf, hrc⟩ := walkAt_code_eq_ok hp' hg
    obtain ⟨ta, tb, b, rn, hta, htb, hb, hrn, heq⟩ := reports_commonField_eq hrc
    simp only [heq, Bool.or_eq_true, Bool.and_eq_true, beq_iff_eq, Bool.not_eq_true'] at hrep
    rcases hrep with (⟨⟨⟨rfl, rfl⟩, rfl⟩, hcompat⟩ | ⟨⟨⟨rfl, rfl⟩, rfl⟩, hreq, hhreq⟩) | hnest
    · exact .inl ⟨rfl, name, rfl, openaiField, hadrianField, hof, hhf,
        .inl ⟨rfl, ta, tb, hta, htb, hcompat⟩⟩
    · exact .inl ⟨rfl, name, rfl, openaiField, hadrianField, hof, hhf, .inr ⟨rfl, hreq, hhreq⟩⟩
    · cases b
      · simp only [Bool.false_eq_true, ite_false, pure, Except.pure, Except.ok.injEq] at hrn
        cases hrn
        cases hnest
      · simp only [ite_true] at hrn
        exact .inr ⟨name, openaiField, hadrianField, hof, hhf, hb,
          (hnested _ _ _ _ hrn (sizeOf_lt_of_properties hp' hof)).mp hnest⟩
  · intro hrep
    obtain ⟨name, openaiField, hadrianField, hof, hhf, hcase⟩ :
        ∃ name openaiField hadrianField, Dict.get? openaiItems name = some openaiField ∧
          Dict.get? hadrianItems name = some hadrianField ∧
          ((path = context ∧ field = .str name ∧
            ((t = .typeMismatch ∧ ∃ openaiType hadrianType, getTypeString openaiField = .ok openaiType ∧
              getTypeString hadrianField = .ok hadrianType ∧ typesCompatible openaiType hadrianType = false) ∨
            (t = .requiredMismatch ∧ setHas openaiRequired name = true ∧
              setHas hadrianRequired name = false))) ∨
          (bothObjects openaiField hadrianField = .ok true ∧
            Reported openaiField hadrianField (context ++ "." ++ name) t path field)) := by
      rcases hrep with ⟨hpath, name, hfield, openaiField, hadrianField, hof, hhf, hcase⟩ |
        ⟨name, openaiField, hadrianField, hof, hhf, hb, hnest⟩
      · exact ⟨name, openaiField, hadrianField, hof, hhf, .inl ⟨hpath, hfield, hcase⟩⟩
      · exact ⟨name, openaiField, hadrianField, hof, hhf, .inr ⟨hb, hnest⟩⟩
    have hmem : name ∈ ho.inter (openaiItems.map Prod.fst) (hadrianItems.map Prod.fst) :=
      (ho.mem_inter _ _ _).mpr ⟨List.mem_map_of_mem _ (Dict.mem_of_get? hof),
        List.mem_map_of_mem _ (Dict.mem_of_get? hhf)⟩
    obtain ⟨rc, -, hg⟩ := exists_of_mapM_eq_ok hc name hmem
    obtain ⟨openaiField', hadrianField', hof', hhf', hrc⟩ := walkAt_code_eq_ok hp' hg
    cases hof.symm.trans hof'
    cases hhf.symm.trans hhf'
    obtain ⟨ta, tb, b, rn, hta, htb, hb, hrn, heq⟩ := reports_commonField_eq hrc
    refine ⟨name, hmem, rc, hg, ?_⟩
    simp only [heq, Bool.or_eq_true, Bool.and_eq_true, beq_iff_eq, Bool.not_eq_true']
    rcases hcase with ⟨rfl, rfl, ⟨rfl, ta', tb', hta', htb', hcompat⟩ | ⟨rfl, hreq, hhreq⟩⟩ |
      ⟨hb', hnest⟩
    · cases hta.symm.trans hta'
      cases htb.symm.trans htb'
      exact .inl (.inl ⟨⟨⟨rfl, rfl⟩, rfl⟩, hcompat⟩)
    · exact .inl (.inr ⟨⟨⟨rfl, rfl⟩, rfl⟩, hreq, hhreq⟩)
    · cases hb.symm.trans hb'
      simp only [ite_true] at hrn
      exact .inr ((hnested _ _ _ _ hrn (sizeOf_lt_of_properties hp' hof)).mpr hnest)

/-- One level of a comparison that returned reports what `Reported` describes, when the nested
comparisons it runs do. -/
theorem reports_iff_step {openaiSchema : Dict} {hadrianSchema : JValue} {r : Found}
    (h : compareSchemas ho (.obj openaiSchema) hadrianSchema context endpointPath method location =
      .ok r)
    (hnested : ∀ openaiField hadrianField context' rn,
      compareSchemas ho openaiField hadrianField context' endpointPath method location = .ok rn →
      sizeOf openaiField < sizeOf (JValue.obj openaiSchema) →
      (reports rn t path field = true ↔ Reported openaiField hadrianField context' t path field)) :
    reports r t path field = true ↔ Reported (.obj openaiSchema) hadrianSchema context t path field := by
  obtain ⟨openaiItems, hadrianItems, openaiRequired, hadrianRequired, missing, extension, common,
    hop, hhp, hor, hhr, hm, he, hc, rfl⟩ := compareSchemas_level h
  have hrequired : ∀ name, (∃ req hreq, requiredOf (.obj openaiSchema) = .ok req ∧
      requiredOf hadrianSchema = .ok hreq ∧ setHas req name = true ∧ setHas hreq name = false) ↔
      setHas openaiRequired name = true ∧ setHas hadrianRequired name = false := fun name => by
    simp only [hor, hhr, Except.ok.injEq, exists_and_left, exists_eq_left']
  rw [reported_iff hop hhp]
  simp only [reports_app, reports_concat, Bool.or_eq_true,
    reports_collect (fun _ _ _ ha => reports_missingField ha) hm,
    reports_collect (fun _ _ _ ha => reports_extensionField ha) he,
    any_fieldMark, any_common_iff hop hc hnested, LevelDiff, hop, hhp, hrequired]
  simp only [and_or_left, exists_or, or_assoc]

end Level

/-- What `_compare_schemas` reports, said without its walk: when a comparison returns, it
reports a difference of type `t` at `path` for `field` exactly when the two schemas, descended
through common fields that are objects on both sides, reach at `path` a level whose `field` is
in the first `properties` only (missing), in the second only (extension), or in both with
incompatible type strings (type mismatch) or required in the first only (required mismatch). -/
theorem compareSchemas_reports_iff (ho : HashOrder) (O H : JValue)
    (context endpointPath method location : String) (r : Found)
    (h : compareSchemas ho O H context endpointPath method location = .ok r)
    (t : DiffType) (path : String) (field : JValue) :
    reports r t path field = true ↔ Reported O H context t path field := by
  cases O with
  | obj openaiSchema =>
    exact reports_iff_step h fun openaiField hadrianField _ _ hn hlt =>
      compareSchemas_reports_iff ho openaiField hadrianField _ endpointPath method location _ hn t
        path field
  | _ => cases h
termination_by sizeOf O
decreasing_by subst_vars; exact hlt

/-- The nested pair of `Differ.Symmetry` compares, and its missing `a.x` is reported. -/
theorem compareSchemas_reports_iff_nested :
    ∃ r, compareSchemas HashOrder.inOrder nestedOpenaiSchema nestedHadrianSchema "ctx" "/p" "POST"
        "request" = .ok r ∧
      reports r .missingInHadrian "ctx.a" (.str "x") = true ∧
      Reported nestedOpenaiSchema nestedHadrianSchema "ctx" .missingInHadrian "ctx.a" (.str "x") := by
  refine ⟨_, rfl, by decide, ?_⟩
  exact (compareSchemas_reports_iff HashOrder.inOrder nestedOpenaiSchema nestedHadrianSchema "ctx"
    "/p" "POST" "request" _ rfl .missingInHadrian "ctx.a" (.str "x")).mp (by decide)

/-! ### A schema against itself -/

section Self

variable {ho : HashOrder} {endpointPath method location context : String}

theorem typesCompatible_self (a : String) : typesCompatible a a = true := by
  simp [typesCompatible]

/-- A loop (lines 543, 564, 607 or 631) whose every step finds nothing finds nothing. -/
theorem collectWith_eq_nil {κ M : Type} {nil : M} {app : M → M → M} (happ : app nil nil = nil)
    {step : κ → JValue → Py M} :
    ∀ {items : List (κ × JValue)} {r : M}, (∀ k v a, (k, v) ∈ items → step k v = .ok a → a = nil) →
      collectWith nil app step items = .ok r → r = nil
  | [], _, _, h => by cases h; rfl
  | (k, v) :: items, _, hstep, h => by
    obtain ⟨a, ha, h⟩ := bind_eq_ok.mp h
    obtain ⟨b, hb, h⟩ := bind_eq_ok.mp h
    cases h
    rw [hstep k v a (List.mem_cons_self _ _) ha,
      collectWith_eq_nil happ (fun k' v' a' hmem => hstep k' v' a' (List.mem_cons_of_mem _ hmem)) hb]
    exact happ

theorem concat_eq_nil : ∀ {rs : List Found}, (∀ r ∈ rs, r = ([], [])) →
    (Collector.code endpointPath method location).concat rs = ([], [])
  | [], _ => rfl
  | r :: rs, h => by
    rw [Collector.concat, h r (List.mem_cons_self _ _),
      concat_eq_nil fun r' hr' => h r' (List.mem_cons_of_mem _ hr')]
    rfl

/-- A common field compared with itself has no difference of its own. -/
theorem commonField_self {nested : Py Found} {field : JValue} {required : List JValue}
    {name : String} {rc : Found}
    (h : commonField nested field field required required context name = .ok rc)
    (hnested : ∀ rn, nested = .ok rn → rn = ([], [])) : rc = ([], []) := by
  obtain ⟨ta, tb, b, rn, hta, htb, -, hn, rfl⟩ := commonField_eq_ok h
  cases hta.symm.trans htb
  obtain rfl : rn = ([], []) := by
    cases b
    · cases hn; rfl
    · exact hnested rn hn
  simp [commonDiffs, typesCompatible_self]

/-- One level of a schema compared with itself finds nothing, when the nested comparisons it runs
find nothing. -/
theorem compareSchemas_self_step {openaiSchema : Dict} {r : Found}
    (h : compareSchemas ho (.obj openaiSchema) (.obj openaiSchema) context endpointPath method
      location = .ok r)
    (hnested : ∀ field context' rn,
      compareSchemas ho field field context' endpointPath method location = .ok rn →
      sizeOf field < sizeOf (JValue.obj openaiSchema) → rn = ([], [])) : r = ([], []) := by
  obtain ⟨items, items', required, required', missing, extension, common, hp, hp', hr, hr', hm, he,
    hc, rfl⟩ := compareSchemas_level h
  cases hp.symm.trans hp'
  cases hr.symm.trans hr'
  have hprops := propertiesOf_obj hp
  have hmissing := collectWith_eq_nil rfl (fun k _ _ hmem ha => by
    simp only [missingField, pyContains_obj,
      Dict.contains_iff_mem.mpr (List.mem_map_of_mem Prod.fst hmem)] at ha
    cases ha; rfl) hm
  have hextension := collectWith_eq_nil rfl (fun k _ _ hmem ha => by
    simp only [extensionField, pyContains_obj,
      Dict.contains_iff_mem.mpr (List.mem_map_of_mem Prod.fst hmem)] at ha
    cases ha; rfl) he
  have hcommon : (Collector.code endpointPath method location).concat common = ([], []) :=
    concat_eq_nil fun rc hrc => by
      obtain ⟨name, -, hg⟩ := mem_of_mapM_eq_ok hc rc hrc
      obtain ⟨field, field', hf, hf', hrc'⟩ := walkAt_code_eq_ok hprops hg
      cases hf.symm.trans hf'
      exact commonField_self hrc' fun rn hrn =>
        hnested field _ rn hrn (sizeOf_lt_of_properties hprops hf)
  rw [hmissing, hextension, hcommon]
  rfl

end Self

/-- Comparing a schema with itself (`_compare_schemas(S, S)`) reports no difference and no
violation, at any depth, whenever it returns. -/
theorem compareSchemas_self (ho : HashOrder) (schema : JValue)
    (context endpointPath method location : String) (r : Found)
    (h : compareSchemas ho schema schema context endpointPath method location = .ok r) :
    r = ([], []) := by
  cases schema with
  | obj openaiSchema =>
    exact compareSchemas_self_step h fun field _ _ hn hlt =>
      compareSchemas_self ho field _ endpointPath method location _ hn
  | _ => cases h
termination_by sizeOf schema
decreasing_by subst_vars; exact hlt

/-- The nested OpenAI schema of `Differ.Symmetry` compared with itself. -/
theorem compareSchemas_self_nested :
    ∃ r, compareSchemas HashOrder.inOrder nestedOpenaiSchema nestedOpenaiSchema "ctx" "/p" "POST"
      "request" = .ok r ∧ r = ([], []) :=
  ⟨_, rfl, compareSchemas_self HashOrder.inOrder nestedOpenaiSchema "ctx" "/p" "POST" "request" _ rfl⟩

end HadrianConformance
