import HadrianConformance.Differ.Compare

/-!
# The differ and the policy, as two stages

The design lists the differences of two schemas first and then lets a policy turn each one into
at most one violation; `_compare_schemas` (`scripts/openapi-conformance.py:587–698`) does both in
one walk, appending each violation right after its difference. `Collector.notes` is the differ
alone: the same walk, recording with each difference whether the Hadrian field's description
carries `EXTENSION_MARKER`, the one thing the policy reads besides the difference.
`compareSchemas_eq` shows that the code's walk is the differ followed by the policy.
-/

namespace HadrianConformance

/-- A difference, and whether the Hadrian field's description contains the marker (read for
extensions only). -/
structure DiffNote where
  diff : SchemaDiff
  marked : Bool := false
  deriving DecidableEq, Repr

/-- How a violation message starts (lines 625, 648, 560, 581). -/
def fieldSubject (location : String) (field : JValue) : String :=
  (if location = "param" then "Query parameter '" else "Field '") ++ pyStr field

/-- The policy: a missing field outside `DOCUMENTED_MISSING_FIELDS` and an extension without the
marker are violations; type and required differences are not. -/
def policy (endpointPath method location : String) (note : DiffNote) : Option Violation :=
  match note.diff.diffType with
  | .missingInHadrian =>
    if isDocumented endpointPath method location note.diff.field then none else some {
      violationType := "undocumented_missing", path := endpointPath, method := method,
      field := note.diff.field, location := location,
      message := fieldSubject location note.diff.field ++
        "' is missing but not documented in DOCUMENTED_MISSING_FIELDS" }
  | .hadrianExtension =>
    if note.marked then none else some {
      violationType := "unmarked_extension", path := endpointPath, method := method,
      field := note.diff.field, location := location,
      message := fieldSubject location note.diff.field ++ "' is a Hadrian extension but missing '" ++
        extensionMarker ++ "' in description" }
  | _ => none

/-- The differences of some notes, and the policy's violations in the same order. -/
def notesFound (endpointPath method location : String) (notes : List DiffNote) : Found :=
  (notes.map DiffNote.diff, notes.filterMap (policy endpointPath method location))

/-- Lines 607–628 for one field, as the differ sees it. -/
def missingNote (hadrianProps : JValue) (openaiRequired : List JValue) (context fieldName : String)
    (openaiField : JValue) : Py (List DiffNote) := do
  if ← pyContains hadrianProps fieldName then return []
  return [{ diff := missingDiff openaiRequired context fieldName (← getTypeString openaiField) }]

/-- Lines 631–651 for one field, as the differ sees it. -/
def extensionNote (openaiProps : JValue) (context fieldName : String) (hadrianField : JValue) :
    Py (List DiffNote) := do
  if ← pyContains openaiProps fieldName then return []
  let diff := extensionDiff context fieldName (← getTypeString hadrianField)
  let description ← pyGet hadrianField "description" (.str "")
  return [{ diff := diff, marked := ← pyContains description extensionMarker }]

/-- Lines 655–696 for one common field, as the differ sees it. -/
def commonNote (nested : Py (List DiffNote)) (openaiField hadrianField : JValue)
    (openaiRequired hadrianRequired : List JValue) (context fieldName : String) :
    Py (List DiffNote) := do
  let diffs := commonDiffs openaiRequired hadrianRequired context fieldName
    (← getTypeString openaiField) (← getTypeString hadrianField)
  let nestedNotes ← if ← bothObjects openaiField hadrianField then nested else pure []
  return diffs.map (fun diff => { diff := diff }) ++ nestedNotes

/-- The differ's collector: notes. -/
def Collector.notes : Collector (List DiffNote) where
  nil := []
  app := (· ++ ·)
  missing := missingNote
  extension := extensionNote
  common := commonNote

/-- The differ: the notes of two resolved schemas. -/
def schemaNotes (ho : HashOrder) (openaiSchema hadrianSchema : JValue) (context : String) :
    Py (List DiffNote) :=
  schemaWalk ho Collector.notes openaiSchema hadrianSchema context

/-! ### A map of collectors is a map of walks -/

/-- A map that commutes with the empty result, concatenation and every step commutes with the
loop. -/
theorem map_collectWith {κ M N : Type} {nil : M} {app : M → M → M} {nil' : N} {app' : N → N → N}
    {f : M → N} (hnil : f nil = nil') (happ : ∀ a b, f (app a b) = app' (f a) (f b))
    {step : κ → JValue → Py M} {step' : κ → JValue → Py N} (h : ∀ k v, f <$> step k v = step' k v)
    (items : List (κ × JValue)) :
    f <$> collectWith nil app step items = collectWith nil' app' step' items := by
  induction items with
  | nil => simp [collectWith, hnil]
  | cons kv items ih =>
    simp only [collectWith, map_bind, ← h kv.1 kv.2, ← ih, bind_map_left, map_pure, happ]

/-- A map from one collector's results to another's that commutes with every step. -/
structure Collector.Hom {M N : Type} (c : Collector M) (d : Collector N) where
  f : M → N
  map_nil : f c.nil = d.nil
  map_app : ∀ a b, f (c.app a b) = d.app (f a) (f b)
  map_missing : ∀ hadrianProps openaiRequired context name field,
    f <$> c.missing hadrianProps openaiRequired context name field =
      d.missing hadrianProps openaiRequired context name field
  map_extension : ∀ openaiProps context name field,
    f <$> c.extension openaiProps context name field = d.extension openaiProps context name field
  map_common : ∀ nested openaiField hadrianField openaiRequired hadrianRequired context name,
    f <$> c.common nested openaiField hadrianField openaiRequired hadrianRequired context name =
      d.common (f <$> nested) openaiField hadrianField openaiRequired hadrianRequired context name

namespace Collector.Hom

variable {M N : Type} {c : Collector M} {d : Collector N} (φ : Collector.Hom c d) (ho : HashOrder)

theorem map_collect {step : String → JValue → Py M} {step' : String → JValue → Py N}
    (h : ∀ k v, φ.f <$> step k v = step' k v) (items : Dict) :
    φ.f <$> c.collect step items = d.collect step' items :=
  map_collectWith φ.map_nil φ.map_app h items

theorem map_concat (l : List M) : φ.f (c.concat l) = d.concat (l.map φ.f) := by
  induction l with
  | nil => exact φ.map_nil
  | cons a l ih => simp only [Collector.concat, List.map_cons, φ.map_app, ih]

theorem map_mapM {α : Type} {g : α → Py M} {g' : α → Py N} (h : ∀ a, φ.f <$> g a = g' a)
    (l : List α) : List.map φ.f <$> l.mapM g = l.mapM g' := by
  induction l with
  | nil => rfl
  | cons a l ih =>
    simp only [List.mapM_cons, map_bind, ← h a, ← ih, bind_map_left, map_pure, List.map_cons]

mutual
theorem map_schemaWalk : ∀ (openaiSchema hadrianSchema : JValue) (context : String),
    φ.f <$> schemaWalk ho c openaiSchema hadrianSchema context =
      schemaWalk ho d openaiSchema hadrianSchema context
  | .obj openaiSchema, hadrianSchema, context => by
    simp only [schemaWalk, map_bind, map_pure, φ.map_app, φ.map_concat,
      ← φ.map_collect (φ.map_missing _ _ _), ← φ.map_collect (φ.map_extension _ _),
      ← φ.map_mapM (fun name => map_walkAt openaiSchema name _ _ _ _), bind_map_left]
  | .null, _, _ => rfl
  | .bool _, _, _ => rfl
  | .num _, _, _ => rfl
  | .str _, _, _ => rfl
  | .arr _, _, _ => rfl
termination_by structural schema => schema
theorem map_walkAt : ∀ (schema : Dict) (name : String) (hadrianProps : JValue)
    (openaiRequired hadrianRequired : List JValue) (context : String),
    φ.f <$> walkAt ho c schema name hadrianProps openaiRequired hadrianRequired context =
      walkAt ho d schema name hadrianProps openaiRequired hadrianRequired context
  | [], _, _, _, _, _ => rfl
  | (k, v) :: schema, name, hadrianProps, openaiRequired, hadrianRequired, context => by
    simp only [walkAt]
    split
    · exact map_walkIn v name hadrianProps openaiRequired hadrianRequired context
    · exact map_walkAt schema name hadrianProps openaiRequired hadrianRequired context
termination_by structural schema => schema
theorem map_walkIn : ∀ (props : JValue) (name : String) (hadrianProps : JValue)
    (openaiRequired hadrianRequired : List JValue) (context : String),
    φ.f <$> walkIn ho c props name hadrianProps openaiRequired hadrianRequired context =
      walkIn ho d props name hadrianProps openaiRequired hadrianRequired context
  | .obj props, name, hadrianProps, openaiRequired, hadrianRequired, context =>
    map_walkOf props name hadrianProps openaiRequired hadrianRequired context
  | .null, _, _, _, _, _ => rfl
  | .bool _, _, _, _, _, _ => rfl
  | .num _, _, _, _, _, _ => rfl
  | .str _, _, _, _, _, _ => rfl
  | .arr _, _, _, _, _, _ => rfl
termination_by structural props => props
theorem map_walkOf : ∀ (props : Dict) (name : String) (hadrianProps : JValue)
    (openaiRequired hadrianRequired : List JValue) (context : String),
    φ.f <$> walkOf ho c props name hadrianProps openaiRequired hadrianRequired context =
      walkOf ho d props name hadrianProps openaiRequired hadrianRequired context
  | [], _, _, _, _, _ => rfl
  | (k, openaiField) :: props, name, hadrianProps, openaiRequired, hadrianRequired, context => by
    simp only [walkOf]
    split
    · simp only [map_bind, φ.map_common,
        map_schemaWalk openaiField _ (context ++ "." ++ name)]
    · exact map_walkOf props name hadrianProps openaiRequired hadrianRequired context
termination_by structural props => props
end
end Collector.Hom

/-! ### The code's walk is the differ followed by the policy -/

section Steps

variable {endpointPath method location : String}

theorem notesFound_missing (hloc : location ≠ "param") (hadrianProps : JValue)
    (openaiRequired : List JValue) (context name : String) (field : JValue) :
    notesFound endpointPath method location <$> missingNote hadrianProps openaiRequired context name field =
      missingField hadrianProps openaiRequired context endpointPath method location name field := by
  unfold missingNote missingField
  cases pyContains hadrianProps name with
  | error e => rfl
  | ok b =>
    cases b
    · cases getTypeString field with
      | error e => rfl
      | ok t =>
        by_cases hd : isDocumented endpointPath method location (.str name) <;>
          simp [notesFound, policy, fieldSubject, hloc, missingDiff, hd]
    · rfl

theorem notesFound_extension (hloc : location ≠ "param") (openaiProps : JValue)
    (context name : String) (field : JValue) :
    notesFound endpointPath method location <$> extensionNote openaiProps context name field =
      extensionField openaiProps context endpointPath method location name field := by
  unfold extensionNote extensionField
  cases pyContains openaiProps name with
  | error e => rfl
  | ok b =>
    cases b
    · simp only [ok_bind, Bool.false_eq_true, ite_false, pure_bind]
      cases getTypeString field with
      | error e => rfl
      | ok t =>
        simp only [ok_bind]
        cases pyGet field "description" (.str "") with
        | error e => rfl
        | ok description =>
          simp only [ok_bind]
          cases pyContains description extensionMarker with
          | error e => rfl
          | ok m =>
            cases m <;> simp [notesFound, policy, fieldSubject, hloc, extensionDiff, pure, Except.pure]
    · rfl

/-- Type and required differences are never violations. -/
theorem policy_commonDiffs (openaiRequired hadrianRequired : List JValue)
    (context name openaiType hadrianType : String) :
    ∀ diff ∈ commonDiffs openaiRequired hadrianRequired context name openaiType hadrianType,
      policy endpointPath method location { diff := diff } = none := by
  unfold commonDiffs
  split <;> split <;> simp [policy]

theorem notesFound_common (nested : Py (List DiffNote)) (openaiField hadrianField : JValue)
    (openaiRequired hadrianRequired : List JValue) (context name : String) :
    notesFound endpointPath method location <$>
        commonNote nested openaiField hadrianField openaiRequired hadrianRequired context name =
      commonField (notesFound endpointPath method location <$> nested) openaiField hadrianField
        openaiRequired hadrianRequired context name := by
  unfold commonNote commonField
  cases getTypeString openaiField with
  | error e => rfl
  | ok openaiType =>
    cases getTypeString hadrianField with
    | error e => rfl
    | ok hadrianType =>
      simp only [ok_bind]
      cases bothObjects openaiField hadrianField with
      | error e => rfl
      | ok both =>
        cases both <;> simp only [ok_bind, Bool.false_eq_true, ite_false, ite_true, pure_bind]
        · simpa [notesFound, Function.comp_def, pure, Except.pure] using
            policy_commonDiffs openaiRequired hadrianRequired context name openaiType hadrianType
        · cases nested
          · rfl
          · simpa [notesFound, Function.comp_def, pure, Except.pure] using
              policy_commonDiffs openaiRequired hadrianRequired context name openaiType hadrianType

end Steps

/-- For a request or a response body, the policy maps the differ's notes to the code's lists. -/
def Collector.notesHom {endpointPath method location : String} (hloc : location ≠ "param") :
    Collector.Hom Collector.notes (Collector.code endpointPath method location) where
  f := notesFound endpointPath method location
  map_nil := rfl
  map_app a b := by simp [notesFound, Collector.notes, Collector.code, Found.app]
  map_missing := notesFound_missing hloc
  map_extension := notesFound_extension hloc
  map_common := notesFound_common

/-- `_compare_schemas` is the differ followed by the policy, at every depth and in order. -/
theorem compareSchemas_eq (ho : HashOrder) {location : String} (hloc : location ≠ "param")
    (openaiSchema hadrianSchema : JValue) (context endpointPath method : String) :
    compareSchemas ho openaiSchema hadrianSchema context endpointPath method location =
      notesFound endpointPath method location <$> schemaNotes ho openaiSchema hadrianSchema context :=
  ((Collector.notesHom hloc).map_schemaWalk ho openaiSchema hadrianSchema context).symm

end HadrianConformance
