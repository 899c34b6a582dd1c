import HadrianConformance.Base.Python

/-!
# Type strings and their compatibility

`_get_type_string` and `_types_compatible` of `scripts/openapi-conformance.py:700–750`.
The type string is what a difference reports for a field and what the differ compares.
Recursion reaches `items` and `additionalProperties` through `typeStringAt`, which finds a
member structurally; `typeStringAt_eq` says it is the dict lookup.
-/

namespace HadrianConformance

/-- A list member that `"|".join` accepts. -/
def asStr : JValue → Py String
  | .str s => pure s
  | _ => throw .typeError

/-- Lines 705–713: a type list (OpenAPI 3.1) without `"null"`, its one member or its members
joined by `|`. -/
def declaredType : JValue → Py JValue
  | .arr ts =>
    match ts.filter (· != .str "null") with
    | [t] => pure t
    | types => do pure (.str ("|".intercalate (← types.mapM asStr)))
  | t => pure t

/-- Line 730: the last `/`-segment of a ref. -/
def refName : JValue → Py String
  | .str ref => pure ((pySplit ref '/').getLast?.getD "")
  | _ => throw .attributeError

mutual
/-- `_get_type_string` (lines 700–732). The `{}` that line 716 defaults `items` to has type
string `unknown` (`getTypeString_empty`). -/
def getTypeString : JValue → Py String
  | .obj schema => do
    let schemaType ← declaredType ((Dict.get? schema "type").getD .null)
    if schemaType = .str "array" then
      let itemType ← (typeStringAt schema "items").getD (pure "unknown")
      pure ("array<" ++ itemType ++ ">")
    else if schemaType = .str "object" then
      match typeStringAt schema "additionalProperties" with
      | some valueType => do pure ("map<string, " ++ (← valueType) ++ ">")
      | none => pure "object"
    else if pyTruthy schemaType then pure (pyStr schemaType)
    else if Dict.contains schema "enum" then pure "enum"
    else match Dict.get? schema "$ref" with
      | some ref => refName ref
      | none => pure "unknown"
  | schema => pure (pyStr schema)
/-- The type string of the member `key` of `d`, when `d` has one. -/
def typeStringAt : Dict → String → Option (Py String)
  | [], _ => none
  | (k, v) :: d, key => if k = key then some (getTypeString v) else typeStringAt d key
end

theorem getTypeString_empty : getTypeString (.obj []) = pure "unknown" := rfl

/-- `typeStringAt` is the type string of the looked-up member. -/
theorem typeStringAt_eq (d : Dict) (key : String) :
    typeStringAt d key = (Dict.get? d key).map getTypeString := by
  induction d with
  | nil => rfl
  | cons kv d ih =>
    obtain ⟨k, v⟩ := kv
    by_cases h : k = key <;> simp [typeStringAt, Dict.get?_cons, h, ih]

/-- Line 741: a member of `{"integer", "number"}`. -/
def isNumeric (t : String) : Bool := t == "integer" || t == "number"

/-- `_types_compatible` (lines 734–750): equal, both numeric, or `number` against `double`. -/
def typesCompatible (openaiType hadrianType : String) : Bool :=
  openaiType == hadrianType
    || (isNumeric openaiType && isNumeric hadrianType)
    || (openaiType == "number" && hadrianType == "double")
    || (hadrianType == "number" && openaiType == "double")

end HadrianConformance
