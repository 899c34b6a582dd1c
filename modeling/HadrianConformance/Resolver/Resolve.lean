import HadrianConformance.Base.Python

/-!
# Schema resolution

`OpenAPIResolver` of `scripts/openapi-conformance.py:167–271`. The body of `resolve_schema`
is `resolveStep`, with its own recursive calls and `resolve_ref` passed in, over any state:
the resolver proper (`resolveSchema`) threads the `$ref` cache, the cache-free reference
resolver (`resolveFree`) threads nothing. Python's unbounded recursion is fuel; running out
of it is `RecursionError`.
-/

namespace HadrianConformance

/-- The resolver's `_cache` (line 173): ref string to resolved schema. -/
abbrev Cache := Dict

/-- A resolver computation over state `σ`. -/
abbrev ResolveM (σ : Type) := StateT σ Py

/-- Peeling the first step of a resolver computation that returned. -/
theorem ResolveM.bind_eq_ok {σ α β : Type} {x : ResolveM σ α} {f : α → ResolveM σ β} {s s' : σ}
    {b : β} : (x >>= f) s = .ok (b, s') ↔ ∃ a s₁, x s = .ok (a, s₁) ∧ f a s₁ = .ok (b, s') := by
  simp only [bind, StateT.bind]
  cases x s with
  | error e => simp [Except.bind]
  | ok p => obtain ⟨a, s₁⟩ := p; simp [Except.bind, and_assoc]

namespace ResolveM

variable {σ α β : Type}

@[simp] theorem bind_apply (x : ResolveM σ α) (f : α → ResolveM σ β) (s : σ) :
    (x >>= f) s = x s >>= fun p => f p.1 p.2 := rfl

@[simp] theorem pure_apply (a : α) (s : σ) : (pure a : ResolveM σ α) s = pure (a, s) := rfl

@[simp] theorem map_apply (f : α → β) (x : ResolveM σ α) (s : σ) :
    (f <$> x) s = (fun p => (f p.1, p.2)) <$> x s := by
  show (x s >>= fun p => match p with | (a, s) => pure (f a, s)) = _
  cases x s <;> rfl

@[simp] theorem ite_apply (c : Prop) [Decidable c] (x y : ResolveM σ α) (s : σ) :
    (if c then x else y) s = if c then x s else y s := by
  split <;> rfl

@[simp] theorem lift_apply (x : Py α) (s : σ) :
    (monadLift x : ResolveM σ α) s = (fun a => (a, s)) <$> x := by
  cases x <;> rfl

theorem lift_eq_ok {x : Py α} {s s' : σ} {a : α} :
    (monadLift x : ResolveM σ α) s = .ok (a, s') ↔ x = .ok a ∧ s' = s := by
  cases x <;> simp [monadLift, MonadLift.monadLift, StateT.lift, bind, Except.bind, pure,
    Except.pure, and_comm, eq_comm]

theorem lift_map (f : α → β) (x : Py α) :
    (monadLift (f <$> x) : ResolveM σ β) = f <$> (monadLift x : ResolveM σ α) := by
  funext s
  cases x <;> rfl

end ResolveM

/-- `OpenAPIResolver.__init__` (lines 170–173): reads `components.schemas`, which nothing
uses afterwards, and starts with an empty cache. -/
def OpenAPIResolver.init (spec : JValue) : Py Cache := do
  let _ ← pyGet (← pyGet spec "components" (.obj [])) "schemas" (.obj [])
  pure []

/-- Lines 184–190: walk the segments from the document root; `none` is the early
`return {}` at a segment reached through a value that is not a dict. -/
def walkRef : JValue → List String → Option JValue
  | x, [] => some x
  | .obj d, p :: ps => walkRef ((Dict.get? d p).getD (.obj [])) ps
  | _, _ :: _ => none

/-- Lines 181–190: the node a string ref names; `none` when `resolve_ref` returns `{}`. -/
def refTarget (spec : JValue) (r : String) : Option JValue :=
  if startsWith r "#/" then walkRef spec (pySplit ⟨r.data.drop 2⟩ '/') else none

section Step

variable {σ : Type}

/-- Lines 207–209 and 223–225: every key of `schema` but `skip` written onto `result`. -/
def copyExcept (skip : String) (schema result : Dict) : Dict :=
  schema.foldl (fun r kv => if kv.1 = skip then r else Dict.set r kv.1 kv.2) result

/-- Lines 260–263: `target.setdefault("properties", {}).update(...)` with the member's
properties resolved once more. -/
def mergeProperties (rec : JValue → ResolveM σ JValue) (target : Dict) (source : JValue) :
    ResolveM σ Dict := do
  if ← pyContains source "properties" then
    let target := Dict.setdefault target "properties" (.obj [])
    match Dict.get? target "properties" with
    | some (.obj cur) =>
      let resolved ← rec (.obj [("properties", ← pyIndex source "properties")])
      let newProps ← pyGet resolved "properties" (.obj [])
      pure (Dict.set target "properties" (.obj (← pyUpdate cur newProps)))
    | _ => throw .attributeError
  else pure target

/-- Lines 264–267: the union of the required names. -/
def mergeRequired (target : Dict) (source : JValue) : Py Dict := do
  if ← pyContains source "required" then
    let existing ← pySet ((Dict.get? target "required").getD (.arr []))
    let existing ← pySetUpdate existing (← pyIndex source "required")
    pure (Dict.set target "required" (.arr existing))
  else pure target

/-- Lines 269–271, one key: the member's value, when it has one, replaces the target's. -/
def mergeKey (source : JValue) (target : Dict) (key : String) : Py Dict := do
  if ← pyContains source key then pure (Dict.set target key (← pyIndex source key))
  else pure target

/-- `_merge_schemas` (lines 258–271). -/
def mergeSchemas (rec : JValue → ResolveM σ JValue) (target : Dict) (source : JValue) :
    ResolveM σ Dict := do
  let target ← mergeProperties rec target source
  let target ← mergeRequired target source
  let target ← (["type", "description"].foldlM (mergeKey source) target : Py Dict)
  pure target

/-- Lines 219–221: each `allOf` member resolved, in order, and merged in. -/
def mergeAll (rec : JValue → ResolveM σ JValue) (merged : Dict) : List JValue → ResolveM σ Dict
  | [] => pure merged
  | sub :: subs => do
    let resolved ← rec sub
    mergeAll rec (← mergeSchemas rec merged resolved) subs

/-- The accumulator of the `allOf` branch (lines 214–218). -/
def allOfStart : Dict := [("type", .str "object"), ("properties", .obj []), ("required", .arr [])]

/-- Line 234: `isinstance(opt, dict) and opt.get("type") == "null"`. -/
def isNullOption : JValue → Bool
  | .obj d => Dict.get? d "type" == some (.str "null")
  | _ => false

/-- Lines 247–250: the values of a `properties` dict resolved in order. -/
def resolveProps (rec : JValue → ResolveM σ JValue) : Dict → ResolveM σ Dict
  | [] => pure []
  | (k, v) :: d => do
    let v' ← rec v
    pure ((k, v') :: (← resolveProps rec d))

/-- Lines 246–250: the values of `properties` resolved. -/
def resolveLeafProperties (rec : JValue → ResolveM σ JValue) (schema : Dict) : ResolveM σ Dict :=
  match Dict.get? schema "properties" with
  | some props => do pure (Dict.set schema "properties" (.obj (← resolveProps rec (← pyItems props))))
  | none => pure schema

/-- Lines 251–252: `items` resolved. -/
def resolveLeafItems (rec : JValue → ResolveM σ JValue) (result : Dict) : ResolveM σ Dict :=
  match Dict.get? result "items" with
  | some items => do pure (Dict.set result "items" (← rec items))
  | none => pure result

/-- Lines 253–254: a dict-valued `additionalProperties` resolved. -/
def resolveLeafAdditional (rec : JValue → ResolveM σ JValue) (result : Dict) : ResolveM σ JValue :=
  match Dict.get? result "additionalProperties" with
  | some (.obj ap) => do pure (.obj (Dict.set result "additionalProperties" (← rec (.obj ap))))
  | _ => pure (.obj result)

/-- Lines 245–256: a dict without composition keywords, its nested schemas resolved. -/
def resolveLeaf (rec : JValue → ResolveM σ JValue) (schema : Dict) : ResolveM σ JValue := do
  let result ← resolveLeafProperties rec schema
  let result ← resolveLeafItems rec result
  resolveLeafAdditional rec result

/-- The options of lines 229–235: `oneOf` when truthy, else `anyOf`, without null types. -/
def oneOfOptions (schema : Dict) : Py (List JValue) := do
  let oneOf := (Dict.get? schema "oneOf").getD .null
  let options := if pyTruthy oneOf then oneOf else (Dict.get? schema "anyOf").getD (.arr [])
  pure ((← pyIter options).filter fun opt => !isNullOption opt)

/-- The body of `resolve_schema` (lines 197–256), its recursive calls made through `rec`
and its calls of `resolve_ref` through `ref`. -/
def resolveStep (ref rec : JValue → ResolveM σ JValue) : JValue → ResolveM σ JValue
  | .obj schema =>
    match Dict.get? schema "$ref" with
    | some r => do
      let result ← pyDict (← ref r)
      pure (.obj (copyExcept "$ref" schema result))
    | none =>
    match Dict.get? schema "allOf" with
    | some subs => do
      let merged ← mergeAll rec allOfStart (← pyIter subs)
      pure (.obj (copyExcept "allOf" schema merged))
    | none =>
    if Dict.contains schema "oneOf" || Dict.contains schema "anyOf" then do
      match ← oneOfOptions schema with
      | opt :: _ => do
        let result ← pyDict (← rec opt)
        pure (.obj (Dict.set result "_nullable" (.bool true)))
      | [] => pure (.obj [("type", .str "null"), ("_nullable", .bool true)])
    else resolveLeaf rec schema
  | schema => pure schema

/-- Lines 181–193 without the cache: the target of a ref, resolved. -/
def resolveTarget (spec : JValue) (rec : JValue → ResolveM σ JValue) : JValue → ResolveM σ JValue
  | .str r => match refTarget spec r with
    | some target => rec target
    | none => pure (.obj [])
  | _ => throw .attributeError

end Step

/-- `resolve_ref` (lines 175–195): a cached ref is returned as stored; a new one is resolved
and stored, unless it has no target. -/
def resolveRef (spec : JValue) (rec : JValue → ResolveM Cache JValue) (ref : JValue) :
    ResolveM Cache JValue := fun cache =>
  if !pyHashable ref then throw .typeError else
  match ref with
  | .str r =>
    match Dict.get? cache r with
    | some v => pure (v, cache)
    | none =>
      match refTarget spec r with
      | some target => do
        let (resolved, cache) ← rec target cache
        pure (resolved, Dict.set cache r resolved)
      | none => pure (.obj [], cache)
  | _ => throw .attributeError

/-- Everything `resolve_ref` can return, and the cache it leaves. -/
theorem resolveRef_eq_ok {spec : JValue} {rec : JValue → ResolveM Cache JValue} {ref : JValue}
    {c c' : Cache} {v : JValue} :
    resolveRef spec rec ref c = .ok (v, c') ↔ ∃ r, ref = .str r ∧
      ((Dict.get? c r = some v ∧ c = c') ∨ (Dict.get? c r = none ∧
        ((∃ t c₁, refTarget spec r = some t ∧ rec t c = .ok (v, c₁) ∧ Dict.set c₁ r v = c') ∨
          (refTarget spec r = none ∧ v = .obj [] ∧ c = c')))) := by
  cases ref with
  | str r =>
    simp only [resolveRef, pyHashable, Bool.not_true, Bool.false_eq_true, ↓reduceIte]
    cases hc : Dict.get? c r with
    | some v₀ => simp [hc, pure, Except.pure]
    | none =>
      cases ht : refTarget spec r with
      | none => simp [hc, ht, pure, Except.pure, eq_comm]
      | some t =>
        cases h : rec t c with
        | error e => simp [hc, ht, h, bind, Except.bind]
        | ok p =>
          obtain ⟨a, c₁⟩ := p
          simp only [hc, ht, h, bind, Except.bind, pure, Except.pure, Except.ok.injEq, Prod.mk.injEq]
          constructor
          · rintro ⟨rfl, rfl⟩
            exact ⟨r, rfl, .inr ⟨hc, .inl ⟨t, c₁, ht, h, rfl⟩⟩⟩
          · rintro ⟨_, ⟨⟩, ⟨h₁, -⟩ | ⟨-, ⟨_, _, h₃, h₂, rfl⟩ | ⟨h₃, -⟩⟩⟩
            · rw [hc] at h₁
              cases h₁
            · rw [ht] at h₃
              cases h₃
              rw [h] at h₂
              cases h₂
              exact ⟨rfl, rfl⟩
            · rw [ht] at h₃
              cases h₃
  | _ => simp [resolveRef, pyHashable, throw, throwThe, MonadExceptOf.throw]

/-- Everything the cache-free `resolve_ref` can return. -/
theorem resolveTarget_eq_ok {σ : Type} {spec : JValue} {rec : JValue → ResolveM σ JValue}
    {ref : JValue} {s s' : σ} {v : JValue} :
    resolveTarget spec rec ref s = .ok (v, s') ↔ ∃ r, ref = .str r ∧
      ((∃ t, refTarget spec r = some t ∧ rec t s = .ok (v, s')) ∨
        (refTarget spec r = none ∧ v = .obj [] ∧ s = s')) := by
  cases ref with
  | str r =>
    simp only [resolveTarget]
    cases ht : refTarget spec r <;> simp [ht, pure, StateT.pure, Except.pure, eq_comm]
  | _ => simp [resolveTarget, throw, throwThe, MonadExceptOf.throw, StateT.lift, bind, Except.bind]

/-- `resolve_schema` with the resolver's cache, within `n` nested calls. -/
def resolveSchema (spec : JValue) : Nat → JValue → ResolveM Cache JValue
  | 0, _ => throw .recursionError
  | n + 1, schema => resolveStep (resolveRef spec (resolveSchema spec n)) (resolveSchema spec n) schema

/-- `resolve_schema` with no cache at all: every ref is resolved from its target. -/
def resolveFree (spec : JValue) : Nat → JValue → ResolveM Unit JValue
  | 0, _ => throw .recursionError
  | n + 1, schema => resolveStep (resolveTarget spec (resolveFree spec n)) (resolveFree spec n) schema

/-- A document with two component schemas: an object `A` with the field `x`, and a string `B`. -/
def componentsSpec : JValue := .obj [("components", .obj [("schemas", .obj [
  ("A", .obj [("type", .str "object"), ("properties", .obj [("x", .obj [("type", .str "string")])])]),
  ("B", .obj [("type", .str "string")])])])]

/-- A `$ref` to `A` with a sibling `properties` map whose field is a `$ref` to `B`. -/
def refWithProperties : JValue := .obj [("$ref", .str "#/components/schemas/A"),
  ("properties", .obj [("y", .obj [("$ref", .str "#/components/schemas/B")])])]

/-- The sibling `properties` of a `$ref` are copied unresolved, so the result still holds a
`$ref`, and resolving it again changes it. -/
theorem resolveSchema_sibling_ref_unresolved :
    (resolveSchema componentsSpec 8 refWithProperties []).map Prod.fst =
      .ok (.obj [("type", .str "object"),
        ("properties", .obj [("y", .obj [("$ref", .str "#/components/schemas/B")])])]) ∧
    (resolveSchema componentsSpec 8 (.obj [("type", .str "object"),
        ("properties", .obj [("y", .obj [("$ref", .str "#/components/schemas/B")])])]) []).map
        Prod.fst =
      .ok (.obj [("type", .str "object"), ("properties", .obj [("y", .obj [("type", .str "string")])])]) := by
  decide

end HadrianConformance
