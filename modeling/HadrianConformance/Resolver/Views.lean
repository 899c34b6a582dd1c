import HadrianConformance.Resolver.Shape
import HadrianConformance.Resolver.Cache
import HadrianConformance.Differ.TypeString

/-!
# Encodings of one schema and what the differ sees of them

The differ reads three things of a resolved schema (`scripts/openapi-conformance.py:600–604`
and `700–732`): its type string, the names of its `properties` and the set of its `required`
names, its view. OpenAPI writes one schema in several ways: a `$ref` or its target, an `allOf`
of one member or the member, three associations of an `allOf` of three members, a nullable
`oneOf`/`anyOf` or its option, a `type` or the same `type` with `"null"`. This module says, for
each of them, what `resolve_schema` (lines 197–271) keeps of the view.

The results of the cached resolver are the cache-free ones (`resolveSchema_sound`), so every
statement is proved of `FreeRes`, which is a function of the schema (`FreeRes.unique`). The
`allOf` accumulator is described by the member results it was built from (`MergedFrom`): the
last member `type`, the union of the property names and the union of the required names.
-/

namespace HadrianConformance

/-! ## The view of a schema -/

/-- The names of `s.get("properties", {})` (lines 600 and 607), as a membership test. -/
def propertySet (s : JValue) : Py (String → Bool) := do
  let props ← pyItems (← pyGet s "properties" (.obj []))
  pure fun name => Dict.contains props name

/-- `set(s.get("required", []))` (line 603), as a membership test under `==`. -/
def requiredSet (s : JValue) : Py (JValue → Bool) := do
  let names ← pySet (← pyGet s "required" (.arr []))
  pure fun x => names.any (pyKeyEq x)

/-- The view of a schema: its type string, its property names and its required names. -/
def view (s : JValue) : Py (String × (String → Bool) × (JValue → Bool)) := do
  pure (← getTypeString s, ← propertySet s, ← requiredSet s)

/-- The keys the type string reads besides `type`. -/
def typeStringKeys : List String := ["items", "additionalProperties", "enum", "$ref"]

/-- The type string of a dict reads its declared type and the keys `typeStringKeys`. -/
theorem getTypeString_congr {d e : Dict}
    (htype : declaredType ((Dict.get? d "type").getD .null) = declaredType ((Dict.get? e "type").getD .null))
    (hkeys : ∀ k ∈ typeStringKeys, Dict.get? d k = Dict.get? e k) :
    getTypeString (.obj d) = getTypeString (.obj e) := by
  simp only [getTypeString, typeStringAt_eq, Dict.contains, htype,
    hkeys "items" (by decide), hkeys "additionalProperties" (by decide), hkeys "enum" (by decide),
    hkeys "$ref" (by decide)]

/-- The view of a dict reads its declared type, the keys `typeStringKeys`, `properties` and
`required`. -/
theorem view_congr {d e : Dict}
    (htype : declaredType ((Dict.get? d "type").getD .null) = declaredType ((Dict.get? e "type").getD .null))
    (hkeys : ∀ k ∈ typeStringKeys, Dict.get? d k = Dict.get? e k)
    (hprops : Dict.get? d "properties" = Dict.get? e "properties")
    (hreq : Dict.get? d "required" = Dict.get? e "required") : view (.obj d) = view (.obj e) := by
  simp only [view, propertySet, requiredSet, pyGet_obj, hprops, hreq, getTypeString_congr htype hkeys]

/-- Writing a key the view does not read leaves the view as it was. -/
theorem view_set {e : Dict} {k : String} (hk : k ∉ "type" :: "properties" :: "required" :: typeStringKeys)
    (v : JValue) : view (.obj (Dict.set e k v)) = view (.obj e) := by
  simp only [List.mem_cons, not_or] at hk
  obtain ⟨ht, hp, hr, hkeys⟩ := hk
  refine view_congr (by rw [Dict.get?_set_ne _ _ ht]) (fun k' hk' => Dict.get?_set_ne _ _ ?_)
    (Dict.get?_set_ne _ _ hp) (Dict.get?_set_ne _ _ hr)
  rintro rfl
  exact absurd hk' (by simpa using hkeys)

/-! ## Results of resolution -/

/-- Some call of `resolve_schema` on `x` by a resolver of `spec`, from a cache that resolver can
reach, returns `v`. -/
def Resolves (spec x v : JValue) : Prop :=
  ∃ n c c', Reachable spec c ∧ resolveSchema spec n x c = .ok (v, c')

variable {spec : JValue}

theorem Resolves.freeRes {x v : JValue} (h : Resolves spec x v) : FreeRes spec x v :=
  let ⟨_, _, _, hc, h⟩ := h
  (resolveSchema_sound hc.cacheOK h).2.2

/-- A dict resolves to a dict. -/
theorem resolveStep_obj {σ : Type} {ref rec : JValue → ResolveM σ JValue} {d : Dict} {s s' : σ}
    {v : JValue} (h : resolveStep ref rec (.obj d) s = .ok (v, s')) : ∃ e, v = .obj e := by
  cases hr : Dict.get? d "$ref" with
  | some r =>
    obtain ⟨_, _, -, -, rfl⟩ := resolveStep_ref_eq_ok hr h
    exact ⟨_, rfl⟩
  | none =>
    cases ha : Dict.get? d "allOf" with
    | some subs =>
      obtain ⟨_, _, -, -, rfl⟩ := resolveStep_allOf_eq_ok hr ha h
      exact ⟨_, rfl⟩
    | none =>
      cases ho : (Dict.contains d "oneOf" || Dict.contains d "anyOf")
      · rw [show resolveStep ref rec (.obj d) = resolveLeaf rec d from resolveStep_leaf hr ha ho] at h
        obtain ⟨e, rfl, -⟩ := resolveLeaf_get? h
        exact ⟨e, rfl⟩
      · rcases resolveStep_oneOf_eq_ok hr ha ho h with ⟨_, _, _, _, -, -, -, rfl⟩ | ⟨-, rfl⟩ <;>
          exact ⟨_, rfl⟩

/-- A resolution that returned did so within some positive fuel. -/
theorem FreeRes.succ {x v : JValue} (h : FreeRes spec x v) : ∃ n, resolveFree spec (n + 1) x () = .ok (v, ()) := by
  obtain ⟨n, hn⟩ := h
  cases n with
  | zero => cases hn
  | succ n => exact ⟨n, hn⟩

theorem FreeRes.obj {d : Dict} {v : JValue} (h : FreeRes spec (.obj d) v) : ∃ e, v = .obj e :=
  let ⟨_, hn⟩ := h.succ
  resolveStep_obj hn

/-- Two resolutions that returned did so at one common fuel. -/
theorem FreeRes.common {x y v w : JValue} (hx : FreeRes spec x v) (hy : FreeRes spec y w) :
    ∃ n, resolveFree spec (n + 1) x () = .ok (v, ()) ∧ resolveFree spec (n + 1) y () = .ok (w, ()) := by
  obtain ⟨m, hm, hm', h1⟩ := (hx.eventually.and (hy.eventually.and (Filter.eventually_ge_atTop 1))).exists
  obtain ⟨n, rfl⟩ : ∃ n, m = n + 1 := ⟨m - 1, by omega⟩
  exact ⟨n, hm, hm'⟩

theorem resolveFree_keepsPropertyNames (spec : JValue) (n : Nat) :
    KeepsPropertyNames (resolveFree spec n) := by
  cases n with
  | zero => intro _ _ _ _ h; nomatch h
  | succ n => exact resolveStep_keepsPropertyNames

/-! ## A `$ref` and its target -/

/-- `{"$ref": r}` resolves to what the dict `r` names resolves to (lines 204–210 copy no key
of the node). -/
theorem FreeRes.of_ref {r : String} {t : Dict} {v : JValue} (ht : refTarget spec r = some (.obj t))
    (h : FreeRes spec (.obj [("$ref", .str r)]) v) : FreeRes spec (.obj t) v := by
  obtain ⟨n, hn⟩ := h.succ
  have step : resolveStep (resolveTarget spec (resolveFree spec n)) (resolveFree spec n)
      (.obj [("$ref", .str r)]) () = .ok (v, ()) := hn
  obtain ⟨target, result, href, hd, rfl⟩ :=
    resolveStep_ref_eq_ok (show Dict.get? [("$ref", JValue.str r)] "$ref" = some (.str r) from rfl) step
  obtain ⟨_, ⟨⟩, ⟨t', ht', hres⟩ | ⟨hnone, -⟩⟩ := resolveTarget_eq_ok.mp href
  · rw [ht] at ht'
    cases ht'
    obtain ⟨e, rfl⟩ := FreeRes.obj ⟨n, hres⟩
    simp only [pyDict_obj, pure, Except.pure, Except.ok.injEq] at hd
    subst hd
    exact ⟨n, hres⟩
  · rw [ht] at hnone
    cases hnone

/-! ## The `allOf` accumulator -/

/-- The names an `allOf` member adds to the accumulator's `required` (lines 264–267). -/
def requiredNames : JValue → List JValue
  | .obj d => ((Dict.get? d "required").bind fun names => (pyIter names).toOption).getD []
  | _ => []

/-- The `type` an `allOf` member writes over the accumulator's (lines 269–271). -/
def ownType : JValue → Option JValue
  | .obj d => Dict.get? d "type"
  | _ => none

/-- The accumulator's `type` after the members `rs`: the last one a member has, else `object`. -/
def lastType (rs : List JValue) : JValue := rs.foldl (fun t r => (ownType r).getD t) (.str "object")

/-- A member whose merge returned: where it has them, its `properties` is a dict and its
`required` a collection of hashable names. -/
def Mergeable : JValue → Prop
  | .obj d => (∀ props, Dict.get? d "properties" = some props → ∃ P, props = .obj P) ∧
      ∀ names, Dict.get? d "required" = some names → ∃ xs, pyIter names = .ok xs ∧ xs.all pyHashable
  | _ => True

/-- The accumulator built from the member results `rs`: the last member `type`, the union of the
members' property names, the union of their required names, perhaps a `description`, nothing
else. -/
structure MergedFrom (rs : List JValue) (merged : Dict) : Prop where
  type : Dict.get? merged "type" = some (lastType rs)
  properties : ∃ P, Dict.get? merged "properties" = some (.obj P) ∧
    ∀ name, Dict.contains P name = rs.any (hasProperty · name)
  required : ∃ R, Dict.get? merged "required" = some (.arr R) ∧ R.all pyHashable ∧
    ∀ x, R.any (pyKeyEq x) = rs.any fun r => (requiredNames r).any (pyKeyEq x)
  rest : ∀ k, k ≠ "type" → k ≠ "properties" → k ≠ "required" → k ≠ "description" →
    Dict.get? merged k = none

theorem MergedFrom.start : MergedFrom [] allOfStart where
  type := rfl
  properties := ⟨[], rfl, fun _ => rfl⟩
  required := ⟨[], rfl, rfl, fun _ => rfl⟩
  rest k ht hp hr _ := by simp [allOfStart, Dict.get?_cons, Ne.symm ht, Ne.symm hp, Ne.symm hr]

theorem hasProperty_of_contains_false {r : JValue} (h : pyContains r "properties" = .ok false)
    (name : String) : hasProperty r name = false :=
  Bool.eq_false_iff.mpr fun h' => by simpa [hasProperty] using hasProperty_of_not_contains h name h'

theorem get?_none_of_contains_false {d : Dict} {k : String} (h : pyContains (.obj d) k = .ok false) :
    Dict.get? d k = none := by
  simpa [Dict.contains, pure, Except.pure] using h

section Merge

variable {σ : Type} {rec : JValue → ResolveM σ JValue}

/-- Lines 260–263 on an accumulator with a `properties` dict: the member's property names are
added, nothing else changes, and the member's `properties` was a dict. -/
theorem mergeProperties_merged (hrec : KeepsPropertyNames rec) {target t' P : Dict} {r : JValue}
    {s s' : σ} (hP : Dict.get? target "properties" = some (.obj P))
    (h : mergeProperties rec target r s = .ok (t', s')) :
    (∃ P', Dict.get? t' "properties" = some (.obj P') ∧
      ∀ name, Dict.contains P' name = (Dict.contains P name || hasProperty r name)) ∧
    (∀ k, k ≠ "properties" → Dict.get? t' k = Dict.get? target k) ∧
    ∀ d props, r = .obj d → Dict.get? d "properties" = some props → ∃ Pp, props = .obj Pp := by
  have hdef : Dict.setdefault target "properties" (.obj []) = target :=
    Dict.setdefault_of_contains (by simp [Dict.contains, hP]) _
  obtain ⟨b, _, hb₀, h₁⟩ := ResolveM.bind_eq_ok.mp h
  obtain ⟨hb, rfl⟩ := ResolveM.lift_eq_ok.mp hb₀
  cases b
  · cases h₁
    refine ⟨⟨P, hP, fun name => by simp [hasProperty_of_contains_false hb]⟩, fun _ _ => rfl, ?_⟩
    rintro d props rfl hprops
    simp [get?_none_of_contains_false hb] at hprops
  · simp only [if_true, hdef, hP] at h₁
    obtain ⟨props, _, hp₀, h₂⟩ := ResolveM.bind_eq_ok.mp h₁
    obtain ⟨hp, rfl⟩ := ResolveM.lift_eq_ok.mp hp₀
    obtain ⟨resolved, _, hr, h₃⟩ := ResolveM.bind_eq_ok.mp h₂
    obtain ⟨newProps, _, hn₀, h₄⟩ := ResolveM.bind_eq_ok.mp h₃
    obtain ⟨hn, rfl⟩ := ResolveM.lift_eq_ok.mp hn₀
    obtain ⟨u, _, hu₀, h₅⟩ := ResolveM.bind_eq_ok.mp h₄
    obtain ⟨hu, rfl⟩ := ResolveM.lift_eq_ok.mp hu₀
    cases h₅
    obtain ⟨Pp, P', hPp, hP', hnames⟩ := hrec _ _ _ _ hr
    rw [hP'] at hn
    cases hn
    simp only [pyUpdate, pyDict_obj, pure_bind] at hu
    cases hu
    obtain ⟨d, rfl, hd⟩ := pyIndex_eq_ok.mp hp
    cases props with
    | obj Q =>
      cases hPp
      refine ⟨⟨_, Dict.get?_set_self _ _ _, fun name => ?_⟩, fun k hk => Dict.get?_set_ne _ _ (Ne.symm hk), ?_⟩
      · simp [Dict.contains_update, hnames, hasProperty, hd]
      · rintro d' props ⟨⟩ hprops
        rw [hd] at hprops
        cases hprops
        exact ⟨_, rfl⟩
    | _ => cases hPp

/-- Lines 264–267 on an accumulator with a hashable `required` list: the member's required
names are added, nothing else changes, and the member's `required` was a collection of
hashable names. -/
theorem mergeRequired_merged {target t' : Dict} {R : List JValue} {r : JValue}
    (hR : Dict.get? target "required" = some (.arr R)) (hRh : R.all pyHashable)
    (h : mergeRequired target r = .ok t') :
    (∃ R', Dict.get? t' "required" = some (.arr R') ∧ R'.all pyHashable ∧
      ∀ x, R'.any (pyKeyEq x) = (R.any (pyKeyEq x) || (requiredNames r).any (pyKeyEq x))) ∧
    (∀ k, k ≠ "required" → Dict.get? t' k = Dict.get? target k) ∧
    ∀ d names, r = .obj d → Dict.get? d "required" = some names →
      ∃ xs, pyIter names = .ok xs ∧ xs.all pyHashable := by
  obtain ⟨b, hb, h₁⟩ := bind_eq_ok.mp h
  cases b
  · cases h₁
    refine ⟨⟨R, hR, hRh, fun x => ?_⟩, fun _ _ => rfl, ?_⟩
    · cases r with
      | obj d => simp [requiredNames, get?_none_of_contains_false hb]
      | _ => simp [requiredNames]
    · rintro d names rfl hnames
      simp [get?_none_of_contains_false hb] at hnames
  · obtain ⟨existing, he, h₂⟩ := bind_eq_ok.mp h₁
    obtain ⟨names, hn, h₃⟩ := bind_eq_ok.mp h₂
    obtain ⟨existing', he', h₄⟩ := bind_eq_ok.mp h₃
    cases h₄
    rw [hR] at he
    obtain ⟨_, ⟨⟩, -, rfl⟩ := pySetUpdate_eq_ok he
    obtain ⟨xs, hxs, hxh, rfl⟩ := pySetUpdate_eq_ok he'
    obtain ⟨d, rfl, hd⟩ := pyIndex_eq_ok.mp hn
    refine ⟨⟨_, Dict.get?_set_self _ _ _, ?_, fun x => ?_⟩, fun k hk => Dict.get?_set_ne _ _ (Ne.symm hk), ?_⟩
    · refine List.all_eq_true.mpr fun y hy => ?_
      rcases mem_setAdd hy with hy | hy
      · rcases mem_setAdd hy with hy | hy
        · cases hy
        · exact List.all_eq_true.mp hRh y hy
      · exact List.all_eq_true.mp hxh y hy
    · simp [any_setAdd, requiredNames, hd, hxs, Except.toOption]
    · rintro d' names' ⟨⟩ hnames'
      rw [hd] at hnames'
      cases hnames'
      exact ⟨xs, hxs, hxh⟩

/-- Line 270–271 for `type`: the member's `type` replaces the accumulator's when it has one. -/
theorem mergeKey_type {t t' : Dict} {r : JValue} (h : mergeKey r t "type" = .ok t') :
    Dict.get? t' "type" = (ownType r).or (Dict.get? t "type") := by
  obtain ⟨b, hb, h₁⟩ := bind_eq_ok.mp h
  cases b
  · cases h₁
    cases r with
    | obj d => simp [ownType, get?_none_of_contains_false hb]
    | _ => rfl
  · obtain ⟨v, hv, h₂⟩ := bind_eq_ok.mp h₁
    cases h₂
    obtain ⟨d, rfl, hd⟩ := pyIndex_eq_ok.mp hv
    simp [ownType, hd]

theorem mergeKey_get?_ne {t t' : Dict} {r : JValue} {key k : String} (h : mergeKey r t key = .ok t')
    (hk : k ≠ key) : Dict.get? t' k = Dict.get? t k := by
  obtain ⟨b, -, h₁⟩ := bind_eq_ok.mp h
  cases b
  · cases h₁; rfl
  · obtain ⟨v, -, h₂⟩ := bind_eq_ok.mp h₁
    cases h₂
    exact Dict.get?_set_ne _ _ (Ne.symm hk)

/-- `_merge_schemas` (lines 258–271) adds one member result to the accumulator. -/
theorem MergedFrom.mergeSchemas (hrec : KeepsPropertyNames rec) {rs : List JValue} {target t' : Dict}
    {r : JValue} {s s' : σ} (hm : MergedFrom rs target) (h : mergeSchemas rec target r s = .ok (t', s')) :
    MergedFrom (rs ++ [r]) t' ∧ Mergeable r := by
  obtain ⟨t₁, _, h₁, h₂⟩ := ResolveM.bind_eq_ok.mp h
  obtain ⟨t₂, _, hr₀, h₃⟩ := ResolveM.bind_eq_ok.mp h₂
  obtain ⟨hr, rfl⟩ := ResolveM.lift_eq_ok.mp hr₀
  obtain ⟨t₃, _, hk₀, h₄⟩ := ResolveM.bind_eq_ok.mp h₃
  obtain ⟨hk, rfl⟩ := ResolveM.lift_eq_ok.mp hk₀
  cases h₄
  obtain ⟨P, hP, hPnames⟩ := hm.properties
  obtain ⟨R, hR, hRh, hRnames⟩ := hm.required
  obtain ⟨⟨P', hP', hP'names⟩, props₁, propsOK⟩ := mergeProperties_merged hrec hP h₁
  obtain ⟨⟨R', hR', hR'h, hR'names⟩, req₂, reqOK⟩ :=
    mergeRequired_merged (by rw [props₁ _ (by decide), hR]) hRh hr
  simp only [List.foldlM_cons, List.foldlM_nil] at hk
  obtain ⟨ta, hta, htb⟩ := bind_eq_ok.mp hk
  obtain ⟨tb, htb', htb''⟩ := bind_eq_ok.mp htb
  cases htb''
  have keys : ∀ k, k ≠ "type" → k ≠ "description" → Dict.get? t' k = Dict.get? t₂ k := fun k ht hd =>
    (mergeKey_get?_ne htb' hd).trans (mergeKey_get?_ne hta ht)
  refine ⟨⟨?_, ⟨P', ?_, ?_⟩, ⟨R', ?_, hR'h, ?_⟩, ?_⟩, ?_⟩
  · rw [mergeKey_get?_ne htb' (by decide), mergeKey_type hta, req₂ _ (by decide), props₁ _ (by decide),
      hm.type]
    simp only [lastType, List.foldl_append, List.foldl_cons, List.foldl_nil]
    cases ownType r <;> rfl
  · rw [keys _ (by decide) (by decide), req₂ _ (by decide), hP']
  · simp [hP'names, hPnames]
  · rw [keys _ (by decide) (by decide), hR']
  · simp [hR'names, hRnames]
  · intro k ht hp hq hd
    rw [keys k ht hd, req₂ k hq, props₁ k hp, hm.rest k ht hp hq hd]
  · cases r with
    | obj d => exact ⟨fun props => propsOK d props rfl, fun names => reqOK d names rfl⟩
    | _ => trivial

/-- Lines 219–221: the accumulator after every member, with the members' results. -/
theorem MergedFrom.mergeAll (hrec : KeepsPropertyNames rec) {rs subs : List JValue} {merged merged' : Dict}
    {s s' : σ} (hm : MergedFrom rs merged) (h : HadrianConformance.mergeAll rec merged subs s = .ok (merged', s')) :
    ∃ rs', List.Forall₂ (fun sub r => ∃ s₁ s₂, rec sub s₁ = .ok (r, s₂)) subs rs' ∧
      (∀ r ∈ rs', Mergeable r) ∧ MergedFrom (rs ++ rs') merged' := by
  induction subs generalizing rs merged s with
  | nil =>
    cases h
    exact ⟨[], .nil, nofun, by simpa using hm⟩
  | cons sub subs ih =>
    obtain ⟨r, s₁, hsub, h₁⟩ := ResolveM.bind_eq_ok.mp h
    obtain ⟨m₁, s₂, hmerge, h₂⟩ := ResolveM.bind_eq_ok.mp h₁
    obtain ⟨hm₁, hr⟩ := hm.mergeSchemas hrec hmerge
    obtain ⟨rs', hrs', hok, hm'⟩ := ih hm₁ h₂
    refine ⟨r :: rs', .cons ⟨s, s₁, hsub⟩ hrs', ?_, by simpa using hm'⟩
    rintro r' (_ | ⟨_, hmem⟩)
    · exact hr
    · exact hok r' hmem

end Merge

/-- An `allOf` node of its own (lines 212–226). -/
def allOfNode (subs : List JValue) : JValue := .obj [("allOf", .arr subs)]

/-- `{"allOf": subs}` resolves to the accumulator of its members' resolutions. -/
theorem FreeRes.allOf {subs : List JValue} {v : JValue} (h : FreeRes spec (allOfNode subs) v) :
    ∃ rs merged, v = .obj merged ∧ List.Forall₂ (FreeRes spec) subs rs ∧ (∀ r ∈ rs, Mergeable r) ∧
      MergedFrom rs merged := by
  obtain ⟨n, hn⟩ := h.succ
  have step : resolveStep (resolveTarget spec (resolveFree spec n)) (resolveFree spec n)
      (.obj [("allOf", .arr subs)]) () = .ok (v, ()) := hn
  obtain ⟨members, merged, hmembers, hmerge, rfl⟩ := resolveStep_allOf_eq_ok
    (show Dict.get? [("allOf", JValue.arr subs)] "$ref" = none from rfl)
    (show Dict.get? [("allOf", JValue.arr subs)] "allOf" = some (.arr subs) from rfl) step
  cases hmembers
  obtain ⟨rs, hrs, hok, hm⟩ := MergedFrom.start.mergeAll (resolveFree_keepsPropertyNames spec n) hmerge
  exact ⟨rs, merged, rfl, hrs.imp fun _ _ ⟨⟨⟩, ⟨⟩, h⟩ => ⟨n, h⟩, hok, by simpa using hm⟩

namespace MergedFrom

variable {rs : List JValue} {merged : Dict}

theorem propertySet_eq (hm : MergedFrom rs merged) :
    propertySet (.obj merged) = .ok fun name => rs.any (hasProperty · name) := by
  obtain ⟨P, hP, hnames⟩ := hm.properties
  simp only [propertySet, pyGet_obj, hP, Option.getD_some, pyItems_obj, pure_bind]
  exact congrArg Except.ok (funext hnames)

theorem requiredSet_eq (hm : MergedFrom rs merged) :
    requiredSet (.obj merged) = .ok fun x => rs.any fun r => (requiredNames r).any (pyKeyEq x) := by
  obtain ⟨R, hR, hRh, hnames⟩ := hm.required
  simp only [requiredSet, pyGet_obj, hR, Option.getD_some, pure_bind, pySet, pySetUpdate, pyIter, hRh,
    if_true]
  exact congrArg Except.ok (funext fun x => by simp [any_setAdd, hnames])

theorem hasProperty_eq (hm : MergedFrom rs merged) (name : String) :
    hasProperty (.obj merged) name = rs.any (hasProperty · name) := by
  obtain ⟨P, hP, hnames⟩ := hm.properties
  simp [hasProperty, hP, hnames]

theorem requiredNames_any (hm : MergedFrom rs merged) (x : JValue) :
    (requiredNames (.obj merged)).any (pyKeyEq x) = rs.any fun r => (requiredNames r).any (pyKeyEq x) := by
  obtain ⟨R, hR, -, hnames⟩ := hm.required
  simp [requiredNames, hR, pyIter, pure, Except.pure, Except.toOption, hnames]

theorem ownType_eq (hm : MergedFrom rs merged) : ownType (.obj merged) = some (lastType rs) := hm.type

/-- Two accumulators with the same last `type` have the same type string. -/
theorem getTypeString_eq {rs' : List JValue} {merged' : Dict} (hm : MergedFrom rs merged)
    (hm' : MergedFrom rs' merged') (htype : lastType rs = lastType rs') :
    getTypeString (.obj merged) = getTypeString (.obj merged') := by
  refine getTypeString_congr (by rw [hm.type, hm'.type, htype]) fun k hk => ?_
  simp only [typeStringKeys, List.mem_cons, List.not_mem_nil, or_false] at hk
  have ht : k ≠ "type" := by rcases hk with rfl | rfl | rfl | rfl <;> decide
  have hp : k ≠ "properties" := by rcases hk with rfl | rfl | rfl | rfl <;> decide
  have hr : k ≠ "required" := by rcases hk with rfl | rfl | rfl | rfl <;> decide
  have hd : k ≠ "description" := by rcases hk with rfl | rfl | rfl | rfl <;> decide
  rw [hm.rest k ht hp hr hd, hm'.rest k ht hp hr hd]

end MergedFrom

/-- A dict member that merged: its own view reads the names the merge added. -/
theorem Mergeable.propertySet_eq {e : Dict} (h : Mergeable (.obj e)) :
    propertySet (.obj e) = .ok (hasProperty (.obj e)) := by
  cases hp : Dict.get? e "properties" with
  | none =>
    simp only [propertySet, pyGet_obj, hp, Option.getD_none, pyItems_obj, pure_bind]
    exact congrArg Except.ok (funext fun name => by simp [hasProperty, hp, Dict.contains])
  | some props =>
    obtain ⟨P, rfl⟩ := h.1 props hp
    simp only [propertySet, pyGet_obj, hp, Option.getD_some, pyItems_obj, pure_bind]
    exact congrArg Except.ok (funext fun name => by simp [hasProperty, hp])

theorem Mergeable.requiredSet_eq {e : Dict} (h : Mergeable (.obj e)) :
    requiredSet (.obj e) = .ok fun x => (requiredNames (.obj e)).any (pyKeyEq x) := by
  cases hr : Dict.get? e "required" with
  | none => simp [requiredSet, hr, requiredNames, pySet, pySetUpdate, pyIter, pure, Except.pure, setAdd]
  | some names =>
    obtain ⟨xs, hxs, hh⟩ := h.2 names hr
    simp only [requiredSet, pyGet_obj, hr, Option.getD_some, pySet, pySetUpdate, hxs, hh, if_true,
      pure_bind, ok_bind]
    exact congrArg Except.ok (funext fun x => by simp [requiredNames, hr, hxs, Except.toOption, any_setAdd])

/-- `{"allOf": [S]}` has the property names and the required names of `S`, for a dict `S`. -/
theorem FreeRes.allOf_single {S v w : JValue} (hS : S.isDict) (hv : FreeRes spec (allOfNode [S]) v)
    (hw : FreeRes spec S w) : propertySet v = propertySet w ∧ requiredSet v = requiredSet w := by
  obtain ⟨rs, merged, rfl, hrs, hok, hm⟩ := hv.allOf
  obtain ⟨r, rfl, hr⟩ : ∃ r, rs = [r] ∧ FreeRes spec S r := by
    rcases hrs with _ | ⟨hr, _ | _⟩
    exact ⟨_, rfl, hr⟩
  cases hr.unique hw
  cases S with
  | obj d =>
    obtain ⟨e, rfl⟩ := hw.obj
    have he := hok _ (List.mem_singleton_self _)
    rw [hm.propertySet_eq, hm.requiredSet_eq, he.propertySet_eq, he.requiredSet_eq]
    exact ⟨by simp, by simp⟩
  | _ => cases hS

/-- The three associations of `allOf` over `A`, `B`, `C` have the same property names and the
same required names; the left one also has the flat one's type string, so its whole view. -/
theorem FreeRes.allOf_assoc {A B C v₁ v₂ v₃ : JValue}
    (h₁ : FreeRes spec (allOfNode [A, allOfNode [B, C]]) v₁)
    (h₂ : FreeRes spec (allOfNode [allOfNode [A, B], C]) v₂)
    (h₃ : FreeRes spec (allOfNode [A, B, C]) v₃) :
    (propertySet v₁ = propertySet v₃ ∧ requiredSet v₁ = requiredSet v₃) ∧ view v₂ = view v₃ := by
  obtain ⟨rs₁, m₁, rfl, hrs₁, -, hm₁⟩ := h₁.allOf
  obtain ⟨rs₂, m₂, rfl, hrs₂, -, hm₂⟩ := h₂.allOf
  obtain ⟨rs₃, m₃, rfl, hrs₃, -, hm₃⟩ := h₃.allOf
  rcases hrs₁ with _ | ⟨hA, _ | ⟨hBC, _ | _⟩⟩
  rcases hrs₂ with _ | ⟨hAB, _ | ⟨hC, _ | _⟩⟩
  rcases hrs₃ with _ | ⟨hA', _ | ⟨hB', _ | ⟨hC', _ | _⟩⟩⟩
  cases hA.unique hA'
  cases hC.unique hC'
  obtain ⟨_, mBC, rfl, hBCs, -, hmBC⟩ := hBC.allOf
  obtain ⟨_, mAB, rfl, hABs, -, hmAB⟩ := hAB.allOf
  rcases hBCs with _ | ⟨hB, _ | ⟨hC'', _ | _⟩⟩
  rcases hABs with _ | ⟨hA'', _ | ⟨hB'', _ | _⟩⟩
  cases hB.unique hB'
  cases hC''.unique hC'
  cases hA''.unique hA'
  cases hB''.unique hB'
  refine ⟨⟨?_, ?_⟩, ?_⟩
  · rw [hm₁.propertySet_eq, hm₃.propertySet_eq]
    simp [hmBC.hasProperty_eq, Bool.or_assoc]
  · rw [hm₁.requiredSet_eq, hm₃.requiredSet_eq]
    simp [hmBC.requiredNames_any, Bool.or_assoc]
  · simp only [view, hm₂.getTypeString_eq hm₃ (by simp only [lastType, List.foldl_cons, List.foldl_nil,
        hmAB.ownType_eq, Option.getD_some]), hm₂.propertySet_eq, hm₃.propertySet_eq,
      hm₂.requiredSet_eq, hm₃.requiredSet_eq]
    simp [hmAB.hasProperty_eq, hmAB.requiredNames_any, Bool.or_assoc]

/-! ## A nullable `oneOf`/`anyOf` -/

/-- The schema with key `k` overwritten, other values as they are. -/
def setMember (k : String) (x : JValue) : JValue → JValue
  | .obj e => .obj (Dict.set e k x)
  | v => v

/-- The null option `{"type": "null"}` that line 234 filters out. -/
def nullOption : JValue := .obj [("type", .str "null")]

/-- Two `oneOf`/`anyOf` nodes with the same options resolve alike (lines 228–242 read nothing
else). -/
theorem resolveStep_oneOf_congr {σ : Type} {ref rec : JValue → ResolveM σ JValue} {d₁ d₂ : Dict}
    (hr₁ : Dict.get? d₁ "$ref" = none) (ha₁ : Dict.get? d₁ "allOf" = none)
    (ho₁ : (Dict.contains d₁ "oneOf" || Dict.contains d₁ "anyOf") = true)
    (hr₂ : Dict.get? d₂ "$ref" = none) (ha₂ : Dict.get? d₂ "allOf" = none)
    (ho₂ : (Dict.contains d₂ "oneOf" || Dict.contains d₂ "anyOf") = true)
    (hopt : oneOfOptions d₁ = oneOfOptions d₂) :
    resolveStep ref rec (.obj d₁) = resolveStep ref rec (.obj d₂) := by
  simp only [resolveStep, hr₁, ha₁, ho₁, hr₂, ha₂, ho₂, hopt, if_true]

theorem isNullOption_nullOption : isNullOption nullOption = true := rfl

theorem oneOfOptions_oneOf {S : JValue} (hS : isNullOption S = false) :
    oneOfOptions [("oneOf", .arr [S, nullOption])] = pure [S] := by
  simp [oneOfOptions, Dict.get?_cons, pyTruthy, pyIter, List.filter, hS, isNullOption_nullOption, pure,
    Except.pure]

theorem oneOfOptions_anyOf {S : JValue} (hS : isNullOption S = false) :
    oneOfOptions [("anyOf", .arr [nullOption, S])] = pure [S] := by
  simp [oneOfOptions, Dict.get?_cons, pyTruthy, pyIter, List.filter, hS, isNullOption_nullOption, pure,
    Except.pure]

/-- `{"oneOf": [S, null]}` and `{"anyOf": [null, S]}` resolve alike at every fuel. -/
theorem resolveFree_oneOf_anyOf {S : JValue} (hS : isNullOption S = false) (n : Nat) :
    resolveFree spec n (.obj [("oneOf", .arr [S, nullOption])]) =
      resolveFree spec n (.obj [("anyOf", .arr [nullOption, S])]) := by
  cases n with
  | zero => rfl
  | succ n =>
    exact resolveStep_oneOf_congr rfl rfl rfl rfl rfl rfl
      ((oneOfOptions_oneOf hS).trans (oneOfOptions_anyOf hS).symm)

/-- `{"oneOf": [S, null]}` resolves to `S` resolved and marked `_nullable` (lines 236–241), for a
dict `S` that is not itself a null type. -/
theorem FreeRes.oneOf_nullable {S v w : JValue} (hS : S.isDict) (hnull : isNullOption S = false)
    (hv : FreeRes spec (.obj [("oneOf", .arr [S, nullOption])]) v) (hw : FreeRes spec S w) :
    ∃ e, w = .obj e ∧ v = .obj (Dict.set e "_nullable" (.bool true)) := by
  obtain ⟨n, hn⟩ := hv.succ
  have step : resolveStep (resolveTarget spec (resolveFree spec n)) (resolveFree spec n)
      (.obj [("oneOf", .arr [S, nullOption])]) () = .ok (v, ()) := hn
  rcases resolveStep_oneOf_eq_ok (show Dict.get? [("oneOf", .arr [S, nullOption])] "$ref" = none from rfl)
    rfl rfl step with
    ⟨opt, options, resolved, result, hopt, hres, hd, rfl⟩ | ⟨hopt, -⟩
  · rw [oneOfOptions_oneOf hnull] at hopt
    cases hopt
    cases FreeRes.unique ⟨n, hres⟩ hw
    cases S with
    | obj d =>
      obtain ⟨e, rfl⟩ := hw.obj
      simp only [pyDict_obj, pure, Except.pure, Except.ok.injEq] at hd
      exact ⟨e, rfl, by rw [hd]⟩
    | _ => cases hS
  · rw [oneOfOptions_oneOf hnull] at hopt
    cases hopt

/-- The nullable wrappers of a non-null dict `S` resolve alike, and to a schema with the view of
`S`. -/
theorem FreeRes.nullable {S v₁ v₂ w : JValue} (hS : S.isDict) (hnull : isNullOption S = false)
    (h₁ : FreeRes spec (.obj [("oneOf", .arr [S, nullOption])]) v₁)
    (h₂ : FreeRes spec (.obj [("anyOf", .arr [nullOption, S])]) v₂) (hw : FreeRes spec S w) :
    v₁ = v₂ ∧ v₁ = setMember "_nullable" (.bool true) w ∧ view v₁ = view w := by
  have h₂' : FreeRes spec (.obj [("oneOf", .arr [S, nullOption])]) v₂ :=
    let ⟨n, hn⟩ := h₂
    ⟨n, (congrFun (resolveFree_oneOf_anyOf hnull n) ()).trans hn⟩
  obtain ⟨e, rfl, rfl⟩ := h₁.oneOf_nullable hS hnull hw
  exact ⟨h₁.unique h₂', rfl, view_set (by decide) _⟩

/-! ## A `type` widened to admit null -/

section SetKey

variable {σ : Type} {rec : JValue → ResolveM σ JValue} {k : String} (X : JValue)

theorem copyExcept_set_of_not_mem {skip : String} {d : Dict}
    (hd : k ∉ d.map Prod.fst) {r : Dict} (hc : Dict.contains r k) :
    copyExcept skip d (Dict.set r k X) = Dict.set (copyExcept skip d r) k X := by
  induction d generalizing r with
  | nil => rfl
  | cons kv d ih =>
    obtain ⟨j, v⟩ := kv
    simp only [List.map_cons, List.mem_cons, not_or] at hd
    rw [copyExcept_cons, copyExcept_cons]
    split
    · exact ih hd.2 hc
    · rw [Dict.set_comm hd.1 hc]
      exact ih hd.2 (by simp [hc])

/-- The overlay of lines 207–209 and 223–225 commutes with overwriting a key the node has. -/
theorem copyExcept_set {skip : String} (hk : k ≠ skip) {d : Dict} (hkeys : (d.map Prod.fst).Nodup)
    (hc : Dict.contains d k) (result : Dict) :
    copyExcept skip (Dict.set d k X) result = Dict.set (copyExcept skip d result) k X := by
  induction d generalizing result with
  | nil => cases hc
  | cons kv d ih =>
    obtain ⟨j, v⟩ := kv
    simp only [List.map_cons, List.nodup_cons] at hkeys
    by_cases hj : j = k
    · subst hj
      rw [show Dict.set ((j, v) :: d) j X = (j, X) :: d by simp [Dict.set], copyExcept_cons,
        copyExcept_cons, if_neg hk, if_neg hk, ← Dict.set_set result j v X]
      exact copyExcept_set_of_not_mem X hkeys.1 (by simp)
    · rw [show Dict.set ((j, v) :: d) k X = (j, v) :: Dict.set d k X by simp [Dict.set, hj],
        copyExcept_cons, copyExcept_cons]
      exact ih hkeys.2 (by simpa [Dict.contains, Dict.get?_cons, hj] using hc) _

theorem resolveLeafProperties_set (hk : k ≠ "properties") (d : Dict) :
    resolveLeafProperties rec (Dict.set d k X) = (Dict.set · k X) <$> resolveLeafProperties rec d := by
  unfold resolveLeafProperties
  rw [Dict.get?_set_ne _ _ hk]
  split
  · next props hp =>
    simp only [map_bind, map_pure,
      Dict.set_comm (Ne.symm hk) (show Dict.contains d "properties" by simp [Dict.contains, hp])]
  · simp only [map_pure]

theorem resolveLeafItems_set (hk : k ≠ "items") (r : Dict) :
    resolveLeafItems rec (Dict.set r k X) = (Dict.set · k X) <$> resolveLeafItems rec r := by
  unfold resolveLeafItems
  rw [Dict.get?_set_ne _ _ hk]
  split
  · next items hi =>
    simp only [map_bind, map_pure,
      Dict.set_comm (Ne.symm hk) (show Dict.contains r "items" by simp [Dict.contains, hi])]
  · simp only [map_pure]

theorem resolveLeafAdditional_set (hk : k ≠ "additionalProperties") (r : Dict) :
    resolveLeafAdditional rec (Dict.set r k X) = setMember k X <$> resolveLeafAdditional rec r := by
  unfold resolveLeafAdditional
  rw [Dict.get?_set_ne _ _ hk]
  split
  · next ap ha =>
    simp only [map_bind, map_pure, setMember, Dict.set_comm (Ne.symm hk)
      (show Dict.contains r "additionalProperties" by simp [Dict.contains, ha])]
  · simp only [map_pure, setMember]

/-- Lines 245–256 leave a key other than the three they resolve where it was. -/
theorem resolveLeaf_set (hp : k ≠ "properties") (hi : k ≠ "items") (ha : k ≠ "additionalProperties")
    (d : Dict) : resolveLeaf rec (Dict.set d k X) = setMember k X <$> resolveLeaf rec d := by
  simp only [resolveLeaf, resolveLeafProperties_set X hp, resolveLeafItems_set X hi,
    resolveLeafAdditional_set X ha, bind_map_left, map_bind]

theorem oneOfOptions_set_type (d : Dict) : oneOfOptions (Dict.set d "type" X) = oneOfOptions d := by
  simp only [oneOfOptions, Dict.get?_set_ne _ _ (show "type" ≠ "oneOf" by decide),
    Dict.get?_set_ne _ _ (show "type" ≠ "anyOf" by decide)]

/-- Overwriting a node's `type`: a `oneOf`/`anyOf` node resolves as before, any other node to its
resolution with the same `type` overwritten. -/
theorem resolveStep_set_type {ref : JValue → ResolveM σ JValue} {d : Dict} {T : JValue}
    (hkeys : (d.map Prod.fst).Nodup) (hT : Dict.get? d "type" = some T) {s s' : σ} {v : JValue}
    (h : resolveStep ref rec (.obj d) s = .ok (v, s')) :
    resolveStep ref rec (.obj (Dict.set d "type" X)) s = .ok (v, s') ∨
      ∃ e, v = .obj e ∧ Dict.get? e "type" = some T ∧
        resolveStep ref rec (.obj (Dict.set d "type" X)) s = .ok (.obj (Dict.set e "type" X), s') := by
  have hc : Dict.contains d "type" := by simp [Dict.contains, hT]
  have hr' := Dict.get?_set_ne d X (show "type" ≠ "$ref" by decide)
  have ha' := Dict.get?_set_ne d X (show "type" ≠ "allOf" by decide)
  cases hr : Dict.get? d "$ref" with
  | some r =>
    obtain ⟨_, result, -, -, rfl⟩ := resolveStep_ref_eq_ok hr h
    refine .inr ⟨_, rfl, by rw [get?_copyExcept _ hkeys, if_neg (by decide), hT]; rfl, ?_⟩
    have heq : resolveStep ref rec (.obj (Dict.set d "type" X)) =
        setMember "type" X <$> resolveStep ref rec (.obj d) := by
      simp only [resolveStep, hr, hr', map_bind, map_pure, setMember,
        copyExcept_set X (show "type" ≠ "$ref" by decide) hkeys hc]
    simp [heq, h, setMember]
  | none =>
  cases ha : Dict.get? d "allOf" with
  | some subs =>
    obtain ⟨_, merged, -, -, rfl⟩ := resolveStep_allOf_eq_ok hr ha h
    refine .inr ⟨_, rfl, by rw [get?_copyExcept _ hkeys, if_neg (by decide), hT]; rfl, ?_⟩
    have heq : resolveStep ref rec (.obj (Dict.set d "type" X)) =
        setMember "type" X <$> resolveStep ref rec (.obj d) := by
      simp only [resolveStep, hr, hr', ha, ha', map_bind, map_pure, setMember,
        copyExcept_set X (show "type" ≠ "allOf" by decide) hkeys hc]
    simp [heq, h, setMember]
  | none =>
  have ho' : (Dict.contains (Dict.set d "type" X) "oneOf" || Dict.contains (Dict.set d "type" X) "anyOf") =
      (Dict.contains d "oneOf" || Dict.contains d "anyOf") := by simp
  by_cases ho : (Dict.contains d "oneOf" || Dict.contains d "anyOf") = true
  · refine .inl (Eq.trans ?_ h)
    simp only [resolveStep, hr, hr', ha, ha', ho', ho, if_true, oneOfOptions_set_type]
  · simp only [Bool.not_eq_true] at ho
    have heq : resolveStep ref rec (.obj (Dict.set d "type" X)) =
        setMember "type" X <$> resolveStep ref rec (.obj d) := by
      simp only [resolveStep, hr, hr', ha, ha', ho', ho, Bool.false_eq_true, if_false,
        resolveLeaf_set X (show "type" ≠ "properties" by decide) (show "type" ≠ "items" by decide)
          (show "type" ≠ "additionalProperties" by decide)]
    obtain ⟨e, rfl, he, -⟩ := resolveLeaf_get? (resolveStep_leaf hr ha ho ▸ h)
    exact .inr ⟨e, rfl, by rw [he _ (by decide) (by decide) (by decide), hT], by simp [heq, h, setMember]⟩

end SetKey

/-- Line 713 reads `["T", "null"]` as `T`, so widening a scalar `type` to admit null leaves the
view as it was. -/
theorem view_setMember_typeOrNull {e : Dict} {T : JValue} (hT : Dict.get? e "type" = some T)
    (hnull : T ≠ .str "null") (harr : ∀ xs, T ≠ .arr xs) :
    view (setMember "type" (.arr [T, .str "null"]) (.obj e)) = view (.obj e) := by
  have hdecl : declaredType T = pure T := by
    cases T with
    | arr xs => exact absurd rfl (harr xs)
    | _ => rfl
  have hwide : declaredType (.arr [T, .str "null"]) = pure T := by
    simp [declaredType, List.filter, bne_iff_ne.mpr hnull]
  refine view_congr (by rw [Dict.get?_set_self, hT, Option.getD_some, Option.getD_some, hwide, hdecl])
    (fun k hk => Dict.get?_set_ne _ _ ?_) (Dict.get?_set_ne _ _ (by decide))
    (Dict.get?_set_ne _ _ (by decide))
  rintro rfl
  exact absurd hk (by decide)

/-- A node whose scalar `type` is widened to `[type, "null"]` resolves to a schema with the same
view. -/
theorem FreeRes.typeOrNull {d : Dict} {T v w : JValue} (hkeys : (d.map Prod.fst).Nodup)
    (hT : Dict.get? d "type" = some T) (hnull : T ≠ .str "null") (harr : ∀ xs, T ≠ .arr xs)
    (hv : FreeRes spec (.obj d) v)
    (hw : FreeRes spec (.obj (Dict.set d "type" (.arr [T, .str "null"]))) w) : view w = view v := by
  obtain ⟨n, hn, hn'⟩ := hv.common hw
  have step : resolveStep (resolveTarget spec (resolveFree spec n)) (resolveFree spec n) (.obj d) () =
      .ok (v, ()) := hn
  have step' : resolveStep (resolveTarget spec (resolveFree spec n)) (resolveFree spec n)
      (.obj (Dict.set d "type" (.arr [T, .str "null"]))) () = .ok (w, ()) := hn'
  rcases resolveStep_set_type (.arr [T, .str "null"]) hkeys hT step with h | ⟨e, rfl, he, h⟩
  · cases h.symm.trans step'
    rfl
  · cases h.symm.trans step'
    exact view_setMember_typeOrNull he hnull harr

/-! ## Encodings of one schema -/

theorem Resolves.of_run {x v : JValue} (n : Nat) (h : (resolveSchema spec n x []).map Prod.fst = .ok v) :
    Resolves spec x v := by
  cases hr : resolveSchema spec n x [] with
  | error e => simp [hr, Except.map] at h
  | ok p =>
    simp only [hr, Except.map, Except.ok.injEq] at h
    exact ⟨n, [], p.2, .init, by rw [hr, ← h]⟩

/-- What `resolve_schema` makes of encodings OpenAPI reads as one schema, whenever both
resolutions return: a `$ref` to an object and the object resolve alike; `{allOf: [S]}` has the
property and required names of `S`; of the three groupings of `allOf` members, the right-nested
one has the names of the flat one and the left-nested one its whole view; the two nullable
wrappers of a non-null `S` resolve alike, to `S` marked `_nullable`, with its view; and a scalar
`type` widened to `[type, "null"]` keeps the view. -/
theorem resolveSchema_equivalent_encodings (spec : JValue) :
    (∀ r t v w, refTarget spec r = some (.obj t) →
      Resolves spec (.obj [("$ref", .str r)]) v → Resolves spec (.obj t) w → v = w) ∧
    (∀ S v w, S.isDict → Resolves spec (allOfNode [S]) v → Resolves spec S w →
      propertySet v = propertySet w ∧ requiredSet v = requiredSet w) ∧
    (∀ A B C v₁ v₂ v₃, Resolves spec (allOfNode [A, allOfNode [B, C]]) v₁ →
      Resolves spec (allOfNode [allOfNode [A, B], C]) v₂ → Resolves spec (allOfNode [A, B, C]) v₃ →
      (propertySet v₁ = propertySet v₃ ∧ requiredSet v₁ = requiredSet v₃) ∧ view v₂ = view v₃) ∧
    (∀ S v₁ v₂ w, S.isDict → isNullOption S = false →
      Resolves spec (.obj [("oneOf", .arr [S, nullOption])]) v₁ →
      Resolves spec (.obj [("anyOf", .arr [nullOption, S])]) v₂ → Resolves spec S w →
      v₁ = v₂ ∧ v₁ = setMember "_nullable" (.bool true) w ∧ view v₁ = view w) ∧
    (∀ d T v w, (d.map Prod.fst).Nodup → Dict.get? d "type" = some T → T ≠ .str "null" →
      (∀ xs, T ≠ .arr xs) → Resolves spec (.obj d) v →
      Resolves spec (.obj (Dict.set d "type" (.arr [T, .str "null"]))) w → view w = view v) :=
  ⟨fun _ _ _ _ ht hv hw => (hv.freeRes.of_ref ht).unique hw.freeRes,
    fun _ _ _ hS hv hw => hv.freeRes.allOf_single hS hw.freeRes,
    fun _ _ _ _ _ _ h₁ h₂ h₃ => FreeRes.allOf_assoc h₁.freeRes h₂.freeRes h₃.freeRes,
    fun _ _ _ _ hS hnull h₁ h₂ hw => FreeRes.nullable hS hnull h₁.freeRes h₂.freeRes hw.freeRes,
    fun _ _ _ _ hkeys hT hnull harr hv hw => FreeRes.typeOrNull hkeys hT hnull harr hv.freeRes hw.freeRes⟩

/-- The string schema `B` of `componentsSpec`. -/
def stringSchema : JValue := .obj [("type", .str "string")]

/-- An `allOf` member of type string with a required property `a`. -/
def memberA : JValue := .obj [("type", .str "string"), ("properties", .obj [("a", stringSchema)]),
  ("required", .arr [.str "a"])]

/-- An `allOf` member whose property `b` is a `$ref` to `B`, with `b` and `a` required. -/
def memberB : JValue := .obj [("properties", .obj [("b", .obj [("$ref", .str "#/components/schemas/B")])]),
  ("required", .arr [.str "b", .str "a"])]

/-- An `allOf` member with a description, a required property `c` and an integer `a`. -/
def memberC : JValue := .obj [("description", .str "C"),
  ("properties", .obj [("c", stringSchema), ("a", .obj [("type", .str "integer")])]),
  ("required", .arr [.str "c"])]

/-- The merge of `memberA`, `memberB` and `memberC`, of type `T`. -/
def mergedMembers (T : String) : JValue := .obj [("type", .str T),
  ("properties", .obj [("a", .obj [("type", .str "integer")]), ("b", stringSchema), ("c", stringSchema)]),
  ("required", .arr [.str "a", .str "b", .str "c"]), ("description", .str "C")]

theorem resolveSchema_equivalent_encodings_componentsSpec :
    (refTarget componentsSpec "#/components/schemas/B" = some stringSchema ∧
      Resolves componentsSpec (.obj [("$ref", .str "#/components/schemas/B")]) stringSchema ∧
      Resolves componentsSpec stringSchema stringSchema) ∧
    (Resolves componentsSpec (allOfNode [stringSchema]) (.obj [("type", .str "string"),
        ("properties", .obj []), ("required", .arr [])]) ∧
      propertySet (.obj [("type", .str "string"), ("properties", .obj []), ("required", .arr [])]) =
        propertySet stringSchema) ∧
    (Resolves componentsSpec (allOfNode [memberA, allOfNode [memberB, memberC]]) (mergedMembers "object") ∧
      Resolves componentsSpec (allOfNode [allOfNode [memberA, memberB], memberC]) (mergedMembers "string") ∧
      Resolves componentsSpec (allOfNode [memberA, memberB, memberC]) (mergedMembers "string") ∧
      propertySet (mergedMembers "object") = propertySet (mergedMembers "string") ∧
      requiredSet (mergedMembers "object") = requiredSet (mergedMembers "string")) ∧
    (Resolves componentsSpec (.obj [("oneOf", .arr [stringSchema, nullOption])])
        (setMember "_nullable" (.bool true) stringSchema) ∧
      Resolves componentsSpec (.obj [("anyOf", .arr [nullOption, stringSchema])])
        (setMember "_nullable" (.bool true) stringSchema)) ∧
    (Resolves componentsSpec (.obj [("type", .arr [.str "string", .str "null"])])
        (.obj [("type", .arr [.str "string", .str "null"])]) ∧
      view (.obj [("type", .arr [.str "string", .str "null"])]) = view stringSchema) := by
  have h := resolveSchema_equivalent_encodings componentsSpec
  have ha : Resolves componentsSpec (.obj [("$ref", .str "#/components/schemas/B")]) stringSchema :=
    .of_run 3 (by decide)
  have hS : Resolves componentsSpec stringSchema stringSchema := .of_run 1 (by decide)
  have hb : Resolves componentsSpec (allOfNode [stringSchema]) (.obj [("type", .str "string"),
      ("properties", .obj []), ("required", .arr [])]) := .of_run 3 (by decide)
  have hc₁ : Resolves componentsSpec (allOfNode [memberA, allOfNode [memberB, memberC]])
      (mergedMembers "object") := .of_run 5 (by decide)
  have hc₂ : Resolves componentsSpec (allOfNode [allOfNode [memberA, memberB], memberC])
      (mergedMembers "string") := .of_run 5 (by decide)
  have hc₃ : Resolves componentsSpec (allOfNode [memberA, memberB, memberC]) (mergedMembers "string") :=
    .of_run 4 (by decide)
  have hd₁ : Resolves componentsSpec (.obj [("oneOf", .arr [stringSchema, nullOption])])
      (setMember "_nullable" (.bool true) stringSchema) := .of_run 3 (by decide)
  have hd₂ : Resolves componentsSpec (.obj [("anyOf", .arr [nullOption, stringSchema])])
      (setMember "_nullable" (.bool true) stringSchema) := .of_run 3 (by decide)
  have he : Resolves componentsSpec (.obj [("type", .arr [.str "string", .str "null"])])
      (.obj [("type", .arr [.str "string", .str "null"])]) := .of_run 1 (by decide)
  exact ⟨⟨rfl, ha, hS⟩, ⟨hb, (h.2.1 stringSchema _ _ rfl hb hS).1⟩,
    ⟨hc₁, hc₂, hc₃, (h.2.2.1 memberA memberB memberC _ _ _ hc₁ hc₂ hc₃).1⟩, ⟨hd₁, hd₂⟩,
    ⟨he, h.2.2.2.2 [("type", .str "string")] (.str "string") _ _ (by decide) rfl (by decide)
      (fun _ => JValue.noConfusion) hS he⟩⟩

/-- The string array `{type: array, items: {type: string}}`. -/
def stringArraySchema : JValue := .obj [("type", .str "array"), ("items", stringSchema)]

/-- Where the views of the encodings part: `{allOf: [S]}` drops the `items` of `S`; the
right-nested `allOf` takes the nested merge's default `type` "object" over `A`'s; and the
null type widened to `["null", "null"]` reads as no type. -/
theorem resolveSchema_encodings_typeString_differ :
    (resolveSchema (.obj []) 4 (allOfNode [stringArraySchema]) []).bind (getTypeString ·.1) =
      .ok "array<unknown>" ∧
    (resolveSchema (.obj []) 4 stringArraySchema []).bind (getTypeString ·.1) = .ok "array<string>" ∧
    (resolveSchema (.obj []) 6 (allOfNode [stringSchema, allOfNode [.obj [], .obj []]]) []).bind
      (getTypeString ·.1) = .ok "object" ∧
    (resolveSchema (.obj []) 6 (allOfNode [stringSchema, .obj [], .obj []]) []).bind
      (getTypeString ·.1) = .ok "string" ∧
    (resolveSchema (.obj []) 2 (.obj [("type", .str "null")]) []).bind (getTypeString ·.1) = .ok "null" ∧
    (resolveSchema (.obj []) 2 (.obj [("type", .arr [.str "null", .str "null"])]) []).bind
      (getTypeString ·.1) = .ok "unknown" := by
  decide

end HadrianConformance
