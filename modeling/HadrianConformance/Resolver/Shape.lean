import HadrianConformance.Resolver.Resolve
import HadrianConformance.Resolver.Cache

/-!
# What a resolved schema is made of

Which keys of `resolve_schema(N)` (`scripts/openapi-conformance.py:197–271`) come from `N`
itself and which from its composition. Beside a `$ref` or an `allOf`, every key written on `N`
replaces the composed one (lines 207–209 and 223–225), `properties` and `required` included;
a `oneOf`/`anyOf` node keeps nothing of its own but the option it resolves to (lines 236–242);
the property names and required names of an `allOf`'s members are united (lines 258–267), and
a node without composition keywords keeps its own (lines 245–256).

An object's entries stand for a parsed JSON object's distinct keys, which the lookups below
assume of the node itself.
-/

namespace HadrianConformance

/-! ## Observing a schema -/

/-- Whether `name` is one of the schema's property names. -/
def hasProperty : JValue → String → Bool
  | .obj schema, name => match Dict.get? schema "properties" with
    | some (.obj props) => Dict.contains props name
    | _ => false
  | _, _ => false

/-- Whether `name` is one of the schema's required names. -/
def isRequired : JValue → String → Bool
  | .obj schema, name => match Dict.get? schema "required" with
    | some (.arr names) => decide (JValue.str name ∈ names)
    | _ => false
  | _, _ => false

/-! ## Overlaying the keys of the node -/

theorem copyExcept_cons (skip : String) (kv : String × JValue) (schema result : Dict) :
    copyExcept skip (kv :: schema) result =
      copyExcept skip schema (if kv.1 = skip then result else Dict.set result kv.1 kv.2) := rfl

theorem get?_eq_none_of_not_mem {d : Dict} {k : String} (h : k ∉ d.map Prod.fst) :
    Dict.get? d k = none := by
  induction d with
  | nil => rfl
  | cons kv d ih =>
    obtain ⟨k', v⟩ := kv
    simp only [List.map_cons, List.mem_cons, not_or] at h
    simp [Dict.get?_cons, Ne.symm h.1, ih h.2]

/-- The overlay of lines 207–209 and 223–225: every key but `skip` is the node's own where it
has one, the composed one otherwise. -/
theorem get?_copyExcept (skip : String) {schema : Dict} (hkeys : (schema.map Prod.fst).Nodup)
    (result : Dict) (k : String) :
    Dict.get? (copyExcept skip schema result) k =
      if k = skip then Dict.get? result k else (Dict.get? schema k).or (Dict.get? result k) := by
  induction schema generalizing result with
  | nil => split <;> rfl
  | cons kv schema ih =>
    obtain ⟨k', v⟩ := kv
    simp only [List.map_cons, List.nodup_cons] at hkeys
    rw [copyExcept_cons, ih hkeys.2]
    by_cases hk : k = skip
    · subst hk
      by_cases hk' : k' = k <;> simp [hk', Dict.get?_set]
    · by_cases hk' : k' = k
      · subst hk'
        simp [hk, Dict.get?_cons, get?_eq_none_of_not_mem hkeys.1]
      · by_cases hs : k' = skip
        · subst hs
          simp [hk', Ne.symm hk, Dict.get?_cons]
        · simp [hk, hk', hs, Dict.get?_cons, Dict.get?_set]

/-! ## A node without composition keywords -/

section Leaf

variable {σ : Type} {rec : JValue → ResolveM σ JValue}

theorem resolveProps_contains {d d' : Dict} {s s' : σ} (h : resolveProps rec d s = .ok (d', s'))
    (name : String) : Dict.contains d' name = Dict.contains d name := by
  induction d generalizing d' s with
  | nil => cases h; rfl
  | cons kv d ih =>
    obtain ⟨k, v⟩ := kv
    obtain ⟨v', s₁, -, h⟩ := ResolveM.bind_eq_ok.mp h
    obtain ⟨d'', s₂, hd, h⟩ := ResolveM.bind_eq_ok.mp h
    cases h
    by_cases hk : k = name
    · simp [Dict.contains, Dict.get?_cons, hk]
    · simpa [Dict.contains, Dict.get?_cons, hk] using ih hd

theorem resolveLeafItems_get? {r r' : Dict} {s s' : σ} (h : resolveLeafItems rec r s = .ok (r', s'))
    {k : String} (hk : k ≠ "items") : Dict.get? r' k = Dict.get? r k := by
  cases hi : Dict.get? r "items" with
  | none => simp only [resolveLeafItems, hi] at h; cases h; rfl
  | some items =>
    simp only [resolveLeafItems, hi] at h
    obtain ⟨_, _, -, h⟩ := ResolveM.bind_eq_ok.mp h
    cases h
    exact Dict.get?_set_ne _ _ (Ne.symm hk)

theorem resolveLeafAdditional_get? {r : Dict} {v : JValue} {s s' : σ}
    (h : resolveLeafAdditional rec r s = .ok (v, s')) :
    ∃ d, v = .obj d ∧ ∀ k, k ≠ "additionalProperties" → Dict.get? d k = Dict.get? r k := by
  cases ha : Dict.get? r "additionalProperties" with
  | some ap =>
    cases ap with
    | obj ap =>
      simp only [resolveLeafAdditional, ha] at h
      obtain ⟨_, _, -, h⟩ := ResolveM.bind_eq_ok.mp h
      cases h
      exact ⟨_, rfl, fun k hk => Dict.get?_set_ne _ _ (Ne.symm hk)⟩
    | _ => simp only [resolveLeafAdditional, ha] at h; cases h; exact ⟨r, rfl, fun _ _ => rfl⟩
  | none => simp only [resolveLeafAdditional, ha] at h; cases h; exact ⟨r, rfl, fun _ _ => rfl⟩

/-- What lines 245–256 make of a node's `properties`: the same names, their schemas resolved. -/
def PropertiesResolved : Option JValue → Option JValue → Prop
  | none, props' => props' = none
  | some props, props' => ∃ P P', pyItems props = .ok P ∧ props' = some (.obj P') ∧
      ∀ name, Dict.contains P' name = Dict.contains P name

theorem resolveLeafProperties_get? {schema r : Dict} {s s' : σ}
    (h : resolveLeafProperties rec schema s = .ok (r, s')) :
    (∀ k, k ≠ "properties" → Dict.get? r k = Dict.get? schema k) ∧
      PropertiesResolved (Dict.get? schema "properties") (Dict.get? r "properties") := by
  cases hprops : Dict.get? schema "properties" with
  | some props =>
    simp only [resolveLeafProperties, hprops] at h
    obtain ⟨P, _, hP, h⟩ := ResolveM.bind_eq_ok.mp h
    obtain ⟨P', _, hP', h⟩ := ResolveM.bind_eq_ok.mp h
    cases h
    refine ⟨fun k hk => Dict.get?_set_ne _ _ (Ne.symm hk), ?_⟩
    rw [Dict.get?_set_self]
    exact ⟨P, P', (ResolveM.lift_eq_ok.mp hP).1, rfl, resolveProps_contains hP'⟩
  | none =>
    simp only [resolveLeafProperties, hprops] at h
    cases h
    exact ⟨fun _ _ => rfl, hprops⟩

/-- Lines 245–256: the node's keys but `properties`, `items` and `additionalProperties` as
written, and its property names kept. -/
theorem resolveLeaf_get? {schema : Dict} {v : JValue} {s s' : σ}
    (h : resolveLeaf rec schema s = .ok (v, s')) :
    ∃ d, v = .obj d ∧
      (∀ k, k ≠ "properties" → k ≠ "items" → k ≠ "additionalProperties" →
        Dict.get? d k = Dict.get? schema k) ∧
      PropertiesResolved (Dict.get? schema "properties") (Dict.get? d "properties") := by
  obtain ⟨r₁, _, h₁, h⟩ := ResolveM.bind_eq_ok.mp h
  obtain ⟨r₂, _, h₂, h₃⟩ := ResolveM.bind_eq_ok.mp h
  obtain ⟨props, hp⟩ := resolveLeafProperties_get? h₁
  obtain ⟨d, rfl, hd⟩ := resolveLeafAdditional_get? h₃
  refine ⟨d, rfl, fun k hk hi ha => by rw [hd k ha, resolveLeafItems_get? h₂ hi, props k hk], ?_⟩
  rwa [hd _ (by decide), resolveLeafItems_get? h₂ (by decide)]

end Leaf

/-! ## The `allOf` merge -/

/-- Every name `obs` sees in `a`, it sees in `b`. -/
def Includes (obs : JValue → String → Bool) (a b : JValue) : Prop := ∀ name, obs a name → obs b name

theorem Includes.trans {obs : JValue → String → Bool} {a b c : JValue} (hab : Includes obs a b)
    (hbc : Includes obs b c) : Includes obs a c := fun name h => hbc name (hab name h)

theorem pyKeyEq_str {a : String} {y : JValue} : pyKeyEq (.str a) y = true ↔ y = .str a := by
  cases y with
  | str s => simp only [pyKeyEq, beq_iff_eq, JValue.str.injEq]; exact eq_comm
  | _ => simp [pyKeyEq]

/-- A string put into a set stays there: no other value is `==` to it. -/
theorem str_mem_setAdd {a : String} {acc : List JValue} {xs : List JValue}
    (h : JValue.str a ∈ acc ∨ JValue.str a ∈ xs) : JValue.str a ∈ setAdd acc xs := by
  induction xs generalizing acc with
  | nil => simpa using h
  | cons x xs ih =>
    apply ih
    rw [List.mem_cons] at h
    by_cases hx : acc.any (pyKeyEq x) <;> simp only [hx, if_true, if_false, Bool.false_eq_true]
    · rcases h with h | rfl | h
      · exact .inl h
      · obtain ⟨y, hy, he⟩ := List.any_eq_true.mp hx
        exact .inl (pyKeyEq_str.mp he ▸ hy)
      · exact .inr h
    · rcases h with h | rfl | h
      · exact .inl (List.mem_append_left _ h)
      · exact .inl (List.mem_append_right _ (List.mem_singleton_self _))
      · exact .inr h

section Merge

variable {σ : Type} {rec : JValue → ResolveM σ JValue}

/-- What line 262 needs of the resolver: `{"properties": p}` resolves to an object with the
names of `p` under `properties`. -/
def KeepsPropertyNames (rec : JValue → ResolveM σ JValue) : Prop :=
  ∀ props s v s', rec (.obj [("properties", props)]) s = .ok (v, s') →
    ∃ P P', pyItems props = .ok P ∧ pyGet v "properties" (.obj []) = .ok (.obj P') ∧
      ∀ name, Dict.contains P' name = Dict.contains P name

theorem hasProperty_obj {d : Dict} {name : String} :
    hasProperty (.obj d) name = true ↔ ∃ props, Dict.get? d "properties" = some (.obj props) ∧
      Dict.contains props name = true := by
  simp only [hasProperty]
  split <;> simp_all

theorem isRequired_obj {d : Dict} {name : String} :
    isRequired (.obj d) name = true ↔ ∃ names, Dict.get? d "required" = some (.arr names) ∧
      JValue.str name ∈ names := by
  simp only [isRequired]
  split <;> simp_all

theorem Includes.of_properties {d d' : Dict} (h : Dict.get? d' "properties" = Dict.get? d "properties") :
    Includes hasProperty (.obj d) (.obj d') := fun name => by
  rw [hasProperty_obj, hasProperty_obj, h]; exact id

theorem Includes.of_required {d d' : Dict} (h : Dict.get? d' "required" = Dict.get? d "required") :
    Includes isRequired (.obj d) (.obj d') := fun name => by
  rw [isRequired_obj, isRequired_obj, h]; exact id

theorem hasProperty_of_not_contains {source : JValue} (h : pyContains source "properties" = .ok false) :
    Includes hasProperty source (.obj []) := by
  intro name hs
  cases source with
  | obj d =>
    obtain ⟨_, hp, -⟩ := hasProperty_obj.mp hs
    simp [pyContains, Dict.contains, hp, pure, Except.pure] at h
  | _ => simp [hasProperty] at hs

/-- Lines 260–263: the target keeps its property names and gains the member's. -/
theorem mergeProperties_includes (hrec : KeepsPropertyNames rec) {target t' : Dict} {source : JValue}
    {s s' : σ} (h : mergeProperties rec target source s = .ok (t', s')) :
    Includes hasProperty (.obj target) (.obj t') ∧ Includes hasProperty source (.obj t') ∧
      Dict.get? t' "required" = Dict.get? target "required" := by
  obtain ⟨b, _, hb₀, h⟩ := ResolveM.bind_eq_ok.mp h
  obtain ⟨hb, rfl⟩ := ResolveM.lift_eq_ok.mp hb₀
  cases b
  · cases h
    exact ⟨fun _ => id, fun name hs => absurd (hasProperty_of_not_contains hb name hs) (by simp [hasProperty]),
      rfl⟩
  · simp only [if_true] at h
    cases hc : Dict.get? (Dict.setdefault target "properties" (.obj [])) "properties" with
    | some cur =>
      cases cur with
      | obj cur =>
        simp only [hc] at h
        obtain ⟨p, _, hp₀, h₁⟩ := ResolveM.bind_eq_ok.mp h
        obtain ⟨hp, rfl⟩ := ResolveM.lift_eq_ok.mp hp₀
        obtain ⟨resolved, _, hr, h₂⟩ := ResolveM.bind_eq_ok.mp h₁
        obtain ⟨newProps, _, hn₀, h₃⟩ := ResolveM.bind_eq_ok.mp h₂
        obtain ⟨hn, rfl⟩ := ResolveM.lift_eq_ok.mp hn₀
        obtain ⟨u, _, hu₀, h₄⟩ := ResolveM.bind_eq_ok.mp h₃
        obtain ⟨hu, rfl⟩ := ResolveM.lift_eq_ok.mp hu₀
        cases h₄
        obtain ⟨P, P', hP, hP', hnames⟩ := hrec _ _ _ _ hr
        rw [hP'] at hn
        cases hn
        simp only [pyUpdate, pyDict_obj, pure_bind] at hu
        cases hu
        have gains : ∀ name, Dict.contains cur name || Dict.contains P' name →
            hasProperty (.obj (Dict.set (Dict.setdefault target "properties" (.obj []))
              "properties" (.obj (Dict.update cur P')))) name := fun name h =>
          hasProperty_obj.mpr ⟨_, Dict.get?_set_self _ _ _, by rw [Dict.contains_update]; exact h⟩
        refine ⟨fun name ht => ?_, fun name hs => ?_, ?_⟩
        · obtain ⟨props, hprops, hname⟩ := hasProperty_obj.mp ht
          rw [Dict.setdefault_of_contains (by simp [Dict.contains, hprops]), hprops] at hc
          cases hc
          exact gains name (by simp [hname])
        · cases source with
          | obj d =>
            obtain ⟨props, hprops, hname⟩ := hasProperty_obj.mp hs
            simp only [pyIndex, hprops] at hp
            cases hp
            cases hP
            exact gains name (by simp [hnames, hname])
          | _ => simp [hasProperty] at hs
        · rw [Dict.get?_set_ne _ _ (by decide), Dict.get?_setdefault_ne _ _ (by decide)]
      | _ => simp only [hc] at h; nomatch h
    | none => simp only [hc] at h; nomatch h

theorem pySetUpdate_str_mem {acc existing : List JValue} {x : JValue}
    (h : pySetUpdate acc x = .ok existing) {a : String}
    (ha : JValue.str a ∈ acc ∨ ∃ xs, x = .arr xs ∧ JValue.str a ∈ xs) : JValue.str a ∈ existing := by
  obtain ⟨xs, hxs, h₁⟩ := bind_eq_ok.mp h
  by_cases hh : xs.all pyHashable
  · simp only [hh, if_true, pure, Except.pure, Except.ok.injEq] at h₁
    subst h₁
    refine str_mem_setAdd (ha.imp id ?_)
    rintro ⟨xs', rfl, hx⟩
    cases hxs
    exact hx
  · simp [hh, throw, throwThe, MonadExceptOf.throw] at h₁

theorem isRequired_of_not_contains {source : JValue} (h : pyContains source "required" = .ok false) :
    Includes isRequired source (.obj []) := by
  intro name hs
  cases source with
  | obj d =>
    obtain ⟨_, hr, -⟩ := isRequired_obj.mp hs
    simp [pyContains, Dict.contains, hr, pure, Except.pure] at h
  | _ => simp [isRequired] at hs

/-- Lines 264–267: the target keeps its required names and gains the member's. -/
theorem mergeRequired_includes {target t' : Dict} {source : JValue}
    (h : mergeRequired target source = .ok t') :
    Includes isRequired (.obj target) (.obj t') ∧ Includes isRequired source (.obj t') ∧
      Dict.get? t' "properties" = Dict.get? target "properties" := by
  obtain ⟨b, hb, h₁⟩ := bind_eq_ok.mp h
  cases b
  · cases h₁
    exact ⟨fun _ => id, fun name hs => absurd (isRequired_of_not_contains hb name hs) (by simp [isRequired]),
      rfl⟩
  · obtain ⟨existing, he, h₂⟩ := bind_eq_ok.mp h₁
    obtain ⟨r, hr, h₃⟩ := bind_eq_ok.mp h₂
    obtain ⟨existing', he', h₄⟩ := bind_eq_ok.mp h₃
    cases h₄
    have gains : ∀ name, JValue.str name ∈ existing' →
        isRequired (.obj (Dict.set target "required" (.arr existing'))) name := fun name h =>
      isRequired_obj.mpr ⟨_, Dict.get?_set_self _ _ _, h⟩
    refine ⟨fun name ht => ?_, fun name hs => ?_, Dict.get?_set_ne _ _ (by decide)⟩
    · obtain ⟨names, hnames, hname⟩ := isRequired_obj.mp ht
      rw [hnames] at he
      exact gains name (pySetUpdate_str_mem he' (.inl (pySetUpdate_str_mem he (.inr ⟨names, rfl, hname⟩))))
    · cases source with
      | obj d =>
        obtain ⟨names, hnames, hname⟩ := isRequired_obj.mp hs
        simp only [pyIndex, hnames, pure, Except.pure, Except.ok.injEq] at hr
        exact gains name (pySetUpdate_str_mem he' (.inr ⟨names, hr.symm, hname⟩))
      | _ => simp [isRequired] at hs

/-- Lines 269–271: only `type` and `description` change. -/
theorem mergeKeys_get? {target t' : Dict} {source : JValue}
    (h : ["type", "description"].foldlM (mergeKey source) target = .ok t') {k : String}
    (ht : k ≠ "type") (hd : k ≠ "description") : Dict.get? t' k = Dict.get? target k := by
  have step : ∀ {key t t'}, mergeKey source t key = .ok t' → k ≠ key → Dict.get? t' k = Dict.get? t k := by
    intro key t t' h hk
    obtain ⟨b, -, h₁⟩ := bind_eq_ok.mp h
    cases b
    · cases h₁; rfl
    · obtain ⟨v, -, h₂⟩ := bind_eq_ok.mp h₁
      cases h₂
      exact Dict.get?_set_ne _ _ (Ne.symm hk)
  simp only [List.foldlM_cons, List.foldlM_nil] at h
  obtain ⟨t₁, h₁, h₂⟩ := bind_eq_ok.mp h
  obtain ⟨t₂, h₃, h₄⟩ := bind_eq_ok.mp h₂
  cases h₄
  rw [step h₃ hd, step h₁ ht]

/-- `_merge_schemas` (lines 258–271): the target keeps its property names and required names
and gains the member's. -/
theorem mergeSchemas_includes (hrec : KeepsPropertyNames rec) {target t' : Dict} {source : JValue}
    {s s' : σ} (h : mergeSchemas rec target source s = .ok (t', s')) :
    (Includes hasProperty (.obj target) (.obj t') ∧ Includes hasProperty source (.obj t')) ∧
      (Includes isRequired (.obj target) (.obj t') ∧ Includes isRequired source (.obj t')) := by
  obtain ⟨t₁, _, h₁, h₂⟩ := ResolveM.bind_eq_ok.mp h
  obtain ⟨t₂, _, hr₀, h₃⟩ := ResolveM.bind_eq_ok.mp h₂
  obtain ⟨hr, rfl⟩ := ResolveM.lift_eq_ok.mp hr₀
  obtain ⟨t₃, _, hk₀, h₄⟩ := ResolveM.bind_eq_ok.mp h₃
  obtain ⟨hk, rfl⟩ := ResolveM.lift_eq_ok.mp hk₀
  cases h₄
  obtain ⟨props, propsSource, required⟩ := mergeProperties_includes hrec h₁
  obtain ⟨req, reqSource, properties⟩ := mergeRequired_includes hr
  have keysProps := Includes.of_properties (mergeKeys_get? hk (by decide) (by decide))
  have keysReq := Includes.of_required (mergeKeys_get? hk (by decide) (by decide))
  have reqProps := Includes.of_properties properties
  exact ⟨⟨(props.trans reqProps).trans keysProps, (propsSource.trans reqProps).trans keysProps⟩,
    ⟨((Includes.of_required required).trans req).trans keysReq, reqSource.trans keysReq⟩⟩

/-- Line 262 calls the resolver once, so a state predicate every call keeps survives
`_merge_schemas`. -/
theorem mergeSchemas_keeps {I : σ → Prop} (hI : ∀ x s v s', I s → rec x s = .ok (v, s') → I s')
    {target t' : Dict} {source : JValue} {s s' : σ} (hs : I s)
    (h : mergeSchemas rec target source s = .ok (t', s')) : I s' := by
  have hsim : ∀ x, SimEv (fun s₁ s₂ => I s₁ ∧ s₂ = s₁) (rec x) (fun _ => rec x) :=
    fun x s₁ _ v s₁' ⟨hs₁, hs₂⟩ hx => ⟨s₁', ⟨hI x s₁ v s₁' hs₁ hx, rfl⟩, .of_forall fun _ => hs₂ ▸ hx⟩
  exact ((SimEv.mergeSchemas hsim target source).const ⟨hs, rfl⟩ h).choose_spec.1.1

/-- Lines 219–221: the accumulator keeps its names, and every member's resolved schema has its
property names and required names in the result. Each member is resolved from a state in `I`
when every call keeps `I`. -/
theorem mergeAll_includes (hrec : KeepsPropertyNames rec) {I : σ → Prop}
    (hI : ∀ x s v s', I s → rec x s = .ok (v, s') → I s') {merged merged' : Dict}
    {members : List JValue} {s s' : σ} (hs : I s) (h : mergeAll rec merged members s = .ok (merged', s')) :
    Includes hasProperty (.obj merged) (.obj merged') ∧ Includes isRequired (.obj merged) (.obj merged') ∧
      ∀ sub ∈ members, ∃ s₁ s₂ resolved, I s₁ ∧ rec sub s₁ = .ok (resolved, s₂) ∧
        Includes hasProperty resolved (.obj merged') ∧ Includes isRequired resolved (.obj merged') := by
  induction members generalizing merged s with
  | nil =>
    cases h
    exact ⟨fun _ => id, fun _ => id, by simp⟩
  | cons sub subs ih =>
    obtain ⟨resolved, s₁, hsub, h₁⟩ := ResolveM.bind_eq_ok.mp h
    obtain ⟨m₁, s₂, hm, h₂⟩ := ResolveM.bind_eq_ok.mp h₁
    obtain ⟨⟨props, propsSource⟩, ⟨req, reqSource⟩⟩ := mergeSchemas_includes hrec hm
    obtain ⟨restProps, restReq, rest⟩ := ih (mergeSchemas_keeps hI (hI _ _ _ _ hs hsub) hm) h₂
    refine ⟨props.trans restProps, req.trans restReq, ?_⟩
    rintro sub' (_ | ⟨_, hmem⟩)
    · exact ⟨s, s₁, resolved, hs, hsub, propsSource.trans restProps, reqSource.trans restReq⟩
    · exact rest sub' hmem

end Merge

/-! ## `resolve_schema` by branch -/

section Branches

variable {σ : Type} {ref rec : JValue → ResolveM σ JValue} {schema : Dict} {v : JValue} {s s' : σ}

theorem resolveStep_ref_eq_ok {r : JValue} (hr : Dict.get? schema "$ref" = some r)
    (h : resolveStep ref rec (.obj schema) s = .ok (v, s')) :
    ∃ target result, ref r s = .ok (target, s') ∧ pyDict target = .ok result ∧
      v = .obj (copyExcept "$ref" schema result) := by
  simp only [resolveStep, hr] at h
  obtain ⟨target, _, ht, h₁⟩ := ResolveM.bind_eq_ok.mp h
  obtain ⟨result, _, hd₀, h₂⟩ := ResolveM.bind_eq_ok.mp h₁
  obtain ⟨hd, rfl⟩ := ResolveM.lift_eq_ok.mp hd₀
  cases h₂
  exact ⟨target, result, ht, hd, rfl⟩

theorem resolveStep_allOf_eq_ok {subs : JValue} (hr : Dict.get? schema "$ref" = none)
    (ha : Dict.get? schema "allOf" = some subs) (h : resolveStep ref rec (.obj schema) s = .ok (v, s')) :
    ∃ members merged, pyIter subs = .ok members ∧ mergeAll rec allOfStart members s = .ok (merged, s') ∧
      v = .obj (copyExcept "allOf" schema merged) := by
  simp only [resolveStep, hr, ha] at h
  obtain ⟨members, _, hm₀, h₁⟩ := ResolveM.bind_eq_ok.mp h
  obtain ⟨hm, rfl⟩ := ResolveM.lift_eq_ok.mp hm₀
  obtain ⟨merged, _, hmerge, h₂⟩ := ResolveM.bind_eq_ok.mp h₁
  cases h₂
  exact ⟨members, merged, hm, hmerge, rfl⟩

theorem resolveStep_oneOf_eq_ok (hr : Dict.get? schema "$ref" = none) (ha : Dict.get? schema "allOf" = none)
    (ho : (Dict.contains schema "oneOf" || Dict.contains schema "anyOf") = true)
    (h : resolveStep ref rec (.obj schema) s = .ok (v, s')) :
    (∃ opt options resolved result, oneOfOptions schema = .ok (opt :: options) ∧
      rec opt s = .ok (resolved, s') ∧ pyDict resolved = .ok result ∧
      v = .obj (Dict.set result "_nullable" (.bool true))) ∨
    (oneOfOptions schema = .ok [] ∧ v = .obj [("type", .str "null"), ("_nullable", .bool true)]) := by
  simp only [resolveStep, hr, ha, ho, if_true] at h
  obtain ⟨options, _, hopt₀, h₁⟩ := ResolveM.bind_eq_ok.mp h
  obtain ⟨hopt, rfl⟩ := ResolveM.lift_eq_ok.mp hopt₀
  cases options with
  | nil => cases h₁; exact .inr ⟨hopt, rfl⟩
  | cons opt options =>
    obtain ⟨resolved, _, hres, h₂⟩ := ResolveM.bind_eq_ok.mp h₁
    obtain ⟨result, _, hd₀, h₃⟩ := ResolveM.bind_eq_ok.mp h₂
    obtain ⟨hd, rfl⟩ := ResolveM.lift_eq_ok.mp hd₀
    cases h₃
    exact .inl ⟨opt, options, resolved, result, hopt, hres, hd, rfl⟩

theorem resolveStep_leaf (hr : Dict.get? schema "$ref" = none) (ha : Dict.get? schema "allOf" = none)
    (ho : (Dict.contains schema "oneOf" || Dict.contains schema "anyOf") = false) :
    resolveStep ref rec (.obj schema) = resolveLeaf rec schema := by
  simp only [resolveStep, hr, ha, ho, Bool.false_eq_true, if_false]

theorem resolveStep_keepsPropertyNames : KeepsPropertyNames (resolveStep ref rec) := by
  intro props s v s' h
  rw [show resolveStep ref rec (.obj [("properties", props)]) = resolveLeaf rec [("properties", props)] from
    resolveStep_leaf rfl rfl rfl] at h
  obtain ⟨d, rfl, -, P, P', hP, hd, hnames⟩ := resolveLeaf_get? h
  exact ⟨P, P', hP, by simp [hd, pure, Except.pure], hnames⟩

end Branches

theorem resolveSchema_keepsPropertyNames (spec : JValue) (n : Nat) :
    KeepsPropertyNames (resolveSchema spec n) := by
  cases n with
  | zero => intro _ _ _ _ h; nomatch h
  | succ n => exact resolveStep_keepsPropertyNames

/-- What `resolve_schema` makes of the object node `schema` in `n + 1` nested calls from the
cache `c`, leaving `c'`, as the dict `d`, branch by branch: beside a `$ref` every key but `$ref`
is the node's own where it has one and the resolved target's otherwise; beside an `allOf` every
key but `allOf` is the node's own where it has one and the merge's otherwise, and the merge has
the property names and required names of every member's resolution, which is the member's
cache-free resolution; under `oneOf`/`anyOf` every key but
`_nullable` is the first non-null option's; a node with none of them keeps its keys, with the
same property names. -/
def ResolvedShape (spec : JValue) (n : Nat) (schema : Dict) (c c' : Cache) (d : Dict) : Prop :=
  (∀ r, Dict.get? schema "$ref" = some r → ∃ target result,
    resolveRef spec (resolveSchema spec n) r c = .ok (target, c') ∧ pyDict target = .ok result ∧
    ∀ k, k ≠ "$ref" → Dict.get? d k = (Dict.get? schema k).or (Dict.get? result k)) ∧
  (Dict.get? schema "$ref" = none → ∀ subs, Dict.get? schema "allOf" = some subs →
    ∃ members merged, pyIter subs = .ok members ∧
      (∀ k, k ≠ "allOf" → Dict.get? d k = (Dict.get? schema k).or (Dict.get? merged k)) ∧
      ∀ sub ∈ members, ∃ resolved, FreeRes spec sub resolved ∧
        Includes hasProperty resolved (.obj merged) ∧ Includes isRequired resolved (.obj merged)) ∧
  (Dict.get? schema "$ref" = none → Dict.get? schema "allOf" = none →
    (Dict.contains schema "oneOf" || Dict.contains schema "anyOf") = true →
    (∃ opt options resolved result, oneOfOptions schema = .ok (opt :: options) ∧
      resolveSchema spec n opt c = .ok (resolved, c') ∧ pyDict resolved = .ok result ∧
      ∀ k, k ≠ "_nullable" → Dict.get? d k = Dict.get? result k) ∨
    (oneOfOptions schema = .ok [] ∧ d = [("type", .str "null"), ("_nullable", .bool true)])) ∧
  (Dict.get? schema "$ref" = none → Dict.get? schema "allOf" = none →
    (Dict.contains schema "oneOf" || Dict.contains schema "anyOf") = false →
    (∀ k, k ≠ "properties" → k ≠ "items" → k ≠ "additionalProperties" →
      Dict.get? d k = Dict.get? schema k) ∧
    PropertiesResolved (Dict.get? schema "properties") (Dict.get? d "properties"))

/-- Every result of `resolve_schema` on an object node, from a correct cache (as every cache an
`OpenAPIResolver` reaches is), has the shape of its branch: the `properties` or `required` written
beside a `$ref` or an `allOf` replace the composed ones, and only without them are the target's
or the members' names those of the result. -/
theorem resolveSchema_shape {spec : JValue} {n : Nat} {schema : Dict} {c c' : Cache} {v : JValue}
    (hkeys : (schema.map Prod.fst).Nodup) (hc : CacheOK spec c)
    (h : resolveSchema spec (n + 1) (.obj schema) c = .ok (v, c')) :
    ∃ d, v = .obj d ∧ ResolvedShape spec n schema c c' d := by
  have overlay := fun skip result k (hk : k ≠ skip) =>
    (get?_copyExcept skip hkeys result k).trans (if_neg hk)
  unfold ResolvedShape
  cases hr : Dict.get? schema "$ref" with
  | some r =>
    obtain ⟨target, result, ht, hd, rfl⟩ := resolveStep_ref_eq_ok hr h
    refine ⟨_, rfl, fun r' hr' => ?_, nofun, nofun, nofun⟩
    cases hr'
    exact ⟨target, result, ht, hd, overlay "$ref" result⟩
  | none =>
    cases ha : Dict.get? schema "allOf" with
    | some subs =>
      obtain ⟨members, merged, hm, hmerge, rfl⟩ := resolveStep_allOf_eq_ok hr ha h
      refine ⟨_, rfl, nofun, fun _ subs' ha' => ?_, nofun, nofun⟩
      cases ha'
      refine ⟨members, merged, hm, overlay "allOf" merged, fun sub hsub => ?_⟩
      obtain ⟨_, _, resolved, hc₁, hr, hprops, hreq⟩ :=
        (mergeAll_includes (resolveSchema_keepsPropertyNames spec n)
          (fun _ _ _ _ hc h => (resolveSchema_sound hc h).1) hc hmerge).2.2 sub hsub
      exact ⟨resolved, (resolveSchema_sound hc₁ hr).2.2, hprops, hreq⟩
    | none =>
      cases ho : (Dict.contains schema "oneOf" || Dict.contains schema "anyOf")
      · rw [show resolveSchema spec (n + 1) (.obj schema) = resolveLeaf (resolveSchema spec n) schema from
          resolveStep_leaf hr ha ho] at h
        obtain ⟨d, rfl, keys, props⟩ := resolveLeaf_get? h
        exact ⟨d, rfl, nofun, nofun, nofun, fun _ _ _ => ⟨keys, props⟩⟩
      · rcases resolveStep_oneOf_eq_ok hr ha ho h with
          ⟨opt, options, resolved, result, hopt, hres, hd, rfl⟩ | ⟨hopt, rfl⟩
        · exact ⟨_, rfl, nofun, nofun,
            fun _ _ _ => .inl ⟨opt, options, resolved, result, hopt, hres, hd,
              fun k hk => Dict.get?_set_ne _ _ (Ne.symm hk)⟩, nofun⟩
        · exact ⟨_, rfl, nofun, nofun, fun _ _ _ => .inr ⟨hopt, rfl⟩, nofun⟩

/-- The field `y`, a string. -/
def propertiesY : JValue := .obj [("y", .obj [("type", .str "string")])]

/-- A `$ref` to `A` with the sibling `properties` `propertiesY`. -/
def refBesideProperties : Dict := [("$ref", .str "#/components/schemas/A"), ("properties", propertiesY)]

/-- An `allOf` of one `$ref` to `A`, with the sibling `properties` `propertiesY`. -/
def allOfBesideProperties : Dict :=
  [("allOf", .arr [.obj [("$ref", .str "#/components/schemas/A")]]), ("properties", propertiesY)]

theorem resolveSchema_shape_allOfBesideProperties :
    ((allOfBesideProperties.map Prod.fst).Nodup ∧ CacheOK componentsSpec [] ∧
      resolveSchema componentsSpec 8 (.obj allOfBesideProperties) [] =
        .ok (.obj [("type", .str "object"), ("properties", propertiesY), ("required", .arr [])],
          [("#/components/schemas/A", .obj [("type", .str "object"),
            ("properties", .obj [("x", .obj [("type", .str "string")])])])])) ∧
    ∃ d, JValue.obj [("type", .str "object"), ("properties", propertiesY), ("required", .arr [])] =
        .obj d ∧
      ResolvedShape componentsSpec 7 allOfBesideProperties []
        [("#/components/schemas/A", .obj [("type", .str "object"),
          ("properties", .obj [("x", .obj [("type", .str "string")])])])] d :=
  ⟨⟨by decide, cacheOK_nil, by decide⟩, resolveSchema_shape (by decide) cacheOK_nil (by decide)⟩

/-- The property `x` of `A` is lost beside a `$ref` or an `allOf` that writes its own
`properties`, and the node's own property `a` under an `anyOf`. -/
theorem resolveSchema_own_properties_replace :
    (resolveSchema componentsSpec 8 (.obj [("$ref", .str "#/components/schemas/A")]) []).map
      (hasProperty ·.1 "x") = .ok true ∧
    (resolveSchema componentsSpec 8 (.obj refBesideProperties) []).map
      (fun r => (hasProperty r.1 "x", hasProperty r.1 "y")) = .ok (false, true) ∧
    (resolveSchema componentsSpec 8 (.obj [("allOf", .arr [.obj [("$ref", .str "#/components/schemas/A")]]),
      ("properties", propertiesY)]) []).map (fun r => (hasProperty r.1 "x", hasProperty r.1 "y")) =
      .ok (false, true) ∧
    (resolveSchema componentsSpec 8 (.obj [("properties", .obj [("a", .obj [("type", .str "string")])]),
      ("anyOf", .arr [.obj [("required", .arr [.str "a"])], .obj [("required", .arr [.str "b"])]])]) []).map
      (fun r => (hasProperty r.1 "a", isRequired r.1 "a")) = .ok (false, true) := by
  decide

end HadrianConformance
