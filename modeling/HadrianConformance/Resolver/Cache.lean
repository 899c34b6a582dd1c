import HadrianConformance.Resolver.Resolve
import Mathlib.Order.Filter.AtTopBot

/-!
# The `$ref` cache is transparent

`resolve_ref` (`scripts/openapi-conformance.py:175–195`) stores each resolved ref and
returns the stored value on later calls. The cache is correct when every entry is the
cache-free resolution of its ref's target (`CacheOK`). `SimEv` relates a computation to a
family of computations indexed by fuel; `resolveStep` preserves it, once for all the uses
below: the cached resolver keeps `CacheOK` and returns cache-free results, and cache-free
results are returned by the cached resolver from any correct cache.
-/

namespace HadrianConformance

section Sim

variable {σ₁ σ₂ : Type} (R : σ₁ → σ₂ → Prop)

/-- Whenever `o₁` returns from a state related to `s₂`, the members of `O₂` from some fuel on
return the same value from `s₂`, in a state related to `o₁`'s final one. -/
def SimEv {α : Type} (o₁ : ResolveM σ₁ α) (O₂ : Nat → ResolveM σ₂ α) : Prop :=
  ∀ s₁ s₂ a s₁', R s₁ s₂ → o₁ s₁ = .ok (a, s₁') →
    ∃ s₂', R s₁' s₂' ∧ ∀ᶠ m in Filter.atTop, O₂ m s₂ = .ok (a, s₂')

variable {R} {α β : Type}

theorem SimEv.pure (a : α) : SimEv R (Pure.pure a) (fun _ => Pure.pure a) := by
  intro s₁ s₂ b s₁' hR h
  cases h
  exact ⟨s₂, hR, Filter.Eventually.of_forall fun _ => rfl⟩

theorem SimEv.lift (x : Py α) :
    SimEv R (monadLift x : ResolveM σ₁ α) (fun _ => (monadLift x : ResolveM σ₂ α)) := by
  intro s₁ s₂ a s₁' hR h
  cases hx : x with
  | error e => simp [hx, monadLift, MonadLift.monadLift, StateT.lift, bind, Except.bind] at h
  | ok b =>
    simp only [hx, monadLift, MonadLift.monadLift, StateT.lift, bind, Except.bind, Pure.pure,
      Except.pure, Except.ok.injEq, Prod.mk.injEq] at h
    obtain ⟨rfl, rfl⟩ := h
    exact ⟨s₂, hR, Filter.Eventually.of_forall fun _ => by simp [hx, monadLift, MonadLift.monadLift,
      StateT.lift, bind, Except.bind, Pure.pure, Except.pure]⟩

theorem SimEv.throw (e : PyError) (O₂ : Nat → ResolveM σ₂ α) :
    SimEv R (MonadExcept.throw e : ResolveM σ₁ α) O₂ := by
  intro s₁ s₂ a s₁' _ h
  cases h

/-- A simulation by a constant family is a plain forward simulation. -/
theorem SimEv.const {o₁ : ResolveM σ₁ α} {o₂ : ResolveM σ₂ α} (h : SimEv R o₁ fun _ => o₂)
    {s₁ s₁' : σ₁} {s₂ : σ₂} {a : α} (hR : R s₁ s₂) (h₁ : o₁ s₁ = .ok (a, s₁')) :
    ∃ s₂', R s₁' s₂' ∧ o₂ s₂ = .ok (a, s₂') :=
  let ⟨s₂', hR', ev⟩ := h s₁ s₂ a s₁' hR h₁
  let ⟨_, h₂⟩ := ev.exists
  ⟨s₂', hR', h₂⟩

/-- A family that works from the next fuel on works. -/
theorem SimEv.of_succ {o₁ : ResolveM σ₁ α} {O₂ : Nat → ResolveM σ₂ α}
    (h : SimEv R o₁ fun m => O₂ (m + 1)) : SimEv R o₁ O₂ := by
  intro s₁ s₂ a s₁' hR h₁
  obtain ⟨s₂', hR', ev⟩ := h s₁ s₂ a s₁' hR h₁
  obtain ⟨N, hN⟩ := Filter.eventually_atTop.mp ev
  refine ⟨s₂', hR', Filter.eventually_atTop.mpr ⟨N + 1, fun m hm => ?_⟩⟩
  obtain ⟨k, rfl⟩ : ∃ k, m = k + 1 := ⟨m - 1, by omega⟩
  exact hN k (by omega)

theorem SimEv.bind {o₁ : ResolveM σ₁ α} {O₂ : Nat → ResolveM σ₂ α} {k₁ : α → ResolveM σ₁ β}
    {k₂ : Nat → α → ResolveM σ₂ β} (h₁ : SimEv R o₁ O₂) (h₂ : ∀ a, SimEv R (k₁ a) (fun m => k₂ m a)) :
    SimEv R (o₁ >>= k₁) (fun m => O₂ m >>= k₂ m) := by
  intro s₁ s₂ b s₁'' hR h
  obtain ⟨a, s₁', ho, hk⟩ := ResolveM.bind_eq_ok.mp h
  obtain ⟨s₂', hR', ev₁⟩ := h₁ s₁ s₂ a s₁' hR ho
  obtain ⟨s₂'', hR'', ev₂⟩ := h₂ a s₁' s₂' b s₁'' hR' hk
  exact ⟨s₂'', hR'', (ev₁.and ev₂).mono fun m ⟨e₁, e₂⟩ => ResolveM.bind_eq_ok.mpr ⟨a, s₂', e₁, e₂⟩⟩

/-! ### `resolveStep` preserves a simulation -/

variable {rec₁ ref₁ : JValue → ResolveM σ₁ JValue} {rec₂ ref₂ : Nat → JValue → ResolveM σ₂ JValue}

theorem SimEv.mergeProperties (hrec : ∀ x, SimEv R (rec₁ x) (fun m => rec₂ m x)) (target : Dict)
    (source : JValue) :
    SimEv R (mergeProperties rec₁ target source) (fun m => mergeProperties (rec₂ m) target source) := by
  unfold HadrianConformance.mergeProperties
  refine (SimEv.lift _).bind fun b => ?_
  split
  · dsimp only
    split
    · exact (SimEv.lift _).bind fun _ => (hrec _).bind fun _ => (SimEv.lift _).bind fun _ =>
        (SimEv.lift _).bind fun _ => SimEv.pure _
    · exact SimEv.throw _ _
  · exact SimEv.pure _

theorem SimEv.mergeSchemas (hrec : ∀ x, SimEv R (rec₁ x) (fun m => rec₂ m x)) (target : Dict)
    (source : JValue) :
    SimEv R (mergeSchemas rec₁ target source) (fun m => mergeSchemas (rec₂ m) target source) :=
  (SimEv.mergeProperties hrec target source).bind fun _ => (SimEv.lift _).bind fun _ =>
    (SimEv.lift _).bind fun _ => SimEv.pure _

theorem SimEv.mergeAll (hrec : ∀ x, SimEv R (rec₁ x) (fun m => rec₂ m x)) (merged : Dict)
    (subs : List JValue) :
    SimEv R (mergeAll rec₁ merged subs) (fun m => mergeAll (rec₂ m) merged subs) := by
  induction subs generalizing merged with
  | nil => exact SimEv.pure _
  | cons sub subs ih =>
    exact (hrec sub).bind fun r => (SimEv.mergeSchemas hrec merged r).bind fun merged' => ih merged'

theorem SimEv.resolveProps (hrec : ∀ x, SimEv R (rec₁ x) (fun m => rec₂ m x)) (d : Dict) :
    SimEv R (resolveProps rec₁ d) (fun m => resolveProps (rec₂ m) d) := by
  induction d with
  | nil => exact SimEv.pure _
  | cons kv d ih => exact (hrec kv.2).bind fun _ => ih.bind fun _ => SimEv.pure _

theorem SimEv.resolveLeaf (hrec : ∀ x, SimEv R (rec₁ x) (fun m => rec₂ m x)) (schema : Dict) :
    SimEv R (resolveLeaf rec₁ schema) (fun m => resolveLeaf (rec₂ m) schema) := by
  refine SimEv.bind ?_ fun result => SimEv.bind ?_ fun result' => ?_
  · unfold resolveLeafProperties
    split
    · exact (SimEv.lift _).bind fun _ => (SimEv.resolveProps hrec _).bind fun _ => SimEv.pure _
    · exact SimEv.pure _
  · unfold resolveLeafItems
    split
    · exact (hrec _).bind fun _ => SimEv.pure _
    · exact SimEv.pure _
  · unfold resolveLeafAdditional
    split
    · exact (hrec _).bind fun _ => SimEv.pure _
    · exact SimEv.pure _

/-- One step of `resolve_schema` keeps a simulation of its recursive calls and ref lookups. -/
theorem SimEv.resolveStep (href : ∀ x, SimEv R (ref₁ x) (fun m => ref₂ m x))
    (hrec : ∀ x, SimEv R (rec₁ x) (fun m => rec₂ m x)) (x : JValue) :
    SimEv R (resolveStep ref₁ rec₁ x) (fun m => resolveStep (ref₂ m) (rec₂ m) x) := by
  unfold HadrianConformance.resolveStep
  split
  · split
    · exact (href _).bind fun _ => (SimEv.lift _).bind fun _ => SimEv.pure _
    · split
      · exact (SimEv.lift _).bind fun _ => (SimEv.mergeAll hrec _ _).bind fun _ => SimEv.pure _
      · split
        · refine (SimEv.lift _).bind fun opts => ?_
          split
          · exact (hrec _).bind fun _ => (SimEv.lift _).bind fun _ => SimEv.pure _
          · exact SimEv.pure _
        · exact SimEv.resolveLeaf hrec _
  · exact SimEv.pure _

theorem SimEv.resolveTarget {spec : JValue} (hrec : ∀ x, SimEv R (rec₁ x) (fun m => rec₂ m x))
    (ref : JValue) :
    SimEv R (resolveTarget spec rec₁ ref) (fun m => resolveTarget spec (rec₂ m) ref) := by
  unfold HadrianConformance.resolveTarget
  split
  · split
    · exact hrec _
    · exact SimEv.pure _
  · exact SimEv.throw _ _

end Sim

/-! ### The cache-free resolution -/

variable {spec : JValue}

/-- Fuel only ever helps the cache-free resolver. -/
theorem resolveFree_succ {n : Nat} {x v : JValue} (h : resolveFree spec n x () = .ok (v, ())) :
    resolveFree spec (n + 1) x () = .ok (v, ()) := by
  have step : ∀ n x, SimEv (fun (_ _ : Unit) => True) (resolveFree spec n x)
      (fun _ => resolveFree spec (n + 1) x) := by
    intro n
    induction n with
    | zero => exact fun _ => SimEv.throw _ _
    | succ n ih => exact SimEv.resolveStep (SimEv.resolveTarget ih) ih
  obtain ⟨⟨⟩, -, h'⟩ := (step n x).const trivial h
  exact h'

theorem resolveFree_mono {n m : Nat} {x v : JValue} (h : resolveFree spec n x () = .ok (v, ()))
    (hle : n ≤ m) : resolveFree spec m x () = .ok (v, ()) := by
  induction m, hle using Nat.le_induction with
  | base => exact h
  | succ m _ ih => exact resolveFree_succ ih

/-- `v` is what `resolve_schema` returns for `x` with no cache, given enough fuel. -/
def FreeRes (spec x v : JValue) : Prop := ∃ n, resolveFree spec n x () = .ok (v, ())

theorem FreeRes.eventually {x v : JValue} (h : FreeRes spec x v) :
    ∀ᶠ m in Filter.atTop, resolveFree spec m x () = .ok (v, ()) :=
  let ⟨n, hn⟩ := h
  Filter.eventually_atTop.mpr ⟨n, fun _ hm => resolveFree_mono hn hm⟩

/-- The cache-free resolution is a function of the schema. -/
theorem FreeRes.unique {x v v' : JValue} (h : FreeRes spec x v) (h' : FreeRes spec x v') : v = v' := by
  obtain ⟨m, hm, hm'⟩ := (h.eventually.and h'.eventually).exists
  rw [hm] at hm'
  cases hm'
  rfl

/-- Every cache entry is the cache-free resolution of its ref's target. -/
def CacheOK (spec : JValue) (c : Cache) : Prop :=
  ∀ r v, Dict.get? c r = some v → ∃ t, refTarget spec r = some t ∧ FreeRes spec t v

theorem cacheOK_nil : CacheOK spec [] := fun _ _ h => by cases h

theorem CacheOK.set {c : Cache} {r : String} {t v : JValue} (hc : CacheOK spec c)
    (ht : refTarget spec r = some t) (hv : FreeRes spec t v) : CacheOK spec (Dict.set c r v) := by
  intro r' v' h
  rw [Dict.get?_set] at h
  split at h
  · next he =>
    subst he
    cases h
    exact ⟨t, ht, hv⟩
  · exact hc r' v' h

/-- The resolver's invariant relative to an earlier cache `c₀`: correct, and keeping every
entry of `c₀`. -/
def Kept (spec : JValue) (c₀ c : Cache) : Prop := CacheOK spec c ∧ Dict.Sub c₀ c

/-- A correct store keeps every entry: a ref already present holds the same cache-free value. -/
theorem Kept.set {c₀ c : Cache} {r : String} {t v : JValue} (hk : Kept spec c₀ c)
    (ht : refTarget spec r = some t) (hv : FreeRes spec t v) : Kept spec c₀ (Dict.set c r v) := by
  refine ⟨hk.1.set ht hv, fun r' v' h' => ?_⟩
  rw [Dict.get?_set]
  split
  · next he =>
    subst he
    obtain ⟨t', ht', hv'⟩ := hk.1 r v' (hk.2 r v' h')
    rw [ht] at ht'
    cases ht'
    rw [hv'.unique hv]
  · exact hk.2 r' v' h'

/-- A cached lookup or a fresh resolution of the target: in both cases the cache-free value. -/
theorem simEv_resolveRef {c₀ : Cache} {rec : JValue → ResolveM Cache JValue}
    (hrec : ∀ x, SimEv (fun c (_ : Unit) => Kept spec c₀ c) (rec x) fun m => resolveFree spec m x)
    (ref : JValue) :
    SimEv (fun c (_ : Unit) => Kept spec c₀ c) (resolveRef spec rec ref)
      (fun m => resolveTarget spec (resolveFree spec m) ref) := by
  intro c _ v c' hc h
  obtain ⟨r, rfl, ⟨hv, rfl⟩ | ⟨-, ⟨t, c₁, ht, hr, rfl⟩ | ⟨ht, rfl, rfl⟩⟩⟩ := resolveRef_eq_ok.mp h
  · obtain ⟨t, ht, hf⟩ := hc.1 r v hv
    exact ⟨(), hc, hf.eventually.mono fun m hm => resolveTarget_eq_ok.mpr ⟨r, rfl, .inl ⟨t, ht, hm⟩⟩⟩
  · obtain ⟨_, hc₁, ev⟩ := hrec t c () v c₁ hc hr
    exact ⟨(), hc₁.set ht ev.exists,
      ev.mono fun m hm => resolveTarget_eq_ok.mpr ⟨r, rfl, .inl ⟨t, ht, hm⟩⟩⟩
  · exact ⟨(), hc, Filter.Eventually.of_forall fun m =>
      resolveTarget_eq_ok.mpr ⟨r, rfl, .inr ⟨ht, rfl, rfl⟩⟩⟩

/-- What the resolver returns from a correct cache is the cache-free resolution; the cache
stays correct and keeps its entries. -/
theorem simEv_resolveSchema {c₀ : Cache} (n : Nat) (x : JValue) :
    SimEv (fun c (_ : Unit) => Kept spec c₀ c) (resolveSchema spec n x)
      (fun m => resolveFree spec m x) := by
  induction n generalizing x with
  | zero => exact SimEv.throw _ _
  | succ n ih => exact SimEv.of_succ (SimEv.resolveStep (simEv_resolveRef ih) ih x)

/-- A cache-free result of a ref is what the cached `resolve_ref` returns from a correct cache. -/
theorem simEv_resolveTarget {n : Nat}
    (hrec : ∀ x, SimEv (fun (_ : Unit) c => CacheOK spec c) (resolveFree spec n x)
      fun _ => resolveSchema spec n x) (ref : JValue) :
    SimEv (fun (_ : Unit) c => CacheOK spec c) (resolveTarget spec (resolveFree spec n) ref)
      (fun _ => resolveRef spec (resolveSchema spec n) ref) := by
  intro _ c v _ hc h
  obtain ⟨r, rfl, ⟨t, ht, hr⟩ | ⟨ht, rfl, rfl⟩⟩ := resolveTarget_eq_ok.mp h
  · cases hget : Dict.get? c r with
    | some v₀ =>
      obtain ⟨t', ht', hf⟩ := hc r v₀ hget
      rw [ht] at ht'
      cases ht'
      cases hf.unique ⟨n, hr⟩
      exact ⟨c, hc, Filter.Eventually.of_forall fun _ =>
        resolveRef_eq_ok.mpr ⟨r, rfl, .inl ⟨hget, rfl⟩⟩⟩
    | none =>
      obtain ⟨c₁, hc₁, hr'⟩ := (hrec t).const hc hr
      exact ⟨Dict.set c₁ r v, hc₁.set ht ⟨n, hr⟩, Filter.Eventually.of_forall fun _ =>
        resolveRef_eq_ok.mpr ⟨r, rfl, .inr ⟨hget, .inl ⟨t, c₁, ht, hr', rfl⟩⟩⟩⟩
  · cases hget : Dict.get? c r with
    | some v₀ =>
      obtain ⟨t', ht', -⟩ := hc r v₀ hget
      rw [ht] at ht'
      cases ht'
    | none => exact ⟨c, hc, Filter.Eventually.of_forall fun _ =>
        resolveRef_eq_ok.mpr ⟨r, rfl, .inr ⟨hget, .inr ⟨ht, rfl, rfl⟩⟩⟩⟩

/-- From a correct cache, the resolver returns every cache-free result, at the same fuel. -/
theorem simEv_resolveFree (n : Nat) (x : JValue) :
    SimEv (fun (_ : Unit) c => CacheOK spec c) (resolveFree spec n x)
      (fun _ => resolveSchema spec n x) := by
  induction n generalizing x with
  | zero => exact SimEv.throw _ _
  | succ n ih => exact SimEv.resolveStep (simEv_resolveTarget ih) ih x

/-! ### Runs of the resolver -/

/-- Soundness: from a correct cache, the resolver returns the cache-free resolution, keeps
every entry and leaves a correct cache. -/
theorem resolveSchema_sound {n : Nat} {x v : JValue} {c c' : Cache} (hc : CacheOK spec c)
    (h : resolveSchema spec n x c = .ok (v, c')) :
    CacheOK spec c' ∧ Dict.Sub c c' ∧ FreeRes spec x v :=
  let ⟨_, hk, ev⟩ := simEv_resolveSchema n x c () v c' ⟨hc, Dict.Sub.refl c⟩ h
  ⟨hk.1, hk.2, ev.exists⟩

/-- Completeness: from a correct cache, the resolver returns each cache-free resolution at
the fuel the cache-free resolver needed, and leaves a correct cache. -/
theorem resolveSchema_complete {n : Nat} {x v : JValue} {c : Cache} (hc : CacheOK spec c)
    (h : resolveFree spec n x () = .ok (v, ())) :
    ∃ c', resolveSchema spec n x c = .ok (v, c') ∧ CacheOK spec c' :=
  let ⟨c', hc', h'⟩ := (simEv_resolveFree n x).const hc h
  ⟨c', h', hc'⟩

/-- The caches an `OpenAPIResolver` reaches by any sequence of `resolve_schema` calls. -/
inductive Reachable (spec : JValue) : Cache → Prop
  | init : Reachable spec []
  | call {c c' : Cache} {n : Nat} {x v : JValue} :
    Reachable spec c → resolveSchema spec n x c = .ok (v, c') → Reachable spec c'

/-- Every reachable cache is correct. -/
theorem Reachable.cacheOK {c : Cache} (h : Reachable spec c) : CacheOK spec c := by
  induction h with
  | init => exact cacheOK_nil
  | call _ hcall ih => exact (resolveSchema_sound ih hcall).1

/-! ### Fuel -/

end HadrianConformance
