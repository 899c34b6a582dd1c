import HadrianConformance.Resolver.Cache
import Mathlib.Order.Filter.Finite
import Mathlib.Data.Fintype.Card
import Mathlib.Data.Set.Finite.Basic

/-!
# `resolve_schema` terminates on a document whose refs do not cycle

`resolve_schema`, `resolve_ref` and `_merge_schemas` (`scripts/openapi-conformance.py:175–271`)
recurse into a node's children, jump to the target of a ref, and resolve once more the
properties of a member already resolved: none of this is structural. The measure is
`expandsWithin`: a value expands within `h` levels when its children and the targets of the refs
the resolver follows from it expand within `h - 1`. Those refs are the string `$ref` entries of
the value as a dict, or of `dict(x)` when a resolved target or option `x` is a list (lines 207
and 238); a count of the `$ref` strings of the document misses the second kind.

`Finishes I Q o` says that `o` does not run out of fuel from a state in `I`, keeps `I`, and
returns values in `Q`. One step of `resolve_schema` finishes within the height of its node when
its recursive calls and ref lookups finish within the heights below (`finishes_resolveStep`).
By induction on fuel so does the cache-free resolver, whose results therefore stay within the
height of the node, and so does the cached one from a correct cache. When the refs followed from
targets never lead back, every value has a height (`eventually_expandsWithin`), so enough fuel
never runs out.
-/

namespace HadrianConformance

open Filter

/-! ## The refs the resolver follows -/

/-- The ref of one dict entry: a string under `$ref`. -/
def refEntry (kv : String × JValue) : Option String :=
  if kv.1 = "$ref" then (match kv.2 with | .str r => some r | _ => none) else none

/-- The string `$ref` entries of a dict. -/
def refsOf (d : Dict) : List String := d.filterMap refEntry

/-- The refs the resolver follows from `x`: those of `x` as a dict (line 203), or of `dict(x)`
for a resolved target or option (lines 207, 238). -/
def followedRefs (x : JValue) : List String :=
  match pyDict x with
  | .ok d => refsOf d
  | .error _ => []

mutual
/-- The refs `nodeRefs` finds at the nodes of a value. -/
def refsBelow (nodeRefs : JValue → List String) : JValue → List String
  | .arr xs => nodeRefs (.arr xs) ++ refsBelowList nodeRefs xs
  | .obj d => nodeRefs (.obj d) ++ refsBelowDict nodeRefs d
  | x => nodeRefs x
termination_by structural x => x
/-- The refs below each element. -/
def refsBelowList (nodeRefs : JValue → List String) : List JValue → List String
  | [] => []
  | x :: xs => refsBelow nodeRefs x ++ refsBelowList nodeRefs xs
termination_by structural xs => xs
/-- The refs below each member's value. -/
def refsBelowDict (nodeRefs : JValue → List String) : Dict → List String
  | [] => []
  | (_, v) :: d => refsBelow nodeRefs v ++ refsBelowDict nodeRefs d
termination_by structural d => d
end

theorem refEntry_eq_some {kv : String × JValue} {r : String} :
    refEntry kv = some r ↔ kv = ("$ref", .str r) := by
  obtain ⟨k, v⟩ := kv
  unfold refEntry
  split <;> cases v <;> simp_all

theorem mem_refsOf {d : Dict} {r : String} : r ∈ refsOf d ↔ ("$ref", .str r) ∈ d := by
  simp [refsOf, List.mem_filterMap, refEntry_eq_some]

/-- The values directly inside `x`. -/
def children : JValue → List JValue
  | .arr xs => xs
  | .obj d => d.map Prod.snd
  | _ => []

/-- `x` expands within `h` levels: its children and the targets of the refs the resolver follows
from it expand within `h - 1`. -/
def expandsWithin (spec : JValue) : Nat → JValue → Bool
  | 0, _ => false
  | h + 1, x => (children x).all (expandsWithin spec h) &&
      (followedRefs x).all fun r => (refTarget spec r).all (expandsWithin spec h)

/-- Every target of `r` expands within `h`. -/
def TargetWithin (spec : JValue) (h : Nat) (r : String) : Prop :=
  ∀ t, refTarget spec r = some t → expandsWithin spec h t

/-- A dict entry within `h`: its value, and the target of a `$ref` string. -/
def EntryWithin (spec : JValue) (h : Nat) (kv : String × JValue) : Prop :=
  expandsWithin spec h kv.2 ∧ ∀ r, kv = ("$ref", .str r) → TargetWithin spec h r

variable {spec : JValue}

theorem expandsWithin_succ {h : Nat} {x : JValue} :
    expandsWithin spec (h + 1) x ↔
      (∀ y ∈ children x, expandsWithin spec h y) ∧ ∀ r ∈ followedRefs x, TargetWithin spec h r := by
  simp only [expandsWithin, Bool.and_eq_true, List.all_eq_true, TargetWithin]
  refine and_congr Iff.rfl (forall₂_congr fun r _ => ?_)
  cases refTarget spec r <;> simp

theorem expandsWithin_mono {h h' : Nat} {x : JValue} (hx : expandsWithin spec h x) (hle : h ≤ h') :
    expandsWithin spec h' x := by
  induction h generalizing x h' with
  | zero => simp [expandsWithin] at hx
  | succ h ih =>
    obtain ⟨k, rfl⟩ : ∃ k, h' = k + 1 := ⟨h' - 1, by omega⟩
    rw [expandsWithin_succ] at hx ⊢
    exact ⟨fun y hy => ih (hx.1 y hy) (by omega), fun r hr t ht => ih (hx.2 r hr t ht) (by omega)⟩

theorem TargetWithin.mono {h h' : Nat} {r : String} (hr : TargetWithin spec h r) (hle : h ≤ h') :
    TargetWithin spec h' r :=
  fun t ht => expandsWithin_mono (hr t ht) hle

theorem followedRefs_obj (d : Dict) : followedRefs (.obj d) = refsOf d := rfl

theorem expandsWithin_obj {h : Nat} {d : Dict} :
    expandsWithin spec (h + 1) (.obj d) ↔ ∀ kv ∈ d, EntryWithin spec h kv := by
  rw [expandsWithin_succ, followedRefs_obj]
  simp only [children, List.mem_map, mem_refsOf]
  constructor
  · rintro ⟨hc, hr⟩ kv hkv
    exact ⟨hc _ ⟨kv, hkv, rfl⟩, fun r e => hr r (e ▸ hkv)⟩
  · intro h
    exact ⟨fun _ ⟨kv, hkv, e⟩ => e ▸ (h kv hkv).1, fun r hr => (h _ hr).2 r rfl⟩

/-! ## Every value has a height when the refs do not cycle -/

theorem eventually_forall_mem {α : Type} {l : List α} {p : α → Nat → Prop}
    (h : ∀ a ∈ l, ∀ᶠ n in atTop, p a n) : ∀ᶠ n in atTop, ∀ a ∈ l, p a n :=
  (eventually_all_finite (List.finite_toSet l)).mpr h

/-- A node has a height once its children and the targets of its refs have one. -/
theorem eventually_expandsWithin_node {x : JValue}
    (hc : ∀ᶠ h in atTop, ∀ y ∈ children x, expandsWithin spec h y)
    (hr : ∀ r ∈ followedRefs x, ∀ᶠ h in atTop, TargetWithin spec h r) :
    ∀ᶠ h in atTop, expandsWithin spec h x := by
  obtain ⟨N, hN⟩ := (hc.and (eventually_forall_mem hr)).exists
  exact eventually_atTop.mpr ⟨N + 1, fun h hh => expandsWithin_mono (expandsWithin_succ.mpr hN) hh⟩

mutual
theorem eventually_expandsWithin_of_refs : (x : JValue) →
    (∀ r ∈ refsBelow followedRefs x, ∀ᶠ h in atTop, TargetWithin spec h r) →
      ∀ᶠ h in atTop, expandsWithin spec h x
  | .arr xs, hr => eventually_expandsWithin_node
      (eventually_all_expandsWithin_of_refs xs fun r h => hr r (List.mem_append_right _ h))
      fun r h => hr r (List.mem_append_left _ h)
  | .obj d, hr => eventually_expandsWithin_node
      ((eventually_dict_expandsWithin_of_refs d fun r h => hr r (List.mem_append_right _ h)).mono
        fun _ hd _ hy => by
          obtain ⟨kv, hkv, rfl⟩ := List.mem_map.mp hy
          exact hd kv hkv)
      fun r h => hr r (List.mem_append_left _ h)
  | .null, hr | .bool _, hr | .num _, hr | .str _, hr =>
    eventually_expandsWithin_node (.of_forall fun _ _ h => nomatch h) fun r h => hr r h
termination_by structural x => x
theorem eventually_all_expandsWithin_of_refs : (xs : List JValue) →
    (∀ r ∈ refsBelowList followedRefs xs, ∀ᶠ h in atTop, TargetWithin spec h r) →
      ∀ᶠ h in atTop, ∀ y ∈ xs, expandsWithin spec h y
  | [], _ => .of_forall fun _ _ h => nomatch h
  | x :: xs, hr =>
    ((eventually_expandsWithin_of_refs x fun r h => hr r (List.mem_append_left _ h)).and
      (eventually_all_expandsWithin_of_refs xs fun r h => hr r (List.mem_append_right _ h))).mono
      fun _ ⟨hx, hxs⟩ y hy => (List.mem_cons.mp hy).elim (fun e => e ▸ hx) (hxs y)
termination_by structural xs => xs
theorem eventually_dict_expandsWithin_of_refs : (d : Dict) →
    (∀ r ∈ refsBelowDict followedRefs d, ∀ᶠ h in atTop, TargetWithin spec h r) →
      ∀ᶠ h in atTop, ∀ kv ∈ d, expandsWithin spec h kv.2
  | [], _ => .of_forall fun _ _ h => nomatch h
  | (_, v) :: d, hr =>
    ((eventually_expandsWithin_of_refs v fun r h => hr r (List.mem_append_left _ h)).and
      (eventually_dict_expandsWithin_of_refs d fun r h => hr r (List.mem_append_right _ h))).mono
      fun _ ⟨hv, hd⟩ kv hkv => (List.mem_cons.mp hkv).elim (fun e => e ▸ hv) (hd kv)
termination_by structural d => d
end

section Finishes

variable {σ α β : Type} {I : σ → Prop}

/-- From a state in `I`, `o` does not run out of fuel; what it returns satisfies `Q`, in a state
in `I`. -/
def Finishes (I : σ → Prop) (Q : α → Prop) (o : ResolveM σ α) : Prop :=
  ∀ s, I s → o s ≠ .error .recursionError ∧ ∀ a s', o s = .ok (a, s') → I s' ∧ Q a

theorem Finishes.pure {Q : α → Prop} {a : α} (h : Q a) : Finishes I Q (Pure.pure a) :=
  fun _ hs => ⟨nofun, fun _ _ e => by cases e; exact ⟨hs, h⟩⟩

theorem Finishes.throw {Q : α → Prop} {e : PyError} (he : e ≠ .recursionError) :
    Finishes I Q (MonadExcept.throw e) :=
  fun _ _ => ⟨fun h => he (by cases h; rfl), fun _ _ h => nomatch h⟩

theorem Finishes.lift {Q : α → Prop} {x : Py α} (hx : x ≠ .error .recursionError)
    (hQ : ∀ a, x = .ok a → Q a) : Finishes I Q (monadLift x) := by
  intro s hs
  refine ⟨?_, fun a s' h => ?_⟩
  · rw [ResolveM.lift_apply]
    cases x with
    | error e => exact fun h => hx (by cases h; rfl)
    | ok a => nofun
  · obtain ⟨hx', rfl⟩ := ResolveM.lift_eq_ok.mp h
    exact ⟨hs, hQ a hx'⟩

theorem Finishes.lift_ok {x : Py α} (hx : x ≠ .error .recursionError) :
    Finishes I (fun a => x = .ok a) (monadLift x) :=
  Finishes.lift hx fun _ h => h

theorem Finishes.bind {Q : α → Prop} {R : β → Prop} {o : ResolveM σ α} {k : α → ResolveM σ β}
    (ho : Finishes I Q o) (hk : ∀ a, Q a → Finishes I R (k a)) : Finishes I R (o >>= k) := by
  intro s hs
  obtain ⟨hne, hok⟩ := ho s hs
  rw [ResolveM.bind_apply]
  cases h : o s with
  | error e => exact ⟨by simpa [h] using hne, fun _ _ h' => nomatch h'⟩
  | ok p => exact hk p.1 (hok p.1 p.2 h).2 p.2 (hok p.1 p.2 h).1

theorem Finishes.mono {Q Q' : α → Prop} {o : ResolveM σ α} (h : Finishes I Q o)
    (hQ : ∀ a, Q a → Q' a) : Finishes I Q' o :=
  fun s hs => ⟨(h s hs).1, fun a s' e => ⟨((h s hs).2 a s' e).1, hQ a ((h s hs).2 a s' e).2⟩⟩

end Finishes

/-! ### The builtins never run out of fuel -/

theorem bind_ne_recursionError {α β : Type} {x : Py α} {f : α → Py β}
    (hx : x ≠ .error .recursionError) (hf : ∀ a, x = .ok a → f a ≠ .error .recursionError) :
    x >>= f ≠ .error .recursionError := by
  cases x with
  | error e => simpa using hx
  | ok a => simpa using hf a rfl

theorem mapM_ne_recursionError {α β : Type} {f : α → Py β} (hf : ∀ a, f a ≠ .error .recursionError) :
    ∀ xs : List α, xs.mapM f ≠ .error .recursionError
  | [] => nofun
  | x :: xs => by
    rw [List.mapM_cons]
    exact bind_ne_recursionError (hf x) fun _ _ =>
      bind_ne_recursionError (mapM_ne_recursionError hf xs) fun _ _ => nofun

theorem pyIter_ne_recursionError (x : JValue) : pyIter x ≠ .error .recursionError := by
  cases x <;> nofun

theorem pyPair_ne_recursionError (x : JValue) : pyPair x ≠ .error .recursionError := by
  unfold pyPair
  split <;> (try split) <;> nofun

theorem pyDict_ne_recursionError (x : JValue) : pyDict x ≠ .error .recursionError := by
  unfold pyDict
  split
  · nofun
  · exact bind_ne_recursionError (pyIter_ne_recursionError _) fun _ _ =>
      bind_ne_recursionError (mapM_ne_recursionError pyPair_ne_recursionError _) fun _ _ => nofun

theorem pyItems_ne_recursionError (x : JValue) : pyItems x ≠ .error .recursionError := by
  cases x <;> nofun

theorem pyContains_ne_recursionError (x : JValue) (k : String) :
    pyContains x k ≠ .error .recursionError := by
  cases x <;> nofun

theorem pyIndex_ne_recursionError (x : JValue) (k : String) : pyIndex x k ≠ .error .recursionError := by
  unfold pyIndex
  split
  · split <;> nofun
  · nofun

theorem pyGet_ne_recursionError (x : JValue) (k : String) (dflt : JValue) :
    pyGet x k dflt ≠ .error .recursionError := by
  cases x <;> nofun

theorem pySetUpdate_ne_recursionError (s : List JValue) (x : JValue) :
    pySetUpdate s x ≠ .error .recursionError :=
  bind_ne_recursionError (pyIter_ne_recursionError x) fun _ _ => by
    split <;> nofun

theorem pyUpdate_ne_recursionError (d : Dict) (x : JValue) : pyUpdate d x ≠ .error .recursionError :=
  bind_ne_recursionError (pyDict_ne_recursionError x) fun _ _ => nofun

theorem oneOfOptions_ne_recursionError (d : Dict) : oneOfOptions d ≠ .error .recursionError :=
  bind_ne_recursionError (pyIter_ne_recursionError _) fun _ _ => nofun

theorem mergeRequired_ne_recursionError (target : Dict) (source : JValue) :
    mergeRequired target source ≠ .error .recursionError := by
  refine bind_ne_recursionError (pyContains_ne_recursionError _ _) fun b _ => ?_
  split
  · exact bind_ne_recursionError (pySetUpdate_ne_recursionError _ _) fun _ _ =>
      bind_ne_recursionError (pyIndex_ne_recursionError _ _) fun _ _ =>
        bind_ne_recursionError (pySetUpdate_ne_recursionError _ _) fun _ _ => nofun
  · nofun

theorem mergeKey_ne_recursionError (source : JValue) (target : Dict) (key : String) :
    mergeKey source target key ≠ .error .recursionError := by
  refine bind_ne_recursionError (pyContains_ne_recursionError _ _) fun b _ => ?_
  split
  · exact bind_ne_recursionError (pyIndex_ne_recursionError _ _) fun _ _ => nofun
  · nofun

theorem mergeKeys_ne_recursionError (source : JValue) (target : Dict) :
    (["type", "description"].foldlM (mergeKey source) target : Py Dict) ≠ .error .recursionError := by
  simp only [List.foldlM_cons, List.foldlM_nil]
  exact bind_ne_recursionError (mergeKey_ne_recursionError _ _ _) fun _ _ =>
    bind_ne_recursionError (mergeKey_ne_recursionError _ _ _) fun _ _ => nofun

/-! ## What stays within a height -/

/-- The entries of the overlay are the node's or the composed dict's. -/
theorem mem_copyExcept {skip : String} {d r : Dict} {kv : String × JValue}
    (h : kv ∈ copyExcept skip d r) : kv ∈ d ∨ kv ∈ r := by
  induction d generalizing r with
  | nil => exact .inr h
  | cons kv' d ih =>
    rcases ih (show kv ∈ copyExcept skip d (if kv'.1 = skip then r else Dict.set r kv'.1 kv'.2) from h)
      with h | h
    · exact .inl (List.mem_cons_of_mem _ h)
    · split at h
      · exact .inr h
      · rcases Dict.mem_set h with h | rfl
        · exact .inr h
        · exact .inl (List.mem_cons_self _ _)

theorem followedRefs_str (s : String) : followedRefs (.str s) = [] := by
  obtain ⟨_ | ⟨c, cs⟩⟩ := s <;> rfl

theorem expandsWithin_pos {h : Nat} {x : JValue} (hx : expandsWithin spec h x) : 0 < h := by
  cases h with
  | zero => simp [expandsWithin] at hx
  | succ h => omega

/-- A value with no children and no refs, such as a scalar or an empty container, is within every
positive height. -/
theorem expandsWithin_of_leaf {h : Nat} {x : JValue} (hc : children x = []) (hr : followedRefs x = [])
    (hh : 0 < h) : expandsWithin spec h x := by
  obtain ⟨h, rfl⟩ : ∃ k, h = k + 1 := ⟨h - 1, by omega⟩
  exact expandsWithin_succ.mpr ⟨by simp [hc], by simp [hr]⟩

theorem expandsWithin_obj_nil {h : Nat} (hh : 0 < h) : expandsWithin spec h (.obj []) :=
  expandsWithin_of_leaf rfl rfl hh

theorem expandsWithin_str {h : Nat} (s : String) (hh : 0 < h) : expandsWithin spec h (.str s) :=
  expandsWithin_of_leaf rfl (followedRefs_str s) hh

theorem expandsWithin_get? {h : Nat} {d : Dict} {k : String} {v : JValue}
    (hd : expandsWithin spec (h + 1) (.obj d)) (hk : Dict.get? d k = some v) : expandsWithin spec h v :=
  (expandsWithin_obj.mp hd _ (Dict.mem_of_get? hk)).1

theorem entryWithin_of_ne {h : Nat} {k : String} {v : JValue} (hk : k ≠ "$ref")
    (hv : expandsWithin spec h v) : EntryWithin spec h (k, v) :=
  ⟨hv, fun _ e => absurd (congrArg Prod.fst e) hk⟩

theorem expandsWithin_obj_set {h : Nat} {d : Dict} {k : String} {v : JValue} (hk : k ≠ "$ref")
    (hd : expandsWithin spec (h + 1) (.obj d)) (hv : expandsWithin spec h v) :
    expandsWithin spec (h + 1) (.obj (Dict.set d k v)) :=
  expandsWithin_obj.mpr fun kv hkv => (Dict.mem_set hkv).elim (expandsWithin_obj.mp hd kv)
    fun e => e ▸ entryWithin_of_ne hk hv

/-- A dict whose entries are among those of two dicts within `h` is within `h`. -/
theorem expandsWithin_obj_of_mem {h : Nat} {a b c : Dict} (hc : ∀ kv ∈ c, kv ∈ a ∨ kv ∈ b)
    (ha : expandsWithin spec h (.obj a)) (hb : expandsWithin spec h (.obj b)) :
    expandsWithin spec h (.obj c) := by
  obtain ⟨h, rfl⟩ : ∃ k, h = k + 1 := ⟨h - 1, by have := expandsWithin_pos ha; omega⟩
  exact expandsWithin_obj.mpr fun kv hkv =>
    (hc kv hkv).elim (expandsWithin_obj.mp ha kv) (expandsWithin_obj.mp hb kv)

theorem pyIter_expandsWithin {h : Nat} {x : JValue} {xs : List JValue} (hx : expandsWithin spec h x)
    (hi : pyIter x = .ok xs) : ∀ y ∈ xs, expandsWithin spec h y := by
  have hh := expandsWithin_pos hx
  cases x with
  | arr ys =>
    cases hi
    obtain ⟨h, rfl⟩ : ∃ k, h = k + 1 := ⟨h - 1, by omega⟩
    exact fun y hy => expandsWithin_mono ((expandsWithin_succ.mp hx).1 y hy) (Nat.le_succ h)
  | obj d =>
    cases hi
    intro y hy
    obtain ⟨_, _, rfl⟩ := List.mem_map.mp hy
    exact expandsWithin_str _ hh
  | str s =>
    cases hi
    intro y hy
    obtain ⟨_, _, rfl⟩ := List.mem_map.mp hy
    exact expandsWithin_str _ hh
  | _ => cases hi

theorem pyPair_expandsWithin {h : Nat} {y v : JValue} {k : String} (hy : expandsWithin spec h y)
    (hp : pyPair y = .ok (k, v)) : expandsWithin spec h v := by
  have hh := expandsWithin_pos hy
  unfold pyPair at hp
  split at hp
  · split at hp
    · cases hp
      exact expandsWithin_str _ hh
    · cases hp
  · cases hp
    obtain ⟨h, rfl⟩ : ∃ k, h = k + 1 := ⟨h - 1, by omega⟩
    exact expandsWithin_mono ((expandsWithin_succ.mp hy).1 _ (by simp [children])) (Nat.le_succ h)
  · cases hp
  · cases hp
  · cases hp
    exact expandsWithin_str _ hh
  · cases hp
  · cases hp

/-- `dict(x)` is within the height of `x`: its entries come from the pairs of `x`, and its refs
are those the resolver follows from `x`. -/
theorem pyDict_expandsWithin {h : Nat} {x : JValue} {d : Dict} (hx : expandsWithin spec h x)
    (hd : pyDict x = .ok d) : expandsWithin spec h (.obj d) := by
  obtain ⟨h, rfl⟩ : ∃ k, h = k + 1 := ⟨h - 1, by have := expandsWithin_pos hx; omega⟩
  have hrefs : followedRefs x = refsOf d := by simp only [followedRefs, hd]
  refine expandsWithin_obj.mpr fun kv hkv => ⟨?_, fun r e => (expandsWithin_succ.mp hx).2 r
    (hrefs ▸ mem_refsOf.mpr (e ▸ hkv))⟩
  have pair : ∀ xs, pyIter x = .ok xs → (∀ d', x ≠ .obj d') → ∃ y ∈ xs, pyPair y = .ok kv := by
    intro xs hxs hobj
    cases x with
    | obj d' => exact absurd rfl (hobj d')
    | _ =>
      obtain ⟨xs', hxs', h₁⟩ := bind_eq_ok.mp hd
      obtain ⟨ps, hps, h₂⟩ := bind_eq_ok.mp h₁
      cases h₂
      rw [hxs] at hxs'
      cases hxs'
      exact mem_of_mapM_eq_ok hps kv ((Dict.mem_update hkv).resolve_left nofun)
  cases x with
  | obj d' =>
    cases hd
    exact (expandsWithin_obj.mp hx kv hkv).1
  | arr ys =>
    obtain ⟨y, hy, hpy⟩ := pair ys rfl nofun
    exact pyPair_expandsWithin ((expandsWithin_succ.mp hx).1 y hy) hpy
  | str s =>
    obtain ⟨y, hy, hpy⟩ := pair _ rfl nofun
    obtain ⟨_, _, rfl⟩ := List.mem_map.mp hy
    cases hpy
  | _ => cases hd

theorem expandsWithin_hashable {h : Nat} {y : JValue} (hy : pyHashable y) (hh : 0 < h) :
    expandsWithin spec h y := by
  cases y with
  | str s => exact expandsWithin_str s hh
  | arr _ | obj _ => cases hy
  | _ => exact expandsWithin_of_leaf rfl rfl hh

/-- A pair made of a hashable value is a two-character string, with a one-character key. -/
theorem pyPair_hashable_key {y v : JValue} {k : String} (hy : pyHashable y) (hp : pyPair y = .ok (k, v)) :
    k.length = 1 := by
  cases y with
  | str s =>
    simp only [pyPair] at hp
    split at hp
    · cases hp
      simp
    · cases hp
  | arr _ | obj _ => cases hy
  | _ => cases hp

/-- A list of hashable values, such as a merged `required`, names no ref. -/
theorem followedRefs_hashables {xs : List JValue} (hxs : ∀ y ∈ xs, pyHashable y) :
    followedRefs (.arr xs) = [] := by
  unfold followedRefs
  cases hd : pyDict (.arr xs) with
  | error => rfl
  | ok d =>
    refine List.eq_nil_iff_forall_not_mem.mpr fun r hr => ?_
    obtain ⟨ys, hys, h₁⟩ := bind_eq_ok.mp hd
    cases hys
    obtain ⟨ps, hps, h₂⟩ := bind_eq_ok.mp h₁
    cases h₂
    obtain ⟨y, hy, hpy⟩ :=
      mem_of_mapM_eq_ok hps _ ((Dict.mem_update (mem_refsOf.mp hr)).resolve_left nofun)
    exact absurd (pyPair_hashable_key (hxs y hy) hpy) (by decide)

theorem expandsWithin_hashables {h : Nat} {xs : List JValue} (hxs : ∀ y ∈ xs, pyHashable y)
    (hh : 1 < h) : expandsWithin spec h (.arr xs) := by
  obtain ⟨h, rfl⟩ : ∃ k, h = k + 1 := ⟨h - 1, by omega⟩
  exact expandsWithin_succ.mpr ⟨fun y hy => expandsWithin_hashable (hxs y hy) (by omega),
    by simp [followedRefs_hashables hxs]⟩

/-- Lines 264–267 keep the accumulator within the height: the union of the required names is a
list of hashable values, written only when a member within `h` has a `required`, so `h > 1`. -/
theorem mergeRequired_expandsWithin {h : Nat} {target t : Dict} {source : JValue}
    (ht : expandsWithin spec (h + 1) (.obj target)) (hs : expandsWithin spec h source)
    (hm : mergeRequired target source = .ok t) : expandsWithin spec (h + 1) (.obj t) := by
  obtain ⟨b, -, hm⟩ := bind_eq_ok.mp hm
  cases b with
  | false => cases hm; exact ht
  | true =>
    obtain ⟨existing, hex, hm⟩ := bind_eq_ok.mp hm
    obtain ⟨names, hnames, hm⟩ := bind_eq_ok.mp hm
    obtain ⟨existing', hex', hm⟩ := bind_eq_ok.mp hm
    cases hm
    obtain ⟨e, rfl, he⟩ := pyIndex_eq_ok.mp hnames
    obtain ⟨h, rfl⟩ : ∃ k, h = k + 1 := ⟨h - 1, by have := expandsWithin_pos hs; omega⟩
    have hpos := expandsWithin_pos (expandsWithin_get? hs he)
    refine expandsWithin_obj_set (by decide) ht (expandsWithin_hashables (fun y hy => ?_) (by omega))
    obtain ⟨xs, -, hxs, rfl⟩ := pySetUpdate_eq_ok hex'
    obtain ⟨xs₀, -, hxs₀, rfl⟩ := pySetUpdate_eq_ok (show pySetUpdate [] _ = _ from hex)
    rcases mem_setAdd hy with hy | hy
    · rcases mem_setAdd hy with hy | hy
      · cases hy
      · exact List.all_eq_true.mp hxs₀ y hy
    · exact List.all_eq_true.mp hxs y hy

theorem mergeKey_expandsWithin {h : Nat} {target t : Dict} {source : JValue} {key : String}
    (hkey : key ≠ "$ref") (ht : expandsWithin spec (h + 1) (.obj target)) (hs : expandsWithin spec h source)
    (hm : mergeKey source target key = .ok t) : expandsWithin spec (h + 1) (.obj t) := by
  obtain ⟨b, -, hm⟩ := bind_eq_ok.mp hm
  cases b with
  | false => cases hm; exact ht
  | true =>
    obtain ⟨v, hv, hm⟩ := bind_eq_ok.mp hm
    cases hm
    obtain ⟨e, rfl, he⟩ := pyIndex_eq_ok.mp hv
    obtain ⟨h, rfl⟩ : ∃ k, h = k + 1 := ⟨h - 1, by have := expandsWithin_pos hs; omega⟩
    exact expandsWithin_obj_set hkey ht (expandsWithin_mono (expandsWithin_get? hs he) (Nat.le_succ h))

theorem mergeKeys_expandsWithin {h : Nat} {target t : Dict} {source : JValue}
    (ht : expandsWithin spec (h + 1) (.obj target)) (hs : expandsWithin spec h source)
    (hm : (["type", "description"].foldlM (mergeKey source) target : Py Dict) = .ok t) :
    expandsWithin spec (h + 1) (.obj t) := by
  simp only [List.foldlM_cons, List.foldlM_nil] at hm
  obtain ⟨t₁, h₁, hm⟩ := bind_eq_ok.mp hm
  obtain ⟨t₂, h₂, hm⟩ := bind_eq_ok.mp hm
  cases hm
  exact mergeKey_expandsWithin (by decide) (mergeKey_expandsWithin (by decide) ht hs h₁) hs h₂

theorem expandsWithin_getD {h : Nat} {d : Dict} {k : String} {dflt : JValue}
    (hd : expandsWithin spec (h + 1) (.obj d)) (hdflt : expandsWithin spec h dflt) :
    expandsWithin spec h ((Dict.get? d k).getD dflt) := by
  cases hk : Dict.get? d k with
  | none => exact hdflt
  | some v => exact expandsWithin_get? hd hk

theorem pyGet_expandsWithin {h : Nat} {x dflt v : JValue} {k : String} (hx : expandsWithin spec h x)
    (hdflt : expandsWithin spec h dflt) (hg : pyGet x k dflt = .ok v) : expandsWithin spec h v := by
  cases x with
  | obj e =>
    cases hg
    obtain ⟨h, rfl⟩ : ∃ k, h = k + 1 := ⟨h - 1, by have := expandsWithin_pos hx; omega⟩
    cases hk : Dict.get? e k with
    | none => simpa [hk] using hdflt
    | some v => simpa [hk] using expandsWithin_mono (expandsWithin_get? hx hk) (Nat.le_succ h)
  | _ => cases hg

theorem pyUpdate_expandsWithin {h : Nat} {cur d' : Dict} {x : JValue}
    (hcur : expandsWithin spec h (.obj cur)) (hx : expandsWithin spec h x) (hu : pyUpdate cur x = .ok d') :
    expandsWithin spec h (.obj d') := by
  obtain ⟨p, hp, hu⟩ := bind_eq_ok.mp hu
  cases hu
  exact expandsWithin_obj_of_mem (fun _ h => Dict.mem_update h) hcur (pyDict_expandsWithin hx hp)

theorem expandsWithin_allOfStart {h : Nat} (hh : 0 < h) : expandsWithin spec (h + 1) (.obj allOfStart) :=
  expandsWithin_obj.mpr fun kv hkv => by
    simp only [allOfStart, List.mem_cons, List.mem_singleton, List.not_mem_nil, or_false] at hkv
    rcases hkv with rfl | rfl | rfl
    · exact entryWithin_of_ne (by decide) (expandsWithin_str _ hh)
    · exact entryWithin_of_ne (by decide) (expandsWithin_of_leaf rfl rfl hh)
    · exact entryWithin_of_ne (by decide) (expandsWithin_of_leaf rfl rfl hh)

/-- The options of lines 229–235 are within the height of the node's values. -/
theorem oneOfOptions_expandsWithin {h : Nat} {d : Dict} {opts : List JValue}
    (hd : expandsWithin spec (h + 1) (.obj d)) (hh : 0 < h) (ho : oneOfOptions d = .ok opts) :
    ∀ y ∈ opts, expandsWithin spec h y := by
  obtain ⟨xs, hxs, ho⟩ := bind_eq_ok.mp ho
  cases ho
  refine fun y hy => pyIter_expandsWithin ?_ hxs y (List.mem_filter.mp hy).1
  split
  · exact expandsWithin_getD hd (expandsWithin_of_leaf rfl rfl hh)
  · exact expandsWithin_getD hd (expandsWithin_of_leaf rfl rfl hh)

/-! ## One step finishes within the height of its node -/

/-- What a resolution of `y` returns within `h`: a value within `h`, a string only when `y` is
that string. -/
def Bounded (spec : JValue) (h : Nat) (y v : JValue) : Prop :=
  expandsWithin spec h v ∧ ∀ s, v = .str s → y = .str s

theorem EntryWithin.of_bounded {h : Nat} {k : String} {v v' : JValue}
    (he : EntryWithin spec h (k, v)) (hb : Bounded spec h v v') : EntryWithin spec h (k, v') :=
  ⟨hb.1, fun r e => by
    simp only [Prod.mk.injEq] at e
    obtain ⟨rfl, rfl⟩ := e
    exact he.2 r (by rw [hb.2 r rfl])⟩

section Step

variable {σ : Type} {I : σ → Prop} {ref rec : JValue → ResolveM σ JValue} {h : Nat}

theorem finishes_resolveProps {h' : Nat}
    (hrec : ∀ y, expandsWithin spec h' y → Finishes I (Bounded spec h' y) (rec y)) :
    ∀ d : Dict, (∀ kv ∈ d, EntryWithin spec h' kv) →
      Finishes I (fun d' => ∀ kv ∈ d', EntryWithin spec h' kv) (resolveProps rec d)
  | [], _ => Finishes.pure nofun
  | (_, v) :: d, hd =>
    (hrec v (hd _ (List.mem_cons_self _ _)).1).bind fun _ hv' =>
      (finishes_resolveProps hrec d fun kv h => hd kv (List.mem_cons_of_mem _ h)).bind fun _ hd' =>
        Finishes.pure fun kv hkv => (List.mem_cons.mp hkv).elim
          (fun e => e ▸ (hd _ (List.mem_cons_self _ _)).of_bounded hv') (hd' kv)

variable (hrec : ∀ h' ≤ h, ∀ y, expandsWithin spec h' y → Finishes I (Bounded spec h' y) (rec y))
include hrec

theorem finishes_resolveLeafProperties {d : Dict} (hd : expandsWithin spec (h + 1) (.obj d)) :
    Finishes I (fun r => expandsWithin spec (h + 1) (.obj r)) (resolveLeafProperties rec d) := by
  unfold resolveLeafProperties
  split
  · next props hp =>
    refine (Finishes.lift_ok (pyItems_ne_recursionError props)).bind fun items hitems => ?_
    have hP := expandsWithin_get? hd hp
    rw [pyItems_eq_ok hitems] at hP
    obtain ⟨h', rfl⟩ : ∃ k, h = k + 1 := ⟨h - 1, by have := expandsWithin_pos hP; omega⟩
    exact (finishes_resolveProps (hrec h' (Nat.le_succ h')) items (expandsWithin_obj.mp hP)).bind
      fun _ hd' => Finishes.pure (expandsWithin_obj_set (by decide) hd (expandsWithin_obj.mpr hd'))
  · exact Finishes.pure hd

theorem finishes_resolveLeafItems {r : Dict} (hr : expandsWithin spec (h + 1) (.obj r)) :
    Finishes I (fun r' => expandsWithin spec (h + 1) (.obj r')) (resolveLeafItems rec r) := by
  unfold resolveLeafItems
  split
  · next items hi =>
    exact (hrec h le_rfl items (expandsWithin_get? hr hi)).bind fun _ hv =>
      Finishes.pure (expandsWithin_obj_set (by decide) hr hv.1)
  · exact Finishes.pure hr

theorem finishes_resolveLeafAdditional {r : Dict} (hr : expandsWithin spec (h + 1) (.obj r)) :
    Finishes I (fun v => expandsWithin spec (h + 1) v ∧ ∃ e, v = .obj e) (resolveLeafAdditional rec r) := by
  unfold resolveLeafAdditional
  split
  · next ap ha =>
    exact (hrec h le_rfl _ (expandsWithin_get? hr ha)).bind fun _ hv =>
      Finishes.pure ⟨expandsWithin_obj_set (by decide) hr hv.1, _, rfl⟩
  · exact Finishes.pure ⟨hr, _, rfl⟩

theorem finishes_resolveLeaf {d : Dict} (hd : expandsWithin spec (h + 1) (.obj d)) :
    Finishes I (fun v => expandsWithin spec (h + 1) v ∧ ∃ e, v = .obj e) (resolveLeaf rec d) :=
  (finishes_resolveLeafProperties hrec hd).bind fun _ h₁ =>
    (finishes_resolveLeafItems hrec h₁).bind fun _ h₂ => finishes_resolveLeafAdditional hrec h₂

/-- Lines 260–263: the member's properties, resolved once more inside a fresh node within the
member's height, join the accumulator's. -/
theorem finishes_mergeProperties {target : Dict} {source : JValue}
    (ht : expandsWithin spec (h + 1) (.obj target)) (hs : expandsWithin spec h source) :
    Finishes I (fun t => expandsWithin spec (h + 1) (.obj t)) (mergeProperties rec target source) := by
  have hpos := expandsWithin_pos hs
  unfold mergeProperties
  refine (Finishes.lift_ok (pyContains_ne_recursionError _ _)).bind fun b _ => ?_
  split
  · have ht' : expandsWithin spec (h + 1) (.obj (Dict.setdefault target "properties" (.obj []))) := by
      unfold Dict.setdefault
      split
      · exact ht
      · exact expandsWithin_obj_set (by decide) ht (expandsWithin_of_leaf rfl rfl hpos)
    dsimp only
    split
    · next cur hcur =>
      refine (Finishes.lift_ok (pyIndex_ne_recursionError _ _)).bind fun P hP => ?_
      obtain ⟨e, rfl, he⟩ := pyIndex_eq_ok.mp hP
      obtain ⟨h, rfl⟩ : ∃ k, h = k + 1 := ⟨h - 1, by omega⟩
      have hwrap : expandsWithin spec (h + 1) (.obj [("properties", P)]) :=
        expandsWithin_obj.mpr fun kv hkv => List.mem_singleton.mp hkv ▸
          entryWithin_of_ne (by decide) (expandsWithin_get? hs he)
      refine (hrec (h + 1) le_rfl _ hwrap).bind fun resolved hres =>
        (Finishes.lift_ok (pyGet_ne_recursionError _ _ _)).bind fun newProps hnew =>
          (Finishes.lift_ok (pyUpdate_ne_recursionError _ _)).bind fun d' hd' =>
            Finishes.pure (expandsWithin_obj_set (by decide) ht' ?_)
      exact pyUpdate_expandsWithin (expandsWithin_get? ht' hcur)
        (pyGet_expandsWithin hres.1 (expandsWithin_obj_nil (by omega)) hnew) hd'
    · exact Finishes.throw nofun
  · exact Finishes.pure ht

theorem finishes_mergeSchemas {target : Dict} {source : JValue}
    (ht : expandsWithin spec (h + 1) (.obj target)) (hs : expandsWithin spec h source) :
    Finishes I (fun t => expandsWithin spec (h + 1) (.obj t)) (mergeSchemas rec target source) :=
  (finishes_mergeProperties hrec ht hs).bind fun _ h₁ =>
    (Finishes.lift_ok (mergeRequired_ne_recursionError _ _)).bind fun _ h₂ =>
      (Finishes.lift_ok (mergeKeys_ne_recursionError _ _)).bind fun _ h₃ =>
        Finishes.pure (mergeKeys_expandsWithin (mergeRequired_expandsWithin h₁ hs h₂) hs h₃)

theorem finishes_mergeAll : ∀ {merged : Dict} {subs : List JValue},
    expandsWithin spec (h + 1) (.obj merged) → (∀ sub ∈ subs, expandsWithin spec h sub) →
      Finishes I (fun m => expandsWithin spec (h + 1) (.obj m)) (mergeAll rec merged subs)
  | _, [], hm, _ => Finishes.pure hm
  | _, sub :: _, hm, hs =>
    (hrec h le_rfl sub (hs sub (List.mem_cons_self _ _))).bind fun _ hr =>
      (finishes_mergeSchemas hrec hm hr.1).bind fun _ hm' =>
        finishes_mergeAll hm' fun sub h => hs sub (List.mem_cons_of_mem _ h)

/-- One step of `resolve_schema` (lines 197–256) on a node within `h + 1` finishes, and returns a
value within `h + 1`, when its recursive calls finish within the heights up to `h` and its ref
lookups on targets within `h` finish within `h + 1`. -/
theorem finishes_resolveStep
    (href : ∀ r, (∀ s, r = .str s → TargetWithin spec h s) →
      Finishes I (expandsWithin spec (h + 1) ·) (ref r))
    {x : JValue} (hx : expandsWithin spec (h + 1) x) :
    Finishes I (Bounded spec (h + 1) x) (resolveStep ref rec x) := by
  cases x with
  | obj d =>
    suffices key : Finishes I (fun v => expandsWithin spec (h + 1) v ∧ ∃ e, v = .obj e)
        (resolveStep ref rec (.obj d)) from
      key.mono fun _ ⟨hv, _, he⟩ => ⟨hv, fun _ hs => nomatch he.symm.trans hs⟩
    have overlay : ∀ skip r, expandsWithin spec (h + 1) (.obj r) →
        expandsWithin spec (h + 1) (.obj (copyExcept skip d r)) :=
      fun _ _ hr => expandsWithin_obj_of_mem (fun _ h => mem_copyExcept h) hx hr
    simp only [resolveStep]
    split
    · next r hr =>
      refine (href r fun s hs t ht =>
        (expandsWithin_obj.mp hx _ (Dict.mem_of_get? hr)).2 s (by rw [hs]) t ht).bind
        fun _ htarget => (Finishes.lift_ok (pyDict_ne_recursionError _)).bind fun _ hres =>
          Finishes.pure ⟨overlay _ _ (expandsWithin_mono (pyDict_expandsWithin htarget hres) le_rfl), _, rfl⟩
    · split
      · next _ ha =>
        have hsubs := expandsWithin_get? hx ha
        exact (Finishes.lift_ok (pyIter_ne_recursionError _)).bind fun _ hmem =>
          (finishes_mergeAll hrec (expandsWithin_allOfStart (expandsWithin_pos hsubs))
            (pyIter_expandsWithin hsubs hmem)).bind fun _ hm => Finishes.pure ⟨overlay _ _ hm, _, rfl⟩
      · split
        · next ho =>
          have hpos : 0 < h := by
            obtain ⟨v, hv⟩ : ∃ v, Dict.get? d "oneOf" = some v ∨ Dict.get? d "anyOf" = some v := by
              simp only [Bool.or_eq_true, Dict.contains, Option.isSome_iff_exists] at ho
              rcases ho with ⟨v, hv⟩ | ⟨v, hv⟩
              exacts [⟨v, .inl hv⟩, ⟨v, .inr hv⟩]
            exact expandsWithin_pos (hv.elim (expandsWithin_get? hx) (expandsWithin_get? hx))
          refine (Finishes.lift_ok (oneOfOptions_ne_recursionError _)).bind fun opts hopts => ?_
          split
          · next opt _ =>
            exact (hrec h le_rfl opt (oneOfOptions_expandsWithin hx hpos hopts opt
              (List.mem_cons_self _ _))).bind fun _ hres =>
                (Finishes.lift_ok (pyDict_ne_recursionError _)).bind fun _ hd =>
                  Finishes.pure ⟨expandsWithin_obj_set (by decide)
                    (expandsWithin_mono (pyDict_expandsWithin hres.1 hd) (Nat.le_succ h))
                    (expandsWithin_of_leaf rfl rfl hpos), _, rfl⟩
          · exact Finishes.pure ⟨expandsWithin_obj.mpr fun kv hkv => by
              simp only [List.mem_cons, List.mem_singleton, List.not_mem_nil, or_false] at hkv
              rcases hkv with rfl | rfl
              · exact entryWithin_of_ne (by decide) (expandsWithin_str _ hpos)
              · exact entryWithin_of_ne (by decide) (expandsWithin_of_leaf rfl rfl hpos), _, rfl⟩
        · exact finishes_resolveLeaf hrec hx
  | _ => exact Finishes.pure ⟨hx, fun _ h => h⟩

end Step

/-! ## Both resolvers finish within the height of what they resolve -/

theorem finishes_resolveTarget {σ : Type} {I : σ → Prop} {rec : JValue → ResolveM σ JValue} {h : Nat}
    (hrec : ∀ y, expandsWithin spec h y → Finishes I (Bounded spec h y) (rec y)) {r : JValue}
    (hr : ∀ s, r = .str s → TargetWithin spec h s) :
    Finishes I (expandsWithin spec (h + 1) ·) (resolveTarget spec rec r) := by
  unfold resolveTarget
  split
  · next s =>
    split
    · next t ht => exact (hrec t (hr s rfl t ht)).mono fun _ hv => expandsWithin_mono hv.1 (Nat.le_succ h)
    · exact Finishes.pure (expandsWithin_obj_nil (Nat.succ_pos h))
  · exact Finishes.throw nofun

/-- The cache-free resolver with fuel `n` finishes on every value within a height up to `n`. -/
theorem finishes_resolveFree : ∀ n h, h ≤ n → ∀ y, expandsWithin spec h y →
    Finishes (fun _ : Unit => True) (Bounded spec h y) (resolveFree spec n y)
  | 0, _, hh, _, hy => absurd (expandsWithin_pos hy) (by omega)
  | _ + 1, 0, _, _, hy => absurd (expandsWithin_pos hy) (lt_irrefl 0)
  | n + 1, h + 1, hh, _, hy =>
    finishes_resolveStep (fun h' hh' => finishes_resolveFree n h' (by omega))
      (fun _ hr => finishes_resolveTarget (finishes_resolveFree n h (by omega)) hr) hy

/-- A cache-free resolution stays within the height of the value it resolves. -/
theorem FreeRes.expandsWithin {x v : JValue} {h : Nat} (hv : FreeRes spec x v) (hx : expandsWithin spec h x) :
    expandsWithin spec h v :=
  let ⟨n, hn⟩ := hv
  ((finishes_resolveFree (max n h) h (le_max_right n h) x hx () trivial).2 v ()
    (resolveFree_mono hn (le_max_left n h))).2.1

end HadrianConformance
