import HadrianConformance.Checker.Independence
import HadrianConformance.Differ.Meaning

/-!
# An endpoint compared with itself

`_compare_endpoint` (`scripts/openapi-conformance.py:493–585`), given one operation of one
document on both sides, reports nothing. Its request and response bodies resolve alike under the
two resolvers (lines 170–195), whatever each cache holds, since a run from reachable caches
computes the cache-free resolution (`Checker/Independence`). `_compare_schemas` (lines 587–698)
finds no difference between a resolved schema and itself at any depth. And every query parameter
of one side is a key of the other side's parameter dict (lines 540–583), the comprehension of
lines 540–541 admitting only hashable names, each equal to itself.
-/

namespace HadrianConformance

/-! ### Query parameters -/

theorem pyKeyEq_self {k : JValue} (hk : pyHashable k = true) : pyKeyEq k k = true := by
  cases k <;> simp_all [pyKeyEq, pyHashable]

theorem keySet_hashable {d : List (JValue × JValue)} {k v : JValue} (hk : pyHashable k = true)
    (hd : ∀ kv ∈ d, pyHashable kv.1 = true) : ∀ kv ∈ keySet d k v, pyHashable kv.1 = true := by
  induction d with
  | nil => simpa [keySet] using hk
  | cons kv d ih =>
    obtain ⟨k', v'⟩ := kv
    rw [List.forall_mem_cons] at hd
    simp only [keySet]
    split
    · exact List.forall_mem_cons.mpr hd
    · exact List.forall_mem_cons.mpr ⟨hd.1, ih hd.2⟩

/-- A property that every step of a loop keeps holds of the loop's result. -/
theorem foldlM_invariant {α β : Type} {f : β → α → Py β} (P : β → Prop)
    (hf : ∀ b a b', P b → f b a = .ok b' → P b') :
    ∀ {xs : List α} {b b' : β}, P b → xs.foldlM f b = .ok b' → P b'
  | [], _, _, hb, h => by cases h; exact hb
  | a :: xs, b, _, hb, h => by
    rw [List.foldlM_cons] at h
    obtain ⟨b₁, h₁, h⟩ := bind_eq_ok.mp h
    exact foldlM_invariant P hf (hf b a b₁ hb h₁) h

/-- One step of the comprehension of lines 540–541 keeps every key hashable. -/
theorem addQueryParam_hashable {acc acc' : List (JValue × JValue)} {p : JValue}
    (hacc : ∀ kv ∈ acc, pyHashable kv.1 = true) (h : addQueryParam acc p = .ok acc') :
    ∀ kv ∈ acc', pyHashable kv.1 = true := by
  obtain ⟨_, -, h⟩ := bind_eq_ok.mp h
  split at h
  · obtain ⟨_, -, h⟩ := bind_eq_ok.mp h
    split at h
    · cases h
      exact keySet_hashable ‹_› hacc
    · cases h
  · cases h
    exact hacc

/-- The comprehension of lines 540–541 keys its dict by hashable names only. -/
theorem queryParams_hashable {op : JValue} {params : List (JValue × JValue)}
    (h : queryParams op = .ok params) : ∀ kv ∈ params, pyHashable kv.1 = true := by
  obtain ⟨_, -, h⟩ := bind_eq_ok.mp h
  obtain ⟨_, -, h⟩ := bind_eq_ok.mp h
  exact foldlM_invariant _ (fun _ _ _ => addQueryParam_hashable) (by simp) h

theorem keyHas_of_mem {d : List (JValue × JValue)} (hd : ∀ kv ∈ d, pyHashable kv.1 = true)
    {k v : JValue} (hmem : (k, v) ∈ d) : keyHas d k = true :=
  List.any_eq_true.mpr ⟨(k, v), hmem, pyKeyEq_self (hd _ hmem)⟩

section Params

variable {params : List (JValue × JValue)} (hkeys : ∀ kv ∈ params, pyHashable kv.1 = true)
  {path : String} {notes : List DiffNote}
include hkeys

/-- Lines 543–562 with the OpenAI parameters as Hadrian's: no parameter is missing. -/
theorem missingParamNotes_self
    (h : collectWith [] (· ++ ·) (missingParamNote params path) params = .ok notes) : notes = [] :=
  collectWith_eq_nil rfl (fun _ _ _ hmem ha => by
    simp only [missingParamNote, keyHas_of_mem hkeys hmem] at ha
    cases ha; rfl) h

/-- Lines 564–583 with the Hadrian parameters as OpenAI's: no parameter is an extension. -/
theorem extensionParamNotes_self
    (h : collectWith [] (· ++ ·) (extensionParamNote params path) params = .ok notes) : notes = [] :=
  collectWith_eq_nil rfl (fun _ _ _ hmem ha => by
    simp only [extensionParamNote, keyHas_of_mem hkeys hmem] at ha
    cases ha; rfl) h

end Params

/-! ### Bodies -/

/-- The differ finds nothing between a resolved schema and itself, at any depth. -/
theorem schemaNotes_self (ho : HashOrder) (schema : JValue) (context : String) (notes : List DiffNote)
    (h : schemaNotes ho schema schema context = .ok notes) : notes = [] := by
  have hloc : "request" ≠ "param" := by decide
  have hcode := compareSchemas_eq ho hloc schema schema context "" ""
  rw [h, map_ok] at hcode
  cases schema with
  | obj openaiSchema =>
    have hfound := compareSchemas_self_step hcode fun field context' rn hrn hlt => by
      rw [compareSchemas_eq ho hloc] at hrn
      cases hn : schemaNotes ho field field context' with
      | error e => simp [hn] at hrn
      | ok notes' =>
        simp only [hn, map_ok, Except.ok.injEq] at hrn
        rw [← hrn, schemaNotes_self ho field context' notes' hn]
        rfl
    exact List.map_eq_nil_iff.mp (congrArg Prod.fst hfound)
  | _ => cases h
termination_by sizeOf schema
decreasing_by subst_vars; exact hlt

/-- A computation with no state run twice in a row gives one result twice. -/
theorem ResolveM.bind_twice_eq_ok {α β : Type} {x : ResolveM Unit α} {k : α → α → ResolveM Unit β}
    {b : β} (h : (x >>= fun a => x >>= fun a' => k a a') () = .ok (b, ())) :
    ∃ a, x () = .ok (a, ()) ∧ k a a () = .ok (b, ()) := by
  obtain ⟨a, ⟨⟩, ha, h⟩ := ResolveM.bind_eq_ok.mp h
  obtain ⟨a', ⟨⟩, ha', h⟩ := ResolveM.bind_eq_ok.mp h
  cases ha.symm.trans ha'
  exact ⟨a, ha, h⟩

section Free

variable {ho : HashOrder} {resolve : JValue → ResolveM Unit JValue}

/-- Lines 505–520 (or 522–537) with one body on both sides and one cache-free resolution. -/
theorem bodyNotes_self {body : JValue} {context : String} {notes : List DiffNote}
    (h : bodyNotes ho resolve resolve body body context () = .ok (notes, ())) : notes = [] := by
  unfold bodyNotes at h
  split at h
  · obtain ⟨v, -, h⟩ := ResolveM.bind_twice_eq_ok h
    exact schemaNotes_self ho v context notes (ResolveM.lift_eq_ok.mp h).1
  · cases h
    rfl

/-- `_compare_endpoint` as the differ sees it, with one operation on both sides and one
cache-free resolution: no notes at all. -/
theorem endpointNotes_self {path : String} {op : JValue} {notes : EndpointNotes}
    (h : endpointNotes ho resolve resolve path op op () = .ok (notes, ())) : notes = ⟨[], [], []⟩ := by
  unfold endpointNotes at h
  obtain ⟨_, -, h⟩ := ResolveM.bind_twice_eq_ok h
  obtain ⟨request, ⟨⟩, hrequest, h⟩ := ResolveM.bind_eq_ok.mp h
  obtain ⟨_, -, h⟩ := ResolveM.bind_twice_eq_ok h
  obtain ⟨response, ⟨⟩, hresponse, h⟩ := ResolveM.bind_eq_ok.mp h
  obtain ⟨params, hparams, h⟩ := ResolveM.bind_twice_eq_ok h
  obtain ⟨missing, ⟨⟩, hmissing, h⟩ := ResolveM.bind_eq_ok.mp h
  obtain ⟨extension, ⟨⟩, hextension, h⟩ := ResolveM.bind_eq_ok.mp h
  cases h
  have hkeys := queryParams_hashable (ResolveM.lift_eq_ok.mp hparams).1
  rw [bodyNotes_self hrequest, bodyNotes_self hresponse,
    missingParamNotes_self hkeys (ResolveM.lift_eq_ok.mp hmissing).1,
    extensionParamNotes_self hkeys (ResolveM.lift_eq_ok.mp hextension).1]
  rfl

end Free

/-! ### The endpoint -/

/-- `_compare_endpoint` given one operation of one document on both sides, from any caches the two
resolvers reach, reports no difference and no violation: its entry is a conformant one. -/
theorem compareEndpoint_self (ho : HashOrder) (spec : JValue) (n : Nat) (path method : String)
    (op : JValue) (caches caches' : Caches) (diff : EndpointDiff) (violations : List Violation)
    (hc : CachesReachable spec spec caches)
    (h : compareEndpoint ho spec spec n path method op op caches = .ok ((diff, violations), caches')) :
    diff = { path := path, method := pyUpper method } ∧ violations = [] := by
  rw [compareEndpoint_eq, ResolveM.map_apply] at h
  cases hn : endpointNotes ho (resolveOn .openai spec n) (resolveOn .hadrian spec n) path op op
      caches with
  | error e => simp [hn] at h
  | ok p =>
    obtain ⟨notes, c⟩ := p
    simp only [hn, map_ok, Except.ok.injEq, Prod.mk.injEq] at h
    obtain ⟨⟨rfl, rfl⟩, -⟩ := h
    obtain ⟨⟨⟩, -, ev⟩ := SimEv.endpointNotes ho (simEv_resolveOn_openai n) (simEv_resolveOn_hadrian n)
      path op op caches () notes c hc.cachesOK hn
    obtain ⟨m, hm⟩ := ev.exists
    rw [endpointNotes_self hm]
    exact ⟨rfl, rfl⟩

/-- A document with one component schema. -/
def petSpec : JValue := .obj [("components", .obj [("schemas", .obj [("Pet", .obj [
  ("type", .str "object"), ("required", .arr [.str "name"]),
  ("properties", .obj [("name", .obj [("type", .str "string")]),
    ("tag", .obj [("type", .str "string")])])])])])]

/-- An operation with a query parameter and a request body that is a `$ref`. -/
def petOp : JValue := .obj [
  ("parameters", .arr [.obj [("in", .str "query"), ("name", .str "limit"),
    ("schema", .obj [("type", .str "integer")])]]),
  ("requestBody", .obj [("content", .obj [("application/json", .obj [
    ("schema", .obj [("$ref", .str "#/components/schemas/Pet")])])])])]

theorem compareEndpoint_self_pet :
    ∃ result : (EndpointDiff × List Violation) × Caches,
      compareEndpoint HashOrder.inOrder petSpec petSpec 4 "/pets" "post" petOp petOp ⟨[], []⟩ =
        .ok result ∧ result.1.1 = { path := "/pets", method := pyUpper "post" } ∧ result.1.2 = [] :=
  ⟨_, rfl, compareEndpoint_self HashOrder.inOrder petSpec 4 "/pets" "post" petOp ⟨[], []⟩ _ _ _
    ⟨.init, .init⟩ rfl⟩

end HadrianConformance
