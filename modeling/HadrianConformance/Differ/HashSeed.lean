import HadrianConformance.Differ.Policy
import HadrianConformance.Differ.Symmetry
import Mathlib.Data.List.Perm.Basic

/-!
# The differ under any hash seed

The loop of line 654 of `_compare_schemas` (`scripts/openapi-conformance.py:587–698`) walks
`set(openai_props.keys()) & set(hadrian_props.keys())`, in an order that `PYTHONHASHSEED`
decides (`HashOrder`). Every other loop of the walk follows the documents. So under any two
seeds the walk returns alike, and what it returns differs only in order: each level's common
fields are the same members in another order, and each field's notes are reordered in turn.
-/

namespace HadrianConformance

/-! ### Loops over reordered elements -/

/-- A loop returns exactly when every element's step returns, its results one per element. -/
theorem mapM_eq_ok_iff_forall₂ {α β : Type} {f : α → Py β} {xs : List α} {ys : List β} :
    xs.mapM f = .ok ys ↔ List.Forall₂ (fun a b => f a = .ok b) xs ys := by
  induction xs generalizing ys with
  | nil => exact ⟨fun h => by cases h; exact .nil, by rintro ⟨⟩; rfl⟩
  | cons x xs ih =>
    simp only [List.mapM_cons, bind_eq_ok, List.forall₂_cons_left_iff, ← ih]
    constructor
    · rintro ⟨b, hb, bs, hbs, h⟩
      cases h
      exact ⟨b, bs, hb, hbs, rfl⟩
    · rintro ⟨b, bs, hb, hbs, rfl⟩
      exact ⟨b, hb, bs, hbs, rfl⟩

/-- Results related one by one to the results of a first relation, through a second. -/
theorem forall₂_exists_comp {α β γ : Type} {R : α → β → Prop} {S : α → γ → Prop}
    {T : β → γ → Prop} {xs : List α} {ys : List β} (h : List.Forall₂ R xs ys)
    (hRS : ∀ a b, R a b → ∃ c, S a c ∧ T b c) :
    ∃ zs, List.Forall₂ S xs zs ∧ List.Forall₂ T ys zs := by
  induction h with
  | nil => exact ⟨[], .nil, .nil⟩
  | cons hab _ ih =>
    obtain ⟨c, hs, ht⟩ := hRS _ _ hab
    obtain ⟨zs, hzs, htzs⟩ := ih
    exact ⟨c :: zs, .cons hs hzs, .cons ht htzs⟩

/-- A loop over a reordering of the elements, each step's result replaced by a reordering of
it, returns too, and the concatenation of its results is a reordering of the first. -/
theorem mapM_flatten_perm {α β : Type} {f₁ : α → Py (List β)} (f₂ : α → Py (List β))
    {xs₁ xs₂ : List α} {ys₁ : List (List β)} (hxs : xs₁.Perm xs₂) (h : xs₁.mapM f₁ = .ok ys₁)
    (hf : ∀ a b₁, f₁ a = .ok b₁ → ∃ b₂, f₂ a = .ok b₂ ∧ b₁.Perm b₂) :
    ∃ ys₂, xs₂.mapM f₂ = .ok ys₂ ∧ ys₁.flatten.Perm ys₂.flatten := by
  obtain ⟨ys, hys, hperm⟩ := List.perm_comp_forall₂ hxs.symm (mapM_eq_ok_iff_forall₂.mp h)
  obtain ⟨ys₂, hys₂, hpw⟩ := forall₂_exists_comp hys hf
  exact ⟨ys₂, mapM_eq_ok_iff_forall₂.mpr hys₂, hperm.symm.flatten.trans (List.Perm.flatten_congr hpw)⟩

/-- Two seeds' orders of a set intersection have the same members, each once. -/
theorem HashOrder.inter_perm (ho₁ ho₂ : HashOrder) (a b : List String) :
    (ho₁.inter a b).Perm (ho₂.inter a b) :=
  (List.perm_ext_iff_of_nodup (ho₁.nodup_inter a b) (ho₂.nodup_inter a b)).mpr fun k => by
    rw [ho₁.mem_inter, ho₂.mem_inter]

/-- Another seed's order: the keys of `b` that `a` has, in the order of `b`. -/
def HashOrder.byHadrian : HashOrder where
  inter a b := (b.filter (· ∈ a)).dedup
  mem_inter a b k := by simp [and_comm]
  nodup_inter a b := List.nodup_dedup _

example : HashOrder.byHadrian.inter ["a", "b"] ["b", "c", "a"] = ["b", "a"] := by decide

/-! ### One level of the walk -/

theorem Collector.notes_concat (l : List (List DiffNote)) : Collector.notes.concat l = l.flatten := by
  induction l with
  | nil => rfl
  | cons a l ih => exact congrArg (a ++ ·) ih

variable {ho : HashOrder} {M : Type} {col : Collector M}

/-- The walk of the common field `name`, when the schema's `properties` are `openaiItems`:
a `KeyError` unless both sides have the field. -/
theorem walkAt_obj {openaiSchema openaiItems hadrianItems : Dict} {name : String}
    {openaiRequired hadrianRequired : List JValue} {context : String}
    (hp : (Dict.get? openaiSchema "properties").getD (.obj []) = .obj openaiItems) :
    walkAt ho col openaiSchema name (.obj hadrianItems) openaiRequired hadrianRequired context =
      match Dict.get? openaiItems name, Dict.get? hadrianItems name with
      | some openaiField, some hadrianField =>
        col.common (schemaWalk ho col openaiField hadrianField (context ++ "." ++ name)) openaiField
          hadrianField openaiRequired hadrianRequired context name
      | _, _ => throw .keyError := by
  rw [walkAt_eq]
  cases hprops : Dict.get? openaiSchema "properties" with
  | none =>
    rw [hprops] at hp
    cases hp
    rfl
  | some props =>
    rw [hprops] at hp
    cases hp
    simp only [walkIn]
    rw [walkOf_eq]
    cases Dict.get? openaiItems name <;> cases hh : Dict.get? hadrianItems name <;>
      simp [pyIndex_obj, hh, throw, throwThe, MonadExceptOf.throw]

/-- A walk of a common field that returned: both sides have the field. -/
theorem walkAt_obj_eq_ok {openaiSchema openaiItems hadrianItems : Dict} {name : String}
    {openaiRequired hadrianRequired : List JValue} {context : String} {r : M}
    (hp : (Dict.get? openaiSchema "properties").getD (.obj []) = .obj openaiItems)
    (h : walkAt ho col openaiSchema name (.obj hadrianItems) openaiRequired hadrianRequired context =
      .ok r) :
    ∃ openaiField hadrianField, Dict.get? openaiItems name = some openaiField ∧
      Dict.get? hadrianItems name = some hadrianField ∧
      col.common (schemaWalk ho col openaiField hadrianField (context ++ "." ++ name)) openaiField
        hadrianField openaiRequired hadrianRequired context name = .ok r := by
  rw [walkAt_obj hp] at h
  split at h
  · exact ⟨_, _, ‹_›, ‹_›, h⟩
  · cases h

variable {ho₁ ho₂ : HashOrder}

/-- A common field's notes, the nested walk's notes reordered, are reordered. -/
theorem commonNote_perm {nested₁ nested₂ : Py (List DiffNote)} {openaiField hadrianField : JValue}
    {openaiRequired hadrianRequired : List JValue} {context name : String} {r₁ : List DiffNote}
    (h : commonNote nested₁ openaiField hadrianField openaiRequired hadrianRequired context name =
      .ok r₁)
    (hnested : ∀ m₁, nested₁ = .ok m₁ → ∃ m₂, nested₂ = .ok m₂ ∧ m₁.Perm m₂) :
    ∃ r₂, commonNote nested₂ openaiField hadrianField openaiRequired hadrianRequired context name =
      .ok r₂ ∧ r₁.Perm r₂ := by
  obtain ⟨openaiType, hot, h⟩ := bind_eq_ok.mp h
  obtain ⟨hadrianType, hht, h⟩ := bind_eq_ok.mp h
  obtain ⟨b, hb, h⟩ := bind_eq_ok.mp h
  cases b with
  | false =>
    refine ⟨r₁, ?_, .refl _⟩
    simpa only [commonNote, hot, hht, hb, ok_bind] using h
  | true =>
    obtain ⟨m₁, hm₁, h⟩ := bind_eq_ok.mp h
    obtain ⟨m₂, hm₂, hperm⟩ := hnested m₁ hm₁
    cases h
    refine ⟨_, ?_, hperm.append_left _⟩
    simp only [commonNote, hot, hht, hb, hm₂, ok_bind, if_true]
    rfl

/-- One level of the walk under two seeds, given that the nested walks return alike. -/
theorem schemaNotes_hashOrder_step {openaiSchema : Dict} {hadrianSchema : JValue} {context : String}
    {notes₁ : List DiffNote}
    (h : schemaNotes ho₁ (.obj openaiSchema) hadrianSchema context = .ok notes₁)
    (hnested : ∀ openaiField hadrianField context' m₁,
      schemaNotes ho₁ openaiField hadrianField context' = .ok m₁ →
      sizeOf openaiField < sizeOf (JValue.obj openaiSchema) →
      ∃ m₂, schemaNotes ho₂ openaiField hadrianField context' = .ok m₂ ∧ m₁.Perm m₂) :
    ∃ notes₂, schemaNotes ho₂ (.obj openaiSchema) hadrianSchema context = .ok notes₂ ∧
      notes₁.Perm notes₂ := by
  unfold schemaNotes at h ⊢
  rw [schemaWalk] at h ⊢
  obtain ⟨hadrianProps, hhp, h⟩ := bind_eq_ok.mp h
  obtain ⟨openaiRequired, hor, h⟩ := bind_eq_ok.mp h
  obtain ⟨hadrianReq, hhr, h⟩ := bind_eq_ok.mp h
  obtain ⟨hadrianRequired, hhreq, h⟩ := bind_eq_ok.mp h
  obtain ⟨openaiItems, hoi, h⟩ := bind_eq_ok.mp h
  obtain ⟨missing, hm, h⟩ := bind_eq_ok.mp h
  obtain ⟨hadrianItems, hhi, h⟩ := bind_eq_ok.mp h
  obtain ⟨extension, he, h⟩ := bind_eq_ok.mp h
  obtain ⟨common, hc, h⟩ := bind_eq_ok.mp h
  cases h
  have hop := pyItems_eq_ok hoi
  obtain rfl := pyItems_eq_ok hhi
  obtain ⟨common₂, hc₂, hperm⟩ := mapM_flatten_perm (fun name =>
    walkAt ho₂ Collector.notes openaiSchema name (.obj hadrianItems) openaiRequired hadrianRequired
      context) (HashOrder.inter_perm ho₁ ho₂ _ _) hc
    fun name rc₁ hrc₁ => by
      obtain ⟨openaiField, hadrianField, hof, hhf, hrc⟩ := walkAt_obj_eq_ok hop hrc₁
      dsimp only
      rw [walkAt_obj hop, hof, hhf]
      exact commonNote_perm hrc fun m₁ hm₁ =>
        hnested openaiField hadrianField _ m₁ hm₁ (sizeOf_lt_of_properties hop hof)
  refine ⟨missing ++ extension ++ common₂.flatten, ?_, ?_⟩
  · simp only [hhp, hor, hhr, hhreq, hoi, hm, hhi, he, hc₂, ok_bind, Collector.notes_concat]
    rfl
  · show (missing ++ extension ++ Collector.notes.concat common).Perm _
    rw [Collector.notes_concat]
    exact hperm.append_left _

/-- The differ under any two hash seeds: one returns exactly when the other does, with the same
notes, reordered. -/
theorem schemaNotes_hashOrder (ho₁ ho₂ : HashOrder) (openaiSchema hadrianSchema : JValue)
    (context : String) (notes₁ : List DiffNote)
    (h : schemaNotes ho₁ openaiSchema hadrianSchema context = .ok notes₁) :
    ∃ notes₂, schemaNotes ho₂ openaiSchema hadrianSchema context = .ok notes₂ ∧
      notes₁.Perm notes₂ := by
  cases openaiSchema with
  | obj openaiSchema =>
    exact schemaNotes_hashOrder_step h fun openaiField hadrianField context' m₁ hm hlt =>
      schemaNotes_hashOrder ho₁ ho₂ openaiField hadrianField context' m₁ hm
  | _ => cases h
termination_by sizeOf openaiSchema
decreasing_by subst_vars; exact hlt

end HadrianConformance
