import HadrianConformance.Checker.Outcome
import HadrianConformance.Differ.HashSeed

/-!
# The report under any hash seed

The only part of `check_conformance` (`scripts/openapi-conformance.py:362–452`) that
`PYTHONHASHSEED` decides is the order in which the differ walks the common fields of a level
(`Differ/HashSeed`). Under any two seeds a check from the same caches returns exactly when the
other does and ends with the same caches. The two reports are the same up to order: the same
header, counts and lists of paths, the same entries of `endpoints_with_diffs` in the same order,
each body's differences reordered, and the violations reordered. The design of
`Checker/Outcome` carries the relation from the differ to the report, one stage at a time.
-/

namespace HadrianConformance

/-! ### Two runs that start and end alike -/

section Runs

variable {σ α β γ δ : Type}

/-- From every state where the first computation returns, the second returns too, in the same
state, with a related result. -/
def RunsAlike (R : α → β → Prop) (o₁ : StateT σ Py α) (o₂ : StateT σ Py β) : Prop :=
  ∀ s a s', o₁ s = .ok (a, s') → ∃ b, o₂ s = .ok (b, s') ∧ R a b

theorem RunsAlike.refl (o : StateT σ Py α) : RunsAlike Eq o o :=
  fun _ a _ h => ⟨a, h, rfl⟩

theorem RunsAlike.pure {R : α → β → Prop} {a : α} {b : β} (h : R a b) :
    RunsAlike R (Pure.pure a : StateT σ Py α) (Pure.pure b) := by
  intro s a' s' ha
  cases ha
  exact ⟨b, rfl, h⟩

theorem RunsAlike.bind {R : α → β → Prop} {S : γ → δ → Prop} {o₁ : StateT σ Py α}
    {o₂ : StateT σ Py β} {k₁ : α → StateT σ Py γ} {k₂ : β → StateT σ Py δ} (h : RunsAlike R o₁ o₂)
    (hk : ∀ a b, R a b → RunsAlike S (k₁ a) (k₂ b)) : RunsAlike S (o₁ >>= k₁) (o₂ >>= k₂) := by
  intro s c s'' hc
  obtain ⟨a, s', ha, hc⟩ := ResolveM.bind_eq_ok.mp hc
  obtain ⟨b, hb, hab⟩ := h s a s' ha
  obtain ⟨d, hd, hcd⟩ := hk a b hab s' c s'' hc
  exact ⟨d, ResolveM.bind_eq_ok.mpr ⟨b, s', hb, hd⟩, hcd⟩

/-- The same step, followed by continuations that run alike on each of its results. -/
theorem RunsAlike.bind_same {S : γ → δ → Prop} {o : StateT σ Py α} {k₁ : α → StateT σ Py γ}
    {k₂ : α → StateT σ Py δ} (hk : ∀ a, RunsAlike S (k₁ a) (k₂ a)) :
    RunsAlike S (o >>= k₁) (o >>= k₂) :=
  (RunsAlike.refl o).bind fun a _ hab => hab ▸ hk a

/-- Two stateless steps, the second returning whenever the first does. -/
theorem RunsAlike.lift {R : α → β → Prop} {x₁ : Py α} {x₂ : Py β}
    (h : ∀ a, x₁ = .ok a → ∃ b, x₂ = .ok b ∧ R a b) :
    RunsAlike R (monadLift x₁ : StateT σ Py α) (monadLift x₂) := by
  intro s a s' ha
  obtain ⟨hx, rfl⟩ := ResolveM.lift_eq_ok.mp ha
  obtain ⟨b, hb, hab⟩ := h a hx
  exact ⟨b, ResolveM.lift_eq_ok.mpr ⟨hb, rfl⟩, hab⟩

theorem RunsAlike.mapM {R : β → γ → Prop} {f₁ : α → StateT σ Py β} {f₂ : α → StateT σ Py γ}
    (hf : ∀ a, RunsAlike R (f₁ a) (f₂ a)) :
    ∀ l : List α, RunsAlike (List.Forall₂ R) (l.mapM f₁) (l.mapM f₂)
  | [] => RunsAlike.pure .nil
  | a :: l => by
    simp only [List.mapM_cons]
    exact (hf a).bind fun b c hbc => (RunsAlike.mapM hf l).bind fun bs cs hbcs =>
      RunsAlike.pure (.cons hbc hbcs)

end Runs

/-! ### Reports the same up to order -/

/-- The notes of one endpoint, each body's notes reordered. -/
def EndpointNotes.Equiv (notes₁ notes₂ : EndpointNotes) : Prop :=
  notes₁.request.Perm notes₂.request ∧ notes₁.response.Perm notes₂.response ∧
    notes₁.params = notes₂.params

/-- An entry of `endpoints_with_diffs`, each body's differences reordered. -/
def EndpointDiff.Equiv (diff₁ diff₂ : EndpointDiff) : Prop :=
  diff₁.path = diff₂.path ∧ diff₁.method = diff₂.method ∧
    diff₁.requestDiffs.Perm diff₂.requestDiffs ∧ diff₁.responseDiffs.Perm diff₂.responseDiffs ∧
    diff₁.paramDiffs = diff₂.paramDiffs ∧ diff₁.missingInHadrian = diff₂.missingInHadrian ∧
    diff₁.hadrianExtension = diff₂.hadrianExtension

/-- The same visit, a compared endpoint's notes reordered. -/
inductive Visit.Equiv : Visit → Visit → Prop
  | outOfScope (path : String) : Visit.Equiv (.outOfScope path) (.outOfScope path)
  | missing (path methodUpper : String) :
      Visit.Equiv (.missing path methodUpper) (.missing path methodUpper)
  | compared (path methodUpper : String) {notes₁ notes₂ : EndpointNotes} :
      notes₁.Equiv notes₂ →
      Visit.Equiv (.compared path methodUpper notes₁) (.compared path methodUpper notes₂)

/-- The same report up to order: the header, the counts and the lists of paths alike, the
entries one by one, and the violations reordered. -/
structure ConformanceReport.Equiv (report₁ report₂ : ConformanceReport) : Prop where
  openaiVersion : report₁.openaiVersion = report₂.openaiVersion
  hadrianVersion : report₁.hadrianVersion = report₂.hadrianVersion
  totalOpenaiEndpoints : report₁.totalOpenaiEndpoints = report₂.totalOpenaiEndpoints
  totalHadrianEndpoints : report₁.totalHadrianEndpoints = report₂.totalHadrianEndpoints
  endpointsChecked : report₁.endpointsChecked = report₂.endpointsChecked
  fullyConformant : report₁.fullyConformant = report₂.fullyConformant
  endpointsWithDiffs : List.Forall₂ EndpointDiff.Equiv report₁.endpointsWithDiffs
    report₂.endpointsWithDiffs
  outOfScopeEndpoints : report₁.outOfScopeEndpoints = report₂.outOfScopeEndpoints
  hadrianOnlyEndpoints : report₁.hadrianOnlyEndpoints = report₂.hadrianOnlyEndpoints
  violations : report₁.violations.Perm report₂.violations

theorem EndpointDiff.Equiv.refl (diff : EndpointDiff) : diff.Equiv diff :=
  ⟨rfl, rfl, .refl _, .refl _, rfl, rfl, rfl⟩

theorem EndpointDiff.Equiv.hasDiffs {diff₁ diff₂ : EndpointDiff} (h : diff₁.Equiv diff₂) :
    diff₁.hasDiffs = diff₂.hasDiffs := by
  obtain ⟨-, -, hreq, hresp, hparams, -, -⟩ := h
  simp only [EndpointDiff.hasDiffs, hreq.isEmpty_eq, hresp.isEmpty_eq, hparams]

theorem EndpointNotes.Equiv.toDiff {notes₁ notes₂ : EndpointNotes} (h : notes₁.Equiv notes₂)
    (path methodUpper : String) : (notes₁.toDiff path methodUpper).Equiv (notes₂.toDiff path methodUpper) :=
  ⟨rfl, rfl, h.1.map _, h.2.1.map _, congrArg (List.map _) h.2.2, rfl, rfl⟩

theorem EndpointNotes.Equiv.violations {notes₁ notes₂ : EndpointNotes} (h : notes₁.Equiv notes₂)
    (path methodUpper : String) :
    (notes₁.violations path methodUpper).Perm (notes₂.violations path methodUpper) := by
  unfold EndpointNotes.violations
  rw [h.2.2]
  exact ((h.1.filterMap _).append (h.2.1.filterMap _)).append (.refl _)

namespace Visit.Equiv

variable {visit₁ visit₂ : Visit}

theorem isPair (h : visit₁.Equiv visit₂) : visit₁.isPair = visit₂.isPair := by
  cases h <;> rfl

theorem conformant (h : visit₁.Equiv visit₂) : visit₁.conformant = visit₂.conformant := by
  cases h with
  | compared path methodUpper hn => exact congrArg (!·) ((hn.toDiff path methodUpper).hasDiffs)
  | _ => rfl

theorem entry (h : visit₁.Equiv visit₂) : Option.Rel EndpointDiff.Equiv visit₁.entry visit₂.entry := by
  cases h with
  | outOfScope => exact .none
  | missing => exact .some (EndpointDiff.Equiv.refl _)
  | compared path methodUpper hn =>
    have hd := hn.toDiff path methodUpper
    simp only [Visit.entry, hd.hasDiffs]
    split
    · exact .some hd
    · exact .none

theorem outOfScopePath (h : visit₁.Equiv visit₂) : visit₁.outOfScopePath = visit₂.outOfScopePath := by
  cases h <;> rfl

theorem violations (h : visit₁.Equiv visit₂) : visit₁.violations.Perm visit₂.violations := by
  cases h with
  | compared path methodUpper hn => exact hn.violations path methodUpper
  | _ => exact .refl _

end Visit.Equiv

section Lists

variable {α β γ : Type} {R : α → β → Prop} {l₁ : List α} {l₂ : List β}

theorem forall₂_countP_eq {p : α → Bool} {q : β → Bool} (h : List.Forall₂ R l₁ l₂)
    (hpq : ∀ a b, R a b → p a = q b) : l₁.countP p = l₂.countP q := by
  induction h with
  | nil => rfl
  | cons hab _ ih => simp only [List.countP_cons, ih, hpq _ _ hab]

theorem forall₂_filterMap_eq {f : α → Option γ} {g : β → Option γ} (h : List.Forall₂ R l₁ l₂)
    (hfg : ∀ a b, R a b → f a = g b) : l₁.filterMap f = l₂.filterMap g := by
  induction h with
  | nil => rfl
  | cons hab _ ih => simp only [List.filterMap_cons, ih, hfg _ _ hab]

theorem forall₂_flatMap_perm {f : α → List γ} {g : β → List γ} (h : List.Forall₂ R l₁ l₂)
    (hfg : ∀ a b, R a b → (f a).Perm (g b)) : (l₁.flatMap f).Perm (l₂.flatMap g) := by
  induction h with
  | nil => exact .nil
  | cons hab _ ih => exact (hfg _ _ hab).append ih

end Lists

/-! ### The design's stages under two seeds -/

section Stages

variable {σ : Type} (ho₁ ho₂ : HashOrder) (resolveOpenai resolveHadrian : JValue → StateT σ Py JValue)

theorem RunsAlike.bodyNotes (openaiBody hadrianBody : JValue) (context : String) :
    RunsAlike List.Perm (bodyNotes ho₁ resolveOpenai resolveHadrian openaiBody hadrianBody context)
      (bodyNotes ho₂ resolveOpenai resolveHadrian openaiBody hadrianBody context) := by
  unfold HadrianConformance.bodyNotes
  split_ifs
  · exact RunsAlike.bind_same fun _ => RunsAlike.bind_same fun _ =>
      RunsAlike.lift fun notes h => schemaNotes_hashOrder ho₁ ho₂ _ _ _ notes h
  · exact RunsAlike.pure (.refl _)

theorem RunsAlike.endpointNotes (path : String) (openaiOp hadrianOp : JValue) :
    RunsAlike EndpointNotes.Equiv (endpointNotes ho₁ resolveOpenai resolveHadrian path openaiOp hadrianOp)
      (endpointNotes ho₂ resolveOpenai resolveHadrian path openaiOp hadrianOp) := by
  unfold HadrianConformance.endpointNotes
  exact RunsAlike.bind_same fun _ => RunsAlike.bind_same fun _ =>
    (RunsAlike.bodyNotes ho₁ ho₂ _ _ _ _ _).bind fun _ _ hrequest =>
    RunsAlike.bind_same fun _ => RunsAlike.bind_same fun _ =>
    (RunsAlike.bodyNotes ho₁ ho₂ _ _ _ _ _).bind fun _ _ hresponse =>
    RunsAlike.bind_same fun _ => RunsAlike.bind_same fun _ =>
    RunsAlike.bind_same fun _ => RunsAlike.bind_same fun _ =>
    RunsAlike.pure ⟨hrequest, hresponse, rfl⟩

theorem RunsAlike.methodVisits (openaiPath : String) (openaiMethods hadrianMethods : JValue)
    (method : String) :
    RunsAlike (List.Forall₂ Visit.Equiv)
      (methodVisits ho₁ resolveOpenai resolveHadrian openaiPath openaiMethods hadrianMethods method)
      (methodVisits ho₂ resolveOpenai resolveHadrian openaiPath openaiMethods hadrianMethods method) := by
  unfold HadrianConformance.methodVisits
  refine RunsAlike.bind_same fun _ => ?_
  split_ifs
  · refine RunsAlike.bind_same fun _ => ?_
    split_ifs
    · exact RunsAlike.bind_same fun _ => RunsAlike.bind_same fun _ =>
        (RunsAlike.endpointNotes ho₁ ho₂ _ _ _ _ _).bind fun _ _ hnotes =>
        RunsAlike.pure (.cons (.compared _ _ hnotes) .nil)
    · exact RunsAlike.pure (.cons (.missing _ _) .nil)
  · exact RunsAlike.pure .nil

theorem RunsAlike.pathVisits (endpointFilter : Option String) (hadrianPaths : JValue)
    (entry : String × JValue) :
    RunsAlike (List.Forall₂ Visit.Equiv)
      (pathVisits ho₁ resolveOpenai resolveHadrian endpointFilter hadrianPaths entry)
      (pathVisits ho₂ resolveOpenai resolveHadrian endpointFilter hadrianPaths entry) := by
  unfold HadrianConformance.pathVisits
  split_ifs
  · exact RunsAlike.pure (.cons (.outOfScope _) .nil)
  · exact RunsAlike.pure .nil
  · exact RunsAlike.bind_same fun _ =>
        (RunsAlike.mapM (RunsAlike.methodVisits ho₁ ho₂ _ _ _ _ _) _).bind fun _ _ hvisits =>
        RunsAlike.pure (List.rel_flatten hvisits)

theorem RunsAlike.designReport (openaiSpec hadrianSpec : JValue) (endpointFilter : Option String) :
    RunsAlike ConformanceReport.Equiv
      (designReport ho₁ resolveOpenai resolveHadrian openaiSpec hadrianSpec endpointFilter)
      (designReport ho₂ resolveOpenai resolveHadrian openaiSpec hadrianSpec endpointFilter) := by
  unfold HadrianConformance.designReport HadrianConformance.loopVisits
  refine RunsAlike.bind_same fun _ =>
    ((RunsAlike.mapM (RunsAlike.pathVisits ho₁ ho₂ _ _ _ _) _).bind fun _ _ hvisits =>
      RunsAlike.pure (List.rel_flatten hvisits)).bind fun visits₁ visits₂ hvisits =>
    RunsAlike.bind_same fun _ => RunsAlike.pure ?_
  exact ⟨rfl, rfl, rfl, rfl, forall₂_countP_eq hvisits fun _ _ h => h.isPair,
    forall₂_countP_eq hvisits fun _ _ h => h.conformant,
    List.rel_filterMap (fun _ _ h => Visit.Equiv.entry h) hvisits,
    forall₂_filterMap_eq hvisits fun _ _ h => h.outOfScopePath, rfl,
    forall₂_flatMap_perm hvisits fun _ _ h => h.violations⟩

end Stages

/-- `check_conformance` under any two hash seeds: from the same caches, one check returns
exactly when the other does, with the same caches after it and the same report up to order. -/
theorem checkConformance_hashOrder (ho₁ ho₂ : HashOrder) (n : Nat) (openaiSpec hadrianSpec : JValue)
    (endpointFilter : Option String) (caches caches' : Caches) (report₁ : ConformanceReport)
    (h : checkConformance ho₁ n openaiSpec hadrianSpec endpointFilter caches = .ok (report₁, caches')) :
    ∃ report₂, checkConformance ho₂ n openaiSpec hadrianSpec endpointFilter caches =
      .ok (report₂, caches') ∧ report₁.Equiv report₂ := by
  rw [checkConformance_eq] at h ⊢
  exact RunsAlike.designReport ho₁ ho₂ _ _ _ _ _ caches report₁ caches' h

theorem checkConformance_hashOrder_demo :
    ∃ report₂, checkConformance HashOrder.byHadrian 4 demoOpenai demoHadrian none ⟨[], []⟩ =
      .ok (report₂, ⟨[], []⟩) ∧ demoReport.Equiv report₂ :=
  checkConformance_hashOrder HashOrder.inOrder HashOrder.byHadrian 4 demoOpenai demoHadrian none
    ⟨[], []⟩ ⟨[], []⟩ demoReport checkConformance_demoReport

end HadrianConformance
