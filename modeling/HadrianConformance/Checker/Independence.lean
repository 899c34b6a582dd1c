import HadrianConformance.Checker.Outcome
import HadrianConformance.Resolver.Cache

/-!
# The report does not depend on the resolvers' caches

The only state of `check_conformance` (`scripts/openapi-conformance.py:362–452`) is the two
resolvers' `$ref` caches (lines 170–195). Every stage of the design of `Checker/Outcome` keeps
a simulation of its resolvers, so a run from correct caches computes what the cache-free
resolution computes, and the cache-free resolution, which has no state at all, computes each
endpoint's result whatever was checked before it. Comparing the runs with and without an
`endpoint_filter` (line 385) is then a matter of lists: the filtered run visits exactly the
unfiltered run's pairs of the paths that contain the filter.
-/

namespace HadrianConformance

/-! ## Simulations through the design -/

section Sim

variable {σ₁ σ₂ : Type} {R : σ₁ → σ₂ → Prop}

theorem SimEv.mapM {α β : Type} {f₁ : α → ResolveM σ₁ β} {f₂ : Nat → α → ResolveM σ₂ β}
    (hf : ∀ a, SimEv R (f₁ a) fun m => f₂ m a) :
    ∀ l : List α, SimEv R (l.mapM f₁) fun m => l.mapM (f₂ m)
  | [] => SimEv.pure []
  | a :: l => by
    simp only [List.mapM_cons]
    exact (hf a).bind fun b => (SimEv.mapM hf l).bind fun bs => SimEv.pure (b :: bs)

variable (ho : HashOrder) {openai₁ hadrian₁ : JValue → ResolveM σ₁ JValue}
  {openai₂ hadrian₂ : Nat → JValue → ResolveM σ₂ JValue}
  (hopenai : ∀ x, SimEv R (openai₁ x) fun m => openai₂ m x)
  (hhadrian : ∀ x, SimEv R (hadrian₁ x) fun m => hadrian₂ m x)
include hopenai hhadrian

theorem SimEv.bodyNotes (openaiBody hadrianBody : JValue) (context : String) :
    SimEv R (bodyNotes ho openai₁ hadrian₁ openaiBody hadrianBody context)
      fun m => bodyNotes ho (openai₂ m) (hadrian₂ m) openaiBody hadrianBody context := by
  unfold HadrianConformance.bodyNotes
  split
  · exact (hopenai _).bind fun _ => (hhadrian _).bind fun _ => SimEv.lift _
  · exact SimEv.pure _

theorem SimEv.endpointNotes (path : String) (openaiOp hadrianOp : JValue) :
    SimEv R (endpointNotes ho openai₁ hadrian₁ path openaiOp hadrianOp)
      fun m => endpointNotes ho (openai₂ m) (hadrian₂ m) path openaiOp hadrianOp := by
  unfold HadrianConformance.endpointNotes
  refine (SimEv.lift _).bind fun _ => (SimEv.lift _).bind fun _ =>
    (SimEv.bodyNotes ho hopenai hhadrian _ _ _).bind fun _ => (SimEv.lift _).bind fun _ =>
    (SimEv.lift _).bind fun _ => (SimEv.bodyNotes ho hopenai hhadrian _ _ _).bind fun _ =>
    (SimEv.lift _).bind fun _ => (SimEv.lift _).bind fun _ => (SimEv.lift _).bind fun _ =>
    (SimEv.lift _).bind fun _ => SimEv.pure _

theorem SimEv.methodVisits (openaiPath : String) (openaiMethods hadrianMethods : JValue)
    (method : String) :
    SimEv R (methodVisits ho openai₁ hadrian₁ openaiPath openaiMethods hadrianMethods method)
      fun m => methodVisits ho (openai₂ m) (hadrian₂ m) openaiPath openaiMethods hadrianMethods method := by
  unfold HadrianConformance.methodVisits
  refine (SimEv.lift _).bind fun _ => ?_
  split
  · refine (SimEv.lift _).bind fun _ => ?_
    split
    · exact (SimEv.lift _).bind fun _ => (SimEv.lift _).bind fun _ =>
        (SimEv.endpointNotes ho hopenai hhadrian _ _ _).bind fun _ => SimEv.pure _
    · exact SimEv.pure _
  · exact SimEv.pure _

theorem SimEv.pathVisits (endpointFilter : Option String) (hadrianPaths : JValue)
    (entry : String × JValue) :
    SimEv R (pathVisits ho openai₁ hadrian₁ endpointFilter hadrianPaths entry)
      fun m => pathVisits ho (openai₂ m) (hadrian₂ m) endpointFilter hadrianPaths entry := by
  unfold HadrianConformance.pathVisits
  split
  · exact SimEv.pure _
  · split
    · exact SimEv.pure _
    · exact (SimEv.lift _).bind fun _ =>
        (SimEv.mapM (SimEv.methodVisits ho hopenai hhadrian _ _ _) _).bind fun _ => SimEv.pure _

theorem SimEv.loopVisits (endpointFilter : Option String) (hadrianPaths : JValue) (openaiItems : Dict) :
    SimEv R (loopVisits ho openai₁ hadrian₁ endpointFilter hadrianPaths openaiItems)
      fun m => loopVisits ho (openai₂ m) (hadrian₂ m) endpointFilter hadrianPaths openaiItems :=
  (SimEv.mapM (SimEv.pathVisits ho hopenai hhadrian _ _) _).bind fun _ => SimEv.pure _

theorem SimEv.checkVisits (openaiSpec hadrianSpec : JValue) (endpointFilter : Option String) :
    SimEv R (checkVisits ho openai₁ hadrian₁ openaiSpec hadrianSpec endpointFilter)
      fun m => checkVisits ho (openai₂ m) (hadrian₂ m) openaiSpec hadrianSpec endpointFilter :=
  (SimEv.lift _).bind fun _ => SimEv.loopVisits ho hopenai hhadrian _ _ _

theorem SimEv.designReport (openaiSpec hadrianSpec : JValue) (endpointFilter : Option String) :
    SimEv R (designReport ho openai₁ hadrian₁ openaiSpec hadrianSpec endpointFilter)
      fun m => designReport ho (openai₂ m) (hadrian₂ m) openaiSpec hadrianSpec endpointFilter :=
  (SimEv.lift _).bind fun _ => (SimEv.loopVisits ho hopenai hhadrian _ _ _).bind fun _ =>
    (SimEv.lift _).bind fun _ => SimEv.pure _

end Sim

/-! ## The two resolvers and their cache-free resolution -/

/-- Both caches hold cache-free resolutions of their own document's refs. -/
def CachesOK (openaiSpec hadrianSpec : JValue) (caches : Caches) : Prop :=
  CacheOK openaiSpec caches.openai ∧ CacheOK hadrianSpec caches.hadrian

/-- Caches that two `OpenAPIResolver`s reach by any sequences of `resolve_schema` calls. -/
def CachesReachable (openaiSpec hadrianSpec : JValue) (caches : Caches) : Prop :=
  Reachable openaiSpec caches.openai ∧ Reachable hadrianSpec caches.hadrian

theorem CachesReachable.cachesOK {openaiSpec hadrianSpec : JValue} {caches : Caches}
    (h : CachesReachable openaiSpec hadrianSpec caches) : CachesOK openaiSpec hadrianSpec caches :=
  ⟨h.1.cacheOK, h.2.cacheOK⟩

section Resolvers

variable {openaiSpec hadrianSpec : JValue} (n : Nat)

theorem resolveOn_eq_ok {side : Side} {spec x v : JValue} {caches caches' : Caches}
    (h : resolveOn side spec n x caches = .ok (v, caches')) :
    ∃ c, resolveSchema spec n x (caches.get side) = .ok (v, c) ∧ caches' = caches.set side c := by
  obtain ⟨⟨v', c⟩, hr, h'⟩ := bind_eq_ok.mp h
  cases h'
  exact ⟨c, hr, rfl⟩

theorem simEv_resolveOn_openai (x : JValue) :
    SimEv (fun caches (_ : Unit) => CachesOK openaiSpec hadrianSpec caches)
      (resolveOn .openai openaiSpec n x) fun m => resolveFree openaiSpec m x := by
  intro caches _ v caches' hok h
  obtain ⟨c, hr, rfl⟩ := resolveOn_eq_ok n h
  obtain ⟨_, hk, ev⟩ := simEv_resolveSchema n x caches.openai () v c ⟨hok.1, Dict.Sub.nil _⟩ hr
  exact ⟨(), ⟨hk.1, hok.2⟩, ev⟩

theorem simEv_resolveOn_hadrian (x : JValue) :
    SimEv (fun caches (_ : Unit) => CachesOK openaiSpec hadrianSpec caches)
      (resolveOn .hadrian hadrianSpec n x) fun m => resolveFree hadrianSpec m x := by
  intro caches _ v caches' hok h
  obtain ⟨c, hr, rfl⟩ := resolveOn_eq_ok n h
  obtain ⟨_, hk, ev⟩ := simEv_resolveSchema n x caches.hadrian () v c ⟨hok.2, Dict.Sub.nil _⟩ hr
  exact ⟨(), ⟨hok.1, hk.1⟩, ev⟩

theorem simEv_free_openai (x : JValue) :
    SimEv (fun (_ : Unit) caches => CachesOK openaiSpec hadrianSpec caches)
      (resolveFree openaiSpec n x) fun _ => resolveOn .openai openaiSpec n x := by
  intro _ caches v _ hok h
  obtain ⟨c, hc, hr⟩ := (simEv_resolveFree n x).const hok.1 h
  exact ⟨{ caches with openai := c }, ⟨hc, hok.2⟩, Filter.Eventually.of_forall fun _ => by
    simp [resolveOn, Caches.get, Caches.set, hr, pure, Except.pure]⟩

theorem simEv_free_hadrian (x : JValue) :
    SimEv (fun (_ : Unit) caches => CachesOK openaiSpec hadrianSpec caches)
      (resolveFree hadrianSpec n x) fun _ => resolveOn .hadrian hadrianSpec n x := by
  intro _ caches v _ hok h
  obtain ⟨c, hc, hr⟩ := (simEv_resolveFree n x).const hok.2 h
  exact ⟨{ caches with hadrian := c }, ⟨hok.1, hc⟩, Filter.Eventually.of_forall fun _ => by
    simp [resolveOn, Caches.get, Caches.set, hr, pure, Except.pure]⟩

end Resolvers

/-! ## The visits of the paths that contain the filter -/

/-- A visit that the run with filter `f` makes too: an out-of-scope path, or a pair of a path
containing `f`. -/
def Visit.keep (f : String) (visit : Visit) : Bool := !visit.isPair || pathContains f visit.path

theorem filteredOut_some (f path : String) : filteredOut (some f) path = !pathContains f path := by
  by_cases hf : f = ""
  · subst hf
    cases path with
    | mk cs => cases cs <;> rfl
  · simp [filteredOut, hf]

theorem filteredOut_none (path : String) : filteredOut none path = false := rfl

theorem policy_path {path method location : String} {note : DiffNote} {violation : Violation}
    (h : policy path method location note = some violation) :
    violation.path = path ∧ violation.method = method := by
  unfold policy at h
  split at h <;> (try split at h) <;> cases h <;> exact ⟨rfl, rfl⟩

theorem Visit.violations_path (visit : Visit) :
    ∀ violation ∈ visit.violations, violation.path = visit.path ∧ visit.isPair := by
  cases visit with
  | outOfScope => simp [Visit.violations]
  | missing => simp [Visit.violations, missingEndpoint, Visit.path, Visit.isPair]
  | compared path methodUpper notes =>
    intro violation h
    simp only [Visit.violations, EndpointNotes.violations, List.mem_append, List.mem_filterMap] at h
    refine ⟨?_, rfl⟩
    rcases h with (⟨_, -, h⟩ | ⟨_, -, h⟩) | ⟨_, -, h⟩ <;> exact (policy_path h).1

theorem Visit.entry_path {visit : Visit} {diff : EndpointDiff} (h : visit.entry = some diff) :
    diff.path = visit.path ∧ visit.isPair := by
  cases visit with
  | outOfScope => cases h
  | missing => cases h; exact ⟨rfl, rfl⟩
  | compared path methodUpper notes =>
    simp only [Visit.entry] at h
    split at h
    · cases h; exact ⟨rfl, rfl⟩
    · cases h

theorem Visit.filter_entry (f : String) (visit : Visit) :
    visit.entry.filter (fun diff => pathContains f diff.path) =
      if visit.keep f then visit.entry else none := by
  cases h : visit.entry with
  | none => simp
  | some diff =>
    obtain ⟨hpath, hpair⟩ := Visit.entry_path h
    simp [Option.filter, Visit.keep, hpath, hpair]

theorem Visit.filter_violations (f : String) (visit : Visit) :
    visit.violations.filter (fun violation => pathContains f violation.path) =
      if visit.keep f then visit.violations else [] := by
  have hv := visit.violations_path
  split
  · next hk =>
    refine List.filter_eq_self.mpr fun violation hmem => ?_
    obtain ⟨hpath, hpair⟩ := hv violation hmem
    simpa [Visit.keep, hpath, hpair] using hk
  · next hk =>
    refine List.filter_eq_nil_iff.mpr fun violation hmem => ?_
    obtain ⟨hpath, hpair⟩ := hv violation hmem
    simpa [Visit.keep, hpath, hpair] using hk

theorem Visit.keep_outOfScopePath (f : String) (visit : Visit) :
    (if visit.keep f then visit.outOfScopePath else none) = visit.outOfScopePath := by
  cases visit <;> simp [Visit.keep, Visit.isPair, Visit.outOfScopePath]

theorem Visit.isPair_keep (f : String) (visit : Visit) :
    (visit.isPair && visit.keep f) = (visit.isPair && pathContains f visit.path) := by
  cases h : visit.isPair <;> simp [Visit.keep, h]

theorem Visit.conformant_keep (f : String) (visit : Visit) :
    (visit.conformant && visit.keep f) = (visit.conformant && pathContains f visit.path) := by
  cases visit <;> simp [Visit.keep, Visit.isPair, Visit.conformant]

theorem ResolveM.mapM_eq_ok {σ α β : Type} {g : α → ResolveM σ β} :
    ∀ {l : List α} {bs : List β} {s s' : σ}, (l.mapM g) s = .ok (bs, s') →
      ∀ b ∈ bs, ∃ a ∈ l, ∃ s₁ s₁', g a s₁ = .ok (b, s₁')
  | [], bs, s, s', h => by cases h; simp
  | a :: l, bs, s, s', h => by
    simp only [List.mapM_cons] at h
    obtain ⟨b, s₁, hb, h₁⟩ := ResolveM.bind_eq_ok.mp h
    obtain ⟨bs', s₂, hbs, h₂⟩ := ResolveM.bind_eq_ok.mp h₁
    cases h₂
    rintro b' (_ | ⟨_, hmem⟩)
    · exact ⟨a, List.mem_cons_self a l, s, s₁, hb⟩
    · obtain ⟨a', ha', hg⟩ := ResolveM.mapM_eq_ok hbs b' hmem
      exact ⟨a', List.mem_cons_of_mem a ha', hg⟩

section Paths

variable (ho : HashOrder) {σ : Type} {openai hadrian : JValue → ResolveM σ JValue}

/-- What the visits of one method can be: none, or the pair of the path and the method, which
the tables do not exclude (lines 395–430). -/
theorem methodVisits_eq_ok {openaiPath : String} {openaiMethods hadrianMethods : JValue}
    {method : String} {s s' : σ} {visits : List Visit}
    (h : methodVisits ho openai hadrian openaiPath openaiMethods hadrianMethods method s =
      .ok (visits, s')) :
    visits = [] ∨ isMethodOutOfScope openaiPath method = false ∧
      (visits = [.missing openaiPath (pyUpper method)] ∨
        ∃ notes, visits = [.compared openaiPath (pyUpper method) notes]) := by
  unfold methodVisits at h
  obtain ⟨_, _, -, h₁⟩ := ResolveM.bind_eq_ok.mp h
  split at h₁
  · next hcheck =>
    have hscope : isMethodOutOfScope openaiPath method = false := by
      simpa using (Bool.and_eq_true_iff.mp hcheck).2
    obtain ⟨_, _, -, h₂⟩ := ResolveM.bind_eq_ok.mp h₁
    split at h₂
    · obtain ⟨_, _, -, h₃⟩ := ResolveM.bind_eq_ok.mp h₂
      obtain ⟨_, _, -, h₄⟩ := ResolveM.bind_eq_ok.mp h₃
      obtain ⟨notes, _, -, h₅⟩ := ResolveM.bind_eq_ok.mp h₄
      cases h₅
      exact .inr ⟨hscope, .inr ⟨notes, rfl⟩⟩
    · cases h₂
      exact .inr ⟨hscope, .inl rfl⟩
  · cases h₁
    exact .inl rfl

/-- The visit of a method is a pair of its path. -/
theorem methodVisits_pairs {openaiPath : String} {openaiMethods hadrianMethods : JValue}
    {method : String} {s s' : σ} {visits : List Visit}
    (h : methodVisits ho openai hadrian openaiPath openaiMethods hadrianMethods method s =
      .ok (visits, s')) : ∀ visit ∈ visits, visit.isPair ∧ visit.path = openaiPath := by
  rcases methodVisits_eq_ok ho h with rfl | ⟨-, rfl | ⟨_, rfl⟩⟩ <;> simp [Visit.isPair, Visit.path]

/-- The visits of an in-scope path are pairs of that path. -/
theorem pathVisits_pairs {endpointFilter : Option String} {hadrianPaths : JValue}
    {entry : String × JValue} (hscope : isOutOfScope entry.1 = false) {s s' : σ} {visits : List Visit}
    (h : pathVisits ho openai hadrian endpointFilter hadrianPaths entry s = .ok (visits, s')) :
    ∀ visit ∈ visits, visit.isPair ∧ visit.path = entry.1 := by
  unfold pathVisits at h
  rw [if_neg (by simp [hscope])] at h
  split at h
  · cases h
    simp
  · obtain ⟨_, _, -, h₁⟩ := ResolveM.bind_eq_ok.mp h
    obtain ⟨visitss, _, hm, h₂⟩ := ResolveM.bind_eq_ok.mp h₁
    cases h₂
    intro visit hmem
    obtain ⟨visits, hvisits, hvisit⟩ := List.mem_flatten.mp hmem
    obtain ⟨_, -, _, _, hmethod⟩ := ResolveM.mapM_eq_ok hm visits hvisits
    exact methodVisits_pairs ho hmethod visit hvisit

/-- Line 385: the run with filter `f` makes a path's visits exactly when the path is out of
scope or contains `f`. -/
theorem pathVisits_some (f : String) (hadrianPaths : JValue) (entry : String × JValue) :
    pathVisits ho openai hadrian (some f) hadrianPaths entry =
      if isOutOfScope entry.1 || pathContains f entry.1 then
        pathVisits ho openai hadrian none hadrianPaths entry
      else pure [] := by
  unfold pathVisits
  by_cases hscope : isOutOfScope entry.1 <;> by_cases hf : pathContains f entry.1 <;>
    simp [hscope, hf, filteredOut_some, filteredOut_none]

/-- The unfiltered visits of a path that the filtered run keeps. -/
theorem filter_keep_pathVisits {f : String} {hadrianPaths : JValue} {entry : String × JValue} {s s' : σ}
    {visits : List Visit}
    (h : pathVisits ho openai hadrian none hadrianPaths entry s = .ok (visits, s')) :
    visits.filter (Visit.keep f) =
      if isOutOfScope entry.1 || pathContains f entry.1 then visits else [] := by
  cases hscope : isOutOfScope entry.1
  · have pairs := pathVisits_pairs ho hscope h
    by_cases hf : pathContains f entry.1
    · simp only [hf, Bool.or_true, if_true]
      exact List.filter_eq_self.mpr fun visit hmem => by
        simp [Visit.keep, (pairs visit hmem).2, hf]
    · simp only [hf, Bool.or_false, Bool.false_eq_true, if_false]
      exact List.filter_eq_nil_iff.mpr fun visit hmem => by
        simp [Visit.keep, (pairs visit hmem).1, (pairs visit hmem).2, hf]
  · simp only [pathVisits, hscope, if_true] at h
    cases h
    simp [Visit.keep, Visit.isPair]

end Paths

theorem flatMap_filter {α β : Type} (p : α → Bool) (g : α → List β) (l : List α) :
    (l.filter p).flatMap g = l.flatMap fun a => if p a then g a else [] := by
  induction l with
  | nil => rfl
  | cons a l ih => by_cases h : p a <;> simp [List.filter_cons, h, ih]

section Free

variable (ho : HashOrder) {openai hadrian : JValue → ResolveM Unit JValue} (f : String)
  (hadrianPaths : JValue)

/-- With no state, the filtered loop visits the unfiltered loop's visits that it keeps. -/
theorem mapM_pathVisits_some : ∀ {openaiItems : Dict} {visitss : List (List Visit)},
    (openaiItems.mapM (pathVisits ho openai hadrian none hadrianPaths)) () = .ok (visitss, ()) →
    (openaiItems.mapM (pathVisits ho openai hadrian (some f) hadrianPaths)) () =
      .ok (visitss.map (List.filter (Visit.keep f)), ())
  | [], _, h => by cases h; rfl
  | entry :: openaiItems, _, h => by
    simp only [List.mapM_cons] at h ⊢
    obtain ⟨visits, ⟨⟩, hentry, h₁⟩ := ResolveM.bind_eq_ok.mp h
    obtain ⟨rest, ⟨⟩, hrest, h₂⟩ := ResolveM.bind_eq_ok.mp h₁
    cases h₂
    rw [List.map_cons, filter_keep_pathVisits ho hentry, pathVisits_some]
    split <;> simp only [ResolveM.bind_apply, ResolveM.pure_apply, pure_bind, hentry, ok_bind,
      mapM_pathVisits_some hrest] <;> rfl

theorem loopVisits_some {openaiItems : Dict} {visits : List Visit}
    (h : loopVisits ho openai hadrian none hadrianPaths openaiItems () = .ok (visits, ())) :
    loopVisits ho openai hadrian (some f) hadrianPaths openaiItems () =
      .ok (visits.filter (Visit.keep f), ()) := by
  obtain ⟨visitss, ⟨⟩, hm, h₁⟩ := ResolveM.bind_eq_ok.mp h
  cases h₁
  simp only [loopVisits, ResolveM.bind_apply, mapM_pathVisits_some ho f hadrianPaths hm, ok_bind,
    ResolveM.pure_apply, List.filter_flatten]
  rfl

/-- With no state, the run with filter `f` reports the unfiltered run's entries and violations of
the paths containing `f`, and counts only those paths' pairs; the rest of the report is the
same. -/
theorem designReport_some {openaiSpec hadrianSpec : JValue} {report : ConformanceReport}
    {visits : List Visit}
    (h : designReport ho openai hadrian openaiSpec hadrianSpec none () = .ok (report, ()))
    (hv : checkVisits ho openai hadrian openaiSpec hadrianSpec none () = .ok (visits, ())) :
    designReport ho openai hadrian openaiSpec hadrianSpec (some f) () = .ok ({ report with
      endpointsChecked := visits.countP fun visit => visit.isPair && pathContains f visit.path,
      fullyConformant := visits.countP fun visit => visit.conformant && pathContains f visit.path,
      endpointsWithDiffs := report.endpointsWithDiffs.filter fun diff => pathContains f diff.path,
      violations := report.violations.filter fun violation => pathContains f violation.path }, ()) := by
  unfold designReport at h ⊢
  obtain ⟨header, ⟨⟩, hh₀, h₁⟩ := ResolveM.bind_eq_ok.mp h
  obtain ⟨hh, -⟩ := ResolveM.lift_eq_ok.mp hh₀
  obtain ⟨loop, ⟨⟩, hl, h₂⟩ := ResolveM.bind_eq_ok.mp h₁
  obtain ⟨only, ⟨⟩, honly₀, h₃⟩ := ResolveM.bind_eq_ok.mp h₂
  obtain ⟨honly, -⟩ := ResolveM.lift_eq_ok.mp honly₀
  cases h₃
  have hloop : visits = loop := by
    simp only [checkVisits, ResolveM.bind_apply, ResolveM.lift_apply, liftM, hh, map_ok, ok_bind,
      hl, Except.ok.injEq, Prod.mk.injEq] at hv
    exact hv.1.symm
  subst hloop
  simp only [ResolveM.bind_apply, ResolveM.lift_apply, liftM, hh, honly, map_ok, ok_bind,
    loopVisits_some ho f _ hl, ResolveM.pure_apply, List.countP_filter, Visit.isPair_keep,
    Visit.conformant_keep, List.filterMap_filter, List.filter_filterMap, Visit.filter_entry,
    Visit.keep_outOfScopePath, flatMap_filter, List.filter_flatMap, Visit.filter_violations]
  rfl

end Free

/-! ## Runs from any reachable caches -/

/-- A resolution from a reachable cache only adds to the cache, gives the cache-free answer,
and is eventually repeated from any other reachable cache. -/
theorem resolveSchema_transparent {spec : JValue} {n : Nat} {x v : JValue} {c c' : Dict}
    (hc : Reachable spec c) (h : resolveSchema spec n x c = .ok (v, c')) :
    Dict.Sub c c' ∧ FreeRes spec x v ∧
      ∀ c₂, Reachable spec c₂ → ∀ᶠ m in Filter.atTop, ∃ c₂', resolveSchema spec m x c₂ = .ok (v, c₂') := by
  obtain ⟨-, hsub, hfree⟩ := resolveSchema_sound hc.cacheOK h
  exact ⟨hsub, hfree, fun c₂ hc₂ => hfree.eventually.mono fun m hm =>
    (resolveSchema_complete hc₂.cacheOK hm).imp fun _ h => h.1⟩

/-- An endpoint's entry and violations do not depend on the reachable caches it starts from. -/
theorem compareEndpoint_transparent (ho : HashOrder) {openaiSpec hadrianSpec : JValue} {n : Nat}
    {path method : String} {openaiOp hadrianOp : JValue} {caches caches₂ caches' : Caches}
    {result : EndpointDiff × List Violation}
    (hc : CachesReachable openaiSpec hadrianSpec caches)
    (hc₂ : CachesReachable openaiSpec hadrianSpec caches₂)
    (h : compareEndpoint ho openaiSpec hadrianSpec n path method openaiOp hadrianOp caches =
      .ok (result, caches')) :
    ∀ᶠ m in Filter.atTop, ∃ caches₂',
      compareEndpoint ho openaiSpec hadrianSpec m path method openaiOp hadrianOp caches₂ =
        .ok (result, caches₂') := by
  rw [compareEndpoint_eq, ResolveM.map_apply] at h
  cases hn : endpointNotes ho (resolveOn .openai openaiSpec n) (resolveOn .hadrian hadrianSpec n) path
      openaiOp hadrianOp caches with
  | error e => simp [hn] at h
  | ok p =>
    obtain ⟨notes, c₁⟩ := p
    simp only [hn, map_ok, Except.ok.injEq] at h
    cases h
    obtain ⟨⟨⟩, -, ev⟩ := SimEv.endpointNotes ho (simEv_resolveOn_openai n) (simEv_resolveOn_hadrian n)
      path openaiOp hadrianOp caches () notes _ hc.cachesOK hn
    refine ev.mono fun m hm => ?_
    obtain ⟨caches₂', -, h₂⟩ := (SimEv.endpointNotes ho (simEv_free_openai m) (simEv_free_hadrian m)
      path openaiOp hadrianOp).const hc₂.cachesOK hm
    exact ⟨caches₂', by rw [compareEndpoint_eq, ResolveM.map_apply, h₂]; rfl⟩

/-- A run with no filter from reachable caches eventually gives, with a filter and from any other
reachable caches, the same report restricted to the paths the filter keeps. -/
theorem checkConformance_filter_transparent (ho : HashOrder) {openaiSpec hadrianSpec : JValue}
    {n : Nat} (f : String) {caches caches₂ caches' : Caches} {report : ConformanceReport}
    (hc : CachesReachable openaiSpec hadrianSpec caches)
    (hc₂ : CachesReachable openaiSpec hadrianSpec caches₂)
    (h : checkConformance ho n openaiSpec hadrianSpec none caches = .ok (report, caches')) :
    ∃ visits : List Visit,
      report.endpointsChecked = visits.countP Visit.isPair ∧
      report.fullyConformant = visits.countP Visit.conformant ∧
      report.endpointsWithDiffs = visits.filterMap Visit.entry ∧
      report.violations = visits.flatMap Visit.violations ∧
      ∀ᶠ m in Filter.atTop, ∃ caches₂',
        checkConformance ho m openaiSpec hadrianSpec (some f) caches₂ = .ok ({ report with
          endpointsChecked := visits.countP fun visit => visit.isPair && pathContains f visit.path,
          fullyConformant := visits.countP fun visit => visit.conformant && pathContains f visit.path,
          endpointsWithDiffs := report.endpointsWithDiffs.filter fun diff => pathContains f diff.path,
          violations := report.violations.filter fun violation => pathContains f violation.path },
          caches₂') := by
  rw [checkConformance_eq] at h
  obtain ⟨visits, hv, hchecked, hconf, hwith, -, hviol⟩ := designReport_eq_ok h
  refine ⟨visits, hchecked, hconf, hwith, hviol, ?_⟩
  obtain ⟨⟨⟩, -, evR⟩ := SimEv.designReport ho (simEv_resolveOn_openai n) (simEv_resolveOn_hadrian n)
    openaiSpec hadrianSpec none caches () report caches' hc.cachesOK h
  obtain ⟨⟨⟩, -, evV⟩ := SimEv.checkVisits ho (simEv_resolveOn_openai n) (simEv_resolveOn_hadrian n)
    openaiSpec hadrianSpec none caches () visits caches' hc.cachesOK hv
  refine (evR.and evV).mono fun m ⟨hR, hV⟩ => ?_
  obtain ⟨caches₂', -, h₂⟩ := (SimEv.designReport ho (simEv_free_openai m) (simEv_free_hadrian m)
    openaiSpec hadrianSpec (some f)).const hc₂.cachesOK (designReport_some ho f hR hV)
  exact ⟨caches₂', by rw [checkConformance_eq]; exact h₂⟩

/-- The `$ref` caches are transparent. Every cache an `OpenAPIResolver` reaches holds the
cache-free resolution of each ref's target; a call keeps every entry, returns the cache-free
resolution, and is answered alike, given enough depth, from every reachable cache, the fresh
one included. So an endpoint's entry and violations do not depend on the endpoints resolved
before it, and the run with `endpoint_filter` `f` reports the unfiltered run's entries and
violations of the paths containing `f`, counts only those paths' pairs, and reports the same
out-of-scope and Hadrian-only endpoints. -/
theorem checkConformance_cache_transparent (ho : HashOrder) (openaiSpec hadrianSpec : JValue) :
    (∀ spec c, Reachable spec c → CacheOK spec c) ∧
    (∀ spec n x v c c', Reachable spec c → resolveSchema spec n x c = .ok (v, c') →
      Dict.Sub c c' ∧ FreeRes spec x v ∧
        ∀ c₂, Reachable spec c₂ → ∀ᶠ m in Filter.atTop, ∃ c₂', resolveSchema spec m x c₂ = .ok (v, c₂')) ∧
    (∀ n path method openaiOp hadrianOp caches caches₂ result caches',
      CachesReachable openaiSpec hadrianSpec caches → CachesReachable openaiSpec hadrianSpec caches₂ →
      compareEndpoint ho openaiSpec hadrianSpec n path method openaiOp hadrianOp caches =
        .ok (result, caches') →
      ∀ᶠ m in Filter.atTop, ∃ caches₂',
        compareEndpoint ho openaiSpec hadrianSpec m path method openaiOp hadrianOp caches₂ =
          .ok (result, caches₂')) ∧
    (∀ n f caches caches₂ report caches',
      CachesReachable openaiSpec hadrianSpec caches → CachesReachable openaiSpec hadrianSpec caches₂ →
      checkConformance ho n openaiSpec hadrianSpec none caches = .ok (report, caches') →
      ∃ visits : List Visit,
        report.endpointsChecked = visits.countP Visit.isPair ∧
        report.fullyConformant = visits.countP Visit.conformant ∧
        report.endpointsWithDiffs = visits.filterMap Visit.entry ∧
        report.violations = visits.flatMap Visit.violations ∧
        ∀ᶠ m in Filter.atTop, ∃ caches₂',
          checkConformance ho m openaiSpec hadrianSpec (some f) caches₂ = .ok ({ report with
            endpointsChecked := visits.countP fun visit => visit.isPair && pathContains f visit.path,
            fullyConformant := visits.countP fun visit => visit.conformant && pathContains f visit.path,
            endpointsWithDiffs := report.endpointsWithDiffs.filter fun diff => pathContains f diff.path,
            violations := report.violations.filter fun violation => pathContains f violation.path },
            caches₂')) :=
  ⟨fun _ _ hc => hc.cacheOK, fun _ _ _ _ _ _ hc h => resolveSchema_transparent hc h,
    fun _ _ _ _ _ _ _ _ _ hc hc₂ h => compareEndpoint_transparent ho hc hc₂ h,
    fun _ f _ _ _ _ hc hc₂ h => checkConformance_filter_transparent ho f hc hc₂ h⟩

theorem checkConformance_cache_transparent_demo :
    ∃ visits : List Visit,
      demoReport.endpointsChecked = visits.countP Visit.isPair ∧
      demoReport.fullyConformant = visits.countP Visit.conformant ∧
      demoReport.endpointsWithDiffs = visits.filterMap Visit.entry ∧
      demoReport.violations = visits.flatMap Visit.violations ∧
      ∀ᶠ m in Filter.atTop, ∃ caches₂',
        checkConformance HashOrder.inOrder m demoOpenai demoHadrian (some "/models") ⟨[], []⟩ =
          .ok ({ demoReport with
            endpointsChecked := visits.countP fun visit => visit.isPair && pathContains "/models" visit.path,
            fullyConformant :=
              visits.countP fun visit => visit.conformant && pathContains "/models" visit.path,
            endpointsWithDiffs :=
              demoReport.endpointsWithDiffs.filter fun diff => pathContains "/models" diff.path,
            violations :=
              demoReport.violations.filter fun violation => pathContains "/models" violation.path },
            caches₂') :=
  (checkConformance_cache_transparent HashOrder.inOrder demoOpenai demoHadrian).2.2.2 4 "/models"
    ⟨[], []⟩ ⟨[], []⟩ demoReport ⟨[], []⟩ ⟨.init, .init⟩ ⟨.init, .init⟩ (by decide)

/-! ## What is never checked -/

/-- A pair the scope tables allow to be checked: an in-scope path and one of the five methods,
upper-cased, that `OUT_OF_SCOPE_METHODS` does not exclude for it. -/
def ReportedPair (path methodUpper : String) : Prop :=
  isOutOfScope path = false ∧
    ∃ method ∈ httpMethods, methodUpper = pyUpper method ∧ isMethodOutOfScope path method = false

/-- A visit that the scope tables allow: an out-of-scope path, or an allowed pair. -/
def Visit.InScope : Visit → Prop
  | .outOfScope path => isOutOfScope path = true
  | .missing path methodUpper | .compared path methodUpper _ => ReportedPair path methodUpper

section Scope

variable (ho : HashOrder) {σ : Type} {openai hadrian : JValue → ResolveM σ JValue}

theorem pathVisits_inScope {endpointFilter : Option String} {hadrianPaths : JValue}
    {entry : String × JValue} {s s' : σ} {visits : List Visit}
    (h : pathVisits ho openai hadrian endpointFilter hadrianPaths entry s = .ok (visits, s')) :
    ∀ visit ∈ visits, visit.InScope := by
  unfold pathVisits at h
  split at h
  · next hscope =>
    cases h
    simpa [Visit.InScope] using hscope
  · next hscope =>
    split at h
    · cases h
      simp
    · obtain ⟨_, _, -, h₁⟩ := ResolveM.bind_eq_ok.mp h
      obtain ⟨visitss, _, hm, h₂⟩ := ResolveM.bind_eq_ok.mp h₁
      cases h₂
      intro visit hmem
      obtain ⟨visits, hvisits, hvisit⟩ := List.mem_flatten.mp hmem
      obtain ⟨method, hmethod, _, _, hrun⟩ := ResolveM.mapM_eq_ok hm visits hvisits
      rcases methodVisits_eq_ok ho hrun with rfl | ⟨hexcluded, rfl | ⟨_, rfl⟩⟩ <;>
        simp only [List.mem_singleton, List.not_mem_nil] at hvisit <;> subst hvisit <;>
        exact ⟨by simpa using hscope, method, hmethod, rfl, hexcluded⟩

theorem checkVisits_inScope {openaiSpec hadrianSpec : JValue} {endpointFilter : Option String}
    {s s' : σ} {visits : List Visit}
    (h : checkVisits ho openai hadrian openaiSpec hadrianSpec endpointFilter s = .ok (visits, s')) :
    ∀ visit ∈ visits, visit.InScope := by
  obtain ⟨_, _, -, h₁⟩ := ResolveM.bind_eq_ok.mp h
  obtain ⟨visitss, _, hm, h₂⟩ := ResolveM.bind_eq_ok.mp h₁
  cases h₂
  intro visit hmem
  obtain ⟨visits, hvisits, hvisit⟩ := List.mem_flatten.mp hmem
  obtain ⟨_, -, _, _, hrun⟩ := ResolveM.mapM_eq_ok hm visits hvisits
  exact pathVisits_inScope ho hrun visit hvisit

end Scope

theorem Visit.InScope.entry {visit : Visit} (hscope : visit.InScope) {diff : EndpointDiff}
    (h : visit.entry = some diff) : ReportedPair diff.path diff.method := by
  cases visit with
  | outOfScope => cases h
  | missing => cases h; exact hscope
  | compared path methodUpper notes =>
    simp only [Visit.entry] at h
    split at h
    · cases h; exact hscope
    · cases h

theorem Visit.InScope.violations {visit : Visit} (hscope : visit.InScope) :
    ∀ violation ∈ visit.violations, ReportedPair violation.path violation.method := by
  cases visit with
  | outOfScope => simp [Visit.violations]
  | missing => simpa [Visit.violations, missingEndpoint] using hscope
  | compared path methodUpper notes =>
    intro violation h
    simp only [Visit.violations, EndpointNotes.violations, List.mem_append, List.mem_filterMap] at h
    rcases h with (⟨_, -, h⟩ | ⟨_, -, h⟩) | ⟨_, -, h⟩ <;>
      obtain ⟨hpath, hmethod⟩ := policy_path h <;> rw [hpath, hmethod] <;> exact hscope

/-- The scope tables are respected: no entry or violation names an out-of-scope path or a
method that `OUT_OF_SCOPE_METHODS` excludes, and only out-of-scope paths are listed as such. -/
theorem checkConformance_scope_respected {ho : HashOrder} {n : Nat} {openaiSpec hadrianSpec : JValue}
    {endpointFilter : Option String} {caches caches' : Caches} {report : ConformanceReport}
    (h : checkConformance ho n openaiSpec hadrianSpec endpointFilter caches = .ok (report, caches')) :
    (∀ diff ∈ report.endpointsWithDiffs, ReportedPair diff.path diff.method) ∧
    (∀ violation ∈ report.violations, ReportedPair violation.path violation.method) ∧
    (∀ path ∈ report.outOfScopeEndpoints, isOutOfScope path = true) := by
  rw [checkConformance_eq] at h
  obtain ⟨visits, hv, -, -, hentries, hscopes, hviolations⟩ := designReport_eq_ok h
  have inScope := checkVisits_inScope ho hv
  refine ⟨fun diff hdiff => ?_, fun violation hviolation => ?_, fun path hpath => ?_⟩
  · rw [hentries, List.mem_filterMap] at hdiff
    obtain ⟨visit, hvisit, hentry⟩ := hdiff
    exact (inScope visit hvisit).entry hentry
  · rw [hviolations, List.mem_flatMap] at hviolation
    obtain ⟨visit, hvisit, hmem⟩ := hviolation
    exact (inScope visit hvisit).violations violation hmem
  · rw [hscopes, List.mem_filterMap] at hpath
    obtain ⟨visit, hvisit, hout⟩ := hpath
    have := inScope visit hvisit
    cases visit <;> simp only [Visit.outOfScopePath, Option.some.injEq, reduceCtorEq] at hout
    subst hout
    exact this

theorem checkConformance_scope_respected_demo :
    checkConformance HashOrder.inOrder 4 demoOpenai demoHadrian none ⟨[], []⟩ =
      .ok (demoReport, ⟨[], []⟩) ∧
    (∀ diff ∈ demoReport.endpointsWithDiffs, ReportedPair diff.path diff.method) ∧
    (∀ violation ∈ demoReport.violations, ReportedPair violation.path violation.method) ∧
    (∀ path ∈ demoReport.outOfScopeEndpoints, isOutOfScope path = true) :=
  ⟨checkConformance_demoReport, checkConformance_scope_respected checkConformance_demoReport⟩

end HadrianConformance
