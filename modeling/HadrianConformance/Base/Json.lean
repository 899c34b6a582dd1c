import Mathlib.Logic.Basic

/-!
# JSON documents as the checker's Python code holds them

The two OpenAPI documents of `scripts/openapi-conformance.py:973–978` after `json.load`:
`None`, booleans, integers, strings, lists and dicts with string keys, in insertion order.
Floats are out of the model; the checker only converts numbers with `str()` and tests
their truthiness. A dict is an association list; `Dict.set` is Python's `d[k] = v`.
Every Python exception the checker can raise on such a value is a `PyError`.
-/

namespace HadrianConformance

/-- A decoded JSON value. -/
inductive JValue where
  | null
  | bool (b : Bool)
  | num (n : Int)
  | str (s : String)
  | arr (xs : List JValue)
  | obj (kvs : List (String × JValue))
  deriving Repr, Inhabited

/-- A Python dict with string keys, in insertion order. -/
abbrev Dict := List (String × JValue)

namespace JValue

mutual
/-- Structural equality, written out because `deriving` does not reach nested lists. -/
def decEq : (a b : JValue) → Decidable (a = b)
  | .null, .null => isTrue rfl
  | .bool a, .bool b =>
    if h : a = b then isTrue (h ▸ rfl) else isFalse (by intro e; cases e; exact h rfl)
  | .num a, .num b =>
    if h : a = b then isTrue (h ▸ rfl) else isFalse (by intro e; cases e; exact h rfl)
  | .str a, .str b =>
    if h : a = b then isTrue (h ▸ rfl) else isFalse (by intro e; cases e; exact h rfl)
  | .arr a, .arr b =>
    match decEqList a b with
    | isTrue h => isTrue (h ▸ rfl)
    | isFalse h => isFalse (by intro e; cases e; exact h rfl)
  | .obj a, .obj b =>
    match decEqDict a b with
    | isTrue h => isTrue (h ▸ rfl)
    | isFalse h => isFalse (by intro e; cases e; exact h rfl)
  | .null, .bool _ | .null, .num _ | .null, .str _ | .null, .arr _ | .null, .obj _
  | .bool _, .null | .bool _, .num _ | .bool _, .str _ | .bool _, .arr _ | .bool _, .obj _
  | .num _, .null | .num _, .bool _ | .num _, .str _ | .num _, .arr _ | .num _, .obj _
  | .str _, .null | .str _, .bool _ | .str _, .num _ | .str _, .arr _ | .str _, .obj _
  | .arr _, .null | .arr _, .bool _ | .arr _, .num _ | .arr _, .str _ | .arr _, .obj _
  | .obj _, .null | .obj _, .bool _ | .obj _, .num _ | .obj _, .str _ | .obj _, .arr _ =>
    isFalse (by intro e; cases e)
/-- Equality of element lists. -/
def decEqList : (a b : List JValue) → Decidable (a = b)
  | [], [] => isTrue rfl
  | [], _ :: _ | _ :: _, [] => isFalse (by intro e; cases e)
  | x :: xs, y :: ys =>
    match decEq x y, decEqList xs ys with
    | isTrue h, isTrue h' => isTrue (h ▸ h' ▸ rfl)
    | isFalse h, _ => isFalse (by intro e; cases e; exact h rfl)
    | _, isFalse h => isFalse (by intro e; cases e; exact h rfl)
/-- Equality of member lists, keys included. -/
def decEqDict : (a b : List (String × JValue)) → Decidable (a = b)
  | [], [] => isTrue rfl
  | [], _ :: _ | _ :: _, [] => isFalse (by intro e; cases e)
  | (k, x) :: xs, (l, y) :: ys =>
    if hk : k = l then
      match decEq x y, decEqDict xs ys with
      | isTrue h, isTrue h' => isTrue (hk ▸ h ▸ h' ▸ rfl)
      | isFalse h, _ => isFalse (by intro e; cases e; exact h rfl)
      | _, isFalse h => isFalse (by intro e; cases e; exact h rfl)
    else isFalse (by intro e; cases e; exact hk rfl)
end

instance : DecidableEq JValue := decEq

/-- `isinstance(x, dict)`. -/
def isDict : JValue → Bool
  | .obj _ => true
  | _ => false

end JValue

namespace Dict

/-- `d.get(k)` on a dict, `None` as `none`. -/
def get? : Dict → String → Option JValue
  | [], _ => none
  | (k', v) :: d, k => if k' = k then some v else get? d k

/-- `k in d`. -/
def contains (d : Dict) (k : String) : Bool := (Dict.get? d k).isSome

/-- `d[k] = v`: an existing key keeps its place, a new one goes last. -/
def set : Dict → String → JValue → Dict
  | [], k, v => [(k, v)]
  | (k', v') :: d, k, v => if k' = k then (k, v) :: d else (k', v') :: set d k v

/-- `d.setdefault(k, v)` for its effect on `d`: `k` is added with `v` when absent. -/
def setdefault (d : Dict) (k : String) (v : JValue) : Dict :=
  if Dict.contains d k then d else Dict.set d k v

/-- `d.update(pairs)`, one `d[k] = v` per pair in order. -/
def update (d : Dict) (pairs : Dict) : Dict := pairs.foldl (fun acc kv => Dict.set acc kv.1 kv.2) d

/-- Every entry of `d` is an entry of `d'`. -/
def Sub (d d' : Dict) : Prop := ∀ k v, get? d k = some v → get? d' k = some v

theorem Sub.refl (d : Dict) : Sub d d := fun _ _ h => h

theorem Sub.nil (d : Dict) : Sub [] d := fun _ _ h => nomatch h

@[simp] theorem get?_nil (k : String) : get? [] k = none := rfl

theorem get?_cons (k' k : String) (v : JValue) (d : Dict) :
    get? ((k', v) :: d) k = if k' = k then some v else get? d k := rfl

/-- Reading back a key just written. -/
@[simp] theorem get?_set_self (d : Dict) (k : String) (v : JValue) : Dict.get? (Dict.set d k v) k = some v := by
  induction d with
  | nil => simp [set, get?_cons]
  | cons kv d ih =>
    obtain ⟨k', v'⟩ := kv
    by_cases h : k' = k
    · simp [set, h, get?_cons]
    · simp [set, h, get?_cons, ih]

/-- Writing one key leaves every other key as it was. -/
theorem get?_set_ne (d : Dict) {k k'' : String} (v : JValue) (h : k ≠ k'') :
    Dict.get? (Dict.set d k v) k'' = Dict.get? d k'' := by
  induction d with
  | nil => simp [set, get?_cons, h]
  | cons kv d ih =>
    obtain ⟨k', v'⟩ := kv
    by_cases hk : k' = k
    · subst hk
      simp [set, get?_cons, h]
    · simp [set, hk, get?_cons, ih]

theorem get?_set (d : Dict) (k k'' : String) (v : JValue) :
    Dict.get? (Dict.set d k v) k'' = if k = k'' then some v else Dict.get? d k'' := by
  split
  · next h => subst h; exact get?_set_self d k v
  · next h => exact get?_set_ne d v h

@[simp] theorem contains_set (d : Dict) (k k'' : String) (v : JValue) :
    Dict.contains (Dict.set d k v) k'' = (k = k'' || Dict.contains d k'') := by
  by_cases h : k = k'' <;> simp [contains, get?_set, h]

/-- A second write of a key replaces the first. -/
@[simp] theorem set_set (d : Dict) (k : String) (a b : JValue) :
    Dict.set (Dict.set d k a) k b = Dict.set d k b := by
  induction d with
  | nil => simp [set]
  | cons kv d ih =>
    obtain ⟨k', v'⟩ := kv
    by_cases h : k' = k <;> simp [set, h, ih]

/-- Writes of two keys commute when the first key is already there: neither changes the
other's place. -/
theorem set_comm {d : Dict} {k k' : String} (hk : k ≠ k') (hc : Dict.contains d k) (a b : JValue) :
    Dict.set (Dict.set d k a) k' b = Dict.set (Dict.set d k' b) k a := by
  induction d with
  | nil => simp [contains] at hc
  | cons kv d ih =>
    obtain ⟨j, v⟩ := kv
    by_cases hj : j = k
    · subst hj
      simp [set, hk]
    · by_cases hj' : j = k'
      · subst hj'
        simp [set, hj, Ne.symm hk]
      · simp only [contains, get?_cons, hj, if_false] at hc
        simp [set, hj, hj', ih hc]

/-- Writing a present key keeps the keys in place. -/
theorem keys_set {d : Dict} {k : String} (hc : Dict.contains d k) (v : JValue) :
    (Dict.set d k v).map Prod.fst = d.map Prod.fst := by
  induction d with
  | nil => simp [contains] at hc
  | cons kv d ih =>
    obtain ⟨j, w⟩ := kv
    by_cases hj : j = k
    · subst hj
      simp [set]
    · simp only [contains, get?_cons, hj, if_false] at hc
      simp [set, hj, ih hc]

theorem setdefault_of_contains {d : Dict} {k : String} (h : Dict.contains d k) (v : JValue) :
    Dict.setdefault d k v = d := by
  simp [setdefault, h]

theorem get?_setdefault_ne (d : Dict) {k k'' : String} (v : JValue) (h : k ≠ k'') :
    Dict.get? (Dict.setdefault d k v) k'' = Dict.get? d k'' := by
  unfold setdefault
  split
  · rfl
  · exact get?_set_ne d v h

/-- The keys of `d.update(pairs)`: those of `d` and those of `pairs`. -/
theorem contains_update (d pairs : Dict) (k : String) :
    Dict.contains (Dict.update d pairs) k = (Dict.contains d k || Dict.contains pairs k) := by
  induction pairs generalizing d with
  | nil => simp [update, contains]
  | cons kv pairs ih =>
    obtain ⟨k', v⟩ := kv
    show Dict.contains (Dict.update (Dict.set d k' v) pairs) k = _
    rw [ih, contains_set]
    by_cases h : k' = k <;> simp [contains, get?_cons, h]

/-- Looking up a dict whose values are rewritten key by key. -/
theorem get?_map (d : Dict) (f : String → JValue → JValue) (k : String) :
    Dict.get? (d.map fun kv => (kv.1, f kv.1 kv.2)) k = (Dict.get? d k).map (f k) := by
  induction d with
  | nil => rfl
  | cons kv d ih =>
    obtain ⟨k', v⟩ := kv
    by_cases h : k' = k
    · simp [get?_cons, h]
    · simp [get?_cons, h, ih]

/-- Looking up a dict whose values are all rewritten by one function. -/
theorem get?_map_values (d : Dict) (f : JValue → JValue) (k : String) :
    Dict.get? (d.map fun kv => (kv.1, f kv.2)) k = (Dict.get? d k).map f :=
  get?_map d (fun _ => f) k

/-- Looking up a dict of the members whose keys pass a test. -/
theorem get?_filter (d : Dict) (p : String → Bool) (k : String) :
    Dict.get? (d.filter fun kv => p kv.1) k = if p k then Dict.get? d k else none := by
  induction d with
  | nil => simp
  | cons kv d ih =>
    obtain ⟨k', v⟩ := kv
    by_cases h : k' = k
    · subst h
      by_cases hp : p k' <;> simp [List.filter_cons, get?_cons, hp, ih]
    · by_cases hp : p k' <;> simp [List.filter_cons, get?_cons, hp, h, ih]

/-- An entry of `d[k] = v` is one of `d`'s or the one written. -/
theorem mem_set {d : Dict} {k : String} {v : JValue} {kv : String × JValue} (h : kv ∈ Dict.set d k v) :
    kv ∈ d ∨ kv = (k, v) := by
  induction d with
  | nil => exact .inr (List.mem_singleton.mp h)
  | cons kv' d ih =>
    obtain ⟨k', v'⟩ := kv'
    simp only [set] at h
    split at h
    · exact (List.mem_cons.mp h).symm.imp (List.mem_cons_of_mem _) id
    · rcases List.mem_cons.mp h with h | h
      · exact .inl (h ▸ List.mem_cons_self _ _)
      · exact (ih h).imp (List.mem_cons_of_mem _) id

/-- An entry of `d.update(pairs)` is one of `d`'s or of the pairs. -/
theorem mem_update {d pairs : Dict} {kv : String × JValue} (h : kv ∈ Dict.update d pairs) :
    kv ∈ d ∨ kv ∈ pairs := by
  induction pairs generalizing d with
  | nil => exact .inl h
  | cons p pairs ih =>
    rcases ih (show kv ∈ Dict.update (Dict.set d p.1 p.2) pairs from h) with h | h
    · exact (mem_set h).imp id fun (e : kv = (p.1, p.2)) => e ▸ List.mem_cons_self _ _
    · exact .inr (List.mem_cons_of_mem _ h)

theorem mem_of_get? {d : Dict} {k : String} {v : JValue} (h : Dict.get? d k = some v) : (k, v) ∈ d := by
  induction d with
  | nil => cases h
  | cons kv d ih =>
    obtain ⟨k', v'⟩ := kv
    rw [get?_cons] at h
    split at h
    · next hk => cases h; exact hk ▸ List.mem_cons_self _ _
    · exact List.mem_cons_of_mem _ (ih h)

/-- `k in d` holds exactly for the keys of `d`. -/
theorem contains_iff_mem {d : Dict} {k : String} : Dict.contains d k = true ↔ k ∈ d.map Prod.fst := by
  induction d with
  | nil => simp [contains]
  | cons kv d ih =>
    obtain ⟨k', v⟩ := kv
    by_cases h : k' = k
    · simp [contains, get?_cons, h]
    · simp only [contains, get?_cons, h, if_false, List.map_cons, List.mem_cons, Ne.symm h, false_or]
      exact ih

/-- A key of `d` has a value in `d`. -/
theorem exists_get?_of_mem {d : Dict} {k : String} (h : k ∈ d.map Prod.fst) : ∃ v, Dict.get? d k = some v :=
  Option.isSome_iff_exists.mp (contains_iff_mem.mpr h)

end Dict

/-- The Python exceptions the checker can raise on a JSON input. `recursionError` also
stands for a resolution that does not end within the fuel it is given. -/
inductive PyError where
  | typeError
  | attributeError
  | valueError
  | keyError
  | recursionError
  deriving DecidableEq, Repr

/-- A Python computation that returns a value or raises. -/
abbrev Py := Except PyError

instance decEqExcept {ε α : Type} [DecidableEq ε] [DecidableEq α] : DecidableEq (Except ε α)
  | .ok a, .ok b => if h : a = b then isTrue (h ▸ rfl) else isFalse (by intro e; cases e; exact h rfl)
  | .error a, .error b =>
    if h : a = b then isTrue (h ▸ rfl) else isFalse (by intro e; cases e; exact h rfl)
  | .ok _, .error _ | .error _, .ok _ => isFalse (by intro e; cases e)

end HadrianConformance
