import HadrianConformance.Base.Json
import Mathlib.Data.List.Defs

/-!
# The Python operations the checker applies to JSON values

Each definition is one Python builtin or method as `scripts/openapi-conformance.py` uses it,
raising where CPython raises on that kind of value: `.get` and `.items()` exist only on
dicts, `in` works on dicts, lists and strings, `dict(x)` accepts a dict or an iterable of
two-item sequences. Set iteration order (hash order in CPython) is insertion order here;
the checker only ever tests membership in its sets.
-/

namespace HadrianConformance

open JValue

/-- `x.get(k, default)`. -/
def pyGet : JValue → String → JValue → Py JValue
  | .obj d, k, default => pure ((Dict.get? d k).getD default)
  | _, _, _ => throw .attributeError

/-- `k in x` for a string `k`: a dict's keys, a list's elements, a string's substrings. -/
def pyContains : JValue → String → Py Bool
  | .obj d, k => pure (Dict.contains d k)
  | .arr xs, k => pure (decide (JValue.str k ∈ xs))
  | .str s, k => pure (infixOf k.data s.data)
  | _, _ => throw .typeError
where
  /-- `p` occurs in the character list. -/
  infixOf (p : List Char) : List Char → Bool
    | [] => p.isEmpty
    | c :: cs => p.isPrefixOf (c :: cs) || infixOf p cs

/-- `x[k]` for a string `k`. -/
def pyIndex : JValue → String → Py JValue
  | .obj d, k => match Dict.get? d k with
    | some v => pure v
    | none => throw .keyError
  | _, _ => throw .typeError

/-- Iteration: a list's elements, a dict's keys, a string's characters. -/
def pyIter : JValue → Py (List JValue)
  | .arr xs => pure xs
  | .obj d => pure (d.map fun kv => .str kv.1)
  | .str s => pure (s.data.map fun c => .str (String.singleton c))
  | _ => throw .typeError

/-- `len(x)`. An object's entries stand for a parsed JSON object's distinct keys. -/
def pyLen : JValue → Py Nat
  | .obj d => pure d.length
  | .arr xs => pure xs.length
  | .str s => pure s.length
  | _ => throw .typeError

/-- `x.items()`. -/
def pyItems : JValue → Py Dict
  | .obj d => pure d
  | _ => throw .attributeError

/-- Truthiness, as in `if x:` and `x or y`. -/
def pyTruthy : JValue → Bool
  | .null => false
  | .bool b => b
  | .num n => n != 0
  | .str s => s != ""
  | .arr xs => !xs.isEmpty
  | .obj d => !d.isEmpty

/-- One element of `dict(iterable)`, which must be a sequence of two items. A pair whose
key is a number, a boolean or `None` makes a dict with a non-string key, which `Dict` cannot
hold: only there the model raises where Python does not. -/
def pyPair : JValue → Py (String × JValue)
  | .str s => match s.data with
    | [k, v] => pure (String.singleton k, .str (String.singleton v))
    | _ => throw .valueError
  | .arr [.str k, v] => pure (k, v)
  | .arr [_, _] => throw .typeError
  | .arr _ => throw .valueError
  | .obj [(k, _), (v, _)] => pure (k, .str v)
  | .obj _ => throw .valueError
  | _ => throw .typeError

/-- `dict(x)`: a copy of a dict, else the dict of an iterable of pairs. -/
def pyDict : JValue → Py Dict
  | .obj d => pure d
  | x => do
    let xs ← pyIter x
    let ps ← xs.mapM pyPair
    pure (Dict.update [] ps)

/-- `d.update(x)` for a dict `d`. -/
def pyUpdate (d : Dict) (x : JValue) : Py Dict := do
  pure (Dict.update d (← pyDict x))

/-- Python `repr` of a string: single quotes unless the text has a single quote and no
double quote; backslash, the quote and ASCII control characters are escaped. -/
def reprStr (s : String) : String :=
  let sq := Char.ofNat 39
  let dq := Char.ofNat 34
  let bs := Char.ofNat 92
  let q := if sq ∈ s.data ∧ dq ∉ s.data then dq else sq
  let hex (n : Nat) : List Char := Nat.toDigits 16 (n / 16) ++ Nat.toDigits 16 (n % 16)
  let esc (c : Char) : List Char :=
    if c = q ∨ c = bs then [bs, c]
    else if c.toNat = 9 then [bs, 't']
    else if c.toNat = 10 then [bs, 'n']
    else if c.toNat = 13 then [bs, 'r']
    else if c.toNat < 32 ∨ c.toNat = 127 then bs :: 'x' :: hex c.toNat
    else [c]
  String.mk (q :: s.data.flatMap esc ++ [q])

mutual
/-- Python `repr` of a JSON value. -/
def pyRepr : JValue → String
  | .null => "None"
  | .bool true => "True"
  | .bool false => "False"
  | .num n => toString n
  | .str s => reprStr s
  | .arr xs => "[" ++ reprItems xs ++ "]"
  | .obj d => "\x7b" ++ reprMembers d ++ "\x7d"
/-- The comma-separated items of a list. -/
def reprItems : List JValue → String
  | [] => ""
  | [x] => pyRepr x
  | x :: xs => pyRepr x ++ ", " ++ reprItems xs
/-- The comma-separated members of a dict. -/
def reprMembers : Dict → String
  | [] => ""
  | [(k, v)] => reprStr k ++ ": " ++ pyRepr v
  | (k, v) :: d => reprStr k ++ ": " ++ pyRepr v ++ ", " ++ reprMembers d
end

/-- `str(x)`, as in an f-string: a string is itself, anything else its `repr`. -/
def pyStr : JValue → String
  | .str s => s
  | x => pyRepr x

/-- Whether `hash(x)` succeeds. -/
def pyHashable : JValue → Bool
  | .arr _ | .obj _ => false
  | _ => true

/-- Python `==` between hashable values: `True == 1` and `False == 0`. -/
def pyKeyEq : JValue → JValue → Bool
  | .null, .null => true
  | .bool a, .bool b => a == b
  | .bool a, .num n | .num n, .bool a => (if a then 1 else 0) == n
  | .num m, .num n => m == n
  | .str a, .str b => a == b
  | _, _ => false

/-- Adding elements to a set, an element equal to a member being dropped. -/
def setAdd (acc : List JValue) : List JValue → List JValue
  | [] => acc
  | x :: xs => setAdd (if acc.any (pyKeyEq x) then acc else acc ++ [x]) xs

/-- `s.update(x)` on a set `s`, and `set(x)` from the empty set. -/
def pySetUpdate (s : List JValue) (x : JValue) : Py (List JValue) := do
  let xs ← pyIter x
  if xs.all pyHashable then pure (setAdd s xs) else throw .typeError

/-- `set(x)`. -/
def pySet (x : JValue) : Py (List JValue) := pySetUpdate [] x

/-- `"k" in s` for a set `s`. -/
def setHas (s : List JValue) (k : String) : Bool := s.any (pyKeyEq (.str k))

/-! ### Strings -/

/-- `s.startswith(p)`. -/
def startsWith (s p : String) : Bool := p.data.isPrefixOf s.data

/-- `s.endswith(p)`. -/
def endsWith (s p : String) : Bool := p.data.isSuffixOf s.data

/-- `s.split(c)` for a one-character separator. -/
def pySplit (s : String) (c : Char) : List String := (s.data.splitOn c).map String.mk

/-- `s.upper()` on ASCII text. -/
def pyUpper (s : String) : String := ⟨s.data.map Char.toUpper⟩

/-- Left-to-right replacement of the non-overlapping occurrences of `old`, one character of
fuel per character of the text. -/
def replaceAux (old new : List Char) : Nat → List Char → List Char
  | 0, s => s
  | _ + 1, [] => []
  | n + 1, c :: cs =>
    if old.isPrefixOf (c :: cs) then new ++ replaceAux old new n ((c :: cs).drop old.length)
    else c :: replaceAux old new n cs

/-- `s.replace(old, new)` for a non-empty `old`, as at its only call site. -/
def pyReplace (s old new : String) : String :=
  ⟨replaceAux old.data new.data s.data.length s.data⟩

/-! ### Laws -/

@[simp] theorem pyGet_obj (d : Dict) (k : String) (default : JValue) :
    pyGet (.obj d) k default = pure ((Dict.get? d k).getD default) := rfl

@[simp] theorem pyContains_obj (d : Dict) (k : String) : pyContains (.obj d) k = pure (Dict.contains d k) :=
  rfl

@[simp] theorem pyItems_obj (d : Dict) : pyItems (.obj d) = pure d := rfl

@[simp] theorem pyDict_obj (d : Dict) : pyDict (.obj d) = pure d := rfl

theorem pyIndex_obj (d : Dict) (k : String) :
    pyIndex (.obj d) k = match Dict.get? d k with | some v => pure v | none => throw .keyError := rfl

@[simp] theorem pyStr_str (s : String) : pyStr (.str s) = s := rfl

@[simp] theorem ok_bind {α β : Type} (a : α) (f : α → Py β) : (Except.ok a : Py α) >>= f = f a :=
  rfl

@[simp] theorem error_bind {α β : Type} (e : PyError) (f : α → Py β) :
    (Except.error e : Py α) >>= f = .error e := rfl

@[simp] theorem map_ok {α β : Type} (f : α → β) (a : α) : f <$> (Except.ok a : Py α) = .ok (f a) :=
  rfl

@[simp] theorem map_error {α β : Type} (f : α → β) (e : PyError) :
    f <$> (Except.error e : Py α) = .error e := rfl

/-- Peeling the first step of a computation that returned. -/
theorem bind_eq_ok {α β : Type} {x : Py α} {f : α → Py β} {b : β} :
    x >>= f = .ok b ↔ ∃ a, x = .ok a ∧ f a = .ok b := by
  cases x <;> simp [bind, Except.bind]

theorem pyIndex_eq_ok {x v : JValue} {k : String} :
    pyIndex x k = .ok v ↔ ∃ d, x = .obj d ∧ Dict.get? d k = some v := by
  cases x with
  | obj d => cases h : Dict.get? d k <;> simp [pyIndex, h, pure, Except.pure, throw, throwThe,
      MonadExceptOf.throw]
  | _ => simp [pyIndex, throw, throwThe, MonadExceptOf.throw]

theorem pyItems_eq_ok {x : JValue} {d : Dict} (h : pyItems x = .ok d) : x = .obj d := by
  cases x <;> cases h
  rfl

theorem pyGet_eq_ok {x v default : JValue} {k : String} (h : pyGet x k default = .ok v) :
    ∃ d, x = .obj d ∧ v = (Dict.get? d k).getD default := by
  cases x <;> cases h
  exact ⟨_, rfl, rfl⟩

/-- Every result of a loop that returned comes from one of its elements. -/
theorem mem_of_mapM_eq_ok {α β : Type} {f : α → Py β} :
    ∀ {xs : List α} {ys : List β}, xs.mapM f = .ok ys → ∀ b ∈ ys, ∃ a ∈ xs, f a = .ok b
  | [], _, h, _, hb => by cases h; cases hb
  | x :: xs, _, h, b, hb => by
    rw [List.mapM_cons] at h
    obtain ⟨y, hy, h⟩ := bind_eq_ok.mp h
    obtain ⟨ys', hys', h⟩ := bind_eq_ok.mp h
    cases h
    rcases List.mem_cons.mp hb with rfl | hb
    · exact ⟨x, List.mem_cons_self _ _, hy⟩
    · obtain ⟨a, ha, hfa⟩ := mem_of_mapM_eq_ok hys' b hb
      exact ⟨a, List.mem_cons_of_mem _ ha, hfa⟩

/-- Every element of a loop that returned has its result among the results. -/
theorem exists_of_mapM_eq_ok {α β : Type} {f : α → Py β} :
    ∀ {xs : List α} {ys : List β}, xs.mapM f = .ok ys → ∀ a ∈ xs, ∃ b ∈ ys, f a = .ok b
  | [], _, _, _, ha => by cases ha
  | x :: xs, _, h, a, ha => by
    rw [List.mapM_cons] at h
    obtain ⟨y, hy, h⟩ := bind_eq_ok.mp h
    obtain ⟨ys', hys', h⟩ := bind_eq_ok.mp h
    cases h
    rcases List.mem_cons.mp ha with rfl | ha
    · exact ⟨y, List.mem_cons_self _ _, hy⟩
    · obtain ⟨b, hb, hfb⟩ := exists_of_mapM_eq_ok hys' a ha
      exact ⟨b, List.mem_cons_of_mem _ hb, hfb⟩

/-- Some result of a loop that returned passes a test exactly when some element's result does. -/
theorem any_of_mapM_eq_ok {α β : Type} {f : α → Py β} {xs : List α} {ys : List β}
    (h : xs.mapM f = .ok ys) (p : β → Bool) :
    ys.any p = true ↔ ∃ a ∈ xs, ∃ b, f a = .ok b ∧ p b = true := by
  simp only [List.any_eq_true]
  constructor
  · rintro ⟨b, hb, hp⟩
    obtain ⟨a, ha, hfa⟩ := mem_of_mapM_eq_ok h b hb
    exact ⟨a, ha, b, hfa, hp⟩
  · rintro ⟨a, ha, b, hfa, hp⟩
    obtain ⟨b', hb', hfb'⟩ := exists_of_mapM_eq_ok h a ha
    cases hfa.symm.trans hfb'
    exact ⟨b, hb', hp⟩

/-- Adding elements to a set only ever adds those elements. -/
theorem mem_setAdd {y : JValue} {acc xs : List JValue} (h : y ∈ setAdd acc xs) : y ∈ acc ∨ y ∈ xs := by
  induction xs generalizing acc with
  | nil => exact .inl h
  | cons x xs ih =>
    rcases ih h with h | h
    · split at h
      · exact .inl h
      · rcases List.mem_append.mp h with h | h
        · exact .inl h
        · exact .inr (List.mem_singleton.mp h ▸ List.mem_cons_self x xs)
    · exact .inr (List.mem_cons_of_mem x h)

/-- What `pySetUpdate` returns: the set with the iterated elements added, all of them hashable. -/
theorem pySetUpdate_eq_ok {s existing : List JValue} {x : JValue} (h : pySetUpdate s x = .ok existing) :
    ∃ xs, pyIter x = .ok xs ∧ xs.all pyHashable ∧ existing = setAdd s xs := by
  obtain ⟨xs, hxs, h₁⟩ := bind_eq_ok.mp h
  by_cases hh : xs.all pyHashable
  · simp only [hh, if_true, pure, Except.pure, Except.ok.injEq] at h₁
    exact ⟨xs, hxs, hh, h₁.symm⟩
  · simp [hh, throw, throwThe, MonadExceptOf.throw] at h₁

/-- Python `==` between hashable values is transitive. -/
theorem pyKeyEq_trans {a b c : JValue} (hab : pyKeyEq a b = true) (hbc : pyKeyEq b c = true) :
    pyKeyEq a c = true := by
  cases a <;> cases b <;> cases c <;> simp_all [pyKeyEq]
  all_goals split at hab <;> split at hbc <;> simp_all <;> omega

/-- A value is in a set after adding elements when it was in the set or among them. -/
theorem any_setAdd (x : JValue) (acc xs : List JValue) :
    (setAdd acc xs).any (pyKeyEq x) = (acc.any (pyKeyEq x) || xs.any (pyKeyEq x)) := by
  induction xs generalizing acc with
  | nil => simp [setAdd]
  | cons y xs ih =>
    rw [setAdd, ih]
    split
    · next hy =>
      obtain ⟨z, hz, hyz⟩ := List.any_eq_true.mp hy
      cases hxy : pyKeyEq x y
      · simp [List.any_cons, hxy]
      · have : acc.any (pyKeyEq x) = true := List.any_eq_true.mpr ⟨z, hz, pyKeyEq_trans hxy hyz⟩
        simp [this]
    · simp [List.any_append, Bool.or_assoc]

/-- Python's `p in s` for strings is substring membership. -/
theorem pyContains.infixOf_iff (p : List Char) : ∀ s : List Char, pyContains.infixOf p s = true ↔ p <:+: s
  | [] => by simp [pyContains.infixOf, List.infix_nil]
  | c :: cs => by
    rw [pyContains.infixOf, Bool.or_eq_true, List.isPrefixOf_iff_prefix, pyContains.infixOf_iff p cs,
      List.infix_cons_iff]

/-- Replacing an absent text changes nothing. -/
theorem replaceAux_of_not_infix (old new : List Char) :
    ∀ (n : Nat) (s : List Char), pyContains.infixOf old s = false → replaceAux old new n s = s
  | 0, _, _ => rfl
  | _ + 1, [], _ => rfl
  | n + 1, c :: cs, h => by
    simp only [pyContains.infixOf, Bool.or_eq_false_iff] at h
    simp [replaceAux, h.1, replaceAux_of_not_infix old new n cs h.2]

end HadrianConformance
