import Http2.Spec.HeaderKey

/-!
# One spec lemma per header call

The map lemmas of `Header` and the spec lemma of each call on it, the decoder's `add` and the
exported `Add`, on the empty key and on a non-empty one; later proofs cite these and never
unfold the calls.

## Key results

- `Get_Set_Del_Add`: `Get` reads back `Set`, `Del` and `Add` by the key's lower case.
- `containsValue_iff`: what `containsValue` checks.
-/

namespace Http2

namespace Header

/-! ## The map -/

@[simp] theorem find_empty (k : List UInt8) : (∅ : Header).find k = [] := rfl

@[simp] theorem len_empty : (∅ : Header).len = 0 := rfl

theorem find_store (h : Header) (k k' : List UInt8) (vv : List (List UInt8)) :
    (h.store k vv).find k' = if k' = k then vv else h.find k' := by
  unfold find store
  split
  · subst_vars; rw [AList.lookup_insert]; rfl
  · rw [AList.lookup_insert_ne ‹_›]

theorem find_delete (h : Header) (k k' : List UInt8) :
    (h.delete k).find k' = if k' = k then [] else h.find k' := by
  unfold find delete
  split
  · subst_vars; rw [AList.lookup_erase]; rfl
  · rw [AList.lookup_erase_ne ‹_›]

/-- A getter reads back the first value of a store, and only under its key. -/
theorem get_store (h : Header) (k k' : List UInt8) (vv : List (List UInt8)) :
    (h.store k vv).get k' = if k' = k then vv.headD [] else h.get k' := by
  unfold get
  rw [find_store]
  split <;> rfl

theorem get_delete (h : Header) (k k' : List UInt8) :
    (h.delete k).get k' = if k' = k then [] else h.get k' := by
  unfold get
  rw [find_delete]
  split <;> rfl

theorem mem_keys_store {h : Header} {k k' : List UInt8} {vv : List (List UInt8)}
    (hk : k' ∈ (h.store k vv).keys) : k' = k ∨ k' ∈ h.keys := by
  exact ((AList.mem_insert h).1 (AList.mem_keys.2 hk)).imp_right AList.mem_keys.1

theorem add_nil (h : Header) (v : List UInt8) : h.add [] v = .error ⟨0, 0⟩ := rfl

theorem Add_nil (u : Unicode) (h : Header) (v : List UInt8) : h.Add u [] v = .error ⟨0, 0⟩ :=
  rfl

/-- `Add` on a non-empty key: nothing for a pseudo-header name, else the value appended under
    the key's lower case. -/
theorem Add_cons (u : Unicode) (h : Header) (c : UInt8) (r v : List UInt8) :
    h.Add u (c :: r) v = .ok (if c = colon then h else
      h.store (toLower u (c :: r)) (h.find (toLower u (c :: r)) ++ [v])) := by
  by_cases hc : c = colon <;>
    simp [Add, index, Except.map, hc, canonicalHTTP2HeaderKey_eq_toLower]

/-! ## Reading back -/

/-- `Get` is `get` at the key's lower case. -/
theorem Get_eq_get (u : Unicode) (h : Header) (k : List UInt8) :
    h.Get u k = h.get (toLower u k) := by
  rw [Get, canonicalHTTP2HeaderKey_eq_toLower]; rfl

/-- **The header is a map keyed by the lower-cased key**, for `Set`, `Del` and `Add` on a
    non-empty key (nothing for a pseudo-header name). -/
theorem Get_Set_Del_Add (u : Unicode) (h : Header) (k k' v : List UInt8) :
    (h.Set u k v).Get u k' = (if toLower u k' = toLower u k then v else h.Get u k') ∧
    (h.Del u k).Get u k' = (if toLower u k' = toLower u k then [] else h.Get u k') ∧
    ∀ c r, ∃ h', h.Add u (c :: r) v = .ok h' ∧
      h'.Get u k' = if c ≠ colon ∧ toLower u k' = toLower u (c :: r) then
        (h.find (toLower u (c :: r)) ++ [v]).headD [] else h.Get u k' := by
  refine ⟨?_, ?_, fun c r => ⟨_, Add_cons u h c r v, ?_⟩⟩
  · rw [Get_eq_get, Get_eq_get, Set, canonicalHTTP2HeaderKey_eq_toLower, get_store,
      List.headD_cons]
  · rw [Get_eq_get, Get_eq_get, Del, canonicalHTTP2HeaderKey_eq_toLower, get_delete]
  · by_cases hc : c = colon
    · rw [if_pos hc, if_neg fun h => h.1 hc]
    · rw [if_neg hc, Get_eq_get, Get_eq_get, get_store]
      by_cases hk : toLower u k' = toLower u (c :: r)
      · rw [if_pos hk, if_pos ⟨hc, hk⟩]
      · rw [if_neg hk, if_neg fun h => hk h.2]

/-! ## Header values -/

section Values

variable (equalFold : List UInt8 → List UInt8 → Bool)

theorem foldsIn_iff (v : List UInt8) (ss : List (List UInt8)) :
    foldsIn equalFold v ss = true ↔ ∃ s ∈ ss, equalFold v s = true := by
  induction ss with
  | nil => simp [foldsIn]
  | cons s ss ih => by_cases h : equalFold v s <;> simp [foldsIn, h, ih]

theorem containsLoop_iff (ss values : List (List UInt8)) :
    containsLoop equalFold ss values = true ↔ ∀ v ∈ values, ∃ s ∈ ss, equalFold v s = true := by
  induction values with
  | nil => simp [containsLoop]
  | cons v values ih =>
    rw [List.forall_mem_cons, ← foldsIn_iff, ← ih, containsLoop]
    cases foldsIn equalFold v ss <;> simp

/-- The pieces come from the first field whose key folds to `key`. -/
theorem splitFields_eq (u : Unicode) (key : List UInt8)
    (fields : List (Σ _ : List UInt8, List (List UInt8))) :
    splitFields equalFold u key fields =
      ((fields.find? fun e => equalFold key e.1).map fun e =>
        e.2.flatMap fun vv => (splitByte vv 44).map u.trimSpace).getD [] := by
  induction fields with
  | nil => rfl
  | cons e fields ih =>
    obtain ⟨k, v⟩ := e
    by_cases h : equalFold key k <;> simp [splitFields, List.find?_cons, h, ih]

/-- **What `containsValue` checks**: the first field whose key folds to `key` has a value, and
    every given value folds to one of its trimmed comma-separated pieces. -/
theorem containsValue_iff (u : Unicode) (header : Header) (key : List UInt8)
    (values : List (List UInt8)) :
    containsValue equalFold u header key values = true ↔
      ∃ e ∈ header.entries.find? (fun e => equalFold key e.1), e.2 ≠ [] ∧
        ∀ v ∈ values, ∃ vv ∈ e.2, ∃ s ∈ splitByte vv 44, equalFold v (u.trimSpace s) = true := by
  unfold containsValue splitHeader
  rw [splitFields_eq]
  cases hf : header.entries.find? (fun e => equalFold key e.1) with
  | none => simp
  | some e =>
    obtain ⟨k, vs⟩ := e
    -- every value gives at least one piece, so there are pieces exactly when there are values
    have hne : (vs.flatMap fun vv => (splitByte vv 44).map u.trimSpace) = [] ↔ vs = [] := by
      cases vs with
      | nil => simp
      | cons vv vs => simp [splitByte, List.splitOn, List.splitOnP_ne_nil]
    simp only [Option.map_some', Option.getD_some, Option.mem_def, Option.some.injEq,
      exists_eq_left', List.length_eq_zero, hne]
    split_ifs with h
    · simp [h]
    · simp only [h, if_false, containsLoop_iff, List.mem_flatMap, List.mem_map, ne_eq,
        not_false_eq_true, true_and]
      exact forall₂_congr fun v _ =>
        ⟨fun ⟨_, ⟨vv, hvv, s, hs, he⟩, hfold⟩ => ⟨vv, hvv, s, hs, he ▸ hfold⟩,
          fun ⟨vv, hvv, s, hs, hfold⟩ => ⟨_, ⟨vv, hvv, s, hs, rfl⟩, hfold⟩⟩

end Values

end Header

end Http2
