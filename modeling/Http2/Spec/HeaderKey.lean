import Http2.Native.Header

/-!
# Canonical header keys are lower-cased keys

`CanonicalHTTP2HeaderKey` takes two fast paths before `strings.ToLower`: the `commonHeader`
table, whose every entry maps a key to its lower case (`commonHeader_lower`, over `init`'s
loop), and a valid key, which is its own lower case. So the canonical key is the lower-cased
key on every string.

## Key results

- `canonical_key_lower`: the canonical key is `strings.ToLower`, and `Set`, `Get`, `Add` and
  `Del` agree on keys with one lower case.
-/

namespace Http2

/-! ## The `commonHeader` table -/

/-- An entry `List.lookup` finds is in the list. -/
theorem mem_of_lookup_eq_some {l : List (List UInt8 × List UInt8)} {s v : List UInt8}
    (h : l.lookup s = some v) : (s, v) ∈ l := by
  induction l with
  | nil => cases h
  | cons e l ih =>
    obtain ⟨k, w⟩ := e
    rw [List.lookup_cons] at h
    cases hk : s == k <;> simp only [hk] at h
    · exact List.mem_cons_of_mem _ (ih h)
    · cases h; rw [beq_iff_eq.1 hk]; exact List.mem_cons_self _ _

/-- One pass of `init`'s loop keeps every entry mapping its key to its lower case. -/
theorem commonHeaderStep_lower (u : Unicode) {m : List (List UInt8 × List UInt8)}
    (hm : ∀ e ∈ m, e.2 = toLower u e.1) (v : String) :
    ∀ e ∈ commonHeaderStep u m v, e.2 = toLower u e.1 := by
  simp only [commonHeaderStep, List.mem_cons]
  rintro e (rfl | rfl | he)
  · exact (toLower_toLower u _).symm
  · rfl
  · exact hm e he

/-- Every entry `init` writes into `commonHeader` maps its key to the key's lower case. -/
theorem commonHeader_lower (u : Unicode) : ∀ e ∈ commonHeader u, e.2 = toLower u e.1 := by
  suffices ∀ (names : List String) (m : List (List UInt8 × List UInt8)),
      (∀ e ∈ m, e.2 = toLower u e.1) →
        ∀ e ∈ names.foldl (commonHeaderStep u) m, e.2 = toLower u e.1 from
    this commonHeaderNames [] (by simp)
  intro names
  induction names with
  | nil => exact fun _ hm => hm
  | cons v names ih => exact fun m hm => ih _ (commonHeaderStep_lower u hm v)

/-! ## The canonical key -/

/-- A valid key is its own lower case. -/
theorem toLower_of_validHeaderKey (u : Unicode) {s : List UInt8} (h : validHeaderKey s = true) :
    toLower u s = s := by
  apply toLower_of_lower
  simp only [validHeaderKey, Bool.and_eq_true, List.all_eq_true, Bool.not_eq_true',
    Bool.or_eq_false_iff, decide_eq_false_iff_not] at h
  intro c hc
  obtain ⟨h₁, h₂⟩ := h.2 c hc
  exact ⟨(byte_lt_iff _ _).2 (Nat.lt_of_not_le (mt (byte_le_iff _ _).2 h₁)), h₂⟩

/-- `CanonicalHTTP2HeaderKey` is `strings.ToLower` on every string. -/
theorem canonicalHTTP2HeaderKey_eq_toLower (u : Unicode) (s : List UInt8) :
    canonicalHTTP2HeaderKey u s = toLower u s := by
  unfold canonicalHTTP2HeaderKey
  split
  · rename_i v hv
    exact commonHeader_lower u _ (mem_of_lookup_eq_some hv)
  · split
    · rename_i hs; exact (toLower_of_validHeaderKey u hs).symm
    · rfl

/-! ## The accessors -/

/-- `Header.Add` reads the key only through its lower case, its emptiness and whether it
    starts with `:`, and lowering keeps the last two. -/
theorem Add_eq_of_toLower_eq (u : Unicode) (h : Header) {k₁ k₂ : List UInt8}
    (v : List UInt8) (hk : toLower u k₁ = toLower u k₂) : h.Add u k₁ v = h.Add u k₂ v := by
  have hnil : k₁ = [] ↔ k₂ = [] := by
    rw [← toLower_eq_nil u k₁, ← toLower_eq_nil u k₂, hk]
  have hhead : k₁.head? = some colon ↔ k₂.head? = some colon := by
    rw [← head_toLower u k₁, ← head_toLower u k₂, hk]
  cases k₁ with
  | nil => rw [hnil.1 rfl]
  | cons c₁ r₁ =>
    cases k₂ with
    | nil => exact absurd (hnil.2 rfl) (List.cons_ne_nil _ _)
    | cons c₂ r₂ =>
      simp only [List.head?_cons, Option.some.injEq] at hhead
      simp only [Header.Add, index, List.getElem?_cons_zero, Except.map,
        canonicalHTTP2HeaderKey_eq_toLower, hk, ne_eq, hhead]

/-- `CanonicalHTTP2HeaderKey` is `strings.ToLower`; so `Set`, `Get`, `Add` and `Del` give one
    result for any two keys with the same lower case. -/
theorem canonical_key_lower (u : Unicode) :
    (∀ s, canonicalHTTP2HeaderKey u s = toLower u s) ∧
    ∀ (h : Header) (k₁ k₂ v : List UInt8), toLower u k₁ = toLower u k₂ →
      h.Set u k₁ v = h.Set u k₂ v ∧ h.Get u k₁ = h.Get u k₂ ∧ h.Del u k₁ = h.Del u k₂ ∧
        h.Add u k₁ v = h.Add u k₂ v := by
  refine ⟨canonicalHTTP2HeaderKey_eq_toLower u, fun h k₁ k₂ v hk => ?_⟩
  simp only [Header.Set, Header.Get, Header.Del, canonicalHTTP2HeaderKey_eq_toLower, hk,
    Add_eq_of_toLower_eq u h v hk, and_self]

end Http2
