import Http2.Native.Settings

/-!
# The settings store

`Settings` with `SetValue` and `Value` is a finite map with defaults: a call fails exactly on
a value out of its id's range and then changes nothing, every id reads the last value written
to it, and a write adds no second entry. `SetValue` and `value` both use the first entry of
an id, so an initial list with an id twice stays consistent.

## Key results

- `settings_store`: the store over any initial list and any sequence of calls.
- `pushEnabled_setPushEnabled`: the one typed accessor that is not `Value` or `SetValue` as
  it is.
-/

namespace Http2

/-- The ranges of the specification's settings table: ENABLE_PUSH in `{0, 1}`,
    INITIAL_WINDOW_SIZE at most `2 ^ 31 - 1`, MAX_FRAME_SIZE in `[16384, 16777215]`. -/
def OutOfRange (id : UInt16) (v : UInt32) : Prop :=
  (id = settingEnablePush ∧ 2 ≤ v.toNat) ∨
  (id = settingInitialWindowSize ∧ 2147483647 < v.toNat) ∨
  (id = settingMaxFrameSize ∧ (v.toNat < 16384 ∨ 16777215 < v.toNat))

instance (id : UInt16) (v : UInt32) : Decidable (OutOfRange id v) :=
  inferInstanceAs (Decidable (_ ∨ _ ∨ _))

namespace Settings

/-- `SetValue` for each call in turn, whatever it returns. -/
def runSetValue (s : Settings) : List (UInt16 × UInt32) → Settings
  | [] => s
  | (id, v) :: calls => runSetValue (s.setValue id v).1 calls

/-- The value of the last call for `id` whose value is in range, if any. -/
def lastSet (id : UInt16) : List (UInt16 × UInt32) → Option UInt32
  | [] => none
  | (id', v) :: calls =>
    (lastSet id calls).or (if id' = id ∧ ¬ OutOfRange id' v then some v else none)

/-! ## One call -/

private theorem word_le_iff (a b : UInt32) : a ≤ b ↔ a.toNat ≤ b.toNat := by
  simp only [UInt32.le_def, UInt32.toNat]; rfl

private theorem word_lt_iff (a b : UInt32) : a < b ↔ a.toNat < b.toNat := by
  simp only [UInt32.lt_def, UInt32.toNat]; rfl

/-- `SetValue`'s check is the table's range. -/
theorem validValue_iff (id : UInt16) (v : UInt32) :
    validValue id v = true ↔ ¬ OutOfRange id v := by
  have h24 : settingEnablePush ≠ settingInitialWindowSize := by decide
  have h25 : settingEnablePush ≠ settingMaxFrameSize := by decide
  have h45 : settingInitialWindowSize ≠ settingMaxFrameSize := by decide
  unfold validValue OutOfRange
  by_cases h₁ : id = settingEnablePush
  · subst h₁
    have h2 : (2 : UInt32).toNat = 2 := rfl
    simp only [↓reduceIte, decide_eq_true_eq, word_lt_iff, h2, h24, h25, true_and, false_and,
      or_false]
    omega
  by_cases h₂ : id = settingInitialWindowSize
  · subst h₂
    simp only [↓reduceIte, h24.symm, h45, decide_eq_true_eq, maxInitialWindowSize, true_and,
      false_and, false_or, or_false]
    omega
  by_cases h₃ : id = settingMaxFrameSize
  · subst h₃
    have hlo : maxFrameSizeLowerBound.toNat = 16384 := rfl
    have hhi : maxFrameSizeUpperBound.toNat = 16777215 := rfl
    simp only [↓reduceIte, h25.symm, h45.symm, Bool.and_eq_true, decide_eq_true_eq, word_le_iff,
      hlo, hhi, true_and, false_and, false_or]
    omega
  · simp only [h₁, h₂, h₃, ↓reduceIte, false_and, or_self, not_false_eq_true]

/-- The first entry with `id'` after writing `id`: the new value if the ids agree. -/
theorem value_setFirst (s : Settings) (id id' : UInt16) (v : UInt32) :
    (setFirst s id v).value id' = if id = id' then some v else s.value id' := by
  induction s with
  | nil => simp [setFirst, value]
  | cons x s ih =>
    by_cases hx : x.id = id
    · subst hx; by_cases h : x.id = id' <;> simp [setFirst, value, h]
    · by_cases h : x.id = id'
      · subst h; simp [setFirst, value, hx, Ne.symm hx]
      · simp [setFirst, value, hx, h, ih]

/-- `Value` after one call: the call's value if it is for `id'` and in range. -/
theorem Value_setValue (s : Settings) (id id' : UInt16) (v : UInt32) :
    (s.setValue id v).1.Value id' = if id = id' ∧ ¬ OutOfRange id v then v else s.Value id' := by
  by_cases hv : validValue id v
  · have hr := (validValue_iff id v).1 hv
    by_cases h : id = id'
    · subst h; simp [setValue, hv, Value, value_setFirst, hr]
    · simp [setValue, hv, Value, value_setFirst, h]
  · have hr : OutOfRange id v := Classical.not_not.1 (mt (validValue_iff id v).2 hv)
    simp [setValue, hv, hr]

/-- A call fails exactly on a value out of its id's range. -/
theorem setValue_fails_iff (s : Settings) (id : UInt16) (v : UInt32) :
    (s.setValue id v).2.isSome ↔ OutOfRange id v := by
  have h := validValue_iff id v
  cases hv : validValue id v <;> simp_all [setValue]

/-- A failed call leaves the settings as they were. -/
theorem setValue_of_outOfRange (s : Settings) {id : UInt16} {v : UInt32}
    (h : OutOfRange id v) : (s.setValue id v).1 = s := by
  have : validValue id v = false := by
    cases hv : validValue id v
    · rfl
    · exact absurd h ((validValue_iff id v).1 hv)
  simp [setValue, this]

/-- `SetPushEnabled` never fails: it writes 1 or 0, both in ENABLE_PUSH's range. `PushEnabled`
    then reads back the flag, and every other setting reads as before. -/
theorem pushEnabled_setPushEnabled (s : Settings) (b : Bool) :
    (s.setPushEnabled b).2 = none ∧ (s.setPushEnabled b).1.pushEnabled = b ∧
      ∀ id ≠ settingEnablePush, (s.setPushEnabled b).1.Value id = s.Value id := by
  have hr : ¬ OutOfRange settingEnablePush (if b then 1 else 0) := by cases b <;> decide
  refine ⟨Option.not_isSome_iff_eq_none.1 (mt (setValue_fails_iff s _ _).1 hr), ?_,
    fun id hid => by rw [setPushEnabled, Value_setValue, if_neg fun h => hid h.1.symm]⟩
  rw [pushEnabled, setPushEnabled, Value_setValue, if_pos ⟨rfl, hr⟩]
  cases b <;> rfl

/-- Writing an id that has an entry keeps the list of ids. -/
theorem ids_setFirst {s : Settings} {id : UInt16} (v : UInt32) (h : id ∈ s.map Setting.id) :
    (setFirst s id v).map Setting.id = s.map Setting.id := by
  induction s with
  | nil => simp at h
  | cons x s ih =>
    by_cases hx : x.id = id
    · simp [setFirst, hx]
    · have h' : id ∈ s.map Setting.id := by
        simp only [List.map_cons, List.mem_cons] at h
        exact h.resolve_left (Ne.symm hx)
      simp [setFirst, hx, ih h']

/-! ## Runs of calls -/

/-- `Value` after any run of calls: the last value in range written to `id`, or the initial
    list's `Value`. -/
theorem Value_runSetValue (s : Settings) (calls : List (UInt16 × UInt32)) (id : UInt16) :
    (s.runSetValue calls).Value id = (lastSet id calls).getD (s.Value id) := by
  induction calls generalizing s with
  | nil => rfl
  | cons c calls ih =>
    obtain ⟨id', v⟩ := c
    simp only [runSetValue, ih, Value_setValue, lastSet]
    by_cases h : id' = id ∧ ¬ OutOfRange id' v
    · rw [if_pos h, if_pos h]; cases lastSet id calls <;> rfl
    · rw [if_neg h, if_neg h]; cases lastSet id calls <;> rfl

/-- From any initial list and over any sequence of calls: failure exactly out of range, and
    then no change; every id reads its last write in range, or its initial `Value`; no new ids. -/
theorem settings_store (s : Settings) (calls : List (UInt16 × UInt32)) :
    (∀ (t : Settings) id v, (t.setValue id v).2.isSome ↔ OutOfRange id v) ∧
    (∀ (t : Settings) id v, OutOfRange id v → (t.setValue id v).1 = t) ∧
    (∀ id, (s.runSetValue calls).Value id = (lastSet id calls).getD (s.Value id)) ∧
    (∀ (t : Settings) id v, id ∈ t.map Setting.id →
      (t.setValue id v).1.map Setting.id = t.map Setting.id) := by
  refine ⟨setValue_fails_iff, fun t _ _ h => setValue_of_outOfRange t h,
    Value_runSetValue s calls, fun t id v h => ?_⟩
  unfold setValue
  split
  · exact ids_setFirst v h
  · rfl

end Settings

end Http2
