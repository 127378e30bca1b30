import Mathlib.Data.List.Defs

/-!
# Go strings

A Go string is a `List UInt8`, and a literal is its UTF-8 encoding, `bytes`. Reading `s[i]`
past the end is the run-time panic `index out of range`, returned as a `Panic` by `index`.
The byte functions of `strings` and the ASCII path of `ToLower` are translated; the Unicode
path of `ToLower` and `TrimSpace` are the fields of `Unicode`, with the facts of Go's tables
the code relies on, and every result about the header code holds for every `Unicode`.

## Key results

- `toLower_toLower`, `head_toLower`, `toLower_eq_nil`: lowering is idempotent and keeps the
  empty string and a leading `:`.
-/

namespace Http2

/-- The bytes of a Go string literal: its UTF-8 encoding, the bytes of `String.toUTF8`. -/
def bytes (s : String) : List UInt8 := s.data.flatMap String.utf8EncodeChar

/-- The byte `:`, which starts a pseudo-header name. -/
def colon : UInt8 := 58

/-- A Go run-time panic, `runtime error: index out of range [index] with length length`. -/
structure Panic where
  index : Nat
  length : Nat
  deriving DecidableEq, Repr

/-- Go's `s[i]`: the `i`-th element, or the panic of an index out of range. -/
def index {α : Type} (s : List α) (i : Nat) : Except Panic α :=
  match s[i]? with
  | some a => .ok a
  | none => .error ⟨i, s.length⟩

/-! ## Bytes -/

/-- `'A' <= c && c <= 'Z'`. -/
def isUpper (c : UInt8) : Bool := 65 ≤ c && c ≤ 90

/-- The ASCII path of `strings.ToLower` on one byte: `c += 'a' - 'A'` on an upper-case
    letter. -/
def lowerByte (c : UInt8) : UInt8 := if isUpper c then c + 32 else c

/-- Every byte is below `utf8.RuneSelf` (`0x80`). -/
def isAscii (s : List UInt8) : Bool := s.all (· < 128)

/-- `strings.IndexByte(s, c)`: the index of the first `c` in `s`, or `-1`. -/
def indexByte : List UInt8 → UInt8 → Int
  | [], _ => -1
  | b :: s, c => if b = c then 0 else if indexByte s c < 0 then -1 else indexByte s c + 1

/-- `strings.LastIndexByte(s, c)`: the index of the last `c` in `s`, or `-1`. -/
def lastIndexByte : List UInt8 → UInt8 → Int
  | [], _ => -1
  | b :: s, c =>
    if 0 ≤ lastIndexByte s c then lastIndexByte s c + 1 else if b = c then 0 else -1

/-- `strings.Split(s, sep)` for a one-byte separator: the pieces between the separators, and
    `[""]` for the empty string. -/
def splitByte (s : List UInt8) (sep : UInt8) : List (List UInt8) := s.splitOn sep

/-! ## The Unicode paths -/

/-- The parts of Go's `strings` package that the code reaches on non-ASCII input, with the
    facts of Go's Unicode tables the code relies on. -/
structure Unicode where
  /-- `strings.Map(unicode.ToLower, s)`, the path of `strings.ToLower` on a string with a
      byte of `0x80` or more. -/
  mapToLower : List UInt8 → List UInt8
  /-- `strings.TrimSpace`. -/
  trimSpace : List UInt8 → List UInt8
  /-- A non-empty string maps to a non-empty one. -/
  mapToLower_ne_nil : ∀ s, s ≠ [] → mapToLower s ≠ []
  /-- The first byte is `:` after mapping exactly when it was before. -/
  head_mapToLower : ∀ s, (mapToLower s).head? = some colon ↔ s.head? = some colon
  /-- No byte of the result is an upper-case ASCII letter: a multi-byte encoding has no byte
      below `0x80`. -/
  isUpper_mapToLower : ∀ s, ∀ c ∈ mapToLower s, isUpper c = false
  /-- Mapping twice is mapping once. -/
  mapToLower_idem : ∀ s, mapToLower (mapToLower s) = mapToLower s

/-- `strings.ToLower`: the byte map on an ASCII string, else
    `strings.Map(unicode.ToLower, s)`. -/
def toLower (u : Unicode) (s : List UInt8) : List UInt8 :=
  if isAscii s then s.map lowerByte else u.mapToLower s

/-! ## Lowering -/

theorem byte_le_iff (a b : UInt8) : a ≤ b ↔ a.toNat ≤ b.toNat := by
  simp only [UInt8.le_def, UInt8.toNat]; rfl

theorem byte_lt_iff (a b : UInt8) : a < b ↔ a.toNat < b.toNat := by
  simp only [UInt8.lt_def, UInt8.toNat]; rfl

theorem isUpper_iff (c : UInt8) : isUpper c = true ↔ 65 ≤ c.toNat ∧ c.toNat ≤ 90 := by
  simp only [isUpper, Bool.and_eq_true, decide_eq_true_eq, byte_le_iff]; rfl

theorem lowerByte_toNat (c : UInt8) :
    (lowerByte c).toNat = if 65 ≤ c.toNat ∧ c.toNat ≤ 90 then c.toNat + 32 else c.toNat := by
  by_cases h : 65 ≤ c.toNat ∧ c.toNat ≤ 90
  · have hadd : (c + 32).toNat = (c.toNat + 32) % 256 := by
      simp only [UInt8.add_def, UInt8.toNat, BitVec.toNat_add]; rfl
    rw [if_pos h, lowerByte, if_pos ((isUpper_iff c).2 h), hadd]
    omega
  · rw [if_neg h, lowerByte, if_neg (mt (isUpper_iff c).1 h)]

theorem isUpper_lowerByte (c : UInt8) : isUpper (lowerByte c) = false := by
  have h := lowerByte_toNat c
  cases hu : isUpper (lowerByte c)
  · rfl
  · rw [isUpper_iff] at hu; split at h <;> omega

theorem lowerByte_of_not_isUpper {c : UInt8} (h : isUpper c = false) : lowerByte c = c := by
  simp [lowerByte, h]

theorem lowerByte_eq_colon (c : UInt8) : lowerByte c = colon ↔ c = colon := by
  have h := lowerByte_toNat c
  constructor
  · intro hc
    rw [hc] at h
    apply UInt8.toNat.inj
    change 58 = _ at h
    change c.toNat = 58
    split at h <;> omega
  · rintro rfl; rfl

theorem lowerByte_lt (c : UInt8) : lowerByte c < 128 ↔ c < 128 := by
  have h := lowerByte_toNat c
  rw [byte_lt_iff, byte_lt_iff]
  change _ < 128 ↔ _ < 128
  split at h <;> omega

theorem isAscii_map_lowerByte (s : List UInt8) : isAscii (s.map lowerByte) = isAscii s := by
  simp only [isAscii, List.all_map]
  congr 1
  funext c
  simp only [Function.comp, lowerByte_lt]

theorem toLower_of_isAscii (u : Unicode) {s : List UInt8} (h : isAscii s = true) :
    toLower u s = s.map lowerByte := by
  simp [toLower, h]

/-- A string with no byte at or above `0x7f` and no upper-case letter is its own lower
    case. -/
theorem toLower_of_lower (u : Unicode) {s : List UInt8}
    (h : ∀ c ∈ s, c < 127 ∧ isUpper c = false) : toLower u s = s := by
  have ha : isAscii s = true := by
    simp only [isAscii, List.all_eq_true, decide_eq_true_eq]
    intro c hc
    have := (byte_lt_iff _ _).1 (h c hc).1
    exact (byte_lt_iff _ _).2 (Nat.lt_succ_of_lt this)
  rw [toLower_of_isAscii u ha]
  exact (List.map_congr_left fun c hc => lowerByte_of_not_isUpper (h c hc).2).trans (List.map_id s)

/-- Every byte of a lowered string is not an upper-case letter. -/
theorem isUpper_toLower (u : Unicode) (s : List UInt8) : ∀ c ∈ toLower u s, isUpper c = false := by
  unfold toLower
  split
  · simp only [List.mem_map]
    rintro _ ⟨c, -, rfl⟩
    exact isUpper_lowerByte c
  · exact u.isUpper_mapToLower s

theorem toLower_toLower (u : Unicode) (s : List UInt8) : toLower u (toLower u s) = toLower u s := by
  by_cases ha : isAscii (toLower u s)
  · rw [toLower_of_isAscii u ha]
    exact (List.map_congr_left fun c hc => lowerByte_of_not_isUpper (isUpper_toLower u s c hc)).trans
      (List.map_id _)
  · have hs : isAscii s = false := by
      cases hs : isAscii s
      · rfl
      · rw [toLower_of_isAscii u hs, isAscii_map_lowerByte, hs] at ha; exact absurd rfl ha
    simp only [toLower, hs, Bool.false_eq_true, ↓reduceIte] at ha ⊢
    simp only [ha, Bool.false_eq_true, ↓reduceIte, u.mapToLower_idem]

theorem toLower_eq_nil (u : Unicode) (s : List UInt8) : toLower u s = [] ↔ s = [] := by
  unfold toLower
  split
  · exact List.map_eq_nil_iff
  · constructor
    · intro h; by_contra hs; exact u.mapToLower_ne_nil s hs h
    · rintro rfl; simp [isAscii] at *

theorem head_toLower (u : Unicode) (s : List UInt8) :
    (toLower u s).head? = some colon ↔ s.head? = some colon := by
  unfold toLower
  split
  · cases s with
    | nil => simp
    | cons c s => simp [lowerByte_eq_colon]
  · exact u.head_mapToLower s

/-! ## A lawful library -/

/-- The bytes `strings.TrimSpace` removes from the ends of an ASCII string: `\t`, `\n`,
    `\v`, `\f`, `\r` and space. -/
def isAsciiSpace (c : UInt8) : Bool := c == 32 || (9 ≤ c && c ≤ 13)

/-- `strings` as it acts on ASCII text: its laws hold, so a statement over every `Unicode` is
    not vacuous. -/
def Unicode.ascii : Unicode where
  mapToLower := List.map lowerByte
  trimSpace s := ((s.dropWhile isAsciiSpace).reverse.dropWhile isAsciiSpace).reverse
  mapToLower_ne_nil _ hs := mt List.map_eq_nil_iff.1 hs
  head_mapToLower s := by cases s <;> simp [lowerByte_eq_colon]
  isUpper_mapToLower s := by
    simp only [List.mem_map]
    rintro _ ⟨c, -, rfl⟩
    exact isUpper_lowerByte c
  mapToLower_idem s := by
    rw [List.map_map]
    exact List.map_congr_left fun c _ => lowerByte_of_not_isUpper (isUpper_lowerByte c)

end Http2
