import Http2.Spec.HeaderCalls

/-!
# The header list of an outgoing request

`requestToHeader` sets the pseudo-header fields, then copies `req.Header` through `Header.Add`,
which never writes a key that starts with `:`, under keys `addHeader` has lowered and checked.
So every header list it returns holds the pseudo-header fields it set and regular keys
otherwise. It guarantees no more: a CONNECT request gets no `:method`, an empty key or an
empty `te` panics, any one `te` value is copied, and `0x7f` passes as a key.

## Key results

- `requestToHeader_fields`: what every header list `requestToHeader` returns satisfies.
- `requestToHeader_panics`, `request_header_malformed`: where it panics, or returns less.
-/

namespace Http2

/-! ## Successful calls -/

theorem except_bind_eq_ok {ε α β : Type} {x : Except ε α} {f : α → Except ε β} {b : β} :
    x.bind f = .ok b ↔ ∃ a, x = .ok a ∧ f a = .ok b := by
  cases x <;> simp [Except.bind]

theorem except_map_eq_ok {ε α β : Type} {x : Except ε α} {f : α → β} {b : β} :
    x.map f = .ok b ↔ ∃ a, x = .ok a ∧ f a = b := by
  cases x <;> simp [Except.map]

theorem except_bind_eq_error {ε α β : Type} {x : Except ε α} {f : α → Except ε β} {e : ε} :
    x.bind f = .error e ↔ x = .error e ∨ ∃ a, x = .ok a ∧ f a = .error e := by
  cases x <;> simp [Except.bind]

theorem except_map_eq_error {ε α β : Type} {x : Except ε α} {f : α → β} {e : ε} :
    x.map f = .error e ↔ x = .error e := by
  cases x <;> simp [Except.map]

/-- A key `addHeader` may add: non-empty, not starting with `:`, its own lower case, and not a
    connection-specific field. -/
def RegularKey (u : Unicode) (k : List UInt8) : Prop :=
  k ≠ [] ∧ k.head? ≠ some colon ∧ toLower u k = k ∧ badHeader k = false

namespace Header

/-! ## The copy of `req.Header` -/

/-- `h'` is `h` with fields added under regular keys only: every key that starts with `:`
    holds what it held, and every key of `h'` is a key of `h` or regular. -/
def Grows (u : Unicode) (h h' : Header) : Prop :=
  (∀ k, k.head? = some colon → h'.find k = h.find k) ∧
    ∀ k ∈ h'.keys, k ∈ h.keys ∨ RegularKey u k

theorem Grows.refl (u : Unicode) (h : Header) : Grows u h h :=
  ⟨fun _ _ => rfl, fun _ hk => .inl hk⟩

theorem Grows.trans {u : Unicode} {h₁ h₂ h₃ : Header} (h₁₂ : Grows u h₁ h₂)
    (h₂₃ : Grows u h₂ h₃) : Grows u h₁ h₃ :=
  ⟨fun k hk => (h₂₃.1 k hk).trans (h₁₂.1 k hk), fun k hk => (h₂₃.2 k hk).elim (h₁₂.2 k) .inr⟩

/-- A store under a regular key. -/
theorem grows_store (u : Unicode) (h : Header) {k : List UInt8} (vv : List (List UInt8))
    (hk : RegularKey u k) : Grows u h (h.store k vv) := by
  refine ⟨fun k' hk' => ?_, fun k' hk' => (mem_keys_store hk').elim (fun e => .inr (e ▸ hk)) .inl⟩
  rw [find_store, if_neg]
  rintro rfl
  exact hk.2.1 hk'

/-- `Add` under a key that is its own lower case and not connection-specific: a store under a
    regular key, or nothing. -/
theorem Add_grows (u : Unicode) {h h' : Header} {k v : List UInt8} (hk : toLower u k = k)
    (hb : badHeader k = false) (hr : h.Add u k v = .ok h') : Grows u h h' := by
  cases k with
  | nil => rw [Add_nil] at hr; cases hr
  | cons c r =>
    rw [Add_cons, hk] at hr
    obtain rfl := Except.ok.inj hr
    split
    · exact Grows.refl u h
    · exact grows_store u h _ ⟨List.cons_ne_nil c r, by simpa, hk, hb⟩

theorem addValues_grows (u : Unicode) {k : List UInt8} (hk : toLower u k = k)
    (hb : badHeader k = false) (vv : List (List UInt8)) :
    ∀ {h h' : Header}, addValues u h k vv = .ok h' → Grows u h h' := by
  induction vv with
  | nil => intro h h' hr; obtain rfl := Except.ok.inj hr; exact Grows.refl u h
  | cons v vv ih =>
    intro h h' hr
    obtain ⟨h₁, h₁eq, hr⟩ := except_bind_eq_ok.1 hr
    exact (Add_grows u hk hb h₁eq).trans (ih hr)

theorem addCookies_grows (u : Unicode) {k : List UInt8} (hk : toLower u k = k)
    (hb : badHeader k = false) (vv : List (List UInt8)) :
    ∀ {h h' : Header}, addCookies u h k vv = .ok h' → Grows u h h' := by
  induction vv with
  | nil => intro h h' hr; obtain rfl := Except.ok.inj hr; exact Grows.refl u h
  | cons v vv ih =>
    intro h h' hr
    obtain ⟨h₁, h₁eq, hr⟩ := except_bind_eq_ok.1 hr
    exact (addValues_grows u hk hb _ h₁eq).trans (ih hr)

/-- `addHeader` keeps every pseudo-header field and adds regular keys only, over every list of
    fields, whether it copies them all or stops at a refused `te` field. -/
theorem addHeader_grows (u : Unicode) (fields : List (Σ _ : List UInt8, List (List UInt8))) :
    ∀ {h h' : Header} {e : Option MalformedError},
      addHeader u h fields = .ok (e, h') → Grows u h h' := by
  induction fields with
  | nil => intro h h' e hr; cases Except.ok.inj hr; exact Grows.refl u h
  | cons f fields ih =>
    obtain ⟨k, vv⟩ := f
    intro h h' e hr
    have hk := toLower_toLower u k
    simp only [addHeader, canonicalHTTP2HeaderKey_eq_toLower] at hr
    split at hr
    next => exact ih hr
    next hbad =>
      have hb := Bool.eq_false_iff.2 hbad
      split at hr
      · obtain ⟨h₁, h₁eq, hr⟩ := except_bind_eq_ok.1 hr
        exact (addCookies_grows u hk hb _ h₁eq).trans (ih hr)
      · obtain ⟨t, -, hr⟩ := except_bind_eq_ok.1 hr
        cases t with
        | some v => cases Except.ok.inj hr; exact Grows.refl u h
        | none =>
          obtain ⟨h₁, h₁eq, hr⟩ := except_bind_eq_ok.1 hr
          exact (addValues_grows u hk hb _ h₁eq).trans (ih hr)

/-! ## The pseudo-header fields -/

theorem find_setPseudo (key : List UInt8) (h : Header) (v k : List UInt8) :
    (setPseudo key h v).find k = if k = key then [v] else h.find k :=
  find_store h key k [v]

end Header

open Header

/-- `requestPseudo` without `skipVerify`, when it does not refuse the request: nothing for
    CONNECT; otherwise `:method`, then some `:scheme` and some `:path`. -/
theorem requestPseudo_eq_ok {req : Request} {h : Header} (hr : requestPseudo req false = .ok h) :
    (req.method = bytes "CONNECT" ∧ h = ∅) ∨ (req.method ≠ bytes "CONNECT" ∧
      ∃ s p, h = (((∅ : Header).setMethod req.method).setScheme s).setPath p) := by
  simp only [requestPseudo] at hr
  split at hr
  · rename_i hm
    refine .inr ⟨hm, ?_⟩
    obtain ⟨h₁, hs, hp⟩ := except_bind_eq_ok.1 hr
    obtain ⟨s, rfl⟩ : ∃ s, h₁ = ((∅ : Header).setMethod req.method).setScheme s := by
      split at hs
      · exact ⟨_, (Except.ok.inj hs).symm⟩
      · split at hs
        · exact ⟨_, (Except.ok.inj hs).symm⟩
        · simp at hs
    split at hp
    · exact ⟨s, _, (Except.ok.inj hp).symm⟩
    · simp at hp
  · exact .inl ⟨not_not.1 ‹_›, (Except.ok.inj hr).symm⟩

/-- A header list `requestToHeader` returns: the pseudo-header fields and `:authority`, then
    the fields of `req.Header` copied with no `te` field refused. -/
theorem requestToHeader_eq_ok {u : Unicode} {req : Request} {sv : Bool} {h : Header}
    (hr : requestToHeader u req sv = .ok (.ok h)) : ∃ h₀, requestPseudo req sv = .ok h₀ ∧
      addHeader u (h₀.setAuthority req.url.host) req.header.entries = .ok (none, h) := by
  unfold requestToHeader at hr
  split at hr
  · cases hr
  · rename_i h₀ hp
    obtain ⟨⟨e, h'⟩, hadd, he⟩ := except_map_eq_ok.1 hr
    cases e with
    | some e => cases he
    | none => cases he; exact ⟨h₀, hp, hadd⟩

/-! ## Requests with one field -/

/-- `https://example.com/`. -/
def exampleURL : URL := ⟨bytes "https", bytes "example.com", [], bytes "/", by decide⟩

/-- The pseudo-header fields `requestToHeader` sets for a GET request for `exampleURL`. -/
def exampleHeader : Header :=
  ((((∅ : Header).setMethod (bytes "GET")).setScheme (bytes "https")).setPath
    (bytes "/")).setAuthority (bytes "example.com")

/-- A GET request for `exampleURL` with one field. -/
def getWith (k : List UInt8) (vv : List (List UInt8)) : Request :=
  ⟨bytes "GET", exampleURL, (∅ : Header).store k vv⟩

/-- A CONNECT request to `example.com:443` with no field. -/
def connectExample : Request :=
  ⟨bytes "CONNECT", ⟨[], bytes "example.com:443", [], bytes "/", by decide⟩, ∅⟩

/-- `requestToHeader` on `getWith k vv`: `addHeader` of the one field over `exampleHeader`. -/
theorem requestToHeader_getWith (u : Unicode) (k : List UInt8) (vv : List (List UInt8)) :
    requestToHeader u (getWith k vv) false = (addHeader u exampleHeader [⟨k, vv⟩]).map fun
      | (some e, _) => .error e
      | (none, h) => .ok h := rfl

/-! ## What a returned header list holds -/

/-- What `requestToHeader` guarantees of a header list `h` for `req`: `:authority` is the host,
    `:method`, `:scheme` and `:path` one value each (none for CONNECT), other keys regular. -/
def RequestHeaderFields (u : Unicode) (req : Request) (h : Header) : Prop :=
  h.find (bytes ":authority") = [req.url.host] ∧
  (req.method ≠ bytes "CONNECT" → h.find (bytes ":method") = [req.method] ∧
    (h.find (bytes ":scheme")).length = 1 ∧ (h.find (bytes ":path")).length = 1) ∧
  (req.method = bytes "CONNECT" → h.find (bytes ":method") = [] ∧
    h.find (bytes ":scheme") = [] ∧ h.find (bytes ":path") = []) ∧
  ∀ k ∈ h.keys, k ∈ [":method", ":scheme", ":authority", ":path"].map bytes ∨ RegularKey u k

/-- The copy keeps the pseudo-header fields and adds regular keys only, so it keeps
    `RequestHeaderFields`. -/
theorem RequestHeaderFields.grows {u : Unicode} {req : Request} {h h' : Header}
    (hf : RequestHeaderFields u req h) (hg : Grows u h h') : RequestHeaderFields u req h' := by
  unfold RequestHeaderFields
  rw [hg.1 (bytes ":authority") rfl, hg.1 (bytes ":method") rfl, hg.1 (bytes ":scheme") rfl,
    hg.1 (bytes ":path") rfl]
  exact ⟨hf.1, hf.2.1, hf.2.2.1, fun k hk => (hg.2 k hk).elim (hf.2.2.2 k) .inr⟩

/-- The pseudo-header fields and `:authority`, set before the copy. -/
theorem requestPseudo_fields (u : Unicode) {req : Request} {h₀ : Header}
    (hp : requestPseudo req false = .ok h₀) :
    RequestHeaderFields u req (h₀.setAuthority req.url.host) := by
  have hma : bytes ":method" ≠ bytes ":authority" := by decide
  have hsa : bytes ":scheme" ≠ bytes ":authority" := by decide
  have hpa : bytes ":path" ≠ bytes ":authority" := by decide
  have hms : bytes ":method" ≠ bytes ":scheme" := by decide
  have hmp : bytes ":method" ≠ bytes ":path" := by decide
  have hsp : bytes ":scheme" ≠ bytes ":path" := by decide
  rcases requestPseudo_eq_ok hp with ⟨hm, rfl⟩ | ⟨hm, s, p, rfl⟩
  · refine ⟨by simp [setAuthority, find_setPseudo], fun hc => absurd hm hc,
      fun _ => by simp [setAuthority, find_setPseudo, hma, hsa, hpa], fun k hk => .inl ?_⟩
    rcases mem_keys_store hk with rfl | hk
    · decide
    · exact absurd hk (List.not_mem_nil k)
  · refine ⟨by simp [setAuthority, find_setPseudo], fun _ => ?_, fun hc => absurd hc hm,
      fun k hk => .inl ?_⟩
    · simp [setAuthority, setPath, setScheme, setMethod, find_setPseudo, hma, hsa, hpa, hms, hmp,
        hsp]
    rcases mem_keys_store hk with rfl | hk
    · decide
    rcases mem_keys_store hk with rfl | hk
    · decide
    rcases mem_keys_store hk with rfl | hk
    · decide
    rcases mem_keys_store hk with rfl | hk
    · decide
    · exact absurd hk (List.not_mem_nil k)

/-- Every header list `requestToHeader` returns without `skipVerify` has the pseudo-header
    fields it set, and regular keys besides. -/
theorem requestToHeader_fields (u : Unicode) (req : Request) (h : Header)
    (hr : requestToHeader u req false = .ok (.ok h)) : RequestHeaderFields u req h := by
  obtain ⟨h₀, hp, hadd⟩ := requestToHeader_eq_ok hr
  exact (requestPseudo_fields u hp).grows (addHeader_grows u _ hadd)

theorem requestToHeader_fields_accept :
    requestToHeader Unicode.ascii (getWith (bytes "accept") [bytes "text/html"]) false =
        .ok (.ok (exampleHeader.store (bytes "accept") [bytes "text/html"])) ∧
      RequestHeaderFields Unicode.ascii (getWith (bytes "accept") [bytes "text/html"])
        (exampleHeader.store (bytes "accept") [bytes "text/html"]) := by
  have hr : requestToHeader Unicode.ascii (getWith (bytes "accept") [bytes "text/html"]) false =
      .ok (.ok (exampleHeader.store (bytes "accept") [bytes "text/html"])) := by
    have hk : toLower Unicode.ascii (bytes "accept") = bytes "accept" :=
      toLower_of_validHeaderKey _ rfl
    rw [requestToHeader_getWith]
    simp only [addHeader, addValues, Header.Add, canonicalHTTP2HeaderKey_eq_toLower, hk]
    rfl
  exact ⟨hr, requestToHeader_fields _ _ _ hr⟩

/-! ## Panics -/

namespace Header

/-- `addValues` panics only under the empty key, with a value to add. -/
theorem addValues_panic {u : Unicode} {k : List UInt8} {vv : List (List UInt8)} {p : Panic} :
    ∀ {h : Header}, addValues u h k vv = .error p → p = ⟨0, 0⟩ ∧ k = [] ∧ vv ≠ [] := by
  induction vv with
  | nil => intro h hr; cases hr
  | cons v vv ih =>
    intro h hr
    cases k with
    | nil => cases hr; exact ⟨rfl, rfl, List.cons_ne_nil v vv⟩
    | cons c r =>
      rw [addValues, Add_cons] at hr
      exact absurd (ih hr).2.1 (List.cons_ne_nil c r)

/-- `addCookies` panics only under the empty key. -/
theorem addCookies_panic {u : Unicode} {k : List UInt8} {vv : List (List UInt8)} {p : Panic} :
    ∀ {h : Header}, addCookies u h k vv = .error p → p = ⟨0, 0⟩ ∧ k = [] := by
  induction vv with
  | nil => intro h hr; cases hr
  | cons v vv ih =>
    intro h hr
    rcases except_bind_eq_error.1 hr with hr | ⟨h₁, -, hr⟩
    · exact ⟨(addValues_panic hr).1, (addValues_panic hr).2.1⟩
    · exact ih hr

/-- The `te` check panics only on a `te` field with no value. -/
theorem teRejected_panic {u : Unicode} {k : List UInt8} {vv : List (List UInt8)} {p : Panic}
    (hr : teRejected u k vv = .error p) : p = ⟨0, 0⟩ ∧ k = bytes "te" ∧ vv = [] := by
  unfold teRejected at hr
  split at hr
  next hc =>
    cases vv with
    | nil => cases hr; exact ⟨rfl, hc.1, rfl⟩
    | cons v vv => simp [index, Except.map] at hr
  next => cases hr

/-- `addHeader` panics only on a field with an empty key and a value, or with a key that
    lowers to `te` and no value. -/
theorem addHeader_panic (u : Unicode) (fields : List (Σ _ : List UInt8, List (List UInt8))) :
    ∀ {h : Header} {p : Panic}, addHeader u h fields = .error p → p = ⟨0, 0⟩ ∧
      ∃ f ∈ fields, (f.1 = [] ∧ f.2 ≠ []) ∨ (toLower u f.1 = bytes "te" ∧ f.2 = []) := by
  induction fields with
  | nil => intro h p hr; cases hr
  | cons f fields ih =>
    obtain ⟨k, vv⟩ := f
    intro h p hr
    simp only [addHeader, canonicalHTTP2HeaderKey_eq_toLower] at hr
    split at hr
    next => exact (ih hr).imp_right List.exists_mem_cons_of_exists
    next =>
      split at hr
      next hc =>
        rcases except_bind_eq_error.1 hr with hr | ⟨h₁, -, hr⟩
        · have hnil := (addCookies_panic hr).2
          rw [hc] at hnil
          cases hnil
        · exact (ih hr).imp_right List.exists_mem_cons_of_exists
      next =>
        rcases except_bind_eq_error.1 hr with hr | ⟨t, -, hr⟩
        · obtain ⟨hp, hte, hvv⟩ := teRejected_panic hr
          exact ⟨hp, List.exists_mem_cons_of _ (.inr ⟨hte, hvv⟩)⟩
        · cases t with
          | some v => cases hr
          | none =>
            rcases except_bind_eq_error.1 hr with hr | ⟨h₁, -, hr⟩
            · obtain ⟨hp, hk, hvv⟩ := addValues_panic hr
              exact ⟨hp, List.exists_mem_cons_of _ (.inl ⟨(toLower_eq_nil u k).1 hk, hvv⟩)⟩
            · exact (ih hr).imp_right List.exists_mem_cons_of_exists

end Header

/-- On a non-nil request with a non-nil URL, which a `Request` is, `requestToHeader` panics
    only on an empty key with a value or an empty `te` field, at index `0` of length `0`. -/
theorem requestToHeader_panics (u : Unicode) (req : Request) (sv : Bool) (p : Panic)
    (hr : requestToHeader u req sv = .error p) : p = ⟨0, 0⟩ ∧ ∃ f ∈ req.header.entries,
      (f.1 = [] ∧ f.2 ≠ []) ∨ (toLower u f.1 = bytes "te" ∧ f.2 = []) := by
  unfold requestToHeader at hr
  split at hr
  · cases hr
  · exact addHeader_panic u _ (except_map_eq_error.1 hr)

theorem requestToHeader_panics_emptyKey :
    requestToHeader Unicode.ascii (getWith [] [bytes "x"]) false = .error ⟨0, 0⟩ ∧
      (⟨0, 0⟩ : Panic) = ⟨0, 0⟩ ∧ ∃ f ∈ (getWith [] [bytes "x"]).header.entries,
        (f.1 = [] ∧ f.2 ≠ []) ∨ (toLower Unicode.ascii f.1 = bytes "te" ∧ f.2 = []) := by
  have hr : requestToHeader Unicode.ascii (getWith [] [bytes "x"]) false = .error ⟨0, 0⟩ := by
    rw [requestToHeader_getWith]
    simp only [addHeader, addValues, Header.Add, canonicalHTTP2HeaderKey_eq_toLower,
      (toLower_eq_nil Unicode.ascii []).2 rfl]
    rfl
  exact ⟨hr, requestToHeader_panics _ _ _ _ hr⟩

/-! ## Requests served against the rules -/

/-- Requests served against the specification's rules, for every `Unicode`: CONNECT without
    `:method`, two panics, `te: gzip` copied, and the invalid key `0x7f` copied. -/
theorem request_header_malformed (u : Unicode) :
    requestToHeader u connectExample false =
        .ok (.ok ((∅ : Header).setAuthority (bytes "example.com:443"))) ∧
      ((∅ : Header).setAuthority (bytes "example.com:443")).find (bytes ":method") = [] ∧
    requestToHeader u (getWith [] [bytes "x"]) false = .error ⟨0, 0⟩ ∧
    requestToHeader u (getWith (bytes "te") []) false = .error ⟨0, 0⟩ ∧
    requestToHeader u (getWith (bytes "te") [bytes "gzip"]) false =
      .ok (.ok (exampleHeader.store (bytes "te") [bytes "gzip"])) ∧
    validHeaderKey [127] = false ∧
    requestToHeader u (getWith [127] [bytes "x"]) false =
      .ok (.ok (exampleHeader.store [127] [bytes "x"])) := by
  have hnil : toLower u [] = [] := (toLower_eq_nil u []).2 rfl
  have hte : toLower u (bytes "te") = bytes "te" := toLower_of_validHeaderKey u rfl
  have hdel : toLower u [127] = [127] := by
    rw [toLower_of_isAscii u (show isAscii [127] = true from rfl)]; rfl
  refine ⟨rfl, rfl, ?_, ?_, ?_, rfl, ?_⟩ <;> rw [requestToHeader_getWith] <;>
    simp only [addHeader, addValues, Header.Add, canonicalHTTP2HeaderKey_eq_toLower, hnil, hte,
      hdel] <;> rfl

end Http2
