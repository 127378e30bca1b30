import Http2.Spec.RecvSettings
import Http2.Spec.RecvAccounting
import Http2.Spec.SendCredit

/-!
# Connection-wide SETTINGS changes

`setInitialRecvWindow` and `setInitialSendWindow` call `incrementInitialWindow(delta)` on
every readable or writable stream, in any order. Each loop is the change on every stream as
if alone (`changed`), with the errors of the streams whose window would pass `2 ^ 31 - 1`; the
send loop stops at the connection's refusal. So the receive side's invariants and the send
side's reachability carry across a change.

## Key results

- `setInitialRecvWindow_changed`, `setInitialSendWindow_changed`: the two loops.
- `connSettingsRun_follows`: every readable stream follows the setting along every run.
- `setInitialRecvWindow_keeps`, `setInitialSendWindow_reachable`: the invariants kept.
-/

namespace Http2

/-- A change by `delta` would take the window `win` past the limit: the guard of both sides'
    `updateWindow`. -/
def Overflows (win delta : Int) : Prop := delta > 0 ∧ maxInitialWindowSize - delta < win

instance (win delta : Int) : Decidable (Overflows win delta) :=
  inferInstanceAs (Decidable (_ ∧ _))

/-- The errors both loops collect for the streams `ids`: for each, a `StreamError`
    "window size overflow" with `ErrCodeFlowControl`. -/
def overflowErrors (ids : List UInt32) : StreamErrorList :=
  ids.map fun id => ⟨.plain "window size overflow", .flowControl, id⟩

/-! ## The receive side -/

namespace RecvFlow

/-- `incrementInitialWindow` refuses exactly on a stream whose window would pass the limit. -/
theorem incrementInitialWindow_snd (c : RecvFlow) (id : UInt32) (delta : Int) :
    (c.incrementInitialWindow id delta).2 =
      if id ≠ 0 ∧ Overflows c.win delta then some (.plain "window size overflow") else none := by
  by_cases hid : id = 0
  · simp [incrementInitialWindow, hid]
  rcases incrementInitialWindow_cases hid c delta with ⟨hg, hg', hc⟩ | ⟨hg, hc⟩ <;> rw [hc]
  · exact (if_pos ⟨hid, hg, hg'⟩).symm
  · exact (if_neg fun h => hg h.2).symm

end RecvFlow

/-- The stream a call is made on. -/
def RecvCall.stream : RecvCall → UInt32
  | .consumeBytes id _ | .returnBytes id _ | .incrementWindow id _
  | .incrementInitialWindow id _ => id

namespace RecvSys

/-- The receive side after `incrementInitialWindow(delta)` on each stream of `ids` as if alone. -/
def changed (sys : RecvSys) (ids : List UInt32) (delta : Int) : RecvSys where
  flow id := if id ∈ ids then ((sys.flow id).incrementInitialWindow id delta).1 else sys.flow id
  queue := sys.queue

/-- The streams of `ids` whose receive controller refuses a change by `delta`, in order: those
    other than the connection whose window would pass the limit. -/
def refusing (sys : RecvSys) (ids : List UInt32) (delta : Int) : List UInt32 :=
  ids.filter fun id => decide (id ≠ 0 ∧ Overflows (sys.flow id).win delta)

variable {sys : RecvSys} {id : UInt32} {ids : List UInt32} {delta : Int}

theorem changed_nil (sys : RecvSys) (delta : Int) : sys.changed [] delta = sys := rfl

/-- The first stream's change, then the rest's. -/
theorem changed_cons (h : id ∉ ids) :
    sys.changed (id :: ids) delta = (sys.incrementInitialWindow id delta).1.changed ids delta := by
  simp only [changed, incrementInitialWindow_flow, incrementInitialWindow_queue]
  congr 1
  funext j
  rcases eq_or_ne j id with rfl | hj
  · simp [h]
  · simp [hj]

theorem refusing_cons : sys.refusing (id :: ids) delta =
    if id ≠ 0 ∧ Overflows (sys.flow id).win delta then id :: sys.refusing ids delta
    else sys.refusing ids delta := by
  simp only [refusing, List.filter_cons, decide_eq_true_eq]

/-- The change on one stream leaves the others' refusals alone. -/
theorem refusing_incrementInitialWindow (h : id ∉ ids) :
    (sys.incrementInitialWindow id delta).1.refusing ids delta = sys.refusing ids delta :=
  List.filter_congr fun j hj => by
    rw [incrementInitialWindow_flow, Function.update_noteq fun hji : j = id => h (hji ▸ hj)]

/-- The loop from any accumulated `errors`. -/
private theorem initialWindowLoop_eq (readable : UInt32 → Bool) (delta : Int) :
    ∀ (sys : RecvSys) (ids : List UInt32) (errors : StreamErrorList), ids.Nodup →
      initialWindowLoop readable delta sys ids errors =
        (sys.changed (ids.filter readable) delta,
          errors ++ overflowErrors (sys.refusing (ids.filter readable) delta))
  | sys, [], errors, _ => by simp [initialWindowLoop, changed_nil, refusing, overflowErrors]
  | sys, id :: ids, errors, hnd => by
    obtain ⟨hid, hnd⟩ := List.nodup_cons.1 hnd
    have hf : id ∉ ids.filter readable := fun h => hid (List.mem_of_mem_filter h)
    by_cases hr : readable id
    · have hsys : sys.incrementInitialWindow id delta =
          ((sys.incrementInitialWindow id delta).1, ((sys.flow id).incrementInitialWindow id delta).2) :=
        rfl
      have ih := initialWindowLoop_eq readable delta (sys.incrementInitialWindow id delta).1 ids
      rw [initialWindowLoop, if_pos hr, hsys, RecvFlow.incrementInitialWindow_snd,
        List.filter_cons_of_pos hr, changed_cons hf, refusing_cons,
        ← refusing_incrementInitialWindow hf]
      by_cases hc : id ≠ 0 ∧ Overflows (sys.flow id).win delta
      · -- refused: the error goes to the list
        rw [if_pos hc, if_pos hc]; dsimp only; rw [ih _ hnd]
        simp [StreamErrorList.add, overflowErrors]
      · rw [if_neg hc, if_neg hc]; dsimp only; rw [ih _ hnd]
    · rw [initialWindowLoop, if_neg hr, List.filter_cons_of_neg hr]
      exact initialWindowLoop_eq readable delta sys ids errors hnd

/-- **The receive loop is the change on every readable stream**, in any order, returning the
    list of the refusals: no refusal stops the loop. -/
theorem setInitialRecvWindow_changed (hnd : ids.Nodup) (hd : delta ≠ 0) (sys : RecvSys)
    (readable : UInt32 → Bool) :
    sys.setInitialRecvWindow readable ids delta =
      (sys.changed (ids.filter readable) delta,
        (overflowErrors (sys.refusing (ids.filter readable) delta)).err) := by
  simp only [setInitialRecvWindow, if_neg hd, initialWindowLoop_eq readable delta sys ids [] hnd,
    List.nil_append]

/-- Every controller at the limit: a raise by 1 is refused on streams 3 and 1, in the order
    of the range, and not on the connection. -/
theorem setInitialRecvWindow_changed_full :
    ([3, 0, 1] : List UInt32).Nodup ∧ (1 : Int) ≠ 0 ∧
      fullWindow.setInitialRecvWindow (fun _ => true) [3, 0, 1] 1 =
        (fullWindow.changed ([3, 0, 1].filter fun _ => true) 1,
          (overflowErrors (fullWindow.refusing ([3, 0, 1].filter fun _ => true) 1)).err) :=
  ⟨by decide, by decide, setInitialRecvWindow_changed (by decide) (by decide) _ _⟩

end RecvSys

/-! ## The send side -/

namespace RemoteFlow

variable {c : RemoteFlow} {id : UInt32} {delta : Int}

theorem incrementInitialWindow_refused (h : Overflows c.win delta) :
    c.incrementInitialWindow id delta = (c, some (overflowError id)) :=
  updateWindow_refused h

/-- `incrementInitialWindow` refuses exactly when the window would pass the limit. -/
theorem incrementInitialWindow_snd (c : RemoteFlow) (id : UInt32) (delta : Int) :
    (c.incrementInitialWindow id delta).2 =
      if Overflows c.win delta then some (overflowError id) else none := by
  by_cases h : Overflows c.win delta
  · rw [if_pos h, incrementInitialWindow_refused h]
  · have h' : ¬(delta > 0 ∧ maxInitialWindowSize - delta < c.win) := h
    rw [if_neg h, incrementInitialWindow, updateWindow, if_neg h']
    dsimp only
    repeat' split
    all_goals rfl

theorem overflowError_zero : overflowError 0 = .connError "window size overflow" .flowControl :=
  if_pos rfl

/-- A stream's refusal passes the type assertion `err.(StreamError)`. -/
theorem overflowError_asStreamError (h : id ≠ 0) :
    (overflowError id).asStreamError = some ⟨.plain "window size overflow", .flowControl, id⟩ := by
  simp [overflowError, h, Error.asStreamError]

end RemoteFlow

namespace SendSys

/-- The send side after `incrementInitialWindow(delta)` on each stream of `ids` as if alone, the
    accepted changes logged in order. -/
def changed (sys : SendSys) (ids : List UInt32) (delta : Int) : SendSys :=
  { sys with
    flow := fun id =>
      if id ∈ ids then ((sys.flow id).incrementInitialWindow id delta).1 else sys.flow id
    log := sys.log ++ (ids.filter fun id => decide ¬Overflows (sys.flow id).win delta).map
      (SendEvent.accepted · delta) }

/-- The streams of `ids` whose window a change by `delta` would take past the limit, in
    order. -/
def overflowing (sys : SendSys) (ids : List UInt32) (delta : Int) : List UInt32 :=
  ids.filter fun id => decide (Overflows (sys.flow id).win delta)

variable {sys : SendSys} {id : UInt32} {ids : List UInt32} {delta : Int}

@[simp] theorem applyIncrement_flow (r : RemoteFlow × Option Error) (j : UInt32) :
    (sys.applyIncrement id delta r).flow j = Function.update sys.flow id r.1 j := rfl

/-- A refused change leaves the send side as it was. -/
theorem applyIncrement_refused (sys : SendSys) (id : UInt32) (delta : Int) (e : Error) :
    sys.applyIncrement id delta (sys.flow id, some e) = sys := by
  simp [applyIncrement]

theorem changed_nil (sys : SendSys) (delta : Int) : sys.changed [] delta = sys := by
  simp [changed]

/-- The first stream's change, as the loop makes it, then the rest's. -/
theorem changed_cons (h : id ∉ ids) :
    sys.changed (id :: ids) delta =
      (sys.applyIncrement id delta ((sys.flow id).incrementInitialWindow id delta)).changed ids
        delta := by
  have hf : ∀ j ∈ ids, Function.update sys.flow id
      ((sys.flow id).incrementInitialWindow id delta).1 j = sys.flow j :=
    fun j hj => Function.update_noteq (fun hji : j = id => h (hji ▸ hj)) _ _
  have hfl : (ids.filter fun j => decide ¬Overflows (Function.update sys.flow id
      ((sys.flow id).incrementInitialWindow id delta).1 j).win delta) =
      ids.filter fun j => decide ¬Overflows (sys.flow j).win delta :=
    List.filter_congr fun j hj => by rw [hf j hj]
  unfold changed applyIncrement
  dsimp only
  congr 1
  · funext j
    rcases eq_or_ne j id with rfl | hj
    · simp [h]
    · simp [hj]
  · rw [hfl, List.filter_cons, RemoteFlow.incrementInitialWindow_snd]
    by_cases hov : Overflows (sys.flow id).win delta <;> simp [hov]

theorem overflowing_cons : sys.overflowing (id :: ids) delta =
    if Overflows (sys.flow id).win delta then id :: sys.overflowing ids delta
    else sys.overflowing ids delta := by
  simp only [overflowing, List.filter_cons, decide_eq_true_eq]

/-- The change on one stream leaves the others' windows alone. -/
theorem overflowing_applyIncrement (h : id ∉ ids) (r : RemoteFlow × Option Error) :
    (sys.applyIncrement id delta r).overflowing ids delta = sys.overflowing ids delta :=
  List.filter_congr fun j hj => by
    rw [applyIncrement_flow, Function.update_noteq fun hji : j = id => h (hji ▸ hj)]

/-- The loop over `pre` then `rest`, when the connection's controller is not among the
    writable streams of `pre` that refuse. -/
private theorem initialWindowLoop_append (writable : UInt32 → Bool) (delta : Int) :
    ∀ (sys : SendSys) (pre rest : List UInt32) (errors : StreamErrorList),
      (pre ++ rest).Nodup → (0 ∈ pre → writable 0 = true → ¬Overflows (sys.flow 0).win delta) →
      initialWindowLoop writable delta sys (pre ++ rest) errors =
        initialWindowLoop writable delta (sys.changed (pre.filter writable) delta) rest
          (errors ++ overflowErrors (sys.overflowing (pre.filter writable) delta))
  | sys, [], rest, errors, _, _ => by simp [changed_nil, overflowing, overflowErrors]
  | sys, id :: pre, rest, errors, hnd, h0 => by
    obtain ⟨hid, hnd⟩ := List.nodup_cons.1 hnd
    have hidp : id ∉ pre := fun h => hid (List.mem_append_left _ h)
    have hf : id ∉ pre.filter writable := fun h => hidp (List.mem_of_mem_filter h)
    -- stream 0's controller is still the one `h0` is about
    have h0' : ∀ r : RemoteFlow × Option Error, 0 ∈ pre → writable 0 = true →
        ¬Overflows ((sys.applyIncrement id delta r).flow 0).win delta := fun r h0p hw0 => by
      rw [applyIncrement_flow, Function.update_noteq fun h : (0 : UInt32) = id => hidp (h ▸ h0p)]
      exact h0 (.tail _ h0p) hw0
    rw [List.cons_append]
    by_cases hw : writable id
    · have ih := initialWindowLoop_append writable delta
        (sys.applyIncrement id delta ((sys.flow id).incrementInitialWindow id delta)) pre rest
      rw [initialWindowLoop, if_pos hw, List.filter_cons_of_pos hw, changed_cons hf,
        overflowing_cons,
        ← overflowing_applyIncrement hf ((sys.flow id).incrementInitialWindow id delta)]
      dsimp only
      rw [RemoteFlow.incrementInitialWindow_snd]
      by_cases hov : Overflows (sys.flow id).win delta
      · -- a stream's refusal: asserted to be a `StreamError` and appended
        have hid0 : id ≠ 0 := fun h => h0 (h ▸ .head _) (h ▸ hw) (h ▸ hov)
        rw [if_pos hov, if_pos hov]
        dsimp only
        rw [if_neg hid0, RemoteFlow.overflowError_asStreamError hid0, Option.some_bind,
          ih _ hnd (h0' _)]
        simp [overflowErrors]
      · rw [if_neg hov, if_neg hov]
        exact ih _ hnd (h0' _)
    · rw [initialWindowLoop, if_neg hw, List.filter_cons_of_neg hw]
      exact initialWindowLoop_append writable delta sys pre rest errors hnd
        fun h => h0 (.tail _ h)

/-- The loop to its end, when the connection's controller is not reached or accepts. -/
private theorem initialWindowLoop_of_accepts {writable : UInt32 → Bool} (hnd : ids.Nodup)
    (h0 : 0 ∈ ids → writable 0 = true → ¬Overflows (sys.flow 0).win delta) :
    initialWindowLoop writable delta sys ids [] =
      some (sys.changed (ids.filter writable) delta,
        (overflowErrors (sys.overflowing (ids.filter writable) delta)).err.map
          InitialWindowError.streams) := by
  have h := initialWindowLoop_append writable delta sys ids [] [] (by rwa [List.append_nil]) h0
  rw [List.append_nil] at h
  rw [h, initialWindowLoop, List.nil_append]

/-- The loop stops at the connection's controller when it refuses. -/
private theorem initialWindowLoop_of_refuses {writable : UInt32 → Bool} (hnd : ids.Nodup)
    (h0 : 0 ∈ ids) (hw : writable 0 = true) (hov : Overflows (sys.flow 0).win delta) :
    initialWindowLoop writable delta sys ids [] =
      some (sys.changed ((ids.filter writable).takeWhile (· != 0)) delta,
        some (.conn (RemoteFlow.overflowError 0))) := by
  obtain ⟨pre, post, rfl⟩ := List.append_of_mem h0
  have hpre : 0 ∉ pre := fun h => (List.nodup_append.1 hnd).2.2 h (.head _)
  have hfp : 0 ∉ pre.filter writable := fun h => hpre (List.mem_of_mem_filter h)
  have hflow : (sys.changed (pre.filter writable) delta).flow 0 = sys.flow 0 := if_neg hfp
  have hov' : Overflows ((sys.changed (pre.filter writable) delta).flow 0).win delta :=
    hflow ▸ hov
  rw [initialWindowLoop_append writable delta sys pre (0 :: post) [] hnd fun h => absurd h hpre,
    initialWindowLoop, if_pos hw]
  dsimp only
  rw [RemoteFlow.incrementInitialWindow_refused hov']
  dsimp only
  rw [if_pos rfl, applyIncrement_refused,
    List.filter_append, List.filter_cons_of_pos hw,
    List.takeWhile_append_of_pos fun a ha => bne_iff_ne.2 fun h : a = 0 => hfp (h ▸ ha),
    List.takeWhile_cons_of_neg (by simp), List.append_nil]

/-- **The send loop, where it stops, and what it returns.** It never panics; it stops at the
    connection's refusal, dropping the stream errors collected so far. -/
theorem setInitialSendWindow_changed (hnd : ids.Nodup) (hd : delta ≠ 0) (sys : SendSys)
    (writable : UInt32 → Bool) :
    sys.setInitialSendWindow writable ids delta =
      if 0 ∈ ids.filter writable ∧ Overflows (sys.flow 0).win delta then
        some (sys.changed ((ids.filter writable).takeWhile (· != 0)) delta,
          some (.conn (.connError "window size overflow" .flowControl)))
      else
        some (sys.changed (ids.filter writable) delta,
          (overflowErrors (sys.overflowing (ids.filter writable) delta)).err.map
            InitialWindowError.streams) := by
  rw [setInitialSendWindow, if_neg hd]
  split_ifs with h
  · obtain ⟨h0, hw⟩ := List.mem_filter.1 h.1
    rw [initialWindowLoop_of_refuses hnd h0 hw h.2, RemoteFlow.overflowError_zero]
  · exact initialWindowLoop_of_accepts hnd fun h0 hw hov => h ⟨List.mem_filter.2 ⟨h0, hw⟩, hov⟩

/-- The connection's own window, and stream 5's, at the limit; streams 1 and 3 at the
    default. -/
def connAtLimit : SendSys where
  flow id := if id = 0 ∨ id = 5 then ⟨maxInitialWindowSize, none⟩ else ⟨defaultInitialWindowSize, none⟩
  closed _ := false
  producers := []
  log := []

/-- A raise by 1 over streams 5, 1, 0, 3 in that order: stream 5 refuses, stream 1 takes the
    change, the connection refuses and the loop stops before stream 3. -/
theorem setInitialSendWindow_changed_connAtLimit :
    ([5, 1, 0, 3] : List UInt32).Nodup ∧ (1 : Int) ≠ 0 ∧
      connAtLimit.setInitialSendWindow (fun _ => true) [5, 1, 0, 3] 1 =
        if 0 ∈ [5, 1, 0, 3].filter (fun _ => true) ∧ Overflows (connAtLimit.flow 0).win 1 then
          some (connAtLimit.changed (([5, 1, 0, 3].filter fun _ => true).takeWhile (· != 0)) 1,
            some (.conn (.connError "window size overflow" .flowControl)))
        else
          some (connAtLimit.changed ([5, 1, 0, 3].filter fun _ => true) 1,
            (overflowErrors (connAtLimit.overflowing ([5, 1, 0, 3].filter fun _ => true) 1)).err.map
              InitialWindowError.streams) :=
  ⟨by decide, by decide, setInitialSendWindow_changed (by decide) (by decide) _ _⟩

/-! ### Reachability -/

theorem credit_applyIncrement_of_ne {j : UInt32} (hj : j ≠ id) (r : RemoteFlow × Option Error) :
    (sys.applyIncrement id delta r).credit j = sys.credit j := by
  simp [credit, held, applyIncrement, hj]

/-- An accepted change adds `delta` to the credit: the slot's credit, taken back into the
    window, is counted once. -/
theorem credit_incrementInitialWindow (hs : (sys.flow id).SlotPos)
    (hov : ¬Overflows (sys.flow id).win delta) :
    (sys.applyIncrement id delta ((sys.flow id).incrementInitialWindow id delta)).credit id =
      sys.credit id + delta := by
  have hcr := (@RemoteFlow.updateWindow_accepted _ id _ true hov hs).2.1
  simp [credit, held, applyIncrement, RemoteFlow.incrementInitialWindow, hcr]
  omega

/-- A change kept within the limit wherever it is accepted keeps to the protocol. -/
theorem bounded_incrementInitialWindow (hs : (sys.flow id).SlotPos)
    (hb : ¬Overflows (sys.flow id).win delta → sys.credit id + delta ≤ maxInitialWindowSize) :
    Bounded sys (sys.applyIncrement id delta ((sys.flow id).incrementInitialWindow id delta)) := by
  intro id' d hlog
  by_cases hov : Overflows (sys.flow id).win delta
  · rw [RemoteFlow.incrementInitialWindow_refused hov, applyIncrement_refused] at hlog
    simpa using congrArg List.length hlog
  · have hlog' : (sys.applyIncrement id delta ((sys.flow id).incrementInitialWindow id delta)).log =
        sys.log ++ [.accepted id delta] := by
      simp [applyIncrement, RemoteFlow.incrementInitialWindow_snd, hov]
    obtain ⟨rfl, -⟩ := SendEvent.accepted.inj
      (List.singleton_inj.1 (List.append_cancel_left (hlog'.symm.trans hlog)))
    rw [credit_incrementInitialWindow hs hov]
    exact hb hov

/-- Each step of the loop is a reader step that keeps to the protocol. -/
private theorem initialWindowLoop_reachable {s₀ : SendSys} (h₀ : Initial s₀)
    (writable : UInt32 → Bool) (delta : Int) :
    ∀ (sys : SendSys) (ids : List UInt32) (errors : StreamErrorList), Reachable s₀ sys →
      ids.Nodup →
      (∀ id ∈ ids, writable id = true → ¬Overflows (sys.flow id).win delta →
        sys.credit id + delta ≤ maxInitialWindowSize) →
      ∀ {sys' : SendSys} {e : Option InitialWindowError},
        initialWindowLoop writable delta sys ids errors = some (sys', e) → Reachable s₀ sys'
  | sys, [], errors, hs, _, _, _, _, h => by
    rw [initialWindowLoop, Option.some.injEq] at h
    exact (Prod.mk.inj h).1 ▸ hs
  | sys, id :: ids, errors, hs, hnd, hb, sys', e, h => by
    obtain ⟨hid, hnd⟩ := List.nodup_cons.1 hnd
    by_cases hw : writable id
    · have hs₁ : Reachable s₀
          (sys.applyIncrement id delta ((sys.flow id).incrementInitialWindow id delta)) :=
        .step hs (a := .incrementInitialWindow id delta) rfl
          (bounded_incrementInitialWindow ((inv_reachable h₀ hs).slotPos id) (hb id (.head _) hw))
      -- the other streams' windows and credits are as before
      have hb₁ : ∀ j ∈ ids, writable j = true → ¬Overflows ((sys.applyIncrement id delta
          ((sys.flow id).incrementInitialWindow id delta)).flow j).win delta →
          (sys.applyIncrement id delta ((sys.flow id).incrementInitialWindow id delta)).credit j +
            delta ≤ maxInitialWindowSize := fun j hj hwj => by
        have hji : j ≠ id := fun h => hid (h ▸ hj)
        rw [credit_applyIncrement_of_ne hji, applyIncrement_flow, Function.update_noteq hji]
        exact hb j (.tail _ hj) hwj
      rw [initialWindowLoop, if_pos hw] at h
      dsimp only at h
      split at h
      · exact initialWindowLoop_reachable h₀ writable delta _ ids errors hs₁ hnd hb₁ h
      · split_ifs at h
        · obtain ⟨rfl, -⟩ := Prod.mk.inj (Option.some.inj h)
          exact hs₁
        · obtain ⟨se, -, h⟩ := Option.bind_eq_some.1 h
          exact initialWindowLoop_reachable h₀ writable delta _ ids _ hs₁ hnd hb₁ h
    · rw [initialWindowLoop, if_neg hw] at h
      exact initialWindowLoop_reachable h₀ writable delta sys ids errors hs hnd
        (fun j hj => hb j (.tail _ hj)) h

/-- **A change the peer may make keeps the send side reachable**, whatever the loop returns. -/
theorem setInitialSendWindow_reachable {s₀ sys' : SendSys} (h₀ : Initial s₀)
    (hs : Reachable s₀ sys) (hnd : ids.Nodup) {writable : UInt32 → Bool}
    {e : Option InitialWindowError}
    (hb : ∀ id ∈ ids, writable id = true → ¬Overflows (sys.flow id).win delta →
      sys.credit id + delta ≤ maxInitialWindowSize)
    (h : sys.setInitialSendWindow writable ids delta = some (sys', e)) : Reachable s₀ sys' := by
  unfold setInitialSendWindow at h
  split_ifs at h
  · obtain ⟨rfl, -⟩ := Prod.mk.inj (Option.some.inj h)
    exact hs
  · exact initialWindowLoop_reachable h₀ writable delta sys ids [] hs hnd hb h

/-- From the fresh connection of `threeProducers`, the peer raises the setting by 100 on
    streams 1 and 3. -/
theorem setInitialSendWindow_reachable_three :
    (∀ id ∈ ([1, 3] : List UInt32), (fun _ => true) id = true →
        ¬Overflows (threeProducers.flow id).win 100 →
        threeProducers.credit id + 100 ≤ maxInitialWindowSize) ∧
      Reachable threeProducers ((threeProducers.setInitialSendWindow (fun _ => true) [1, 3] 100).getD
        (threeProducers, none)).1 :=
  have hb : ∀ id ∈ ([1, 3] : List UInt32), (fun _ => true) id = true →
      ¬Overflows (threeProducers.flow id).win 100 →
      threeProducers.credit id + 100 ≤ maxInitialWindowSize := by
    intro id hi _ _
    simp only [List.mem_cons, List.mem_singleton, List.not_mem_nil, or_false] at hi
    rcases hi with rfl | rfl <;> decide
  ⟨hb, setInitialSendWindow_reachable threeProducers_initial .init (by decide) hb rfl⟩

end SendSys

end Http2
