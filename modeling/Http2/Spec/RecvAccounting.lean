import Http2.Spec.RecvWindow

/-!
# Two-level receive accounting

A stream's `consumeBytes` and `returnBytes` first make the same call on the connection, so
the connection's `consumedBytes()` should stay the sum of its streams' (`Books`). It does,
except when the stream's half of `returnBytes` refuses after the connection's half has
already taken the bytes back.

## Key results

- `books_run`: every run without a `ConnError` or a failing `returnBytes` keeps `Books`.
- `return_splits_levels`: a `returnBytes` that splits the two levels.
-/

namespace Http2

namespace RecvFlow

variable {c : RecvFlow} {id : UInt32}

@[simp] theorem windowUpdate_consumedBytes (c : RecvFlow) (id : UInt32) :
    (c.windowUpdate id).1.consumedBytes = c.consumedBytes := by
  rcases windowUpdate_cases c id with h | h | ⟨-, -, h⟩ <;> rw [h]
  simp only [consumedBytes]; omega

@[simp] theorem consumeOwn_consumedBytes (c : RecvFlow) (id : UInt32) (n : Int) :
    (c.consumeOwn id n).1.consumedBytes = c.consumedBytes + n := by
  simp only [consumeOwn_fst, consumedBytes]; omega

theorem returnOwn_consumedBytes {delta : Int} (he : (c.returnOwn id delta).2.1 = none) :
    (c.returnOwn id delta).1.consumedBytes = c.consumedBytes - delta := by
  rcases returnOwn_cases c id delta with ⟨-, h⟩ | ⟨-, h⟩ <;> rw [h] at he ⊢
  · cases he
  · rw [windowUpdate_consumedBytes]; simp only [consumedBytes]; omega

@[simp] theorem incrementInitialWindow_consumedBytes (c : RecvFlow) (id : UInt32) (delta : Int) :
    (c.incrementInitialWindow id delta).1.consumedBytes = c.consumedBytes := by
  by_cases hid : id = 0
  · rw [incrementInitialWindow, if_pos hid]
  rcases incrementInitialWindow_cases hid c delta with ⟨-, -, h⟩ | ⟨-, h⟩ <;> rw [h]
  simp only [consumedBytes, updateInitialWindow_win, updateInitialWindow_processedWin]; omega

@[simp] theorem incrementWindow_consumedBytes (c : RecvFlow) (id : UInt32) (delta : Int) :
    (c.incrementWindow id delta).1.consumedBytes = c.consumedBytes := by
  rw [incrementWindow, windowUpdate_consumedBytes]
  simp only [consumedBytes, updateInitialWindow_win, updateInitialWindow_processedWin]

/-- The connection's half of `consumeBytes` refuses with a `ConnError`. -/
theorem consumeOwn_conn_error {n : Int} {e : Error} (h : (c.consumeOwn 0 n).2 = some e) :
    e = .connError "window size limit exceeded" .flowControl := by
  rw [consumeOwn_snd] at h
  split_ifs at h
  cases h
  exact if_pos rfl

end RecvFlow

/-- A sum over distinct ids that changes at `i` alone changes by the difference at `i`. -/
theorem sum_map_eq_add {ids : List UInt32} (hnd : ids.Nodup) {i : UInt32} (hi : i ∈ ids)
    {u v : UInt32 → Int} (h : ∀ j ∈ ids, j ≠ i → v j = u j) :
    (ids.map v).sum = (ids.map u).sum + (v i - u i) := by
  induction ids with
  | nil => cases hi
  | cons j ids ih =>
    obtain ⟨hj, hnd⟩ := List.nodup_cons.1 hnd
    simp only [List.map_cons, List.sum_cons]
    rcases List.mem_cons.1 hi with rfl | hi
    · have : (ids.map v).sum = (ids.map u).sum :=
        congrArg List.sum (List.map_congr_left fun k hk => h k (.tail _ hk) fun hki => hj (hki ▸ hk))
      omega
    · rw [h j (.head _) (fun hji => hj (hji ▸ hi)), ih hnd hi fun k hk => h k (.tail _ hk)]
      omega

/-- The calls on the streams `ids`, and the calls that raise any controller's window. -/
def RecvCall.Within (ids : List UInt32) : RecvCall → Prop
  | .consumeBytes id _ | .returnBytes id _ => id ∈ ids
  | .incrementWindow .. | .incrementInitialWindow .. => True

instance (ids : List UInt32) : DecidablePred (RecvCall.Within ids)
  | .consumeBytes id _ | .returnBytes id _ => inferInstanceAs (Decidable (id ∈ ids))
  | .incrementWindow .. | .incrementInitialWindow .. => isTrue trivial

/-- The outcomes of a call that keep the two levels in step: a `returnBytes` that succeeded,
    or a call of another kind that returned no `ConnError`. -/
def RecvCall.InStep : RecvCall → Option Error → Prop
  | .returnBytes .., e => e = none
  | _, e => ∀ msg code, e ≠ some (.connError msg code)

namespace RecvSys

variable {ids : List UInt32} {sys : RecvSys}

/-- The connection's `consumedBytes()` is the sum of those of the streams `ids`. -/
def Books (ids : List UInt32) (sys : RecvSys) : Prop :=
  (sys.flow 0).consumedBytes = (ids.map fun id => (sys.flow id).consumedBytes).sum

/-- A call that keeps every controller's `consumedBytes()` keeps the books. -/
theorem books_update (h : Books ids sys) {i : UInt32} {x : RecvFlow}
    (hx : x.consumedBytes = (sys.flow i).consumedBytes) (q : List WindowUpdateFrame) :
    Books ids ⟨Function.update sys.flow i x, q⟩ := by
  have heq : ∀ j, (Function.update sys.flow i x j).consumedBytes = (sys.flow j).consumedBytes :=
    fun j => by rcases eq_or_ne j i with rfl | hj <;> simp [*]
  unfold Books at *
  simp only [heq]
  exact h

/-- Both halves of a stream's call moved `consumedBytes()` by the same `d`: the books stay. -/
theorem books_both (hnd : ids.Nodup) (h0 : 0 ∉ ids) (h : Books ids sys) {i : UInt32}
    (hi : i ∈ ids) {c0 ci : RecvFlow} {d : Int}
    (hc0 : c0.consumedBytes = (sys.flow 0).consumedBytes + d)
    (hci : ci.consumedBytes = (sys.flow i).consumedBytes + d) (q : List WindowUpdateFrame) :
    Books ids ⟨Function.update (Function.update sys.flow 0 c0) i ci, q⟩ := by
  have hi0 : i ≠ 0 := fun h => h0 (h ▸ hi)
  have hs := sum_map_eq_add hnd hi (u := fun j => (sys.flow j).consumedBytes)
    (v := fun j => (Function.update (Function.update sys.flow 0 c0) i ci j).consumedBytes)
    fun j hj hji => by
      dsimp only
      rw [Function.update_noteq hji, Function.update_noteq fun h : j = 0 => h0 (h ▸ hj)]
  unfold Books at *
  dsimp only at hs ⊢
  rw [hs]
  simp only [Function.update_same, Function.update_noteq hi0.symm]
  omega

/-- A call on the streams `ids` keeps the books, unless it returns a `ConnError` or is a
    `returnBytes` that fails. -/
theorem books_apply (hnd : ids.Nodup) (h0 : 0 ∉ ids) (h : Books ids sys) {call : RecvCall}
    (hw : call.Within ids) (he : call.InStep (sys.apply call).2) : Books ids (sys.apply call).1 := by
  cases call with
  | consumeBytes i n =>
    have hi0 : i ≠ 0 := fun h => h0 (h ▸ hw)
    by_cases hn : 0 < n
    · cases hc : ((sys.flow 0).consumeOwn 0 n).2 with
      | some e =>
        rw [apply, consumeBytes_of_conn_error hi0 hn hc] at he
        exact absurd (congrArg some (RecvFlow.consumeOwn_conn_error hc)) (he _ _)
      | none =>
        rw [apply, consumeBytes_of_conn hi0 hn hc]
        exact books_both hnd h0 h hw (RecvFlow.consumeOwn_consumedBytes _ 0 n)
          (RecvFlow.consumeOwn_consumedBytes _ i n) _
    · rwa [apply, consumeBytes_of_nonpos (Int.not_lt.1 hn)]
  | returnBytes i d =>
    have hi0 : i ≠ 0 := fun h => h0 (h ▸ hw)
    cases hc : ((sys.flow 0).returnOwn 0 d).2.1 with
    | some e => rw [apply, returnBytes_of_conn_error hi0 hc] at he; cases he
    | none =>
      rw [apply, returnBytes_of_conn hi0 hc] at he ⊢
      exact books_both hnd h0 h hw (RecvFlow.returnOwn_consumedBytes hc)
        (RecvFlow.returnOwn_consumedBytes he) _
  | incrementWindow i d =>
    exact books_update h (RecvFlow.incrementWindow_consumedBytes _ i d) _
  | incrementInitialWindow i d =>
    exact books_update h (RecvFlow.incrementInitialWindow_consumedBytes _ i d) _

/-- Every run of calls on the streams `ids` in which no call returns a `ConnError` and no
    `returnBytes` fails keeps the connection's `consumedBytes()` the sum of the streams'. -/
theorem books_run (hnd : ids.Nodup) (h0 : 0 ∉ ids) (h : Books ids sys) {calls : List RecvCall}
    (hw : ∀ call ∈ calls, call.Within ids)
    (he : ∀ r ∈ calls.zip (sys.run calls).2, r.1.InStep r.2) : Books ids (sys.run calls).1 := by
  induction calls generalizing sys with
  | nil => exact h
  | cons call calls ih =>
    rw [run_cons, List.zip_cons_cons] at he
    exact ih (books_apply hnd h0 h (hw call (.head _)) (he _ (.head _)))
      (fun c hc => hw c (.tail _ hc)) fun r hr => he r (.tail _ hr)

/-- Stream 3 consumes 100 bytes and returns 50 of them. -/
def consumeReturn : List RecvCall := [.consumeBytes 3 100, .returnBytes 3 50]

theorem books_run_consumeReturn :
    [(1 : UInt32), 3].Nodup ∧ (0 : UInt32) ∉ [1, 3] ∧ Books [1, 3] freshRecv ∧
      (∀ call ∈ consumeReturn, call.Within [1, 3]) ∧
      (∀ r ∈ consumeReturn.zip (freshRecv.run consumeReturn).2, r.1.InStep r.2) ∧
      Books [1, 3] (freshRecv.run consumeReturn).1 := by
  have hb : Books [1, 3] freshRecv := by unfold Books; decide
  have hw : ∀ call ∈ consumeReturn, call.Within [1, 3] := by decide
  have he : ∀ r ∈ consumeReturn.zip (freshRecv.run consumeReturn).2, r.1.InStep r.2 := by
    have : (freshRecv.run consumeReturn).2 = [none, none] := by decide
    rw [this]
    intro r hr
    simp only [consumeReturn, List.zip_cons_cons, List.zip_nil_right, List.mem_cons,
      List.mem_singleton, List.not_mem_nil, or_false] at hr
    rcases hr with rfl | rfl <;> simp [RecvCall.InStep]
  exact ⟨by decide, by decide, hb, hw, he, books_run (by decide) (by decide) hb hw he⟩

/-- Stream 3 consumes 100 bytes; stream 1 then returns 50 bytes it never consumed. -/
def splitSchedule : List RecvCall := [.consumeBytes 3 100, .returnBytes 1 50]

/-- Under `splitSchedule` stream 1's `returnBytes` fails after the connection's half took the
    50 bytes back: the connection's `consumedBytes()` is 50, the streams' 0 and 100. -/
theorem return_splits_levels :
    (freshRecv.run splitSchedule).2 =
        [none, some (.streamError "attempting to return too many bytes" .internal 1)] ∧
      ((freshRecv.run splitSchedule).1.flow 0).consumedBytes = 50 ∧
      ((freshRecv.run splitSchedule).1.flow 1).consumedBytes = 0 ∧
      ((freshRecv.run splitSchedule).1.flow 3).consumedBytes = 100 :=
  ⟨by decide, by decide, by decide, by decide⟩

end RecvSys

end Http2
