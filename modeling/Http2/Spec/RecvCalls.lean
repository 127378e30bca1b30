import Http2.Native.RecvFlow

/-!
# What each receive-side call does

One lemma per call of the receive controller and of the connection's receive side, so that
the invariants never unfold the code. The key one is `windowUpdate_cases`: `windowUpdate`
does nothing, fails with the controller unchanged, or tops the window up by a positive
amount, positive because `float32(x) * 0.5` truncates below `x` (`float32Round_lt`).

## Key results

- `windowUpdate_cases`, `incrementInitialWindow_cases`, `returnOwn_cases`: the controller calls.
- `consumeBytes_of_conn`, `returnBytes_of_conn`: a stream's call after the connection's half.
-/

namespace Http2

/-! ## Rounding to `float32` -/

/-- `bitLength` counts at least the bits below the top one. -/
theorem two_pow_bitLength_le (fuel : Nat) {x : Nat} (hx : 0 < x) :
    2 ^ (bitLength fuel x - 1) ≤ x := by
  induction fuel generalizing x with
  | zero => simpa [bitLength] using hx
  | succ fuel ih =>
    rw [bitLength, if_neg (by omega)]
    rcases Nat.eq_zero_or_pos (x / 2) with h | h
    · cases fuel <;> simp [bitLength, h] <;> omega
    · have := ih h
      have hpow : 2 ^ (bitLength fuel (x / 2) + 1 - 1) ≤ 2 * 2 ^ (bitLength fuel (x / 2) - 1) := by
        rw [Nat.add_sub_cancel, ← Nat.pow_succ']; exact Nat.pow_le_pow_right (by omega) (by omega)
      omega

/-- Rounding to 24 significant bits moves a positive `x` by less than `x`, so
    `float32(x) * 0.5` truncates below `x`. -/
theorem float32Round_lt {x : Nat} (hx : 0 < x) : float32Round x < 2 * x := by
  unfold float32Round
  split_ifs with h
  · omega
  · generalize hs : bitLength x x - 24 = s
    -- the unit of the last kept bit is at most `x / 2 ^ 23`
    have hunit : 2 ^ s * 2 ^ 23 ≤ x := by
      rcases Nat.lt_or_ge (bitLength x x) 24 with hb | hb
      · have : s = 0 := by omega
        subst this; omega
      · have := two_pow_bitLength_le x hx
        rwa [← Nat.pow_add, show s + 23 = bitLength x x - 1 by omega]
    have hq := Nat.div_mul_le_self x (2 ^ s)
    dsimp only
    split_ifs
    · rw [Nat.add_mul, Nat.one_mul]; omega
    · omega

/-- `uint32(x)` keeps an `x` that fits in 32 bits. -/
theorem toUint32_toNat {x : Int} (h0 : 0 ≤ x) (h1 : x < 4294967296) :
    ((toUint32 x).toNat : Int) = x := by
  have : (toUint32 x).toNat = (x % 4294967296).toNat % 2 ^ 32 := rfl
  rw [this]; omega

/-! ## The controller -/

namespace RecvFlow

variable {c : RecvFlow} {id : UInt32} {delta n : Int}

theorem updateWindow_refused (h : delta > 0 ∧ maxInitialWindowSize - delta < c.win) :
    c.updateWindow delta = (c, some (.plain "window size overflow")) := if_pos h

theorem updateWindow_accepted (h : ¬(delta > 0 ∧ maxInitialWindowSize - delta < c.win)) :
    c.updateWindow delta = (⟨c.win + delta, if delta < 0 then delta else 0, c.winUpperBound,
      c.processedWin + delta⟩, none) := if_neg h

@[simp] theorem updateInitialWindow_win : (c.updateInitialWindow delta).win = c.win := rfl

@[simp] theorem updateInitialWindow_winLowerBound :
    (c.updateInitialWindow delta).winLowerBound = c.winLowerBound := rfl

@[simp] theorem updateInitialWindow_processedWin :
    (c.updateInitialWindow delta).processedWin = c.processedWin := rfl

/-- The clamp of `updateInitialWindow` into `[65535, 2 ^ 31 - 1]`. -/
@[simp] theorem updateInitialWindow_winUpperBound :
    (c.updateInitialWindow delta).winUpperBound =
      min (max (c.winUpperBound + delta) defaultInitialWindowSize) maxInitialWindowSize := by
  simp only [updateInitialWindow, defaultInitialWindowSize, maxInitialWindowSize]
  split_ifs <;> omega

/-- What `windowUpdate` can do: nothing; fail with the controller unchanged; or top `win` and
    `processedWin` up by `winUpperBound - processedWin > 0` and queue a WINDOW_UPDATE. -/
theorem windowUpdate_cases (c : RecvFlow) (id : UInt32) :
    c.windowUpdate id = (c, none, []) ∨
    c.windowUpdate id = (c, some (.connError "attempting to return too many bytes" .internal), []) ∨
    (c.processedWin < c.winUpperBound ∧
      c.win + (c.winUpperBound - c.processedWin) ≤ maxInitialWindowSize ∧
      c.windowUpdate id = (⟨c.win + (c.winUpperBound - c.processedWin), 0, c.winUpperBound,
        c.winUpperBound⟩, none, [⟨id, toUint32 (c.winUpperBound - c.processedWin)⟩])) := by
  unfold windowUpdate
  dsimp only
  split_ifs with hup hth
  · exact .inl rfl
  · exact .inl rfl
  · have hlt : c.processedWin < c.winUpperBound := by
      have := float32Round_lt (x := c.winUpperBound.toNat) (by omega)
      omega
    by_cases hg : c.winUpperBound - c.processedWin > 0 ∧
        maxInitialWindowSize - (c.winUpperBound - c.processedWin) < c.win
    · exact .inr (.inl (by rw [updateWindow_refused hg]))
    · refine .inr (.inr ⟨hlt, by omega, ?_⟩)
      have hup : c.processedWin + (c.winUpperBound - c.processedWin) = c.winUpperBound := by omega
      rw [updateWindow_accepted hg, if_neg (by omega), hup]

/-- `incrementInitialWindow` on a stream: refused with the controller unchanged, or accepted,
    moving `win` and `processedWin` by `delta` and clamping the new `winUpperBound`. -/
theorem incrementInitialWindow_cases (hid : id ≠ 0) (c : RecvFlow) (delta : Int) :
    (delta > 0 ∧ maxInitialWindowSize - delta < c.win ∧
      c.incrementInitialWindow id delta = (c, some (.plain "window size overflow"))) ∨
    (¬(delta > 0 ∧ maxInitialWindowSize - delta < c.win) ∧
      c.incrementInitialWindow id delta =
        ((⟨c.win + delta, if delta < 0 then delta else 0, c.winUpperBound,
          c.processedWin + delta⟩ : RecvFlow).updateInitialWindow delta, none)) := by
  unfold incrementInitialWindow
  by_cases hg : delta > 0 ∧ maxInitialWindowSize - delta < c.win
  · exact .inl ⟨hg.1, hg.2, by rw [if_neg hid, updateWindow_refused hg]⟩
  · exact .inr ⟨hg, by rw [if_neg hid, updateWindow_accepted hg]⟩

/-- `consumeOwn` always takes `n` out of `win`, and refuses when `win` falls below
    `winLowerBound`. -/
theorem consumeOwn_fst (c : RecvFlow) (id : UInt32) (n : Int) :
    (c.consumeOwn id n).1 = { c with win := c.win - n } := by
  unfold consumeOwn; dsimp only; split_ifs <;> rfl

theorem consumeOwn_snd (c : RecvFlow) (id : UInt32) (n : Int) :
    (c.consumeOwn id n).2 = if c.win - n < c.winLowerBound then
      some (flowError id "window size limit exceeded" .flowControl) else none := by
  unfold consumeOwn; dsimp only; split_ifs <;> rfl

/-- `returnOwn` refuses to take `processedWin` below `win`, and otherwise lowers it by
    `delta` and runs `windowUpdate`. -/
theorem returnOwn_cases (c : RecvFlow) (id : UInt32) (delta : Int) :
    (c.processedWin - delta < c.win ∧
      c.returnOwn id delta =
        (c, some (flowError id "attempting to return too many bytes" .internal), [])) ∨
    (c.win ≤ c.processedWin - delta ∧
      c.returnOwn id delta = { c with processedWin := c.processedWin - delta }.windowUpdate id) := by
  unfold returnOwn
  split_ifs with h
  · exact .inl ⟨h, rfl⟩
  · exact .inr ⟨by omega, rfl⟩

end RecvFlow

/-! ## The receive side of a connection -/

namespace RecvSys

variable {sys : RecvSys} {id : UInt32} {n delta : Int}

theorem consumeBytes_of_nonpos (hn : n ≤ 0) : sys.consumeBytes id n = (sys, none) := if_pos hn

/-- A stream's `consumeBytes` once the connection's half has accepted `n`: both controllers
    lose `n`, and the call returns the stream half's error. -/
theorem consumeBytes_of_conn (hid : id ≠ 0) (hn : 0 < n)
    (h0 : ((sys.flow 0).consumeOwn 0 n).2 = none) :
    sys.consumeBytes id n =
      (⟨Function.update (Function.update sys.flow 0 ((sys.flow 0).consumeOwn 0 n).1) id
        ((sys.flow id).consumeOwn id n).1, sys.queue⟩, ((sys.flow id).consumeOwn id n).2) := by
  rcases h : (sys.flow 0).consumeOwn 0 n with ⟨c0, e0⟩
  simp only [h] at h0
  subst h0
  simp only [consumeBytes, if_neg (Int.not_le.2 hn), if_neg hid, h]

/-- A call whose connection half refuses leaves the stream's controller alone. -/
theorem consumeBytes_of_conn_error (hid : id ≠ 0) (hn : 0 < n) {e : Error}
    (h0 : ((sys.flow 0).consumeOwn 0 n).2 = some e) :
    sys.consumeBytes id n =
      (⟨Function.update sys.flow 0 ((sys.flow 0).consumeOwn 0 n).1, sys.queue⟩, some e) := by
  rcases h : (sys.flow 0).consumeOwn 0 n with ⟨c0, e0⟩
  simp only [h] at h0
  subst h0
  simp only [consumeBytes, if_neg (Int.not_le.2 hn), if_neg hid, h]

/-- A stream's `returnBytes` once the connection's half has succeeded: the stream's half runs
    on its own controller, after the connection's WINDOW_UPDATE, if any, is queued. -/
theorem returnBytes_of_conn (hid : id ≠ 0)
    (h0 : ((sys.flow 0).returnOwn 0 delta).2.1 = none) :
    sys.returnBytes id delta =
      (⟨Function.update (Function.update sys.flow 0 ((sys.flow 0).returnOwn 0 delta).1) id
          ((sys.flow id).returnOwn id delta).1,
        sys.queue ++ ((sys.flow 0).returnOwn 0 delta).2.2 ++ ((sys.flow id).returnOwn id delta).2.2⟩,
        ((sys.flow id).returnOwn id delta).2.1) := by
  rcases h : (sys.flow 0).returnOwn 0 delta with ⟨c0, e0, q0⟩
  simp only [h] at h0
  subst h0
  simp only [returnBytes, if_neg hid, h]

theorem returnBytes_of_conn_error (hid : id ≠ 0) {e : Error}
    (h0 : ((sys.flow 0).returnOwn 0 delta).2.1 = some e) :
    sys.returnBytes id delta =
      (⟨Function.update sys.flow 0 ((sys.flow 0).returnOwn 0 delta).1,
        sys.queue ++ ((sys.flow 0).returnOwn 0 delta).2.2⟩, some e) := by
  rcases h : (sys.flow 0).returnOwn 0 delta with ⟨c0, e0, q0⟩
  simp only [h] at h0
  subst h0
  simp only [returnBytes, if_neg hid, h]

@[simp] theorem incrementInitialWindow_flow :
    (sys.incrementInitialWindow id delta).1.flow =
      Function.update sys.flow id ((sys.flow id).incrementInitialWindow id delta).1 := rfl

@[simp] theorem incrementInitialWindow_queue :
    (sys.incrementInitialWindow id delta).1.queue = sys.queue := rfl

@[simp] theorem incrementInitialWindow_snd :
    (sys.incrementInitialWindow id delta).2 = ((sys.flow id).incrementInitialWindow id delta).2 :=
  rfl

@[simp] theorem incrementWindow_flow :
    (sys.incrementWindow id delta).1.flow =
      Function.update sys.flow id ((sys.flow id).incrementWindow id delta).1 := rfl

@[simp] theorem incrementWindow_queue :
    (sys.incrementWindow id delta).1.queue =
      sys.queue ++ ((sys.flow id).incrementWindow id delta).2.2 := rfl

@[simp] theorem run_nil : sys.run [] = (sys, []) := rfl

@[simp] theorem run_cons (call : RecvCall) (calls : List RecvCall) :
    sys.run (call :: calls) =
      (((sys.apply call).1.run calls).1, (sys.apply call).2 :: ((sys.apply call).1.run calls).2) :=
  rfl

end RecvSys

end Http2
