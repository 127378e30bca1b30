import Http2.Native.StreamSteps
import Mathlib.Tactic.IntervalCases

/-!
# Calls on one stream, alone and interleaved

Run alone, a call's atomic steps add up to the sequential model of `Native.Stream`. Run
interleaved they do not: the swap into Closed by a producer's RST_STREAM and its write of
`resetSent` are two steps, and a reader that loads the state between them classifies a DATA
frame as a connection PROTOCOL_ERROR, which neither sequential order does.

## Key results

- `steps_alone`: a call run alone is its sequential model, in a fixed number of steps.
- `reset_race_connError`: the interleaving that returns the `ConnError`.
-/

namespace Http2

namespace Call

@[simp] theorem steps_zero (call : Call) (now : Int) (x : Shared × Pc) :
    call.steps now 0 x = x := rfl

@[simp] theorem steps_succ (call : Call) (now : Int) (n : Nat) (sh : Shared) (pc : Pc) :
    call.steps now (n + 1) (sh, pc) = call.steps now n (call.step now sh pc) := rfl

/-- A call that has returned stays put. -/
@[simp] theorem steps_done (call : Call) (now : Int) (n : Nat) (sh : Shared)
    (st : StreamState) (e : Option Error) :
    call.steps now n (sh, .done st e) = (sh, .done st e) := by
  induction n with
  | zero => rfl
  | succ n ih => exact ih

/-- The steps a call takes run alone: `transition` two on a refusal and four otherwise (load,
    swap, the rest of `compareAndSwapState`, the flag), `close` three. -/
def aloneSteps (s : Stream) : Call → Nat
  | transition dir t es => if (dir.transition s.state t es).isSome then 4 else 2
  | close => 3

/-- A call in the sequential model: `Stream.transition` or `Stream.close` on the stream, the
    swap's connection half on `c`, and what the call returns. -/
def sequential (s : Stream) (c : Conn) (now : Int) : Call → Shared × Pc
  | transition dir t es =>
    (⟨(s.transition dir t es now).2, match dir.transition s.state t es with
        | some st' => c.swapEffects s.id s.state st'
        | none => c⟩,
      .done (s.transition dir t es now).1.1 (s.transition dir t es now).1.2)
  | close => (⟨s.close now, c.swapEffects s.id s.state .stateClosed⟩, .done .stateClosed none)

/-- Run alone, a call is its sequential model, and returns after exactly `aloneSteps` steps. -/
theorem steps_alone (call : Call) (s : Stream) (c : Conn) (now : Int) :
    call.steps now (aloneSteps s call) (⟨s, c⟩, .load) = sequential s c now call ∧
      ∀ n < aloneSteps s call, ∀ st e, (call.steps now n (⟨s, c⟩, .load)).2 ≠ .done st e := by
  cases call with
  | transition dir t es =>
    cases h : dir.transition s.state t es with
    | none =>
      simp only [aloneSteps, sequential, h, Option.isSome_none, Bool.false_eq_true, if_false]
      refine ⟨by simp [step, h, Stream.transition_of_none now h], fun n hn => ?_⟩
      interval_cases n <;> simp [step]
    | some st' =>
      simp only [aloneSteps, sequential, h, Option.isSome_some, if_true]
      refine ⟨by simp [step, h, Stream.transition_of_some now h, Shared.cas, Shared.afterSwap,
        Stream.compareAndSwapState], fun n hn => ?_⟩
      interval_cases n <;> simp [step, h, Shared.cas]
  | close =>
    refine ⟨by simp [aloneSteps, sequential, step, Shared.cas, Shared.afterSwap, Stream.close,
      Stream.compareAndSwapState], fun n hn => ?_⟩
    simp only [aloneSteps] at hn
    interval_cases n <;> simp [step, Shared.cas]

end Call

/-! ## A reset racing a receive -/

/-- The client's open stream 1, counted in `numStreams`. -/
def openStream : Shared := ⟨⟨1, .stateOpen, false, false, 0⟩, ⟨false, 1, 0, [], []⟩⟩

/-- A producer sends RST_STREAM on the stream while the reader receives a DATA frame on it. -/
def resetRace : Sched :=
  .start openStream [.transition .send .rstStream false, .transition .recv .data false]

/-- The producer loads Open and swaps to Closed; the reader loads Closed and classifies its
    frame; then the producer finishes `compareAndSwapState` and writes `resetSent`. -/
def resetRaceSchedule : List Nat := [0, 0, 1, 1, 0, 0]

/-- Under `resetRaceSchedule` the reader's DATA frame is a connection PROTOCOL_ERROR, where
    either sequential order gives `(Open, nil)` or `ignoreFrame`. -/
theorem reset_race_connError :
    (resetRace.run 0 resetRaceSchedule).bind (·.result 1) =
        some (.stateClosed, some (.connError (badStreamState .stateClosed) .protocol)) ∧
      (openStream.stream.transition .recv .data false 0).1 = (.stateOpen, none) ∧
      ((openStream.stream.transition .send .rstStream false 0).2.transition .recv .data false
        0).1 = (.stateClosed, some .ignoreFrame) :=
  ⟨rfl, rfl, rfl⟩

end Http2
