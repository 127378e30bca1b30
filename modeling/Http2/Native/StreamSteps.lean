import Http2.Native.Stream

/-!
# The atomic steps of `stream.transition` and `stream.close`

Run concurrently, a call is several steps: the load of the state, the lookup (and a refusal)
or the compare-and-swap, the rest of `compareAndSwapState`, and the write of a reset flag.
`Pc` marks the points between them, `Call.step` runs one step against the shared state, and
`Sched.run` runs the calls a schedule names. The rest of `compareAndSwapState` is one step
here, so every schedule of the model is one the code can run.
-/

namespace Http2

/-- A call on one stream. -/
inductive Call where
  | transition (dir : Dir) (frameType : FrameType) (endStream : Bool)
  | close
  deriving DecidableEq, Repr

/-- Where a call is between two atomic steps. -/
inductive Pc where
  /-- At the top of the compare-and-swap loop, about to load the state. -/
  | load
  /-- Loaded the state `st`. -/
  | loaded (st : StreamState)
  /-- Swapped the state from `st` to `st'`; the rest of `compareAndSwapState` is pending. -/
  | swapped (st st' : StreamState)
  /-- `compareAndSwapState` returned true; `transition` has its reset flag to write. -/
  | flagging (st' : StreamState)
  /-- Returned this state and error (`stream.close` returns nothing: its record is
      `(to, none)`). -/
  | done (state : StreamState) (err : Option Error)
  deriving DecidableEq, Repr

/-- What the calls on one stream share: the stream and its connection. -/
structure Shared where
  stream : Stream
  conn : Conn

namespace Shared

/-- The compare-and-swap of the state from `st` to `st'`: on success the call goes on with the
    rest of `compareAndSwapState`, on failure back to the load. -/
def cas (sh : Shared) (st st' : StreamState) : Shared × Pc :=
  if sh.stream.state = st then ({ sh with stream := { sh.stream with state := st' } }, .swapped st st')
  else (sh, .load)

/-- The rest of `compareAndSwapState` after its swap from `st` to `st'`: the connection's
    counters and calls, and the `closed` stamp on a move into Closed. -/
def afterSwap (sh : Shared) (st st' : StreamState) (now : Int) : Shared where
  stream := { sh.stream with
    closed := if st' = .stateClosed ∧ st ≠ .stateClosed then now else sh.stream.closed }
  conn := sh.conn.swapEffects sh.stream.id st st'

end Shared

namespace Call

/-- One atomic step of `call` from `pc` at time `now`. A call that has returned stays put. -/
def step (call : Call) (now : Int) (sh : Shared) : Pc → Shared × Pc
  | .load => (sh, .loaded sh.stream.state)
  | .loaded st =>
    match call with
    | .transition dir t es =>
      match dir.transition st t es with
      | none => (sh, .done st (some (sh.stream.refusal st dir t now)))
      | some st' => sh.cas st st'
    | .close => sh.cas st .stateClosed
  | .swapped st st' =>
    (sh.afterSwap st st' now, match call with
      | .transition .. => .flagging st'
      | .close => .done st' none)
  | .flagging st' =>
    match call with
    | .transition dir t _ => ({ sh with stream := sh.stream.markReset st' dir t }, .done st' none)
    | .close => (sh, .done st' none)
  | .done st e => (sh, .done st e)

/-- `n` steps of `call` with no other call in between. -/
def steps (call : Call) (now : Int) : Nat → Shared × Pc → Shared × Pc
  | 0, x => x
  | n + 1, (sh, pc) => call.steps now n (call.step now sh pc)

end Call

/-- Calls running concurrently on one stream, each with its program counter. -/
structure Sched where
  shared : Shared
  calls : List (Call × Pc)

namespace Sched

/-- All `calls` at the top of their loops. -/
def start (sh : Shared) (calls : List Call) : Sched := ⟨sh, calls.map (·, .load)⟩

/-- One step of the `k`-th call; `none` if there is no such call or it has returned. -/
def next (now : Int) (sys : Sched) (k : Nat) : Option Sched :=
  match sys.calls[k]? with
  | some (call, pc) =>
    match pc with
    | .done .. => none
    | _ =>
      let (sh, pc') := call.step now sys.shared pc
      some ⟨sh, sys.calls.set k (call, pc')⟩
  | none => none

/-- Run a schedule: the list of the calls that take each step, in order. -/
def run (now : Int) : Sched → List Nat → Option Sched
  | sys, [] => some sys
  | sys, k :: ks => (sys.next now k).bind (run now · ks)

/-- What the `k`-th call returned, once it has. -/
def result (sys : Sched) (k : Nat) : Option (StreamState × Option Error) :=
  match sys.calls[k]? with
  | some (_, .done st e) => some (st, e)
  | _ => none

end Sched

end Http2
