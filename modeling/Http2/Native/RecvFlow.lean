import Mathlib
import Http2.Native.Frame

/-!
# The receive side of flow control

Each stream, and the connection (id 0), has a receive `flowController`: `win`, the window the
peer may still fill, its bounds `winLowerBound` and `winUpperBound`, and `processedWin`, the
window once the bytes the application holds are returned. `RecvSys` is the receive side of a
connection, the controllers by id and the queued WINDOW_UPDATE frames; each call holds the
locks throughout, so it is one step. Go's `int` is taken to be 64 bits wide, as on amd64 and
arm64: windows are `Int`, which agrees with the code while every value stays within
`[-2 ^ 63, 2 ^ 63)`. The range over `c.streams` comes in any order, so the streams of
`setInitialRecvWindow` are a list `ids` and every result holds for each order.
-/

namespace Http2

/-- `uint32(x)`: the low 32 bits of `x`. -/
def toUint32 (x : Int) : UInt32 := UInt32.ofNat (x % 4294967296).toNat

/-- The number of bits of `x`, halving it at most `fuel` times. -/
def bitLength : (fuel x : Nat) → Nat
  | 0, _ => 0
  | fuel + 1, x => if x = 0 then 0 else bitLength fuel (x / 2) + 1

/-- `float32(x)` for `x ≥ 0`: `x` rounded to 24 significant bits, ties to even. -/
def float32Round (x : Nat) : Nat :=
  if x < 2 ^ 24 then x
  else
    let shift := bitLength x x - 24
    let q := x / 2 ^ shift
    let r := x % 2 ^ shift
    let half := 2 ^ (shift - 1)
    (if r > half ∨ (r = half ∧ q % 2 = 1) then q + 1 else q) * 2 ^ shift

/-- The error of the controller of stream `id`: a `ConnError` for the connection, a
    `StreamError` for a stream. -/
def flowError (id : UInt32) (msg : String) (code : ErrCode) : Error :=
  if id = 0 then .connError msg code else .streamError msg code id

/-- `WindowUpdateFrame{StreamID, WindowSizeIncrement}`. -/
structure WindowUpdateFrame where
  streamID : UInt32
  windowSizeIncrement : UInt32
  deriving DecidableEq, Repr

/-- `flowController`: the receive window of a stream or of the connection. -/
structure RecvFlow where
  win : Int
  winLowerBound : Int
  winUpperBound : Int
  processedWin : Int
  deriving DecidableEq, Repr

namespace RecvFlow

/-- `initialWindow()`. -/
def initialWindow (c : RecvFlow) : UInt32 := toUint32 c.winUpperBound

/-- `consumedBytes()`: the bytes taken out of the window and not yet returned. -/
def consumedBytes (c : RecvFlow) : Int := c.processedWin - c.win

/-- `updateWindow(delta)`: the controller afterwards and the error. -/
def updateWindow (c : RecvFlow) (delta : Int) : RecvFlow × Option Error :=
  if delta > 0 ∧ maxInitialWindowSize - delta < c.win then (c, some (.plain "window size overflow"))
  else
    ({ win := c.win + delta
       processedWin := c.processedWin + delta
       winLowerBound := if delta < 0 then delta else 0
       winUpperBound := c.winUpperBound }, none)

/-- `updateInitialWindow(delta)`: move `winUpperBound` by `delta`, kept within
    `[defaultInitialWindowSize, maxInitialWindowSize]`. -/
def updateInitialWindow (c : RecvFlow) (delta : Int) : RecvFlow :=
  let n := c.winUpperBound + delta
  let n := if n < defaultInitialWindowSize then defaultInitialWindowSize else n
  let n := if n > maxInitialWindowSize then maxInitialWindowSize else n
  { c with winUpperBound := n }

/-- `windowUpdate()` for stream `id`: once `processedWin` is at most half of `winUpperBound`,
    top the window up to `winUpperBound` and queue a WINDOW_UPDATE for the difference. -/
def windowUpdate (c : RecvFlow) (id : UInt32) : RecvFlow × Option Error × List WindowUpdateFrame :=
  if c.winUpperBound ≤ 0 then (c, none, [])
  else
    let threshold : Int := (float32Round c.winUpperBound.toNat : Int) / 2
    if c.processedWin > threshold then (c, none, [])
    else
      let delta := c.winUpperBound - c.processedWin
      match c.updateWindow delta with
      | (_, some _) => (c, some (.connError "attempting to return too many bytes" .internal), [])
      | (c', none) => (c', none, [⟨id, toUint32 delta⟩])

/-- `incrementInitialWindow(delta)` on the controller of stream `id`. -/
def incrementInitialWindow (c : RecvFlow) (id : UInt32) (delta : Int) : RecvFlow × Option Error :=
  if id = 0 then (c, none)
  else
    match c.updateWindow delta with
    | (c', none) => (c'.updateInitialWindow delta, none)
    | (c', some e) => (c', some e)

/-- `incrementWindow(delta)` on the controller of stream `id`. -/
def incrementWindow (c : RecvFlow) (id : UInt32) (delta : Int) :
    RecvFlow × Option Error × List WindowUpdateFrame :=
  (c.updateInitialWindow delta).windowUpdate id

/-- The part of `consumeBytes(n)` (for `n > 0`) after the connection's call: take `n` out of
    this controller's window. -/
def consumeOwn (c : RecvFlow) (id : UInt32) (n : Int) : RecvFlow × Option Error :=
  let c := { c with win := c.win - n }
  if c.win < c.winLowerBound then (c, some (flowError id "window size limit exceeded" .flowControl))
  else (c, none)

/-- The part of `returnBytes(delta)` after the connection's call: give `delta` back to this
    controller's `processedWin`. -/
def returnOwn (c : RecvFlow) (id : UInt32) (delta : Int) :
    RecvFlow × Option Error × List WindowUpdateFrame :=
  if c.processedWin - delta < c.win then
    (c, some (flowError id "attempting to return too many bytes" .internal), [])
  else { c with processedWin := c.processedWin - delta }.windowUpdate id

end RecvFlow

/-- The receive side of a connection. -/
structure RecvSys where
  /-- The receive controller of each stream by id; id 0 is the connection's. -/
  flow : UInt32 → RecvFlow
  /-- The WINDOW_UPDATE frames queued on `conn.writeQueue`, oldest first. -/
  queue : List WindowUpdateFrame

namespace RecvSys

/-- `InitialRecvWindow(streamID)`. -/
def initialRecvWindow (sys : RecvSys) (id : UInt32) : UInt32 := (sys.flow id).initialWindow

/-- `consumeBytes(n)` on stream `id`'s controller: for a stream, the connection's controller
    first; a failure there leaves the stream's controller alone. -/
def consumeBytes (sys : RecvSys) (id : UInt32) (n : Int) : RecvSys × Option Error :=
  if n ≤ 0 then (sys, none)
  else
    let (c0, e0) := (sys.flow 0).consumeOwn 0 n
    if id = 0 then ({ sys with flow := Function.update sys.flow 0 c0 }, e0)
    else
      match e0 with
      | some e => ({ sys with flow := Function.update sys.flow 0 c0 }, some e)
      | none =>
        let (c, e) := (sys.flow id).consumeOwn id n
        ({ sys with flow := Function.update (Function.update sys.flow 0 c0) id c }, e)

/-- `returnBytes(delta)` on stream `id`'s controller: for a stream, the connection's
    controller first; a failure there leaves the stream's controller alone. -/
def returnBytes (sys : RecvSys) (id : UInt32) (delta : Int) : RecvSys × Option Error :=
  let (c0, e0, q0) := (sys.flow 0).returnOwn 0 delta
  let sys0 : RecvSys := ⟨Function.update sys.flow 0 c0, sys.queue ++ q0⟩
  if id = 0 then (sys0, e0)
  else
    match e0 with
    | some e => (sys0, some e)
    | none =>
      let (c, e, q) := (sys.flow id).returnOwn id delta
      (⟨Function.update sys0.flow id c, sys0.queue ++ q⟩, e)

/-- `incrementWindow(delta)` on stream `id`'s controller. -/
def incrementWindow (sys : RecvSys) (id : UInt32) (delta : Int) : RecvSys × Option Error :=
  let (c, e, q) := (sys.flow id).incrementWindow id delta
  (⟨Function.update sys.flow id c, sys.queue ++ q⟩, e)

/-- `incrementInitialWindow(delta)` on stream `id`'s controller, as `setInitialRecvWindow`
    makes it for each readable stream. -/
def incrementInitialWindow (sys : RecvSys) (id : UInt32) (delta : Int) : RecvSys × Option Error :=
  let (c, e) := (sys.flow id).incrementInitialWindow id delta
  ({ sys with flow := Function.update sys.flow id c }, e)

end RecvSys

/-- A call on the receive side. -/
inductive RecvCall where
  | consumeBytes (id : UInt32) (n : Int)
  | returnBytes (id : UInt32) (delta : Int)
  | incrementWindow (id : UInt32) (delta : Int)
  | incrementInitialWindow (id : UInt32) (delta : Int)
  deriving DecidableEq, Repr

namespace RecvSys

/-- The receive side after a call, and the call's error. -/
def apply (sys : RecvSys) : RecvCall → RecvSys × Option Error
  | .consumeBytes id n => sys.consumeBytes id n
  | .returnBytes id delta => sys.returnBytes id delta
  | .incrementWindow id delta => sys.incrementWindow id delta
  | .incrementInitialWindow id delta => sys.incrementInitialWindow id delta

/-- Run calls in order: the final state and each call's error. -/
def run : RecvSys → List RecvCall → RecvSys × List (Option Error)
  | sys, [] => (sys, [])
  | sys, call :: calls =>
    let rest := run (sys.apply call).1 calls
    (rest.1, (sys.apply call).2 :: rest.2)

/-- The loop of `setInitialRecvWindow(delta)` over `ids`: `incrementInitialWindow(delta)` on
    each `readable` stream, each failure added to `errors` with `ErrCodeFlowControl`. -/
def initialWindowLoop (readable : UInt32 → Bool) (delta : Int) :
    RecvSys → List UInt32 → StreamErrorList → RecvSys × StreamErrorList
  | sys, [], errors => (sys, errors)
  | sys, id :: ids, errors =>
    if readable id then
      match sys.incrementInitialWindow id delta with
      | (sys, none) => initialWindowLoop readable delta sys ids errors
      | (sys, some err) => initialWindowLoop readable delta sys ids (errors.add id .flowControl err)
    else initialWindowLoop readable delta sys ids errors

/-- `setInitialRecvWindow(delta)` on the streams `ids`; `readable` is `stream.readable()`. -/
def setInitialRecvWindow (sys : RecvSys) (readable : UInt32 → Bool) (ids : List UInt32)
    (delta : Int) : RecvSys × Option StreamErrorList :=
  if delta = 0 then (sys, none)
  else
    let (sys, errors) := initialWindowLoop readable delta sys ids []
    (sys, errors.err)

end RecvSys

end Http2
