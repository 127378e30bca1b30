import Mathlib.Logic.Function.Basic
import Http2.Native.Frame

/-!
# The send side of flow control

Each stream, and the connection (id 0), has a `remoteFlowController`: the window `win` and a
one-slot channel `winCh` through which credit reaches the producers in `allocateBytes`.
`SendSys` is the whole send side: the controllers and close flags by id, the producers with
their program counters, and a log of the accepted increments and the grants. A controller
call is one step, and so is a `select`, whichever ready case it takes. As on the receive
side, Go's `int` is taken to be 64 bits wide and is `Int` here, and the streams of
`setInitialSendWindow` are a list `ids` in any order.
-/

namespace Http2

/-- `remoteFlowController`: the send window and the credit buffered in `winCh`, if any; the
    stream id `c.s.id` is passed to the methods that read it. -/
structure RemoteFlow where
  win : Int
  winCh : Option Int
  deriving DecidableEq, Repr

namespace RemoteFlow

/-- The error of an increment that would take the window past `maxInitialWindowSize`:
    a `ConnError` for the connection, a `StreamError` for a stream. -/
def overflowError (id : UInt32) : Error :=
  if id = 0 then .connError "window size overflow" .flowControl
  else .streamError "window size overflow" .flowControl id

/-- `updateWindow(delta, reset)` on the controller of stream `id`: the controller afterwards
    and the error. -/
def updateWindow (c : RemoteFlow) (id : UInt32) (delta : Int) (reset : Bool) :
    RemoteFlow × Option Error :=
  if delta > 0 ∧ maxInitialWindowSize - delta < c.win then (c, some (overflowError id))
  else
    let c := if reset then
        match c.winCh with
        | some n => { win := c.win + n, winCh := none }
        | none => c
      else c
    let c := { c with win := c.win + delta }
    if c.win ≤ 0 then (c, none)
    else
      match c.winCh with
      | none => ({ win := 0, winCh := some c.win }, none)
      | some _ => (c, none)

/-- `incrementWindow(delta)`: a WINDOW_UPDATE, or a producer's flush or hand-back. -/
def incrementWindow (c : RemoteFlow) (id : UInt32) (delta : Int) : RemoteFlow × Option Error :=
  c.updateWindow id delta false

/-- `incrementInitialWindow(delta)`: a change of the peer's SETTINGS_INITIAL_WINDOW_SIZE. -/
def incrementInitialWindow (c : RemoteFlow) (id : UInt32) (delta : Int) :
    RemoteFlow × Option Error :=
  c.updateWindow id delta true

/-- `cancel()`: take the slot's credit back into `win`. -/
def cancel (c : RemoteFlow) : RemoteFlow :=
  match c.winCh with
  | some n => { win := c.win + n, winCh := none }
  | none => c

end RemoteFlow

/-- Where an `allocateBytes(stream, n)` call is. -/
inductive Alloc where
  /-- About to flush the stream controller. -/
  | start
  /-- Flushed the stream controller; entering, or in, the first `select`. -/
  | awaitStream
  /-- Received `sw` from the stream's slot; about to flush the connection controller. -/
  | gotStream (sw : Int)
  /-- Flushed the connection controller, holding `sw`; entering, or in, the second `select`.
      Go hands a send on `winCh` straight to a receiver parked in `select`; here the send
      fills the slot and the take is the producer's next step. -/
  | awaitConn (sw : Int)
  /-- Received `cw` from the connection's slot; about to hand the stream its rest. -/
  | gotConn (sw cw : Int)
  /-- Will return `n`; about to hand the connection the rest of `cw`. -/
  | returnedStream (cw n : Int)
  /-- Returned `(n, err)`. -/
  | done (n : Int) (err : Option Error)
  deriving DecidableEq, Repr

/-- A goroutine in `allocateBytes(stream, n)`. -/
structure Producer where
  stream : UInt32
  n : Int
  pc : Alloc
  deriving DecidableEq, Repr

/-- Which ready case of a `select` a producer takes. -/
inductive Pick where
  | streamClosed | connClosed | window
  deriving DecidableEq, Repr

namespace Producer

/-- One step of `allocateBytes` for producer `p`, over the controllers and the close flags by
    stream id; `none` when the chosen `select` case is not ready or `p` has returned. -/
def step (p : Producer) (flow : UInt32 → RemoteFlow) (closed : UInt32 → Bool) :
    Pick → Option ((UInt32 → RemoteFlow) × Alloc) := fun pick =>
  let s := flow p.stream
  let c := flow 0
  match p.pc with
  | .start =>
    if p.n ≤ 0 then some (flow, .done 0 none)
    else some (Function.update flow p.stream (s.incrementWindow p.stream 0).1, .awaitStream)
  | .awaitStream =>
    match pick with
    | .streamClosed => if closed p.stream then some (flow, .done 0 (some .errStreamClosed)) else none
    | .connClosed => if closed 0 then some (flow, .done 0 (some .errClosed)) else none
    | .window =>
      match s.winCh with
      | some sw => some (Function.update flow p.stream { s with winCh := none }, .gotStream sw)
      | none => none
  | .gotStream sw => some (Function.update flow 0 (c.incrementWindow 0 0).1, .awaitConn sw)
  | .awaitConn sw =>
    match pick with
    | .streamClosed =>
      if closed p.stream then some (Function.update flow 0 c.cancel, .done 0 (some .errStreamClosed))
      else none
    | .connClosed => if closed 0 then some (flow, .done 0 (some .errClosed)) else none
    | .window =>
      match c.winCh with
      | some cw => some (Function.update flow 0 { c with winCh := none }, .gotConn sw cw)
      | none => none
  | .gotConn sw cw =>
    let n := if sw < p.n then sw else p.n
    let n := if cw < n then cw else n
    some (if n < sw then Function.update flow p.stream (s.incrementWindow p.stream (sw - n)).1
      else flow, .returnedStream cw n)
  | .returnedStream cw n =>
    some (if n < cw then Function.update flow 0 (c.incrementWindow 0 (cw - n)).1 else flow,
      .done n none)
  | .done .. => none

end Producer

/-- What the accounting records: an increment the reader applied and `updateWindow`
    accepted, and a grant `g` returned to producer `k` by `allocateBytes(stream, n)`. -/
inductive SendEvent where
  | accepted (id : UInt32) (delta : Int)
  | granted (k : Nat) (stream : UInt32) (n g : Int)
  deriving DecidableEq, Repr

/-- The grant producer `k` logs with its next step: the amount it returns from
    `returnedStream`. -/
def Producer.grantEvent (p : Producer) (k : Nat) : List SendEvent :=
  match p.pc with
  | .returnedStream _ g => [.granted k p.stream p.n g]
  | _ => []

/-- The send side of a connection. -/
structure SendSys where
  /-- The send controller of each stream by id; id 0 is the connection's. -/
  flow : UInt32 → RemoteFlow
  /-- Whether each stream's `closeCh` is closed; id 0 is the connection's `closeCh`. -/
  closed : UInt32 → Bool
  producers : List Producer
  /-- The accounting, oldest first. -/
  log : List SendEvent

/-- One step of the send side. -/
inductive SendAction where
  /-- The `k`-th producer's next step. -/
  | producer (k : Nat) (pick : Pick)
  /-- The reader applies a WINDOW_UPDATE for stream `id`. -/
  | incrementWindow (id : UInt32) (delta : Int)
  /-- The reader applies a change of the initial window to stream `id`. -/
  | incrementInitialWindow (id : UInt32) (delta : Int)
  | cancel (id : UInt32)
  /-- Stream `id`'s `closeCh` (the connection's, for id 0) is closed. -/
  | close (id : UInt32)
  deriving DecidableEq, Repr

namespace SendSys

/-- Apply the reader's call on stream `id`'s controller, logging the increment if accepted. -/
def applyIncrement (sys : SendSys) (id : UInt32) (delta : Int) (r : RemoteFlow × Option Error) :
    SendSys :=
  { sys with
    flow := Function.update sys.flow id r.1
    log := if r.2 = none then sys.log ++ [.accepted id delta] else sys.log }

/-- The send side after `a`; `none` when `a` is not enabled. -/
def next (sys : SendSys) : SendAction → Option SendSys
  | .producer k pick =>
    match sys.producers[k]? with
    | none => none
    | some p =>
      (p.step sys.flow sys.closed pick).map fun (flow, pc) =>
        { sys with
          flow
          producers := sys.producers.set k { p with pc }
          log := sys.log ++ p.grantEvent k }
  | .incrementWindow id delta =>
    some (sys.applyIncrement id delta ((sys.flow id).incrementWindow id delta))
  | .incrementInitialWindow id delta =>
    some (sys.applyIncrement id delta ((sys.flow id).incrementInitialWindow id delta))
  | .cancel id => some { sys with flow := Function.update sys.flow id (sys.flow id).cancel }
  | .close id => some { sys with closed := Function.update sys.closed id true }

/-- Run a schedule of actions. -/
def run : SendSys → List SendAction → Option SendSys
  | sys, [] => some sys
  | sys, a :: as => (sys.next a).bind (run · as)

/-- `SendWindow(streamID)`: the window, `uint32(w)` when it is positive and 0 otherwise. -/
def sendWindow (sys : SendSys) (id : UInt32) : UInt32 :=
  let w := (sys.flow id).win
  if w > 0 then UInt32.ofNat w.toNat else 0

end SendSys

/-- The error `setInitialSendWindow` returns: the error of the connection's controller, or the
    list of the streams' errors. -/
inductive InitialWindowError where
  | conn (err : Error)
  | streams (errors : StreamErrorList)
  deriving DecidableEq, Repr

namespace SendSys

/-- The loop of `setInitialSendWindow(delta)` over `ids`: the connection's error is returned at
    once, a stream's goes through `err.(StreamError)` into `errors`; `none` is a failed
    assertion's panic. -/
def initialWindowLoop (writable : UInt32 → Bool) (delta : Int) :
    SendSys → List UInt32 → StreamErrorList → Option (SendSys × Option InitialWindowError)
  | sys, [], errors => some (sys, errors.err.map InitialWindowError.streams)
  | sys, id :: ids, errors =>
    if writable id then
      let r := (sys.flow id).incrementInitialWindow id delta
      let sys := sys.applyIncrement id delta r
      match r.2 with
      | none => initialWindowLoop writable delta sys ids errors
      | some err =>
        if id = 0 then some (sys, some (.conn err))
        else err.asStreamError.bind fun se => initialWindowLoop writable delta sys ids (errors ++ [se])
    else initialWindowLoop writable delta sys ids errors

/-- `setInitialSendWindow(delta)` on the streams `ids`; `writable` is `stream.writable()`. -/
def setInitialSendWindow (sys : SendSys) (writable : UInt32 → Bool) (ids : List UInt32)
    (delta : Int) : Option (SendSys × Option InitialWindowError) :=
  if delta = 0 then some (sys, none) else initialWindowLoop writable delta sys ids []

end SendSys

end Http2
