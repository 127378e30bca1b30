import Http2.Native.Frame

/-!
# The stream state machine

`dir.transition` is the table of legal moves by direction, state and frame type, with the
END_STREAM post-processing. `stream.transition` applies it with a compare-and-swap on the
state, and classifies a refused frame as ignored, a local error, a stream error or a
connection error. `Stream.transition` is one pass of that loop run sequentially; the
connection half of `compareAndSwapState` (counters and calls) is `Conn.swapEffects`. Times
are nanoseconds as `Int`.
-/

namespace Http2

/-- `StreamState`: the seven stream states of RFC 7540 §5.1. -/
inductive StreamState where
  | stateIdle | stateReservedLocal | stateReservedRemote | stateOpen
  | stateHalfClosedLocal | stateHalfClosedRemote | stateClosed
  deriving DecidableEq, Repr

namespace StreamState

/-- `StreamState.String`, used in the "bad stream state" errors. -/
def toString : StreamState → String
  | stateIdle => "Idle"
  | stateReservedLocal => "ReservedLocal"
  | stateReservedRemote => "ReservedRemote"
  | stateOpen => "Open"
  | stateHalfClosedLocal => "HalfClosedLocal"
  | stateHalfClosedRemote => "HalfClosedRemote"
  | stateClosed => "Closed"

/-- `stream.active`: the states counted against the concurrency limit. -/
def active : StreamState → Bool
  | stateOpen | stateHalfClosedLocal | stateHalfClosedRemote => true
  | _ => false

/-- `stream.writable`: a stream that may still send, open or half closed by the peer, and not
    cancelled. -/
def writable (st : StreamState) (cancelled : Bool) : Bool :=
  match st with
  | stateOpen | stateHalfClosedRemote => !cancelled
  | _ => false

/-- The states `compareAndSwapState` treats as not yet started: idle or reserved. -/
def idleOrReserved : StreamState → Bool
  | stateIdle | stateReservedLocal | stateReservedRemote => true
  | _ => false

end StreamState

/-- `dir`: whether a frame is received or sent. -/
inductive Dir where
  | recv | send
  deriving DecidableEq, Repr

namespace Dir

/-- The receive half of the table in `dir.transition`, before END_STREAM. -/
def recvTo : StreamState → FrameType → Option StreamState
  | .stateIdle, .headers => some .stateOpen
  | .stateIdle, .priority => some .stateIdle
  | .stateIdle, .pushPromise => some .stateReservedRemote
  | .stateIdle, _ => none
  | .stateReservedLocal, .priority => some .stateReservedLocal
  | .stateReservedLocal, .windowUpdate => some .stateReservedLocal
  | .stateReservedLocal, .rstStream => some .stateClosed
  | .stateReservedLocal, _ => none
  | .stateHalfClosedRemote, .priority => some .stateHalfClosedRemote
  | .stateHalfClosedRemote, .windowUpdate => some .stateHalfClosedRemote
  | .stateHalfClosedRemote, .rstStream => some .stateClosed
  | .stateHalfClosedRemote, _ => none
  | .stateReservedRemote, .headers => some .stateHalfClosedLocal
  | .stateReservedRemote, .priority => some .stateReservedRemote
  | .stateReservedRemote, .rstStream => some .stateClosed
  | .stateReservedRemote, _ => none
  | .stateOpen, .rstStream => some .stateClosed
  | .stateOpen, _ => some .stateOpen
  | .stateHalfClosedLocal, .rstStream => some .stateClosed
  | .stateHalfClosedLocal, _ => some .stateHalfClosedLocal
  | .stateClosed, .priority => some .stateClosed
  | .stateClosed, _ => none

/-- The send half of the table in `dir.transition`, before END_STREAM. -/
def sendTo : StreamState → FrameType → Option StreamState
  | .stateIdle, .headers => some .stateOpen
  | .stateIdle, .priority => some .stateIdle
  | .stateIdle, .pushPromise => some .stateReservedLocal
  | .stateIdle, _ => none
  | .stateReservedLocal, .headers => some .stateHalfClosedRemote
  | .stateReservedLocal, .priority => some .stateReservedLocal
  | .stateReservedLocal, .rstStream => some .stateClosed
  | .stateReservedLocal, _ => none
  | .stateReservedRemote, .priority => some .stateReservedRemote
  | .stateReservedRemote, .windowUpdate => some .stateReservedRemote
  | .stateReservedRemote, .rstStream => some .stateClosed
  | .stateReservedRemote, _ => none
  | .stateHalfClosedLocal, .priority => some .stateHalfClosedLocal
  | .stateHalfClosedLocal, .windowUpdate => some .stateHalfClosedLocal
  | .stateHalfClosedLocal, .rstStream => some .stateClosed
  | .stateHalfClosedLocal, _ => none
  | .stateOpen, .rstStream => some .stateClosed
  | .stateOpen, _ => some .stateOpen
  | .stateHalfClosedRemote, .data => some .stateHalfClosedRemote
  | .stateHalfClosedRemote, .headers => some .stateHalfClosedRemote
  | .stateHalfClosedRemote, .priority => some .stateHalfClosedRemote
  | .stateHalfClosedRemote, .rstStream => some .stateClosed
  | .stateHalfClosedRemote, _ => none
  | .stateClosed, .priority => some .stateClosed
  | .stateClosed, _ => none

/-- END_STREAM post-processing: Open half-closes on the side the flag travelled, a
    half-closed stream closes. -/
def endStreamTo (dir : Dir) : StreamState → StreamState
  | .stateOpen => if dir = recv then .stateHalfClosedRemote else .stateHalfClosedLocal
  | .stateHalfClosedLocal | .stateHalfClosedRemote => .stateClosed
  | st => st

/-- `dir.transition`: the state a frame moves the stream to, or `none` when the table
    refuses it (Go's `ok = false`). -/
def transition (dir : Dir) (st : StreamState) (frameType : FrameType) (endStream : Bool) :
    Option StreamState :=
  ((match dir with
    | recv => recvTo st frameType
    | send => sendTo st frameType)).map fun st' => if endStream then endStreamTo dir st' else st'

end Dir

/-- The grace period after a close, `time.Duration(5)*time.Second`, in nanoseconds. -/
def graceWindow : Int := 5000000000

/-- The text of `fmt.Errorf("stream %d already closed", s.id)`. -/
def alreadyClosed (id : UInt32) : String := "stream " ++ toString id ++ " already closed"

/-- The text of `fmt.Errorf("bad stream state %s", s.state)`. -/
def badStreamState (st : StreamState) : String := "bad stream state " ++ st.toString

/-- The fields of `stream` that the state machine reads and writes. -/
structure Stream where
  id : UInt32
  state : StreamState
  resetSent : Bool
  resetReceived : Bool
  /-- The time of the move into Closed. -/
  closed : Int
  deriving DecidableEq, Repr

namespace Stream

/-- The error `stream.transition` returns when the table refuses the frame for the state `st`
    it loaded; the flags and the timestamp are read from the stream. -/
def refusal (s : Stream) (st : StreamState) (dir : Dir) (frameType : FrameType) (now : Int) :
    Error :=
  match dir with
  | .send =>
    if st = .stateClosed then
      if frameType = .rstStream then .ignoreFrame else .plain (alreadyClosed s.id)
    else .plain (badStreamState s.state)
  | .recv =>
    if s.resetReceived then .streamError (alreadyClosed s.id) .streamClosed s.id
    else if s.resetSent then
      if now - s.closed ≤ graceWindow then .ignoreFrame
      else .streamError (alreadyClosed s.id) .streamClosed s.id
    else match st with
      | .stateHalfClosedRemote => .connError (alreadyClosed s.id) .streamClosed
      | .stateClosed =>
        if frameType = .rstStream ∨ frameType = .windowUpdate then
          if now - s.closed ≤ graceWindow then .ignoreFrame
          else .connError (alreadyClosed s.id) .protocol
        else .connError (badStreamState s.state) .protocol
      | _ => .connError (badStreamState s.state) .protocol

/-- The stream fields `compareAndSwapState` writes on a successful swap to `st'`: the state,
    and the `closed` timestamp on a move into Closed. -/
def compareAndSwapState (s : Stream) (st' : StreamState) (now : Int) : Stream :=
  { s with
    state := st'
    closed := if st' = .stateClosed ∧ s.state ≠ .stateClosed then now else s.closed }

/-- After a swap to `st'`: on a move into Closed by RST_STREAM, `resetReceived` or `resetSent`
    is set. -/
def markReset (s : Stream) (st' : StreamState) (dir : Dir) (frameType : FrameType) : Stream :=
  if st' = .stateClosed ∧ frameType = .rstStream then
    match dir with
    | .recv => { s with resetReceived := true }
    | .send => { s with resetSent := true }
  else s

/-- `stream.transition`: the returned state and error, and the stream afterwards. -/
def transition (s : Stream) (dir : Dir) (frameType : FrameType) (endStream : Bool)
    (now : Int) : (StreamState × Option Error) × Stream :=
  match dir.transition s.state frameType endStream with
  | none => ((s.state, some (s.refusal s.state dir frameType now)), s)
  | some st' => ((st', none), ((s.compareAndSwapState st' now).markReset st' dir frameType))

@[simp] theorem compareAndSwapState_state (s : Stream) (st' : StreamState) (now : Int) :
    (s.compareAndSwapState st' now).state = st' := rfl

@[simp] theorem compareAndSwapState_resetSent (s : Stream) (st' : StreamState) (now : Int) :
    (s.compareAndSwapState st' now).resetSent = s.resetSent := rfl

@[simp] theorem compareAndSwapState_resetReceived (s : Stream) (st' : StreamState) (now : Int) :
    (s.compareAndSwapState st' now).resetReceived = s.resetReceived := rfl

@[simp] theorem markReset_state (s : Stream) (st' : StreamState) (dir : Dir) (t : FrameType) :
    (s.markReset st' dir t).state = s.state := by
  unfold markReset; split <;> (try cases dir) <;> rfl

@[simp] theorem markReset_id (s : Stream) (st' : StreamState) (dir : Dir) (t : FrameType) :
    (s.markReset st' dir t).id = s.id := by
  unfold markReset; split <;> (try cases dir) <;> rfl

@[simp] theorem markReset_closed (s : Stream) (st' : StreamState) (dir : Dir) (t : FrameType) :
    (s.markReset st' dir t).closed = s.closed := by
  unfold markReset; split <;> (try cases dir) <;> rfl

/-- A swap into Closed by RST_STREAM sets the flag of its direction and nothing else. -/
theorem markReset_flags (s : Stream) (st' : StreamState) (dir : Dir) (t : FrameType) :
    (s.markReset st' dir t).resetSent =
      (s.resetSent || (dir == .send && st' == .stateClosed && t == .rstStream)) ∧
    (s.markReset st' dir t).resetReceived =
      (s.resetReceived || (dir == .recv && st' == .stateClosed && t == .rstStream)) := by
  unfold markReset
  split
  · rename_i h; obtain ⟨h₁, h₂⟩ := h; cases dir <;> simp [h₁, h₂]
  · rename_i h; cases dir <;> simp_all

/-- The outcome of a transition the table admits. -/
theorem transition_of_some {s : Stream} {dir : Dir} {t : FrameType} {es : Bool}
    {st' : StreamState} (now : Int) (h : dir.transition s.state t es = some st') :
    s.transition dir t es now = ((st', none), (s.compareAndSwapState st' now).markReset st' dir t) := by
  simp [transition, h]

/-- The outcome of a transition the table refuses: the stream is unchanged. -/
theorem transition_of_none {s : Stream} {dir : Dir} {t : FrameType} {es : Bool}
    (now : Int) (h : dir.transition s.state t es = none) :
    s.transition dir t es now = ((s.state, some (s.refusal s.state dir t now)), s) := by
  simp [transition, h]

/-- `stream.close`: swap into Closed from whatever state the stream is in. -/
def close (s : Stream) (now : Int) : Stream := s.compareAndSwapState .stateClosed now

end Stream

/-- `localStreamID`: whether a stream id belongs to this endpoint (servers own even ids). -/
def localStreamID (server : Bool) (streamID : UInt32) : Bool :=
  server == (streamID &&& 1 == 0)

/-- The connection code `compareAndSwapState` calls. -/
inductive ConnCall where
  | setRecvWindow | setSendWindow | cancelStream | removeStream
  deriving DecidableEq, Repr

/-- The connection as `compareAndSwapState` sees it: its role, the two active-stream counters,
    its streams, and the calls made on it so far, oldest first. -/
structure Conn where
  server : Bool
  /-- `conn.numStreams`: locally initiated active streams. -/
  numStreams : UInt32
  /-- `conn.remote.numStreams`: peer-initiated active streams. -/
  remoteNumStreams : UInt32
  streams : List Stream
  calls : List (UInt32 × ConnCall)

namespace Conn

/-- The connection half of `compareAndSwapState` for a swap of stream `id` from `st` to
    `st'`: counter updates and the calls, in the order the code makes them. -/
def swapEffects (c : Conn) (id : UInt32) (st st' : StreamState) : Conn :=
  let loc := localStreamID c.server id
  if st'.active then
    if st.idleOrReserved then
      { c with
        numStreams := if loc then c.numStreams + 1 else c.numStreams
        remoteNumStreams := if loc then c.remoteNumStreams else c.remoteNumStreams + 1
        calls := c.calls ++ (id, .setRecvWindow) ::
          (if st' = .stateHalfClosedLocal then [] else [(id, .setSendWindow)]) }
    else if st = .stateOpen ∧ st' = .stateHalfClosedLocal then
      { c with calls := c.calls ++ [(id, .cancelStream)] }
    else c
  else if st' = .stateClosed then
    let c := if st.active then
        { c with
          numStreams := if loc then c.numStreams + 4294967295 else c.numStreams
          remoteNumStreams := if loc then c.remoteNumStreams else c.remoteNumStreams + 4294967295 }
      else c
    if st = .stateClosed then c
    else { c with calls := c.calls ++ [(id, .cancelStream), (id, .removeStream)] }
  else c

/-- `stream.transition` on the `i`-th stream of the set, with the connection half of the
    swap; `none` when there is no such stream. -/
def transition (c : Conn) (i : Nat) (dir : Dir) (frameType : FrameType) (endStream : Bool)
    (now : Int) : Option ((StreamState × Option Error) × Conn) :=
  c.streams[i]?.map fun s =>
    let (r, s') := s.transition dir frameType endStream now
    let c' := { c with streams := c.streams.set i s' }
    (r, match dir.transition s.state frameType endStream with
        | some st' => c'.swapEffects s.id s.state st'
        | none => c')

/-- `stream.close` on the `i`-th stream of the set, with the connection half of the swap. -/
def close (c : Conn) (i : Nat) (now : Int) : Option Conn :=
  c.streams[i]?.map fun s =>
    { c with streams := c.streams.set i (s.close now) }.swapEffects s.id s.state .stateClosed

end Conn

end Http2
