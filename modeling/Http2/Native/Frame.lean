/-!
# Frames, error codes and errors

The vocabulary the stream core shares with the frame codec. A frame, as the stream state
machine sees it, is its type and its END_STREAM flag. Go's `error` values returned by the
core become the constructors of `Error`: the sentinel `ignoreFrame`, the two sentinels of
`allocateBytes`, plain `fmt.Errorf`/`errors.New` errors (kept with their text), and the
protocol errors `StreamError` and `ConnError` with their codes. A connection-wide SETTINGS
change collects the errors of its streams in a `StreamErrorList`.
-/

namespace Http2

/-- Frame types of RFC 7540 §6 (`FrameData` … `FrameContinuation`); any other type byte is
    `unknown`. -/
inductive FrameType where
  | data | headers | priority | rstStream | settings | pushPromise | ping | goAway
  | windowUpdate | continuation
  | unknown (t : UInt8)
  deriving DecidableEq, Repr

/-- A frame on a stream: its type and whether it carries END_STREAM. -/
structure Frame where
  type : FrameType
  endStream : Bool
  deriving DecidableEq, Repr

/-- The HTTP/2 error codes (`ErrCodeNo` … `ErrCodeHTTP11Required`). -/
inductive ErrCode where
  | no | protocol | internal | flowControl | settingsTimeout | streamClosed | frameSize
  | refusedStream | cancel | compression | connect | enhanceYourCalm | inadequateSecurity
  | http11Required
  deriving DecidableEq, Repr

/-- The errors the core returns. -/
inductive Error where
  /-- `ignoreFrame`: the frame is dropped silently. -/
  | ignoreFrame
  /-- `errStreamClosed`: the stream closed while a producer waited. -/
  | errStreamClosed
  /-- `ErrClosed`: the connection closed while a producer waited. -/
  | errClosed
  /-- A plain error value with its text. -/
  | plain (msg : String)
  /-- `StreamError{err, code, streamID}`: fatal to one stream. -/
  | streamError (msg : String) (code : ErrCode) (streamID : UInt32)
  /-- `ConnError{err, code}`: fatal to the connection. -/
  | connError (msg : String) (code : ErrCode)
  deriving DecidableEq, Repr

/-- A `*StreamError` of a `StreamErrorList`: the error it wraps, its code and its stream. -/
structure StreamErr where
  err : Error
  errCode : ErrCode
  streamID : UInt32
  deriving DecidableEq, Repr

/-- `StreamErrorList`: the stream errors of a connection-wide change, in the order they
    arose. -/
abbrev StreamErrorList := List StreamErr

namespace StreamErrorList

/-- `errors.add(streamID, errCode, err)`. -/
def add (e : StreamErrorList) (streamID : UInt32) (errCode : ErrCode) (err : Error) :
    StreamErrorList :=
  e ++ [⟨err, errCode, streamID⟩]

/-- `errors.Err()`: `nil` for an empty list, the list otherwise. -/
def err (e : StreamErrorList) : Option StreamErrorList :=
  if e.length = 0 then none else some e

end StreamErrorList

/-- `defaultInitialWindowSize`: the initial flow-control window of RFC 7540 §6.9.2. -/
def defaultInitialWindowSize : Int := 65535

/-- `maxInitialWindowSize`: the largest flow-control window, `2 ^ 31 - 1`. -/
def maxInitialWindowSize : Int := 2147483647

/-- A protocol error: a `StreamError` or a `ConnError`. -/
def Error.isProtocolError : Error → Bool
  | .streamError .. | .connError .. => true
  | _ => false

/-- The type assertion `err.(StreamError)`: the `StreamError` value, whose `Err` is the error
    with its text; `none` where the assertion panics. -/
def Error.asStreamError : Error → Option StreamErr
  | .streamError msg code streamID => some ⟨.plain msg, code, streamID⟩
  | _ => none

end Http2
