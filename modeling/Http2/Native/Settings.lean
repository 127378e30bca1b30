import Http2.Native.Frame

/-!
# Settings

`Settings`, the `(ID, Value)` pairs of a snapshot, with `value` (the first entry with an id),
`Value` (that or the id's default) and `SetValue` (a range check, then a write into the first
entry with the id, or a new entry). The ids, defaults and bounds are declared outside
`util.go`; they are RFC 7540 §6.5.2's, with the largest `uint32` for an unlimited
`MAX_CONCURRENT_STREAMS`.
-/

namespace Http2

/-- `SettingHeaderTableSize`. -/
def settingHeaderTableSize : UInt16 := 1

/-- `SettingEnablePush`. -/
def settingEnablePush : UInt16 := 2

/-- `SettingMaxConcurrentStreams`. -/
def settingMaxConcurrentStreams : UInt16 := 3

/-- `SettingInitialWindowSize`. -/
def settingInitialWindowSize : UInt16 := 4

/-- `SettingMaxFrameSize`. -/
def settingMaxFrameSize : UInt16 := 5

/-- `SettingMaxHeaderListSize`. -/
def settingMaxHeaderListSize : UInt16 := 6

/-- `maxFrameSizeLowerBound`. -/
def maxFrameSizeLowerBound : UInt32 := 16384

/-- `maxFrameSizeUpperBound`, `2 ^ 24 - 1`. -/
def maxFrameSizeUpperBound : UInt32 := 16777215

/-- `SettingID.String`. -/
def settingIDString (id : UInt16) : String :=
  if id = settingHeaderTableSize then "HEADER_TABLE_SIZE"
  else if id = settingEnablePush then "ENABLE_PUSH"
  else if id = settingMaxConcurrentStreams then "MAX_CONCURRENT_STREAMS"
  else if id = settingInitialWindowSize then "INITIAL_WINDOW_SIZE"
  else if id = settingMaxFrameSize then "MAX_FRAME_SIZE"
  else if id = settingMaxHeaderListSize then "MAX_HEADER_LIST_SIZE"
  else "UNKNOWN_SETTING_" ++ toString id.toNat

/-- `setting`: one `(ID, Value)` pair. -/
structure Setting where
  id : UInt16
  value : UInt32
  deriving DecidableEq, Repr

/-- `Settings`, a slice of `setting`; a `nil` slice is the empty list. -/
abbrev Settings := List Setting

namespace Settings

/-- `Settings.value`: the value of the first entry with `id`, or `none` (Go's `exists` false). -/
def value : Settings → UInt16 → Option UInt32
  | [], _ => none
  | x :: s, id => if x.id = id then some x.value else value s id

/-- The value `Settings.Value` gives an id with no entry: the `default...` constant of its
    setting, and `0` for any other id. -/
def defaultValue (id : UInt16) : UInt32 :=
  if id = settingHeaderTableSize then 4096
  else if id = settingEnablePush then 1
  else if id = settingMaxConcurrentStreams then 4294967295
  else if id = settingInitialWindowSize then 65535
  else if id = settingMaxFrameSize then 16384
  else 0

/-- `Settings.Value`: the value of the first entry with `id`, or the id's default. -/
def Value (s : Settings) (id : UInt16) : UInt32 :=
  match s.value id with
  | some v => v
  | none => defaultValue id

/-- The range check of `SetValue`: ENABLE_PUSH below `2`, INITIAL_WINDOW_SIZE at most
    `maxInitialWindowSize`, MAX_FRAME_SIZE within its bounds, any value for another id. -/
def validValue (id : UInt16) (value : UInt32) : Bool :=
  if id = settingEnablePush then value < 2
  else if id = settingInitialWindowSize then (value.toNat : Int) ≤ maxInitialWindowSize
  else if id = settingMaxFrameSize then
    maxFrameSizeLowerBound ≤ value && value ≤ maxFrameSizeUpperBound
  else true

/-- The loop of `SetValue`: the first entry with `id` takes `value`; with none, a new entry
    goes at the end. -/
def setFirst : Settings → UInt16 → UInt32 → Settings
  | [], id, value => [⟨id, value⟩]
  | x :: s, id, value => if x.id = id then ⟨x.id, value⟩ :: s else x :: setFirst s id value

/-- `Settings.SetValue`: the settings after the call, and the error it returns,
    `invalid <id> specified; <value>` for a value out of its id's range. -/
def setValue (s : Settings) (id : UInt16) (value : UInt32) : Settings × Option Error :=
  if validValue id value then (setFirst s id value, none)
  else (s, some (.plain ("invalid " ++ settingIDString id ++ " specified; " ++
    toString value.toNat)))

/-! ## The typed accessors

Each is `Value` or `SetValue` at its own id; `PushEnabled` reads ENABLE_PUSH as a flag and
`SetPushEnabled` writes it as 1 or 0. -/

/-- `Settings.HeaderTableSize`. -/
def headerTableSize (s : Settings) : UInt32 := s.Value settingHeaderTableSize

/-- `Settings.SetHeaderTableSize`. -/
def setHeaderTableSize (s : Settings) (value : UInt32) : Settings × Option Error :=
  s.setValue settingHeaderTableSize value

/-- `Settings.PushEnabled`: ENABLE_PUSH is not 0. -/
def pushEnabled (s : Settings) : Bool := s.Value settingEnablePush != 0

/-- `Settings.SetPushEnabled`: ENABLE_PUSH set to 1 or 0. -/
def setPushEnabled (s : Settings) (enabled : Bool) : Settings × Option Error :=
  s.setValue settingEnablePush (if enabled then 1 else 0)

/-- `Settings.MaxConcurrentStreams`. -/
def maxConcurrentStreams (s : Settings) : UInt32 := s.Value settingMaxConcurrentStreams

/-- `Settings.SetMaxConcurrentStreams`. -/
def setMaxConcurrentStreams (s : Settings) (value : UInt32) : Settings × Option Error :=
  s.setValue settingMaxConcurrentStreams value

/-- `Settings.InitialWindowSize`. -/
def initialWindowSize (s : Settings) : UInt32 := s.Value settingInitialWindowSize

/-- `Settings.SetInitialWindowSize`. -/
def setInitialWindowSize (s : Settings) (value : UInt32) : Settings × Option Error :=
  s.setValue settingInitialWindowSize value

/-- `Settings.MaxFrameSize`. -/
def maxFrameSize (s : Settings) : UInt32 := s.Value settingMaxFrameSize

/-- `Settings.SetMaxFrameSize`. -/
def setMaxFrameSize (s : Settings) (value : UInt32) : Settings × Option Error :=
  s.setValue settingMaxFrameSize value

/-- `Settings.MaxHeaderListSize`. -/
def maxHeaderListSize (s : Settings) : UInt32 := s.Value settingMaxHeaderListSize

/-- `Settings.SetMaxHeaderListSize`. -/
def setMaxHeaderListSize (s : Settings) (value : UInt32) : Settings × Option Error :=
  s.setValue settingMaxHeaderListSize value

end Settings

/-- `Conn.InitialSendWindow(streamID)`: the peer's INITIAL_WINDOW_SIZE, whatever the stream;
    `remote` is `c.RemoteSettings()`. -/
def initialSendWindow (remote : Settings) (_streamID : UInt32) : UInt32 :=
  remote.initialWindowSize

end Http2
