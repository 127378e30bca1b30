import Http2.Native.Frame
import Http2.Native.Stream
import Http2.Native.StreamSteps
import Http2.Native.SendFlow
import Http2.Native.RecvFlow
import Http2.Native.Strings
import Http2.Native.Header
import Http2.Native.Settings
import Http2.Spec.Agreement
import Http2.Spec.Bookkeeping
import Http2.Spec.Linearizability
import Http2.Spec.SendCredit
import Http2.Spec.SendWindow
import Http2.Spec.RecvCalls
import Http2.Spec.RecvWindow
import Http2.Spec.RecvSettings
import Http2.Spec.RecvAccounting
import Http2.Spec.SettingsChange
import Http2.Spec.HeaderKey
import Http2.Spec.HeaderCalls
import Http2.Spec.HeaderAdd
import Http2.Spec.RequestHeader
import Http2.Spec.SettingsStore
