import Mathlib
import Http2.Native.Strings

/-!
# Header fields

`Header` is Go's `map[string][]string`, one entry per key (`AList`); a `nil` header is the
empty one. The decoder's `Header.add` checks each field as it arrives; the exported `Add`,
`Set`, `Get` and `Del` (Go's capitalised names, as Go tells them from `add` by case) address
a field by its `CanonicalHTTP2HeaderKey`; `requestToHeader` builds the header list of a
request. `pseudoHeader` and `commonHeader` are the tables `init` fills, latest write first.
A call that can panic at `key[0]` or `vv[0]` returns `Except Panic`.
-/

namespace Http2

/-- `MalformedError`, a `string`; its `Error()` is `"http2: malformed; " + string(e)`. -/
structure MalformedError where
  msg : List UInt8
  deriving DecidableEq, Repr

/-- `errMalformedHeader`. -/
def errMalformedHeader : MalformedError := ⟨bytes "invalid header field"⟩

/-! ## Tables -/

/-- `pseudoHeader`, as `init` fills it. -/
def pseudoHeader : List (List UInt8) :=
  [":method", ":scheme", ":authority", ":path", ":status"].map bytes

/-- The names `init` enters into `commonHeader`, in its order. -/
def commonHeaderNames : List String := [
  "Accept", "Accept-Charset", "Accept-Encoding", "Accept-Language", "Accept-Ranges", "Age",
  "Allow", "ALPN", "Authentication-Info", "Authorization", "Cache-Control", "Connection",
  "Content-Disposition", "Content-Encoding", "Content-Language", "Content-Length",
  "Content-Location", "Content-Range", "Content-Type", "Cookie", "DASL", "DAV", "Date",
  "Depth", "Destination", "ETag", "Expect", "Expires", "Forwarded", "From", "Host",
  "HTTP2-Settings", "If", "If-Match", "If-Modified-Since", "If-None-Match", "If-Range",
  "If-Schedule-Tag-Match", "If-Unmodified-Since", "Last-Modified", "Location", "Lock-Token",
  "Max-Forwards", "MIME-Version", "Ordering-Type", "Origin", "Overwrite", "Position", "Pragma",
  "Prefer", "Preference-Applied", "Proxy-Authenticate", "Proxy-Authentication-Info",
  "Proxy-Authorization", "Public-Key-Pins", "Public-Key-Pins-Report-Only", "Range", "Referer",
  "Retry-After", "Schedule-Reply", "Schedule-Tag", "Sec-WebSocket-Accept",
  "Sec-WebSocket-Extensions", "Sec-WebSocket-Key", "Sec-WebSocket-Protocol",
  "Sec-WebSocket-Version", "Server", "Set-Cookie", "SLUG", "Strict-Transport-Security", "TE",
  "Timeout", "Trailer", "Transfer-Encoding", "Upgrade", "User-Agent", "Vary", "Via",
  "WWW-Authenticate", "Warning", "Access-Control-Allow-Credentials",
  "Access-Control-Allow-Headers", "Access-Control-Allow-Methods",
  "Access-Control-Allow-Origin", "Access-Control-Max-Age", "Access-Control-Request-Method",
  "Access-Control-Request-Headers", "Compliance", "Content-Transfer-Encoding", "Cost",
  "EDIINT-Features", "Message-ID", "Non-Compliance", "Optional", "Resolution-Hint",
  "Resolver-Location", "SubOK", "Subst", "Title", "UA-Color", "UA-Media", "UA-Pixels",
  "UA-Resolution", "UA-Windowpixels", "Version", "X-Device-Accept", "X-Device-Accept-Charset",
  "X-Device-Accept-Encoding", "X-Device-Accept-Language", "X-Device-User-Agent"]

/-- One pass of `init`'s loop over the names: `commonHeader[v] = lower`, then
    `commonHeader[lower] = lower`, with `lower := strings.ToLower(v)`. -/
def commonHeaderStep (u : Unicode) (m : List (List UInt8 × List UInt8)) (v : String) :
    List (List UInt8 × List UInt8) :=
  let lower := toLower u (bytes v)
  (lower, lower) :: (bytes v, lower) :: m

/-- `commonHeader`, as `init` fills it. -/
def commonHeader (u : Unicode) : List (List UInt8 × List UInt8) :=
  commonHeaderNames.foldl (commonHeaderStep u) []

/-- `validHeaderKey`: non-empty, with no byte at or above `127` and no upper-case letter. -/
def validHeaderKey (v : List UInt8) : Bool :=
  !v.isEmpty && v.all fun c => !(127 ≤ c || isUpper c)

/-- `CanonicalHTTP2HeaderKey`: the `commonHeader` entry of `s`; else `s` itself when it is a
    valid key; else `strings.ToLower(s)`. -/
def canonicalHTTP2HeaderKey (u : Unicode) (s : List UInt8) : List UInt8 :=
  match (commonHeader u).lookup s with
  | some v => v
  | none => if validHeaderKey s then s else toLower u s

/-- `badHeader`: the connection-specific fields HTTP/2 forbids. -/
def badHeader (key : List UInt8) : Bool :=
  key ∈ ["connection", "keep-alive", "proxy-connection", "transfer-encoding", "host",
    "upgrade"].map bytes

/-! ## The map -/

/-- `Header`, Go's `map[string][]string`: the values under each key, each key once. -/
abbrev Header := AList fun _ : List UInt8 => List (List UInt8)

namespace Header

/-- `h[key]`: the values under `key`, `nil` when there are none. -/
def find (h : Header) (key : List UInt8) : List (List UInt8) := (h.lookup key).getD []

/-- `h[key] = vv`. -/
def store (h : Header) (key : List UInt8) (vv : List (List UInt8)) : Header := h.insert key vv

/-- `delete(h, key)`. -/
def delete (h : Header) (key : List UInt8) : Header := h.erase key

/-- `Header.Len`: the number of values, over all keys. -/
def len (h : Header) : Nat := (h.entries.map fun e => e.2.length).sum

/-- `h[key] = []string{value}`, the body of `SetMethod`, `SetScheme`, `SetAuthority` and
    `SetPath`, each for its own pseudo-header. -/
def setPseudo (key : List UInt8) (h : Header) (value : List UInt8) : Header :=
  h.store key [value]

/-- `Header.SetMethod`. -/
def setMethod : Header → List UInt8 → Header := setPseudo (bytes ":method")

/-- `Header.SetScheme`. -/
def setScheme : Header → List UInt8 → Header := setPseudo (bytes ":scheme")

/-- `Header.SetAuthority`. -/
def setAuthority : Header → List UInt8 → Header := setPseudo (bytes ":authority")

/-- `Header.SetPath`. -/
def setPath : Header → List UInt8 → Header := setPseudo (bytes ":path")

/-- `Header.SetStatus`. -/
def setStatus : Header → List UInt8 → Header := setPseudo (bytes ":status")

/-- `h.get(key)`: the first value under `key` as it is, or `""`; the body of `Method`,
    `Scheme`, `Authority`, `Path` and `Status`, each for its own pseudo-header. -/
def get (h : Header) (key : List UInt8) : List UInt8 := (h.find key).headD []

/-- `Header.Method`. -/
def method (h : Header) : List UInt8 := h.get (bytes ":method")

/-- `Header.Scheme`. -/
def scheme (h : Header) : List UInt8 := h.get (bytes ":scheme")

/-- `Header.Authority`. -/
def authority (h : Header) : List UInt8 := h.get (bytes ":authority")

/-- `Header.Path`. -/
def path (h : Header) : List UInt8 := h.get (bytes ":path")

/-- `Header.Status`. -/
def status (h : Header) : List UInt8 := h.get (bytes ":status")

/-- `Header.Add`: appends `value` under the canonical key. A key starting with `:` is left
    alone, and `key[0]` of the empty key is an index out of range. -/
def Add (u : Unicode) (h : Header) (key value : List UInt8) : Except Panic Header :=
  (index key 0).map fun c =>
    if c ≠ colon then
      let key := canonicalHTTP2HeaderKey u key
      h.store key (h.find key ++ [value])
    else h

/-- `Header.Set`: the canonical key holds `value` alone. -/
def Set (u : Unicode) (h : Header) (key value : List UInt8) : Header :=
  h.store (canonicalHTTP2HeaderKey u key) [value]

/-- `Header.Get`: the first value under the canonical key, or `""`. -/
def Get (u : Unicode) (h : Header) (key : List UInt8) : List UInt8 :=
  (h.find (canonicalHTTP2HeaderKey u key)).headD []

/-- `Header.Del`: removes the canonical key. -/
def Del (u : Unicode) (h : Header) (key : List UInt8) : Header :=
  h.delete (canonicalHTTP2HeaderKey u key)

/-- `Header.add`, the decoder's check of one field: a pseudo-header is refused past five
    values or outside `pseudoHeader`, an invalid key is refused, and otherwise the value is
    appended. `key[0]` of the empty key panics. -/
def add (h : Header) (key value : List UInt8) : Except Panic (Option MalformedError × Header) :=
  (index key 0).map fun c =>
    if c = colon ∧ 5 < h.len then (some errMalformedHeader, h)
    else if c = colon ∧ key ∉ pseudoHeader then (some errMalformedHeader, h)
    else if validHeaderKey key then (none, h.store key (h.find key ++ [value]))
    else (some errMalformedHeader, h)

/-! ## Copying a request's fields -/

/-- `for _, v := range vv { h.Add(k, v) }`. -/
def addValues (u : Unicode) (h : Header) (k : List UInt8) :
    List (List UInt8) → Except Panic Header
  | [] => .ok h
  | v :: vv => (h.Add u k v).bind fun h => addValues u h k vv

/-- The `cookie` branch of `addHeader`: a value whose first `;` comes after its first byte is
    split at every `;` and each piece is added trimmed; any other value is added whole. -/
def addCookies (u : Unicode) (h : Header) (k : List UInt8) :
    List (List UInt8) → Except Panic Header
  | [] => .ok h
  | v :: vv =>
    let pieces := if 0 < indexByte v 59 then (splitByte v 59).map u.trimSpace else [v]
    (addValues u h k pieces).bind fun h => addCookies u h k vv

/-- The `te` check of `addHeader`, read left to right, so that `vv[0]` is read only when the
    first two conjuncts hold: the value it rejects, or `none`. -/
def teRejected (u : Unicode) (k : List UInt8) (vv : List (List UInt8)) :
    Except Panic (Option (List UInt8)) :=
  if k = bytes "te" ∧ vv.length ≠ 1 then
    (index vv 0).map fun v => if toLower u v ≠ bytes "trailers" then some v else none
  else .ok none

/-- `Header.addHeader` over the fields in range order: connection-specific fields dropped,
    cookies split, and a rejected `te` ends the copy. -/
def addHeader (u : Unicode) (h : Header) :
    List (Σ _ : List UInt8, List (List UInt8)) → Except Panic (Option MalformedError × Header)
  | [] => .ok (none, h)
  | ⟨k, vv⟩ :: rest =>
    let k := canonicalHTTP2HeaderKey u k
    if badHeader k then addHeader u h rest
    else if k = bytes "cookie" then (addCookies u h k vv).bind fun h => addHeader u h rest
    else (teRejected u k vv).bind fun
      | some v => .ok (some ⟨bytes "bad value for te: " ++ v⟩, h)
      | none => (addValues u h k vv).bind fun h => addHeader u h rest

end Header

/-- The fields of `url.URL` that `requestToHeader` reads. `requestURI` is `URL.RequestURI()`,
    which `net/url` computes from fields the code does not read itself. -/
structure URL where
  scheme : List UInt8
  host : List UInt8
  fragment : List UInt8
  requestURI : List UInt8
  /-- `RequestURI()` falls back to `"/"`, so it is never `""`. -/
  requestURI_ne_nil : requestURI ≠ []

/-- The fields of `http.Request` that `requestToHeader` reads, of a non-nil request with a
    non-nil `URL`: the code dereferences both unchecked. -/
structure Request where
  method : List UInt8
  url : URL
  header : Header

/-- The scheme read off the port of `host` (what follows the last `:` after the last `]`):
    `http`, `https`, or `""`. -/
def schemeOfHost (host : List UInt8) : List UInt8 :=
  let i := lastIndexByte host colon
  if 0 ≤ i ∧ lastIndexByte host 93 < i then
    let port := host.drop i.toNat
    if port = bytes ":http" ∨ port = bytes ":80" then bytes "http"
    else if port = bytes ":https" ∨ port = bytes ":443" then bytes "https"
    else []
  else []

/-- The pseudo-header fields set before `:authority`: for every method but CONNECT,
    `:method`, `:scheme` and `:path`, the last two refused when empty without `skipVerify`. -/
def requestPseudo (req : Request) (skipVerify : Bool) : Except MalformedError Header :=
  if req.method ≠ bytes "CONNECT" then
    let h := (∅ : Header).setMethod req.method
    let withScheme : Except MalformedError Header :=
      if req.url.scheme ≠ [] then .ok (h.setScheme req.url.scheme)
      else if schemeOfHost req.url.host ≠ [] then .ok (h.setScheme (schemeOfHost req.url.host))
      else if !skipVerify then .error ⟨bytes ":scheme must be specified"⟩
      else .ok h
    withScheme.bind fun h =>
      if req.url.requestURI ≠ [] then
        .ok (h.setPath (if req.url.fragment ≠ [] then
          req.url.requestURI ++ bytes "#" ++ req.url.fragment else req.url.requestURI))
      else if !skipVerify then .error ⟨bytes ":path must be specified"⟩
      else .ok (h.setPath (bytes "/"))
  else .ok ∅

/-- `requestToHeader`: the pseudo-header fields, `:authority`, then `req.Header` by
    `addHeader`. The header, or the error it returns; or a panic. -/
def requestToHeader (u : Unicode) (req : Request) (skipVerify : Bool) :
    Except Panic (Except MalformedError Header) :=
  match requestPseudo req skipVerify with
  | .error e => .ok (.error e)
  | .ok h =>
    (Header.addHeader u (h.setAuthority req.url.host) req.header.entries).map fun
      | (some e, _) => .error e
      | (none, h) => .ok h

/-! ## Header values -/

namespace Header

/-- The loop of `splitHeader`: the values of the first field whose key `equalFold`s `key`,
    each split at `,` and trimmed, then `break`. -/
def splitFields (equalFold : List UInt8 → List UInt8 → Bool) (u : Unicode) (key : List UInt8) :
    List (Σ _ : List UInt8, List (List UInt8)) → List (List UInt8)
  | [] => []
  | ⟨k, v⟩ :: rest =>
    if equalFold key k then v.flatMap fun vv => (splitByte vv 44).map u.trimSpace
    else splitFields equalFold u key rest

/-- `splitHeader(header, key)`; `equalFold` is `strings.EqualFold`. -/
def splitHeader (equalFold : List UInt8 → List UInt8 → Bool) (u : Unicode) (header : Header)
    (key : List UInt8) : List (List UInt8) :=
  splitFields equalFold u key header.entries

/-- The inner loop of `containsValue`: whether some `s` of `ss` `equalFold`s to `v`, which
    takes `continue loop`. -/
def foldsIn (equalFold : List UInt8 → List UInt8 → Bool) (v : List UInt8) :
    List (List UInt8) → Bool
  | [] => false
  | s :: ss => if equalFold v s then true else foldsIn equalFold v ss

/-- The labelled loop of `containsValue` over `values`: `return false` at the first value that
    folds to no `s`, `true` after the last. -/
def containsLoop (equalFold : List UInt8 → List UInt8 → Bool) (ss : List (List UInt8)) :
    List (List UInt8) → Bool
  | [] => true
  | v :: values => if foldsIn equalFold v ss then containsLoop equalFold ss values else false

/-- `containsValue(header, key, values...)`: `false` when `splitHeader` finds nothing, else
    the labelled loop. -/
def containsValue (equalFold : List UInt8 → List UInt8 → Bool) (u : Unicode) (header : Header)
    (key : List UInt8) (values : List (List UInt8)) : Bool :=
  let ss := splitHeader equalFold u header key
  if ss.length = 0 then false else containsLoop equalFold ss values

end Header

end Http2
