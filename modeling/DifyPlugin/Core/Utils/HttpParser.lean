import DifyPlugin.Library.Dict
import DifyPlugin.Library.Encoding
import DifyPlugin.Library.Splitting

/-!
# Raw HTTP requests

`deserialize_request` cuts a raw request into its head and its body, checks the request line,
lets `h11` parse the head, and builds the environment of a `werkzeug.Request`. The end of the
head is the first `\r\n\r\n` of the whole request; only when there is none, the first `\n\n`.
-/

namespace DifyPlugin.HttpParser

open Encoding Decoding Splitting

/-- `h11.Request`, with the names of the headers in lower case. -/
structure H11Request where
  /-- `method`. -/
  method : Bytes
  /-- `headers`. -/
  headers : List (Bytes × Bytes)
  /-- `http_version`. -/
  httpVersion : Bytes

/-- `connection.next_event()`, after the head was received. -/
inductive H11Event where
  /-- `h11.Request`. -/
  | request (event : H11Request)
  /-- `h11.ProtocolError` is raised. -/
  | protocolError (message : Text)
  /-- Any other event. -/
  | other

/-- `urllib.parse.SplitResult`. -/
structure SplitResult where
  /-- `hostname`. -/
  hostname : Option Text
  /-- `port`, or the message of the `ValueError` that it raises. -/
  port : Except Text (Option Nat)

/-- The code that the parser relies on. -/
structure Platform where
  /-- `h11.Connection(h11.SERVER)`, from the head to the first event. -/
  h11 : Bytes → H11Event
  /-- `urlsplit`, or the message of the `ValueError` that it raises. -/
  urlsplit : Text → Except Text SplitResult
  /-- `str.isprintable`, of a character beyond ASCII. -/
  isPrintable : Char → Bool

/-- Something that is raised. -/
inductive RequestError where
  /-- `ValueError` with its message. -/
  | value (message : Text)
  /-- `UnicodeDecodeError`, a `ValueError`. -/
  | decode
  /-- `TypeError` with its message. -/
  | type (message : Text)
  deriving DecidableEq

/-- `werkzeug.Request`, by its environment. -/
structure Environ where
  /-- `REQUEST_METHOD`. -/
  requestMethod : Text
  /-- `PATH_INFO`. -/
  pathInfo : Text
  /-- `QUERY_STRING`. -/
  queryString : Text
  /-- `SERVER_NAME`. -/
  serverName : Text
  /-- `SERVER_PORT`. -/
  serverPort : Text
  /-- `SERVER_PROTOCOL`. -/
  serverProtocol : Text
  /-- `wsgi.input`. -/
  input : Bytes
  /-- The keys that start with `HTTP_` or `CONTENT_`. -/
  headers : Dict Text Text

/-- A byte string literal. -/
abbrev literal (text : String) : Bytes := utf8Encode text.toList

/-- `b"\r\n"`. -/
def crlf : Bytes := [13, 10]

/-- `b"\n"`. -/
def lf : Bytes := [10]

/-- `b" "`. -/
def space : Bytes := [32]

/-- The head, the separator of its lines, and the body. -/
def splitHead (rawData : Bytes) : Bytes × Bytes × Bytes :=
  match cut (crlf ++ crlf) rawData with
  | some (headerData, body) => (headerData, crlf, body)
  | none =>
    match cut (lf ++ lf) rawData with
    | some (headerData, body) => (headerData, lf, body)
    | none => (rawData, if (cut crlf rawData).isSome then crlf else lf, [])

/-- `data.rpartition(b" ")`, when there is a space. -/
def rcut (data : Bytes) : Option (Bytes × Bytes) :=
  (cut space data.reverse).map fun (after, before) => (before.reverse, after.reverse)

/-- `data.decode()`. -/
def decodeText (data : Bytes) : Except RequestError Text :=
  match utf8Decode data with
  | some text => .ok text
  | none => .error .decode

/-- `data.decode("ascii")`. -/
def decodeAscii (data : Bytes) : Except RequestError Text :=
  if data.all fun byte => byte.toNat < 128 then
    .ok (data.map fun byte => Char.ofNat byte.toNat)
  else .error .decode

/-- `text.isprintable()`. -/
def Platform.printable (platform : Platform) (text : Text) : Bool :=
  text.all fun char =>
    if char.toNat < 128 then decide (32 ≤ char.toNat ∧ char.toNat < 127)
    else platform.isPrintable char

/-- A checked request line. -/
structure RequestLine where
  /-- `method`. -/
  method : Bytes
  /-- `target`. -/
  target : Bytes
  /-- `protocol`. -/
  protocol : Bytes
  /-- `full_path`. -/
  fullPath : Text

/-- The checks of the request line. -/
def Platform.requestLine (platform : Platform) (line : Bytes) : Except RequestError RequestLine :=
  match cut space line with
  | none => .error (.value "Invalid HTTP request line".toList)
  | some (method, remainder) =>
    match rcut remainder with
    | none => .error (.value "Invalid HTTP request line".toList)
    | some (target, protocol) =>
      if protocol ≠ literal "HTTP/1.0" ∧ protocol ≠ literal "HTTP/1.1" then
        .error (.value "Invalid HTTP protocol".toList)
      else do
        let fullPath ← decodeText target
        if platform.printable fullPath then .ok ⟨method, target, protocol, fullPath⟩
        else .error (.value "Invalid HTTP request target".toList)

/-- A byte that `quote_from_bytes` keeps. -/
def isSafe (byte : UInt8) : Bool :=
  let char := Char.ofNat byte.toNat
  char.isAlphanum || decide (char ∈ "_.-~/%:?#[]@!$&'()*+,;=".toList)

/-- `quote_from_bytes(target, safe="/%:?#[]@!$&'()*+,;=").encode()`. -/
def quoteFromBytes (target : Bytes) : Bytes :=
  target.flatMap fun byte =>
    if isSafe byte then [byte]
    else utf8Encode ['%', (Nat.digitChar (byte.toNat / 16)).toUpper,
      (Nat.digitChar (byte.toNat % 16)).toUpper]

/-- `unquote_to_bytes` of encoded text. -/
def unquoteToBytes : Bytes → Bytes
  | [] => []
  | [byte] => [byte]
  | [byte, next] => [byte, next]
  | byte :: high :: low :: rest =>
    match hexValue (Char.ofNat high.toNat), hexValue (Char.ofNat low.toNat) with
    | some first, some second =>
      if byte = 37 then UInt8.ofNat (first * 16 + second) :: unquoteToBytes rest
      else byte :: unquoteToBytes (high :: low :: rest)
    | _, _ => byte :: unquoteToBytes (high :: low :: rest)

/-- The head that `h11` parses. -/
def requestHead (line : RequestLine) (headerLines : List Bytes) : Bytes :=
  let requestLine := line.method ++ space ++ quoteFromBytes line.target ++ space ++
    line.protocol
  crlf.intercalate (requestLine :: headerLines ++ [[], []])

/-- The event that `h11` makes of the head, with the check of the names of its headers. -/
def Platform.requestEvent (platform : Platform) (line : RequestLine) (headerLines : List Bytes) :
    Except RequestError H11Request :=
  match platform.h11 (requestHead line headerLines) with
  | .protocolError message => .error (.value message)
  | .other => .error (.type "Invalid HTTP request".toList)
  | .request event =>
    if event.headers.any fun (name, _) => name.contains 95 then
      .error (.value "Invalid HTTP header".toList)
    else .ok event

/-- The parsed head. -/
def Platform.parseHead (platform : Platform) (headerData lineSeparator : Bytes) :
    Except RequestError (RequestLine × H11Request) := do
  let lines := pieces lineSeparator headerData
  let line ← platform.requestLine (lines.headD [])
  let event ← platform.requestEvent line lines.tail
  .ok (line, event)

/-- The server name and port, by the `Host` header. -/
def Platform.server (platform : Platform) (headerValues : Dict Bytes Bytes) :
    Except RequestError (Text × Text) := do
  let host ← decodeText ((headerValues.get (literal "host")).getD (literal "localhost"))
  match platform.urlsplit ("//".toList ++ host) with
  | .error message => .error (.value message)
  | .ok parsed =>
    match parsed.port with
    | .error message => .error (.value message)
    | .ok port =>
      let hostname := parsed.hostname.getD []
      .ok (if hostname = [] then host else hostname, (toString (port.getD 80)).toList)

/-- `int(content_length)`; `h11` lets only digits through. -/
def contentLengthValue (digits : Bytes) : Nat :=
  digits.foldl (fun value digit => value * 10 + (digit.toNat - 48)) 0

/-- The checks of the framing of the body. -/
def checkFraming (headerValues : Dict Bytes Bytes) (body : Bytes) : Except RequestError Unit :=
  match headerValues.get (literal "content-length"),
    headerValues.get (literal "transfer-encoding") with
  | some _, some _ => .error (.value "Ambiguous HTTP body framing".toList)
  | some contentLength, none =>
    if contentLengthValue contentLength ≠ body.length then
      .error (.value "HTTP body does not match Content-Length".toList)
    else .ok ()
  | none, _ => .ok ()

/-- One round of the loop over the headers. -/
def setHeader (headers : Dict Text Text) (header : Bytes × Bytes) :
    Except RequestError (Dict Text Text) :=
  if header.1 = literal "transfer-encoding" then .ok headers
  else do
    let name ← decodeAscii header.1
    let envName := name.map fun char => if char = '-' then '_' else char.toUpper
    let framed := decide (header.1 = literal "content-type" ∨ header.1 = literal "content-length")
    let key := if framed then envName else "HTTP_".toList ++ envName
    if framed && (headers.get key).isSome then
      .error (.value ("Duplicate HTTP header: ".toList ++ name))
    else do
      let value ← decodeText header.2
      .ok (headers.set key value)

/-- The environment, from the parsed head and the body. -/
def Platform.buildEnviron (platform : Platform) (line : RequestLine) (event : H11Request)
    (body : Bytes) : Except RequestError Environ := do
  let fullPath := line.fullPath
  let rawPath := fullPath.takeWhile (· ≠ '?')
  let queryString := (fullPath.dropWhile (· ≠ '?')).drop 1
  let headerValues := Dict.ofPairs event.headers
  let (serverName, serverPort) ← platform.server headerValues
  let method ← decodeAscii event.method
  let version ← decodeAscii event.httpVersion
  checkFraming headerValues body
  let headers ← event.headers.foldlM setHeader Dict.empty
  let pathInfo := (unquoteToBytes (utf8Encode rawPath)).map fun byte => Char.ofNat byte.toNat
  let lengthMissing := (headerValues.get (literal "content-length")).isNone
  .ok
    { requestMethod := method
      pathInfo := pathInfo
      queryString := queryString
      serverName := serverName
      serverPort := serverPort
      serverProtocol := "HTTP/".toList ++ version
      input := body
      headers :=
        if lengthMissing && !body.isEmpty then
          headers.set "CONTENT_LENGTH".toList (toString body.length).toList
        else headers }

/-- `deserialize_request`. -/
def Platform.deserializeRequest (platform : Platform) (rawData : Bytes) :
    Except RequestError Environ :=
  if rawData = [] then .error (.value "Empty HTTP request".toList)
  else do
    let (headerData, lineSeparator, body) := splitHead rawData
    let (line, event) ← platform.parseHead headerData lineSeparator
    platform.buildEnviron line event body

/-- The two line endings. -/
inductive LineEnding where
  /-- `\r\n`. -/
  | crlf
  /-- `\n`. -/
  | lf
  deriving DecidableEq

/-- The bytes of a line ending. -/
def LineEnding.bytes : LineEnding → Bytes
  | .crlf => HttpParser.crlf
  | .lf => HttpParser.lf

/-- The line ending behind the last line, and the blank line. -/
def LineEnding.blank (ending : LineEnding) : Bytes := ending.bytes ++ ending.bytes

/-- A head whose first blank line is the one that follows it, and which has no `\r\n` when its
lines end with `\n`. -/
structure IsHead (ending : LineEnding) (head : Bytes) : Prop where
  /-- No line is blank. -/
  terminated : cut ending.blank (head ++ ending.blank) = some (head, [])
  /-- The ending is used consistently. -/
  consistent : ending = .lf → cut crlf (head ++ ending.blank) = none

/-- The request with a body is that of the head alone, with the body. -/
structure ReturnsBody (alone returned : Environ) (body : Bytes) : Prop where
  /-- The method is that of the head. -/
  method : returned.requestMethod = alone.requestMethod
  /-- The path is that of the head. -/
  path : returned.pathInfo = alone.pathInfo
  /-- The query string is that of the head. -/
  query : returned.queryString = alone.queryString
  /-- Every header is that of the head, `CONTENT_LENGTH` apart. -/
  headers : ∀ key, key ≠ "CONTENT_LENGTH".toList → returned.headers.get key = alone.headers.get key
  /-- The body is the given one. -/
  body : returned.input = body

/-- Where `\r\n` occurs in data that starts without it and with a `\n` at the end of the start, it
occurs behind the start. -/
theorem prefix_of_crlf {start rest before after : Bytes} (absent : cut crlf (start ++ lf) = none)
    (found : start ++ lf ++ rest = before ++ crlf ++ after) :
    ∃ more, before = start ++ lf ++ more := by
  rw [List.append_assoc before] at found
  rcases List.append_eq_append_iff.mp found with ⟨more, same, -⟩ | ⟨more, same, tail⟩
  · exact ⟨more, same⟩
  · match more, same, tail with
    | [], same, _ => exact ⟨[], by rw [List.append_nil, same, List.append_nil]⟩
    | [first], same, tail =>
      -- the start would end with the `\r`
      have carriage : first = 13 := (List.cons.inj tail).1.symm
      have last := congrArg List.getLast? same
      rw [carriage, lf, List.getLast?_concat, List.getLast?_concat] at last
      exact absurd last (by decide)
    | first :: second :: more, same, tail =>
      -- the start would contain the whole line ending
      obtain ⟨carriage, tail⟩ := List.cons.inj tail
      obtain ⟨newline, -⟩ := List.cons.inj tail
      have occurs : crlf <:+: start ++ lf := by
        rw [same, ← carriage, ← newline]
        exact ⟨before, more, by simp [crlf]⟩
      exact absurd occurs (not_infix_of_cut (by decide) absent)

/-- A head with `\r\n` is split from any body. -/
theorem splitHead_crlf {head : Bytes} (shape : IsHead .crlf head) (body : Bytes) :
    splitHead (head ++ LineEnding.crlf.blank ++ body) = (head, crlf, body) := by
  have found : cut (crlf ++ crlf) (head ++ LineEnding.crlf.blank ++ body) = some (head, body) :=
    cut_append body shape.terminated
  simp only [splitHead, found]

/-- A head with `\n` is split from a body without `\r\n\r\n`. -/
theorem splitHead_lf {head : Bytes} (shape : IsHead .lf head) {body : Bytes}
    (plain : ¬ crlf ++ crlf <:+: body) :
    splitHead (head ++ LineEnding.lf.blank ++ body) = (head, lf, body) := by
  have absent : cut (crlf ++ crlf) (head ++ LineEnding.lf.blank ++ body) = none := by
    apply cut_none_of_not_infix
    rintro ⟨before, after, same⟩
    have start : cut crlf (head ++ lf ++ lf) = none := by
      rw [List.append_assoc]
      exact shape.consistent rfl
    have blank : LineEnding.lf.blank = lf ++ lf := rfl
    have behind : head ++ lf ++ lf ++ body = before ++ crlf ++ (crlf ++ after) := by
      rw [List.append_assoc head lf lf, ← blank, ← same]
      simp only [List.append_assoc]
    obtain ⟨more, rfl⟩ := prefix_of_crlf start behind
    have inside : body = more ++ (crlf ++ crlf) ++ after := by simpa using behind
    exact plain ⟨more, after, inside.symm⟩
  have found : cut (lf ++ lf) (head ++ LineEnding.lf.blank ++ body) = some (head, body) :=
    cut_append body shape.terminated
  simp only [splitHead, absent, found]

/-- The environment with a body differs from the one without in the input and its length. -/
theorem buildEnviron_body (platform : Platform) (line : RequestLine) {event : H11Request}
    (unframed : ∀ header ∈ event.headers, header.1 ≠ literal "content-length")
    {alone : Environ} (accepted : platform.buildEnviron line event [] = .ok alone) (body : Bytes) :
    ∃ returned, platform.buildEnviron line event body = .ok returned ∧
      ReturnsBody alone returned body := by
  have missing : (Dict.ofPairs event.headers).get (literal "content-length") = none := by
    apply Dict.get_update_of_not_mem
    intro listed
    obtain ⟨header, inside, same⟩ := List.mem_map.mp listed
    exact unframed header inside same
  have framing (body : Bytes) : checkFraming (Dict.ofPairs event.headers) body = .ok () := by
    simp only [checkFraming, missing]
  simp only [Platform.buildEnviron, framing, missing] at accepted ⊢
  cases found : platform.server (Dict.ofPairs event.headers) with
  | error error => simp [found, bind, Except.bind] at accepted
  | ok server =>
    cases method : decodeAscii event.method with
    | error error => simp [found, method, bind, Except.bind] at accepted
    | ok method =>
      cases version : decodeAscii event.httpVersion with
      | error error => simp [found, method, version, bind, Except.bind] at accepted
      | ok version =>
        cases set : event.headers.foldlM setHeader Dict.empty with
        | error error => simp [found, method, version, set, bind, Except.bind] at accepted
        | ok headers =>
          simp only [found, method, version, set, bind, Except.bind] at accepted ⊢
          obtain rfl := Except.ok.inj accepted
          refine ⟨_, rfl, rfl, rfl, rfl, ?_, rfl⟩
          intro key other
          have kept : (headers.set "CONTENT_LENGTH".toList (toString body.length).toList).get key =
              headers.get key := Dict.get_set_of_ne headers other _
          by_cases empty : body = []
          · simp [empty]
          · simpa [empty] using kept

/-- The request is that of the parsed head, whatever its body is. -/
theorem deserializeRequest_of_splitHead (platform : Platform) {rawData : Bytes}
    (present : rawData ≠ []) {headerData lineSeparator body : Bytes}
    (split : splitHead rawData = (headerData, lineSeparator, body)) :
    platform.deserializeRequest rawData =
      (platform.parseHead headerData lineSeparator).bind fun (line, event) =>
        platform.buildEnviron line event body := by
  rw [Platform.deserializeRequest, if_neg present, split]
  rfl

/-- A head that is split from a body returns that body. -/
theorem deserializeRequest_split (platform : Platform) {ending : LineEnding} {head body : Bytes}
    (alone : splitHead (head ++ ending.blank ++ []) = (head, ending.bytes, []))
    (split : splitHead (head ++ ending.blank ++ body) = (head, ending.bytes, body))
    (unframed : ∀ line event, platform.parseHead head ending.bytes = .ok (line, event) →
      ∀ header ∈ event.headers, header.1 ≠ literal "content-length")
    {environ : Environ}
    (accepted : platform.deserializeRequest (head ++ ending.blank) = .ok environ) :
    ∃ returned, platform.deserializeRequest (head ++ ending.blank ++ body) = .ok returned ∧
      ReturnsBody environ returned body := by
  have nonempty (body : Bytes) : head ++ ending.blank ++ body ≠ [] := by
    cases ending <;> simp [LineEnding.blank, LineEnding.bytes, crlf, lf]
  have whole := deserializeRequest_of_splitHead platform (nonempty []) alone
  rw [List.append_nil, accepted] at whole
  rw [deserializeRequest_of_splitHead platform (nonempty body) split]
  cases parsed : platform.parseHead head ending.bytes with
  | error error => simp [parsed, Except.bind] at whole
  | ok found =>
    rw [parsed] at whole
    exact buildEnviron_body platform found.1 (unframed found.1 found.2 parsed) whole.symm body

/-- The last space cuts the data in two. -/
theorem rcut_eq {data before after : Bytes} (found : rcut data = some (before, after)) :
    data = before ++ space ++ after := by
  obtain ⟨parts, cutReverse, same⟩ := Option.map_eq_some_iff.mp found
  obtain ⟨rfl, rfl⟩ := Prod.mk.inj same
  have whole := congrArg List.reverse (cut_eq cutReverse)
  simpa [space] using whole

/-- A request line with a newline behind its method is rejected: the newline is in the protocol, or
in the target, where it cannot be printed. -/
theorem requestLine_rejects (platform : Platform) {line method remainder : Bytes}
    (found : cut space line = some (method, remainder)) (newline : 10 ∈ remainder) :
    ∃ error, platform.requestLine line = .error error := by
  simp only [Platform.requestLine, found]
  cases last : rcut remainder with
  | none => exact ⟨_, rfl⟩
  | some parts =>
    obtain ⟨target, protocol⟩ := parts
    by_cases unknown : protocol ≠ literal "HTTP/1.0" ∧ protocol ≠ literal "HTTP/1.1"
    · exact ⟨_, if_pos unknown⟩
    · simp only [if_neg unknown]
      have known : (10 : UInt8) ∉ protocol := by
        intro listed
        by_cases old : protocol = literal "HTTP/1.0"
        · exact absurd (old ▸ listed) (by decide)
        · by_cases new : protocol = literal "HTTP/1.1"
          · exact absurd (new ▸ listed) (by decide)
          · exact unknown ⟨old, new⟩
      have inside : (10 : UInt8) ∈ target := by
        rw [rcut_eq last] at newline
        rcases List.mem_append.mp newline with front | late
        · rcases List.mem_append.mp front with listed | space
          · exact listed
          · exact absurd space (by decide)
        · exact absurd late known
      cases decoded : utf8Decode target with
      | none => exact ⟨.decode, by simp [decodeText, decoded, bind, Except.bind]⟩
      | some fullPath =>
        obtain ⟨char, listed, code⟩ := mem_of_utf8Decode decoded inside (by decide)
        have hidden : platform.printable fullPath = false := by
          refine List.all_eq_false.mpr ⟨char, listed, ?_⟩
          simp [code]
        exact ⟨.value "Invalid HTTP request target".toList, by
          simp [decodeText, decoded, hidden, bind, Except.bind]⟩

/-- The first line of an accepted head has a space. -/
theorem cut_space_of_accepted {platform : Platform} {headerData lineSeparator : Bytes}
    (nonempty : lineSeparator ≠ []) {parsed : RequestLine × H11Request}
    (accepted : platform.parseHead headerData lineSeparator = .ok parsed) :
    ∃ method rest, cut space headerData = some (method, rest) := by
  have first := pieces_head nonempty headerData
  cases found : cut space ((pieces lineSeparator headerData).headD []) with
  | none =>
    have rejected : platform.requestLine ((pieces lineSeparator headerData).headD []) =
        .error (.value "Invalid HTTP request line".toList) := by
      simp only [Platform.requestLine, found]
    simp only [Platform.parseHead, rejected, bind, Except.bind] at accepted
    exact absurd accepted nofun
  | some parts =>
    rw [first] at found
    cases broken : cut lineSeparator headerData with
    | none =>
      rw [broken] at found
      exact ⟨parts.1, parts.2, found⟩
    | some lines =>
      rw [broken] at found
      have longer := cut_append (lineSeparator ++ lines.2) found
      refine ⟨parts.1, parts.2 ++ (lineSeparator ++ lines.2), ?_⟩
      rw [cut_eq broken, List.append_assoc]
      exact longer

/-- A head with `\n` and a body with `\r\n\r\n` are rejected: the request is cut inside of the
body, and the first line then reaches into the body. -/
theorem deserializeRequest_rejects (platform : Platform) {head : Bytes} (shape : IsHead .lf head)
    {parsed : RequestLine × H11Request} (accepted : platform.parseHead head lf = .ok parsed)
    {body : Bytes} (inside : crlf ++ crlf <:+: body) :
    ∃ error, platform.deserializeRequest (head ++ LineEnding.lf.blank ++ body) =
      .error error := by
  have start : cut crlf (head ++ lf ++ lf) = none := by
    rw [List.append_assoc]
    exact shape.consistent rfl
  have raw : head ++ LineEnding.lf.blank ++ body = head ++ lf ++ lf ++ body := by
    rw [List.append_assoc head lf lf]
    rfl
  obtain ⟨method, rest, spaceFound⟩ := cut_space_of_accepted (by decide) accepted
  cases found : cut (crlf ++ crlf) (head ++ LineEnding.lf.blank ++ body) with
  | none =>
    have occurs : crlf ++ crlf <:+: head ++ LineEnding.lf.blank ++ body :=
      inside.trans (List.suffix_append _ _).isInfix
    exact absurd occurs (not_infix_of_cut (by decide) found)
  | some parts =>
    obtain ⟨before, after⟩ := parts
    have cutBody : head ++ lf ++ lf ++ body = before ++ crlf ++ (crlf ++ after) := by
      rw [← raw, cut_eq found]
      simp only [List.append_assoc]
    obtain ⟨more, longer⟩ := prefix_of_crlf start cutBody
    -- the first line begins with the whole head and its blank line
    have first : ∃ more, (pieces crlf before).headD [] = head ++ lf ++ lf ++ more := by
      rw [pieces_head (by decide)]
      cases broken : cut crlf before with
      | none => exact ⟨more, longer⟩
      | some lines =>
        exact prefix_of_crlf start (longer.symm.trans (cut_eq broken))
    obtain ⟨later, line⟩ := first
    have spaced : cut space ((pieces crlf before).headD []) =
        some (method, rest ++ (lf ++ lf ++ later)) := by
      rw [line, List.append_assoc, List.append_assoc, ← List.append_assoc lf]
      exact cut_append _ spaceFound
    obtain ⟨error, rejected⟩ := requestLine_rejects platform spaced (by simp [lf])
    have split : splitHead (head ++ LineEnding.lf.blank ++ body) = (before, crlf, after) := by
      simp only [splitHead, found]
    have present : head ++ LineEnding.lf.blank ++ body ≠ [] := by
      simp [LineEnding.blank, LineEnding.bytes, lf]
    rw [deserializeRequest_of_splitHead platform present split]
    refine ⟨error, ?_⟩
    simp only [Platform.parseHead, rejected, bind, Except.bind]

/-- A request returns the body it was sent exactly when its head ends lines with `\r\n`, or its
body has no `\r\n\r\n`. Transfer codings are not looked at without a content length. -/
theorem deserializeRequest_body (platform : Platform) {ending : LineEnding} {head : Bytes}
    (shape : IsHead ending head) {environ : Environ}
    (accepted : platform.deserializeRequest (head ++ ending.blank) = .ok environ)
    (unframed : ∀ line event, platform.parseHead head ending.bytes = .ok (line, event) →
      ∀ header ∈ event.headers, header.1 ≠ literal "content-length") (body : Bytes) :
    (∃ returned, platform.deserializeRequest (head ++ ending.blank ++ body) = .ok returned ∧
      ReturnsBody environ returned body) ↔ ending = .crlf ∨ ¬ crlf ++ crlf <:+: body := by
  cases ending with
  | crlf =>
    have returns := deserializeRequest_split platform (splitHead_crlf shape [])
      (splitHead_crlf shape body) unframed accepted
    exact ⟨fun _ => Or.inl rfl, fun _ => returns⟩
  | lf =>
    have alone : splitHead (head ++ LineEnding.lf.blank ++ []) = (head, lf, []) :=
      splitHead_lf shape (by decide)
    by_cases inside : crlf ++ crlf <:+: body
    · constructor
      · rintro ⟨returned, succeeds, -⟩
        have whole := deserializeRequest_of_splitHead platform
          (by simp [LineEnding.blank, LineEnding.bytes, lf]) alone
        rw [List.append_nil, accepted] at whole
        cases parsed : platform.parseHead head lf with
        | error error => simp [parsed, Except.bind] at whole
        | ok found =>
          obtain ⟨error, rejected⟩ := deserializeRequest_rejects platform shape parsed inside
          exact absurd (succeeds.symm.trans rejected) nofun
      · rintro (other | plain)
        · exact absurd other nofun
        · exact absurd inside plain
    · have returns := deserializeRequest_split platform alone (splitHead_lf shape inside) unframed
        accepted
      exact ⟨fun _ => Or.inr inside, fun _ => returns⟩

/-- A platform on which `h11` reads a `GET` request with a `Host` header, for examples. -/
def getPlatform : Platform where
  h11 head :=
    if head = literal "GET /hook HTTP/1.1\r\nHost: a\r\n\r\n" then
      .request ⟨literal "GET", [(literal "host", literal "a")], literal "1.1"⟩
    else .protocolError "illegal request line".toList
  urlsplit text := .ok ⟨some (text.drop 2), .ok none⟩
  isPrintable _ := false

/-- A head with the line ending, for examples. -/
def getHead (ending : LineEnding) : Bytes :=
  literal "GET /hook HTTP/1.1" ++ ending.bytes ++ literal "Host: a"

/-- The request of the head alone, for examples. -/
def getEnviron : Environ where
  requestMethod := "GET".toList
  pathInfo := "/hook".toList
  queryString := []
  serverName := "a".toList
  serverPort := "80".toList
  serverProtocol := "HTTP/1.1".toList
  input := []
  headers := Dict.ofPairs [("HTTP_HOST".toList, "a".toList)]

/-- The head is accepted without a body. -/
theorem getHead_accepted :
    getPlatform.deserializeRequest (getHead .lf ++ LineEnding.lf.blank) = .ok getEnviron := by
  rfl

/-- The head has no content length. -/
theorem getHead_unframed (line : RequestLine) (event : H11Request)
    (parsed : getPlatform.parseHead (getHead .lf) LineEnding.lf.bytes = .ok (line, event)) :
    ∀ header ∈ event.headers, header.1 ≠ literal "content-length" := by
  have known : getPlatform.parseHead (getHead .lf) LineEnding.lf.bytes =
      .ok (⟨literal "GET", literal "/hook", literal "HTTP/1.1", "/hook".toList⟩,
        ⟨literal "GET", [(literal "host", literal "a")], literal "1.1"⟩) := by rfl
  obtain ⟨-, rfl⟩ := Prod.mk.inj (Except.ok.inj (known.symm.trans parsed))
  decide

/-- A body with single line endings is returned. -/
theorem deserializeRequest_body_lines :
    ∃ returned, getPlatform.deserializeRequest (getHead .lf ++ LineEnding.lf.blank ++
      literal "a\r\nb\n\n") = .ok returned ∧
      ReturnsBody getEnviron returned (literal "a\r\nb\n\n") :=
  (deserializeRequest_body getPlatform ⟨rfl, fun _ => rfl⟩ getHead_accepted
    getHead_unframed (literal "a\r\nb\n\n")).mpr (Or.inr (not_infix_of_cut (by decide) rfl))

/-- A body with a blank line of the other ending is not returned: the request is rejected. -/
theorem deserializeRequest_cuts_body :
    IsHead .lf (getHead .lf) ∧
      getPlatform.deserializeRequest (getHead .lf ++ LineEnding.lf.blank) = .ok getEnviron ∧
      getPlatform.deserializeRequest (getHead .lf ++ LineEnding.lf.blank ++ literal "\r\n\r\n") =
        .error (.value "Invalid HTTP protocol".toList) :=
  ⟨⟨rfl, fun _ => rfl⟩, by rfl, by rfl⟩

end DifyPlugin.HttpParser
