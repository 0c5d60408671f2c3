import DifyPlugin.Library.Dict
import DifyPlugin.Library.Encoding
import DifyPlugin.Library.Fallible
import DifyPlugin.Library.Generator

/-!
# Responses of endpoints

`PluginExecutor.invoke_endpoint` hands the response of an endpoint to the daemon: a generator
body in one frame with status and headers and one frame for each piece, every other body in a
single frame. Bodies are sent in hexadecimal digits. The headers go through a `dict`, which has
one value for each name.
-/

namespace DifyPlugin.PluginExecutor

open Encoding Decoding

/-- A piece of a body. -/
inductive Chunk where
  /-- `bytes`, `bytearray` or `memoryview`. -/
  | bytes (data : Bytes)
  /-- `str`. -/
  | str (text : Text)
  deriving DecidableEq

/-- `response.response`; iterating over it may raise. -/
inductive Body (ε : Type) where
  /-- A generator. -/
  | generator (chunks : Generated Chunk ε)
  /-- `bytes`, `bytearray` or `memoryview`. -/
  | bytes (data : Bytes)
  /-- `str`. -/
  | str (text : Text)
  /-- Any other iterable. -/
  | iterable (chunks : Generated Chunk ε)
  /-- Anything else. -/
  | other

/-- `werkzeug.Response`. -/
structure Response (ε : Type) where
  /-- `status_code`. -/
  statusCode : Int
  /-- `headers.items()`, in which a name may occur more than once. -/
  headers : List (Text × Text)
  /-- `response`. -/
  response : Body ε

/-- A yielded dictionary; an absent key is `none`. -/
structure EndpointFrame where
  /-- `status`. -/
  status : Option Int := none
  /-- `headers`. -/
  headers : Option (Dict Text Text) := none
  /-- `result`. -/
  result : Option Text := none

/-- How the request was handled. -/
inductive Handled (ε : Type) where
  /-- No endpoint has this route. -/
  | notFound
  /-- The dispatch raised something else than `ValueError`. -/
  | dispatchFailed
  /-- The endpoint raised. -/
  | invokeFailed
  /-- The endpoint returned a response. -/
  | returned (response : Response ε)

/-- The bytes of a piece. -/
def Chunk.encoded : Chunk → Bytes
  | .bytes data => data
  | .str text => utf8Encode text

/-- `binascii.hexlify(chunk).decode()`, of the UTF-8 bytes of a string. -/
def Chunk.hexlified (chunk : Chunk) : Text := hexlify chunk.encoded

variable {ε : Type}

/-- The response that `invoke_endpoint` sends; `newResponse` is the constructor of `Response`. -/
def selectResponse (newResponse : Text → Int → Response ε) : Handled ε → Response ε
  | .notFound => newResponse "Not Found".toList 404
  | .dispatchFailed => newResponse "Internal Server Error".toList 500
  | .invokeFailed => newResponse "Internal Server Error".toList 500
  | .returned response => response

/-- `result["result"]` of a body that is no generator. -/
def resultOf : Body ε → Except ε (Option Text)
  | .generator _ => .ok none
  | .bytes data => .ok (some (hexlify data))
  | .str text => .ok (some (hexlify (utf8Encode text)))
  | .iterable chunks =>
    match chunks.raised with
    | some error => .error error
    | none =>
      .ok (some (chunks.yielded.foldl (fun result chunk => result ++ chunk.hexlified) []))
  | .other => .ok none

/-- `invoke_endpoint`, from `with response:` on. -/
def responseFrames (response : Response ε) : Generated EndpointFrame ε :=
  let status := some response.statusCode
  let headers := some (Dict.ofPairs response.headers)
  match response.response with
  | .generator chunks =>
    .yield { status, headers }
      ⟨chunks.yielded.map fun chunk => { result := some chunk.hexlified }, chunks.raised⟩
  | body =>
    match resultOf body with
    | .error error => .raise error
    | .ok result => .yield { status, headers, result } .finished

/-- `PluginExecutor.invoke_endpoint`. -/
def invokeEndpoint (newResponse : Text → Int → Response ε) (handled : Handled ε) :
    Generated EndpointFrame ε :=
  responseFrames (selectResponse newResponse handled)

/-- The exception that iterating over the body raises. -/
def Body.raised : Body ε → Option ε
  | .generator chunks => chunks.raised
  | .iterable chunks => chunks.raised
  | _ => none

/-- The bytes of a body. -/
def Body.content : Body ε → Bytes
  | .generator chunks => chunks.yielded.flatMap Chunk.encoded
  | .bytes data => data
  | .str text => utf8Encode text
  | .iterable chunks => chunks.yielded.flatMap Chunk.encoded
  | .other => []

/-- What the daemon takes from the frames: the status, the headers, and the decoded body. -/
def transmitted (frames : List EndpointFrame) :
    List Int × List (Dict Text Text) × Option Bytes :=
  (frames.filterMap EndpointFrame.status, frames.filterMap EndpointFrame.headers,
    ((frames.filterMap EndpointFrame.result).mapM unhexlify).map List.flatten)

/-- The frames carry the status, every header pair and the bytes of the response. -/
structure Retains (response : Response ε) (frames : List EndpointFrame) : Prop where
  /-- The status is sent once. -/
  status : (transmitted frames).1 = [response.statusCode]
  /-- The headers are sent once, and are those of the response. -/
  headers : ∃ dict, (transmitted frames).2.1 = [dict] ∧ dict.entries.Perm response.headers
  /-- The results decode to the body. -/
  body : (transmitted frames).2.2 = some response.response.content

/-- Collected pieces are the digits of the joined pieces. -/
theorem foldl_hexlified (start : Text) (chunks : List Chunk) :
    chunks.foldl (fun result chunk => result ++ chunk.hexlified) start =
      start ++ hexlify (chunks.flatMap Chunk.encoded) := by
  induction chunks generalizing start with
  | nil => simp [hexlify]
  | cons chunk rest ih =>
    rw [List.foldl_cons, ih, List.flatMap_cons, hexlify_append, List.append_assoc]
    rfl

/-- Pieces that are sent one by one decode one by one. -/
theorem mapM_hexlified (chunks : List Chunk) :
    (chunks.map Chunk.hexlified).mapM unhexlify = some (chunks.map Chunk.encoded) := by
  apply Fallible.mapM_eq_some.mpr
  rw [List.map_map, List.map_map]
  apply List.map_congr_left
  intro chunk _
  exact unhexlify_hexlify _

/-- The frames of the pieces carry their digits, and nothing else. -/
theorem filterMap_pieces (chunks : List Chunk) :
    let frames := chunks.map fun chunk => ({ result := some chunk.hexlified } : EndpointFrame)
    frames.filterMap EndpointFrame.status = [] ∧ frames.filterMap EndpointFrame.headers = [] ∧
      frames.filterMap EndpointFrame.result = chunks.map Chunk.hexlified := by
  induction chunks with
  | nil => exact ⟨rfl, rfl, rfl⟩
  | cons chunk rest ih =>
    obtain ⟨status, headers, results⟩ := ih
    refine ⟨status, headers, ?_⟩
    exact congrArg (chunk.hexlified :: ·) results

/-- A generator body is transmitted with its status, its headers and its bytes. -/
theorem transmitted_generator (status : Int) (headers : List (Text × Text))
    (chunks : Generated Chunk ε) :
    transmitted (responseFrames ⟨status, headers, .generator chunks⟩).yielded =
      ([status], [Dict.ofPairs headers], some (chunks.yielded.flatMap Chunk.encoded)) := by
  obtain ⟨statuses, dicts, results⟩ := filterMap_pieces chunks.yielded
  simp only [transmitted, responseFrames, Generated.yield, List.filterMap_cons, statuses, dicts,
    results, mapM_hexlified, Option.map_some, List.flatMap_def]

/-- A result that is sent in one frame decodes to its bytes. -/
theorem transmitted_frame (status : Int) (headers : Dict Text Text) (data : Bytes) :
    transmitted [{ status, headers, result := some (hexlify data) }] =
      ([status], [headers], some data) := by
  have whole : [hexlify data].mapM unhexlify = some [data] := by
    apply Fallible.mapM_eq_some.mpr
    rw [List.map_singleton, unhexlify_hexlify, List.map_singleton]
  simp only [transmitted, List.filterMap_cons, List.filterMap_nil, whole, Option.map_some,
    List.flatten_singleton]

/-- A body that is no generator is transmitted with its status, its headers and its bytes. -/
theorem transmitted_single (status : Int) (headers : List (Text × Text)) {body : Body ε}
    (plain : ∀ chunks, body ≠ .generator chunks) (complete : body.raised = none) :
    transmitted (responseFrames ⟨status, headers, body⟩).yielded =
      ([status], [Dict.ofPairs headers], some body.content) := by
  cases body with
  | generator chunks => exact absurd rfl (plain chunks)
  | bytes data => exact transmitted_frame status (Dict.ofPairs headers) data
  | str text => exact transmitted_frame status (Dict.ofPairs headers) (utf8Encode text)
  | iterable chunks =>
    have finished : chunks.raised = none := complete
    have collected := foldl_hexlified [] chunks.yielded
    rw [List.nil_append] at collected
    simp only [responseFrames, resultOf, finished, Generated.yield, Generated.finished, collected]
    exact transmitted_frame status (Dict.ofPairs headers) (chunks.yielded.flatMap Chunk.encoded)
  | other => rfl

/-- A complete body is transmitted with its status, its headers and its bytes. -/
theorem transmitted_complete (response : Response ε) (complete : response.response.raised = none) :
    transmitted (responseFrames response).yielded =
      ([response.statusCode], [Dict.ofPairs response.headers],
        some response.response.content) := by
  obtain ⟨status, headers, body⟩ := response
  by_cases streamed : ∃ chunks, body = .generator chunks
  · obtain ⟨chunks, rfl⟩ := streamed
    exact transmitted_generator status headers chunks
  · exact transmitted_single status headers (fun chunks same => streamed ⟨chunks, same⟩) complete

/-- The frames retain an explicit response exactly when no header name occurs more than once. The
streamed and the plain form of a body are transmitted alike. -/
theorem invokeEndpoint_retains (newResponse : Text → Int → Response ε) :
    (∀ response : Response ε, response.response.raised = none →
      (Retains response (invokeEndpoint newResponse (.returned response)).yielded ↔
        (response.headers.map Prod.fst).Nodup)) ∧
    ∀ (status : Int) (headers : List (Text × Text)) (chunks : Generated Chunk ε),
      chunks.raised = none →
      transmitted (invokeEndpoint newResponse
          (.returned ⟨status, headers, .generator chunks⟩)).yielded =
        transmitted (invokeEndpoint newResponse
          (.returned ⟨status, headers, .iterable chunks⟩)).yielded := by
  refine ⟨fun response complete => ?_, fun status headers chunks complete => ?_⟩
  · have sent := transmitted_complete response complete
    constructor
    · intro retains
      obtain ⟨dict, carried, same⟩ := retains.headers
      have dicts : [Dict.ofPairs response.headers] = [dict] :=
        (congrArg (fun sent => sent.2.1) sent).symm.trans carried
      obtain rfl := (List.cons.inj dicts).1
      exact (Dict.ofPairs_perm response.headers).mp same
    · intro different
      exact ⟨congrArg Prod.fst sent,
        ⟨_, congrArg (fun sent => sent.2.1) sent, (Dict.ofPairs_perm _).mpr different⟩,
        congrArg (fun sent => sent.2.2) sent⟩
  · exact (transmitted_complete ⟨status, headers, .generator chunks⟩ complete).trans
      (transmitted_complete ⟨status, headers, .iterable chunks⟩ complete).symm

/-- A response with a text, for examples. -/
def textResponse (text : Text) (status : Int) : Response Empty := ⟨status, [], .str text⟩

/-- A response with a header and a streamed body, for examples. -/
def streamedPieces : Response Empty where
  statusCode := 206
  headers := [("X-Test".toList, "stream".toList)]
  response := .generator ⟨[.str ['ä'], .bytes [0, 255]], none⟩

/-- A streamed response is retained. -/
theorem invokeEndpoint_retains_pieces :
    Retains streamedPieces (invokeEndpoint textResponse (.returned streamedPieces)).yielded :=
  ((invokeEndpoint_retains textResponse).1 streamedPieces rfl).mpr (by decide)

/-- A response that sets two cookies, for examples. -/
def twoCookies : Response Empty where
  statusCode := 200
  headers :=
    [("Set-Cookie".toList, "session=one".toList), ("Set-Cookie".toList, "state=two".toList)]
  response := .bytes [0, 255]

/-- The first of two cookies is lost. -/
theorem invokeEndpoint_drops_cookie :
    ¬ Retains twoCookies (invokeEndpoint textResponse (.returned twoCookies)).yielded := by
  intro retains
  obtain ⟨dict, carried, same⟩ := retains.headers
  have entries : dict.entries = [("Set-Cookie".toList, "state=two".toList)] := by
    obtain rfl := (List.cons.inj carried).1
    decide
  rw [entries] at same
  exact absurd same.length_eq (by decide)

end DifyPlugin.PluginExecutor
