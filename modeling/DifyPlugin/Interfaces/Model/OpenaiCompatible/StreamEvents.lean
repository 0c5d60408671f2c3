import DifyPlugin.Library.Decoding

/-!
# Events of a streamed response

`_iter_stream_events` turns the bytes of a response into events. With the default delimiter it
keeps two buffers between pieces, the decoder's and the pending text; `iterStreamEvents_pieces`
shows that neither is visible: the events are those of the whole body decoded at once, with
every line ending turned into a line feed, and split on the blank line.
-/

namespace DifyPlugin.OpenaiCompatible

open Splitting Decoding

/-- What the reader takes from the `codecs` module. -/
structure Codecs (σ : Type) where
  /-- `codecs.lookup(encoding).name`. -/
  lookupName : Text → Text
  /-- `codecs.getincrementaldecoder(encoding)("replace")`. -/
  incrementalDecoder : Text → IncrementalDecoder σ

/-- The parts of a `requests.Response` that carry the streamed body. -/
structure StreamedBody where
  /-- `response.encoding`; `none` or empty when the response names no charset. -/
  encoding : Option Text
  /-- The pieces of `response.iter_content(chunk_size=512)`. -/
  iterContent : List Bytes
  /-- `response.iter_lines(decode_unicode=True, delimiter=delimiter)`. -/
  iterLines : Text → List Text

variable {σ : Type}

/-- The delimiter of server-sent events, a blank line. -/
def blankLine : Text := ['\n', '\n']

/-- `response.encoding or "utf-8"`. -/
def StreamedBody.encodingOrUtf8 (body : StreamedBody) : Text :=
  match body.encoding with
  | none => "utf-8".toList
  | some [] => "utf-8".toList
  | some name => name

/-- Whether a leading byte order mark is dropped. -/
def stripBom (codecs : Codecs σ) (body : StreamedBody) : Bool :=
  codecs.lookupName body.encodingOrUtf8 == "utf-8".toList

/-- The decoder for the body: UTF-8 is decoded as `utf-8-sig`. -/
def streamDecoder (codecs : Codecs σ) (body : StreamedBody) : IncrementalDecoder σ :=
  codecs.incrementalDecoder
    (if stripBom codecs body then "utf-8-sig".toList else body.encodingOrUtf8)

/-- The loop over the pieces of the body: the decoder's state and the pending text. -/
def splitContent (codec : IncrementalDecoder σ) : NewlineDecoder σ → Text → List Bytes → List Text
  | decoder, pending, [] =>
    let (text, _) := decoder.decode codec [] true
    pieces blankLine (pending ++ text)
  | decoder, pending, data :: rest =>
    let (text, decoder) := decoder.decode codec data false
    let (events, pending) := split blankLine (pending ++ text)
    events ++ splitContent codec decoder pending rest

/-- `_iter_stream_events`. -/
def iterStreamEvents (codecs : Codecs σ) (body : StreamedBody) (delimiter : Text) : List Text :=
  if delimiter ≠ blankLine then
    (body.iterLines delimiter).zipIdx.map fun (rawEvent, index) =>
      translate (if stripBom codecs body && index == 0
        then Str.removePrefix ['\ufeff'] rawEvent else rawEvent)
  else
    let codec := streamDecoder codecs body
    splitContent codec ⟨codec.start, false⟩ [] body.iterContent

/-- The blank line is a delimiter. -/
theorem blankLine_ne_nil : blankLine ≠ [] := by decide

/-- From any state of both buffers, the events of the remaining pieces are those of the pending
text followed by the translation of all text still to come. -/
theorem splitContent_eq (codec : IncrementalDecoder σ) (decoder : NewlineDecoder σ)
    (pending : Text) (data : List Bytes) :
    splitContent codec decoder pending data =
      pieces blankLine (pending ++ translate (NewlineDecoder.held decoder.pendingCr ++
        codec.decodePieces decoder.inner data)) := by
  induction data generalizing decoder pending with
  | nil =>
    simp only [splitContent, NewlineDecoder.decode, IncrementalDecoder.decodePieces,
      NewlineDecoder.translateHeld_last]
  | cons piece rest ih =>
    calc
      splitContent codec decoder pending (piece :: rest) =
          (split blankLine (pending ++ (decoder.decode codec piece false).1)).1 ++
            pieces blankLine
              ((split blankLine (pending ++ (decoder.decode codec piece false).1)).2 ++
              translate (NewlineDecoder.held (decoder.decode codec piece false).2.pendingCr ++
                codec.decodePieces (decoder.decode codec piece false).2.inner rest)) := by
        simp only [splitContent, ih]
      _ = pieces blankLine (pending ++ translate (NewlineDecoder.held decoder.pendingCr ++
            codec.decodePieces decoder.inner (piece :: rest))) := by
        rw [← pieces_append blankLine_ne_nil, List.append_assoc, NewlineDecoder.decode_more]

/-- With the default delimiter the events are those of the text that the decoder makes of the
pieces, with LF line endings. -/
theorem iterStreamEvents_blankLine (codecs : Codecs σ) (body : StreamedBody) :
    iterStreamEvents codecs body blankLine =
      pieces blankLine (translate ((streamDecoder codecs body).decodePieces
        (streamDecoder codecs body).start body.iterContent)) := by
  rw [iterStreamEvents, if_neg (by simp), splitContent_eq]
  rfl

/-- With the default delimiter the events do not depend on how the body was cut into pieces:
they are the whole body decoded at once, with LF line endings, split on the blank line. -/
theorem iterStreamEvents_pieces (codecs : Codecs σ) (body : StreamedBody)
    (incremental : (streamDecoder codecs body).Incremental) :
    iterStreamEvents codecs body blankLine =
      pieces blankLine
        (translate ((streamDecoder codecs body).decodeWhole body.iterContent.flatten)) := by
  rw [iterStreamEvents_blankLine, incremental]

/-- The decoder of the one-byte charset ISO-8859-1, which needs no state. -/
def latin1 : IncrementalDecoder Unit where
  start := ()
  decode _ input _ := (input.map fun byte => Char.ofNat byte.toNat, ())

/-- A one-byte charset decodes every piece on its own. -/
theorem latin1_incremental : latin1.Incremental := by
  intro data
  suffices pieces : latin1.decodePieces () data =
      data.flatten.map fun byte => Char.ofNat byte.toNat from pieces
  induction data with
  | nil => rfl
  | cons piece rest ih =>
    change piece.map _ ++ latin1.decodePieces () rest = _
    rw [ih, List.flatten_cons, List.map_append]

/-- A body cut between CR and LF and inside the blank line. -/
theorem iterStreamEvents_pieces_latin1 :
    iterStreamEvents ⟨id, fun _ => latin1⟩
        ⟨some "iso-8859-1".toList, [[97, 13], [10, 13], [10, 98]], fun _ => []⟩ blankLine =
      [['a'], ['b']] := by
  rw [iterStreamEvents_pieces ⟨id, fun _ => latin1⟩ _ latin1_incremental]
  decide

end DifyPlugin.OpenaiCompatible
