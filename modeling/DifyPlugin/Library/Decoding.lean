import DifyPlugin.Library.Str

/-!
# Incremental decoding

An incremental decoder turns pieces of a byte sequence into text and may hold back an
incomplete character between them. `NewlineDecoder` follows `io.IncrementalNewlineDecoder` with
`translate=True`: it holds back a trailing carriage return, since a line feed in the next piece
would belong to it. `decode_hold` and `decode_last` state the one fact a caller needs, that the
pieces of text it returns concatenate to the translation of everything decoded.
-/

namespace DifyPlugin.Decoding

/-- Bytes in stream order. -/
abbrev Bytes := List UInt8

/-- A decoder object of the `codecs` module with its state. -/
structure IncrementalDecoder (σ : Type) where
  /-- The state before the first byte. -/
  start : σ
  /-- Decode one piece; `true` marks the last one. -/
  decode : σ → Bytes → Bool → Text × σ

namespace IncrementalDecoder

variable {σ : Type}

/-- Decode every piece, then flush with an empty last one. -/
def decodePieces (decoder : IncrementalDecoder σ) : σ → List Bytes → Text
  | state, [] => (decoder.decode state [] true).1
  | state, data :: rest =>
    let (text, state) := decoder.decode state data false
    text ++ decoder.decodePieces state rest

/-- Decode a whole byte sequence at once. -/
def decodeWhole (decoder : IncrementalDecoder σ) (body : Bytes) : Text :=
  (decoder.decode decoder.start body true).1

/-- The documented law of incremental decoders: the pieces do not matter. -/
def Incremental (decoder : IncrementalDecoder σ) : Prop :=
  ∀ data, decoder.decodePieces decoder.start data = decoder.decodeWhole data.flatten

end IncrementalDecoder

/-- `text.replace("\r\n", "\n").replace("\r", "\n")`: every line ending becomes a line feed. -/
def translate : Text → Text
  | [] => []
  | '\r' :: '\n' :: rest => '\n' :: translate rest
  | '\r' :: rest => '\n' :: translate rest
  | char :: rest => char :: translate rest

/-- Translation splits anywhere except between a carriage return and its line feed. -/
theorem translate_append (left right : Text)
    (apart : left.getLast? = some '\r' → right.head? ≠ some '\n') :
    translate (left ++ right) = translate left ++ translate right := by
  induction left using translate.induct with
  | case1 => rfl
  | case2 rest ih =>
    simp only [List.cons_append, translate]
    rw [ih (fun ends => apart (by cases rest <;> simp_all))]
  | case3 rest single ih =>
    cases rest with
    | nil =>
      cases right with
      | nil => rfl
      | cons next rest =>
        have other : next ≠ '\n' := by simpa using apart rfl
        have shape : ∀ tail, next :: rest = '\n' :: tail → False := by
          intro tail same
          exact other (List.cons.inj same).1
        rw [List.singleton_append, translate.eq_3 _ shape]
        rfl
    | cons next rest =>
      have shape : ∀ tail, next :: (rest ++ right) = '\n' :: tail → False := by
        intro tail same
        exact single rest (by rw [(List.cons.inj same).1])
      rw [List.cons_append, List.cons_append, translate.eq_3 _ shape, translate.eq_3 _ single,
        ← List.cons_append, ih (fun ends => apart (by simpa using ends))]
      rfl
  | case4 char rest notPair notReturn ih =>
    have apartRest : rest.getLast? = some '\r' → right.head? ≠ some '\n' := by
      intro ends
      cases rest with
      | nil => simp at ends
      | cons next rest => exact apart (by simpa using ends)
    rw [List.cons_append, translate.eq_4 _ _ (fun _ first _ => notReturn first) notReturn,
      translate.eq_4 _ _ notPair notReturn, ih apartRest, List.cons_append]

/-- `io.IncrementalNewlineDecoder` around a decoder in some state. -/
structure NewlineDecoder (σ : Type) where
  /-- The state of the wrapped decoder. -/
  inner : σ
  /-- A carriage return was decoded and held back. -/
  pendingCr : Bool

namespace NewlineDecoder

variable {σ : Type}

/-- The text that is held back. -/
def held (pendingCr : Bool) : Text := if pendingCr then ['\r'] else []

/-- What the newline decoder makes of a decoded text: a held carriage return comes first, and
a trailing one is held unless the piece is the last. -/
def translateHeld (pendingCr : Bool) (output : Text) (final : Bool) : Text × Bool :=
  let (output, pendingCr) :=
    if pendingCr && (!output.isEmpty || final) then ('\r' :: output, false)
    else (output, pendingCr)
  let (output, pendingCr) :=
    if output.getLast? == some '\r' && !final then (output.dropLast, true)
    else (output, pendingCr)
  (translate output, pendingCr)

/-- `IncrementalNewlineDecoder.decode(input, final)` with `translate=True`. -/
def decode (codec : IncrementalDecoder σ) (decoder : NewlineDecoder σ) (input : Bytes)
    (final : Bool) : Text × NewlineDecoder σ :=
  let (output, inner) := codec.decode decoder.inner input final
  let (output, pendingCr) := translateHeld decoder.pendingCr output final
  (output, ⟨inner, pendingCr⟩)

/-- The last piece flushes everything that was held back. -/
theorem translateHeld_last (pendingCr : Bool) (output : Text) :
    (translateHeld pendingCr output true).1 = translate (held pendingCr ++ output) := by
  cases pendingCr <;> simp [translateHeld, held]

/-- Before the last piece, what was returned and what is still held stand for the same text. -/
theorem translateHeld_more (pendingCr : Bool) (output rest : Text) :
    (translateHeld pendingCr output false).1 ++
        translate (held (translateHeld pendingCr output false).2 ++ rest) =
      translate (held pendingCr ++ output ++ rest) := by
  -- Unless nothing is decoded, the held return joins the output, whose last one is held anew.
  suffices join : ∀ whole : Text,
      translate (if whole.getLast? = some '\r' then whole.dropLast else whole) ++
          translate ((if whole.getLast? = some '\r' then ['\r'] else []) ++ rest) =
        translate (whole ++ rest) by
    cases pendingCr with
    | false =>
      have := join output
      by_cases ends : output.getLast? = some '\r' <;> simp_all [translateHeld, held]
    | true =>
      cases output with
      | nil => simp [translateHeld, held, translate]
      | cons char tail =>
        have := join ('\r' :: char :: tail)
        by_cases ends : ('\r' :: char :: tail).getLast? = some '\r' <;>
          simp_all [translateHeld, held]
  intro whole
  by_cases ends : whole.getLast? = some '\r'
  · rw [if_pos ends, if_pos ends,
      ← translate_append whole.dropLast _ (fun _ => by simp), ← List.append_assoc]
    obtain ⟨front, rfl⟩ := List.getLast?_eq_some_iff.mp ends
    simp
  · rw [if_neg ends, if_neg ends, translate_append whole rest (fun same => absurd same ends)]
    rfl

/-- What is returned for a piece continues with the translation of what is held and still to
be decoded. -/
theorem decode_more (codec : IncrementalDecoder σ) (decoder : NewlineDecoder σ) (piece : Bytes)
    (rest : List Bytes) :
    (decoder.decode codec piece false).1 ++
        translate (held (decoder.decode codec piece false).2.pendingCr ++
          codec.decodePieces (decoder.decode codec piece false).2.inner rest) =
      translate (held decoder.pendingCr ++ codec.decodePieces decoder.inner (piece :: rest)) := by
  have text := translateHeld_more decoder.pendingCr (codec.decode decoder.inner piece false).1
    (codec.decodePieces (codec.decode decoder.inner piece false).2 rest)
  rwa [List.append_assoc (held decoder.pendingCr)] at text

end NewlineDecoder

end DifyPlugin.Decoding
