import DifyPlugin.Library.Generator
import DifyPlugin.Library.Str

/-!
# Objects of a streamed response

`_iter_stream_json` reads each event first as raw JSON, with at most one `data:` in front, and
then as server-sent event fields. `Means` states what an event stands for without that order;
`means_iff` shows that no event has two meanings and that the code finds the one it has.
The JSON validator is a parameter with the facts about JSON texts that the agreement rests on.
-/

namespace DifyPlugin.OpenaiCompatible

open Str Splitting

/-- The exception class of failed provider invocations. -/
structure InvokeError where
  /-- The text of the exception. -/
  description : Text
  deriving DecidableEq

/-- White space between JSON tokens. -/
def jsonSpace (char : Char) : Bool :=
  char == ' ' || char == '\t' || char == '\n' || char == '\r'

/-- `TypeAdapter(dict[str, Any]).validate_json`, and what holds of every JSON object text. -/
structure JsonObjects (Obj : Type) where
  /-- The object, when the text is a JSON object. -/
  validateJson : Text → Option Obj
  /-- An object starts with a brace. -/
  brace : ∀ text obj, validateJson text = some obj →
    ∃ blank rest, text = blank ++ '{' :: rest ∧ ∀ char ∈ blank, jsonSpace char = true
  /-- White space before the object does not matter. -/
  padded : ∀ blank text, (∀ char ∈ blank, jsonSpace char = true) →
    validateJson (blank ++ text) = validateJson text
  /-- Nothing visible follows a complete object on a further line. -/
  ended : ∀ text more obj, validateJson text = some obj → (∃ char ∈ more, isSpace char = false) →
    validateJson (text ++ '\n' :: more) = none
  /-- Line breaks stand between tokens only, so no line starts with a bare field name. -/
  field : ∀ text obj line, validateJson text = some obj → line ∈ lines text →
    (partition [':'] line).1 ≠ "data".toList

/-- What one event of the stream amounts to. -/
inductive Outcome (Obj : Type) where
  /-- The event carries this object. -/
  | chunk (obj : Obj)
  /-- The event carries nothing. -/
  | nothing
  /-- The event ends the stream. -/
  | done
  /-- The event is rejected. -/
  | invalid

/-- `"[DONE]"`. -/
def doneMark : Text := "[DONE]".toList

/-- `response.headers.get("Content-Type", "")` names server-sent events. -/
def isSse (contentType : Text) : Bool :=
  (strip (partition [';'] contentType).1).map Char.toLower == "text/event-stream".toList

/-- The lines of an event, each cut at its first colon. -/
def fields (event : Text) : List (Text × Text × Text) := (lines event).map (partition [':'])

/-- The value of a `data` field, without the one space after its colon. -/
def dataLine : Text × Text × Text → Option Text
  | (field, _, value) =>
    if field = "data".toList then some (removePrefix [' '] value) else none

/-- The values of the `data` fields of an event. -/
def dataLines (event : Text) : List Text := (fields event).filterMap dataLine

/-- A comment, or one of the fields that SSE defines besides `data`. -/
def sseMark : Text × Text × Text → Bool
  | (field, separator, _) =>
    field == "event".toList || field == "id".toList || field == "retry".toList ||
      (field.isEmpty && separator == [':'])

/-- The data of an event. -/
def eventData (event : Text) : Text := join ['\n'] (dataLines event)

/-- The loop body of `_iter_stream_json` for a stripped event that is not empty. -/
def readEvent {Obj : Type} (json : JsonObjects Obj) (sse : Bool) (event : Text) : Outcome Obj :=
  let payload := lstrip (removePrefix "data:".toList event)
  if payload = doneMark then .done
  else
    match json.validateJson payload with
    | some chunk => .chunk chunk
    | none =>
      if dataLines event = [] then
        if sse || (fields event).any sseMark then .nothing else .invalid
      else
        let payload := eventData event
        if strip payload = doneMark then .done
        else
          match json.validateJson payload with
          | some chunk => .chunk chunk
          | none => .invalid

/-- The text of the `InvokeError` for a rejected event. -/
def invalidJson : InvokeError := ⟨"Invalid JSON in the model response stream".toList⟩

/-- `_iter_stream_json` over the events of a response. -/
def iterStreamJson {Obj : Type} (json : JsonObjects Obj) (sse : Bool) :
    List Text → Generated Obj InvokeError
  | [] => .finished
  | rawEvent :: rest =>
    let event := strip rawEvent
    if event = [] then iterStreamJson json sse rest
    else
      match readEvent json sse event with
      | .chunk chunk => .yield chunk (iterStreamJson json sse rest)
      | .nothing => iterStreamJson json sse rest
      | .done => .finished
      | .invalid => .raise invalidJson

/-- The whole event, or its data, is the end mark. -/
def EndsStream (event : Text) : Prop :=
  event = doneMark ∨ (dataLines event ≠ [] ∧ strip (eventData event) = doneMark)

/-- The event is one `data:` followed by the end mark, perhaps on a later line. -/
def PrefixedEnd (event : Text) : Prop :=
  ∃ rest, event = "data:".toList ++ rest ∧ lstrip rest = doneMark

/-- What an event stands for. Each constructor is one rule, whatever else the event holds;
`ends` says which events end the stream. -/
inductive Means {Obj : Type} (json : JsonObjects Obj) (sse : Bool) (ends : Text → Prop)
    (event : Text) : Outcome Obj → Prop where
  /-- The data is a JSON object. -/
  | data (obj : Obj) (present : dataLines event ≠ [])
      (parsed : json.validateJson (eventData event) = some obj) :
      Means json sse ends event (.chunk obj)
  /-- The event is a JSON object itself. -/
  | raw (obj : Obj) (parsed : json.validateJson event = some obj) :
      Means json sse ends event (.chunk obj)
  /-- The event is a JSON object, perhaps over several lines, after a single `data:`. -/
  | prefixed (obj : Obj) (rest : Text) (shape : event = "data:".toList ++ rest)
      (parsed : json.validateJson (lstrip rest) = some obj) : Means json sse ends event (.chunk obj)
  /-- The event ends the stream. -/
  | done (end_ : ends event) : Means json sse ends event .done
  /-- The event has no data, and says so by its fields or by the type of the response. -/
  | nothing (noData : dataLines event = []) (notRaw : json.validateJson event = none)
      (goesOn : ¬ ends event) (marked : sse = true ∨ ∃ field ∈ fields event, sseMark field = true) :
      Means json sse ends event .nothing
  /-- No rule applies. -/
  | invalid (notData : dataLines event ≠ [] → json.validateJson (eventData event) = none)
      (notRaw : json.validateJson event = none)
      (notPrefixed : ∀ rest, event = "data:".toList ++ rest →
        json.validateJson (lstrip rest) = none)
      (goesOn : ¬ ends event)
      (unmarked : dataLines event = [] →
        sse = false ∧ ∀ field ∈ fields event, sseMark field = false) :
      Means json sse ends event .invalid

/-- What a list of events delivers: the objects in order, and the error that ends it. -/
inductive Delivers {Obj : Type} (json : JsonObjects Obj) (sse : Bool) (ends : Text → Prop) :
    List Text → List Obj → Option InvokeError → Prop where
  /-- The stream is over. -/
  | eof : Delivers json sse ends [] [] none
  /-- A blank event is skipped. -/
  | blank {rawEvent rest chunks stop} (empty : strip rawEvent = [])
      (later : Delivers json sse ends rest chunks stop) :
      Delivers json sse ends (rawEvent :: rest) chunks stop
  /-- An object is delivered. -/
  | chunk {rawEvent rest chunks stop obj} (visible : strip rawEvent ≠ [])
      (means : Means json sse ends (strip rawEvent) (.chunk obj))
      (later : Delivers json sse ends rest chunks stop) :
      Delivers json sse ends (rawEvent :: rest) (obj :: chunks) stop
  /-- An event without data is skipped. -/
  | nothing {rawEvent rest chunks stop} (visible : strip rawEvent ≠ [])
      (means : Means json sse ends (strip rawEvent) .nothing)
      (later : Delivers json sse ends rest chunks stop) :
      Delivers json sse ends (rawEvent :: rest) chunks stop
  /-- The stream ends here, whatever events follow. -/
  | done {rawEvent rest} (visible : strip rawEvent ≠ [])
      (means : Means json sse ends (strip rawEvent) .done) :
      Delivers json sse ends (rawEvent :: rest) [] none
  /-- The event is rejected, whatever events follow. -/
  | invalid {rawEvent rest} (visible : strip rawEvent ≠ [])
      (means : Means json sse ends (strip rawEvent) .invalid) :
      Delivers json sse ends (rawEvent :: rest) [] (some invalidJson)

variable {Obj : Type} {json : JsonObjects Obj} {sse : Bool}

/-- The brace is visible. -/
theorem brace_visible : isSpace '{' = false := by decide

/-- JSON white space is white space. -/
theorem isSpace_of_jsonSpace {char : Char} (blank : jsonSpace char = true) :
    isSpace char = true := by
  simp only [jsonSpace, Bool.or_eq_true, beq_iff_eq] at blank
  rcases blank with ((rfl | rfl) | rfl) | rfl <;> decide

/-- Stripping the left of an object text leaves the same object, which starts with a brace. -/
theorem validateJson_lstrip {text : Text} {obj : Obj}
    (parsed : json.validateJson text = some obj) :
    (∃ rest, lstrip text = '{' :: rest) ∧ json.validateJson (lstrip text) = some obj := by
  obtain ⟨blank, rest, rfl, spaces⟩ := json.brace text obj parsed
  have stripped : lstrip (blank ++ '{' :: rest) = '{' :: rest := by
    rw [lstrip_blank (fun char found => isSpace_of_jsonSpace (spaces char found)),
      lstrip_visible brace_visible]
  rw [json.padded blank _ spaces] at parsed
  refine ⟨⟨rest, stripped⟩, ?_⟩
  rw [stripped]
  exact parsed

/-- An object text holds a brace. -/
theorem brace_mem {text : Text} {obj : Obj} (parsed : json.validateJson text = some obj) :
    '{' ∈ text := by
  obtain ⟨blank, rest, rfl, -⟩ := json.brace text obj parsed
  simp

/-- An object text is not the end mark, with or without white space around it. -/
theorem not_doneMark {text : Text} {obj : Obj} (parsed : json.validateJson text = some obj) :
    strip text ≠ doneMark := by
  intro same
  obtain ⟨left, right, shape, blankLeft, blankRight⟩ := strip_eq text
  have found := brace_mem parsed
  rw [shape, same] at found
  simp only [List.mem_append] at found
  rcases found with (blank | mark) | blank
  · exact absurd (blankLeft _ blank) (by decide)
  · exact absurd mark (by decide)
  · exact absurd (blankRight _ blank) (by decide)

/-- A `data` field starts with its name. -/
theorem partition_data {line : Text} (named : (partition [':'] line).1 = "data".toList) :
    ∃ rest, line = 'd' :: rest := by
  simp only [partition] at named
  split at named
  · rename_i before after found
    obtain rfl : before = "data".toList := named
    exact ⟨"ata".toList ++ [':'] ++ after, cut_eq found⟩
  · obtain rfl : line = "data".toList := named
    exact ⟨"ata".toList, rfl⟩

/-- Behind a `data:` the line of an event is the value of a `data` field. -/
theorem partition_dataField (value : Text) :
    partition [':'] ("data:".toList ++ value) = ("data".toList, [':'], value) := rfl

/-- An event with a single `data:` in front has its first line as first data line. -/
theorem dataLines_behind {rest first : Text} {others : List Text}
    (shape : lines rest = first :: others) :
    dataLines ("data:".toList ++ rest) =
      removePrefix [' '] first :: (others.map (partition [':'])).filterMap dataLine := by
  rw [dataLines, fields, lines_behind (by decide), shape, List.modifyHead_cons, List.map_cons,
    partition_dataField, List.filterMap_cons]
  rfl

/-- The data holds nothing but characters of the event and line feeds. -/
theorem mem_eventData {event : Text} {char : Char} (found : char ∈ eventData event) :
    char = '\n' ∨ char ∈ event := by
  rcases mem_join found with newline | ⟨value, listed, found⟩
  · exact Or.inl (by simpa using newline)
  · obtain ⟨field, fieldListed, valued⟩ := List.mem_filterMap.mp listed
    obtain ⟨line, lineListed, rfl⟩ := List.mem_map.mp fieldListed
    refine Or.inr (mem_of_mem_lines lineListed ?_)
    simp only [dataLine] at valued
    split at valued
    · simp only [Option.some.injEq] at valued
      subst valued
      have inValue : char ∈ (partition [':'] line).2.2 := by
        rw [removePrefix] at found
        split at found
        · exact List.mem_of_mem_drop found
        · exact found
      simp only [partition] at inValue
      split at inValue
      · rename_i before after cutAt
        rw [cut_eq cutAt]
        simp [inValue]
      · simp at inValue
    · simp at valued

/-- No line of an object text, stripped or not, is a `data` field. -/
theorem no_data_line {text : Text} {obj : Obj}
    (parsed : json.validateJson (lstrip text) = some obj) (line : Text)
    (listed : line ∈ lines text) : dataLine (partition [':'] line) = none := by
  simp only [dataLine, ite_eq_right_iff, reduceCtorEq]
  intro named
  obtain ⟨rest, rfl⟩ := partition_data named
  exact json.field _ obj _ parsed (mem_lines_lstrip (by decide) listed) named

/-- When an event is one `data:` before an object text, its only data line is the first one. -/
theorem dataLines_prefixed {rest first : Text} {others : List Text} {obj : Obj}
    (shape : lines rest = first :: others)
    (parsed : json.validateJson (lstrip rest) = some obj) :
    dataLines ("data:".toList ++ rest) = [removePrefix [' '] first] := by
  have noMore : (others.map (partition [':'])).filterMap dataLine = [] := by
    simp only [List.filterMap_eq_nil_iff, List.mem_map, forall_exists_index, and_imp,
      forall_apply_eq_imp_iff₂]
    intro line listed
    exact no_data_line parsed line (shape ▸ List.mem_cons_of_mem _ listed)
  rw [dataLines_behind shape, noMore]

/-- The one space after the colon does not matter to a stripped value. -/
theorem lstrip_removePrefix (value : Text) :
    lstrip (removePrefix [' '] value) = lstrip value := by
  by_cases spaced : [' '] <+: value
  · obtain ⟨rest, rfl⟩ := spaced
    have blank : ∀ char ∈ [' '], isSpace char = true := by
      intro char found
      rw [List.mem_singleton.mp found]
      decide
    rw [removePrefix_append, lstrip_blank blank]
  · rw [removePrefix_absent spaced]

/-- When both the data and the text behind a single `data:` are objects, they are the same
one: a further line would stand behind a complete object. -/
theorem prefixed_agrees {rest : Text} {obj other : Obj}
    (visible : ∀ front char, "data:".toList ++ rest = front ++ [char] → isSpace char = false)
    (parsedData : json.validateJson (eventData ("data:".toList ++ rest)) = some obj)
    (parsed : json.validateJson (lstrip rest) = some other) : other = obj := by
  obtain ⟨first, others, shape⟩ := List.exists_cons_of_ne_nil (lines_ne_nil rest)
  have value : eventData ("data:".toList ++ rest) = removePrefix [' '] first := by
    rw [eventData, dataLines_prefixed shape parsed]
    simp [join]
  rw [value] at parsedData
  obtain ⟨⟨tail, starts⟩, parsedFirst⟩ := validateJson_lstrip parsedData
  rw [lstrip_removePrefix] at starts parsedFirst
  have joined := join_lines rest
  rw [shape] at joined
  cases others with
  | nil =>
    obtain rfl : first = rest := by simpa [join] using joined
    exact Option.some.inj (parsed.symm.trans parsedFirst)
  | cons second others =>
    rw [join_cons] at joined
    have stripped : lstrip rest = lstrip first ++ '\n' :: join ['\n'] (second :: others) := by
      rw [← joined, List.append_assoc, lstrip_append (by simp [starts])]
      rfl
    -- The event is stripped, so its last character is visible and stands on a further line.
    have last : ∃ char ∈ join ['\n'] (second :: others), isSpace char = false := by
      cases more : (join ['\n'] (second :: others)).getLast? with
      | none =>
        have ends := visible ("data:".toList ++ first) '\n' (by
          rw [← joined, List.getLast?_eq_none_iff.mp more]
          simp)
        exact absurd ends (by decide)
      | some char =>
        obtain ⟨front, ending⟩ := List.getLast?_eq_some_iff.mp more
        exact ⟨char, ending ▸ by simp,
          visible ("data:".toList ++ first ++ ['\n'] ++ front) char (by
            rw [← joined, ending]
            simp)⟩
    have rejected := json.ended _ _ obj parsedFirst last
    rw [← stripped, parsed] at rejected
    cases rejected

/-- The data of an event is not the end mark when the text behind a single `data:` is an
object. -/
theorem prefixed_goes_on {rest : Text} {obj : Obj}
    (parsed : json.validateJson (lstrip rest) = some obj) :
    strip (eventData ("data:".toList ++ rest)) ≠ doneMark := by
  intro done
  obtain ⟨first, others, shape⟩ := List.exists_cons_of_ne_nil (lines_ne_nil rest)
  rw [eventData, dataLines_prefixed shape parsed] at done
  simp only [join, List.intercalate_singleton] at done
  obtain ⟨blank, whole, -⟩ := rstrip_eq (lstrip (removePrefix [' '] first))
  rw [show rstrip (lstrip (removePrefix [' '] first)) = doneMark from done,
    lstrip_removePrefix] at whole
  have joined := join_lines rest
  rw [shape] at joined
  have bracket : ∃ tail, lstrip rest = '[' :: tail := by
    cases others with
    | nil =>
      obtain rfl : first = rest := by simpa [join] using joined
      exact ⟨_, whole⟩
    | cons second others =>
      have visible : lstrip first ≠ [] := by
        rw [whole]
        exact List.cons_ne_nil _ _
      rw [← joined, join_cons, List.append_assoc, lstrip_append visible, whole]
      exact ⟨_, rfl⟩
  obtain ⟨tail, starts⟩ := bracket
  obtain ⟨⟨_, brace⟩, -⟩ := validateJson_lstrip parsed
  rw [starts, lstrip_visible (by decide)] at brace
  cases brace

/-- The events that end the stream: by their whole text, by their data, or by the text behind
a single `data:`. -/
def StreamEnd (event : Text) : Prop := EndsStream event ∨ PrefixedEnd event

/-- Whatever carries an object is not an end mark behind white space. -/
theorem lstrip_not_doneMark {text : Text} {obj : Obj}
    (parsed : json.validateJson (lstrip text) = some obj) : lstrip text ≠ doneMark := by
  intro same
  rw [same] at parsed
  exact not_doneMark parsed (by decide)

/-- An event that starts with `data:` has a data line. -/
theorem dataLines_behind_ne_nil (rest : Text) : dataLines ("data:".toList ++ rest) ≠ [] := by
  obtain ⟨first, others, shape⟩ := List.exists_cons_of_ne_nil (lines_ne_nil rest)
  rw [dataLines_behind shape]
  exact List.cons_ne_nil _ _

/-- An event that is an object itself does not start with `data:`. -/
theorem raw_not_prefixed {rest : Text} :
    json.validateJson ("data:".toList ++ rest) = none := by
  cases parsed : json.validateJson ("data:".toList ++ rest) with
  | none => rfl
  | some obj =>
    obtain ⟨⟨_, brace⟩, -⟩ := validateJson_lstrip parsed
    rw [show "data:".toList ++ rest = 'd' :: ("ata:".toList ++ rest) from rfl,
      lstrip_visible (by decide)] at brace
    cases brace

/-- What is tried first is the end mark where the whole event is, or what follows `data:`. -/
theorem payload_doneMark {event : Text} (stripped : lstrip event = event) :
    lstrip (removePrefix "data:".toList event) = doneMark ↔
      event = doneMark ∨ PrefixedEnd event := by
  by_cases prefixed : "data:".toList <+: event
  · obtain ⟨rest, rfl⟩ := prefixed
    rw [removePrefix_append]
    constructor
    · exact fun mark => Or.inr ⟨rest, rfl, mark⟩
    · rintro (whole | ⟨other, same, mark⟩)
      · cases whole
      · rw [List.append_cancel_left same]
        exact mark
  · rw [removePrefix_absent prefixed, stripped]
    constructor
    · exact Or.inl
    · rintro (whole | ⟨rest, same, -⟩)
      · exact whole
      · exact absurd ⟨rest, same.symm⟩ prefixed

/-- An event ends the stream by what is tried first, or by its data. -/
theorem streamEnd_iff {event : Text} (stripped : lstrip event = event) :
    StreamEnd event ↔ lstrip (removePrefix "data:".toList event) = doneMark ∨
      dataLines event ≠ [] ∧ strip (eventData event) = doneMark := by
  rw [payload_doneMark stripped, StreamEnd, EndsStream]
  tauto

/-- What is tried first is an object where the event is, or what follows `data:`. -/
theorem payload_object {event : Text} (stripped : lstrip event = event) {obj : Obj}
    (parsed : json.validateJson (lstrip (removePrefix "data:".toList event)) = some obj) :
    Means json sse StreamEnd event (.chunk obj) := by
  by_cases prefixed : "data:".toList <+: event
  · obtain ⟨rest, rfl⟩ := prefixed
    rw [removePrefix_append] at parsed
    exact .prefixed obj rest rfl parsed
  · rw [removePrefix_absent prefixed, stripped] at parsed
    exact .raw obj parsed

/-- What is tried first is no object where neither the event is nor what follows `data:`. -/
theorem payload_none {event : Text} (stripped : lstrip event = event) :
    json.validateJson (lstrip (removePrefix "data:".toList event)) = none ↔
      json.validateJson event = none ∧ ∀ rest, event = "data:".toList ++ rest →
        json.validateJson (lstrip rest) = none := by
  by_cases prefixed : "data:".toList <+: event
  · obtain ⟨rest, rfl⟩ := prefixed
    rw [removePrefix_append]
    constructor
    · intro notParsed
      refine ⟨raw_not_prefixed, fun other same => ?_⟩
      rw [← List.append_cancel_left same]
      exact notParsed
    · exact fun neither => neither.2 rest rfl
  · rw [removePrefix_absent prefixed, stripped]
    constructor
    · exact fun notRaw => ⟨notRaw, fun rest same => absurd ⟨rest, same.symm⟩ prefixed⟩
    · exact fun neither => neither.1

/-- What is read from a stripped event is what it means. -/
theorem means_readEvent (json : JsonObjects Obj) (sse : Bool) (rawEvent : Text) :
    Means json sse StreamEnd (strip rawEvent) (readEvent json sse (strip rawEvent)) := by
  have stripped := lstrip_strip rawEvent
  generalize strip rawEvent = event at stripped
  simp only [readEvent]
  split
  · rename_i mark
    exact .done ((streamEnd_iff stripped).mpr (Or.inl mark))
  · rename_i notMark
    split
    · rename_i obj parsed
      exact payload_object stripped parsed
    · rename_i notParsed
      obtain ⟨notRaw, notPrefixed⟩ := (payload_none stripped).mp notParsed
      split
      · rename_i noData
        have goesOn : ¬ StreamEnd event := by
          rw [streamEnd_iff stripped]
          rintro (mark | ⟨present, -⟩)
          · exact notMark mark
          · exact present noData
        split
        · rename_i marked
          simp only [Bool.or_eq_true, List.any_eq_true] at marked
          exact .nothing noData notRaw goesOn marked
        · rename_i unmarked
          simp only [Bool.or_eq_true, List.any_eq_true, not_or, not_exists, not_and,
            Bool.not_eq_true] at unmarked
          exact .invalid (fun present => absurd noData present) notRaw notPrefixed goesOn
            fun _ => unmarked
      · rename_i present
        split
        · rename_i mark
          exact .done ((streamEnd_iff stripped).mpr (Or.inr ⟨present, mark⟩))
        · rename_i notData
          split
          · rename_i obj parsed
            exact .data obj present parsed
          · rename_i noObject
            have goesOn : ¬ StreamEnd event := by
              rw [streamEnd_iff stripped]
              rintro (mark | ⟨-, mark⟩)
              · exact notMark mark
              · exact notData mark
            exact .invalid (fun _ => noObject) notRaw notPrefixed goesOn
              fun noData => absurd noData present

/-- The last character of a stripped event is visible. -/
theorem strip_ends_visible (rawEvent front : Text) (char : Char)
    (shape : strip rawEvent = front ++ [char]) : isSpace char = false := strip_last shape

/-- An object text has no data line. -/
theorem raw_no_data {event : Text} {obj : Obj} (stripped : lstrip event = event)
    (parsed : json.validateJson event = some obj) : dataLines event = [] := by
  rw [← stripped] at parsed
  simp only [dataLines, fields, List.filterMap_eq_nil_iff, List.mem_map, forall_exists_index,
    and_imp, forall_apply_eq_imp_iff₂]
  exact fun line listed => no_data_line parsed line listed

/-- The end mark has no data line. -/
theorem doneMark_no_data : dataLines doneMark = [] := by decide

/-- An event with a data line is neither the end mark nor an object. -/
theorem data_not_raw {event : Text} (stripped : lstrip event = event)
    (present : dataLines event ≠ []) : event ≠ doneMark ∧ json.validateJson event = none := by
  constructor
  · rintro rfl
    exact present doneMark_no_data
  · cases parsed : json.validateJson event with
    | none => rfl
    | some obj => exact absurd (raw_no_data stripped parsed) present

/-- An event whose data is an object is read as this object. -/
theorem readEvent_data {rawEvent : Text} {obj : Obj} (present : dataLines (strip rawEvent) ≠ [])
    (parsed : json.validateJson (eventData (strip rawEvent)) = some obj) :
    readEvent json sse (strip rawEvent) = .chunk obj := by
  have stripped := lstrip_strip rawEvent
  have visible := strip_ends_visible rawEvent
  generalize strip rawEvent = event at stripped visible present parsed
  have goesOn := not_doneMark parsed
  by_cases prefixed : "data:".toList <+: event
  · obtain ⟨rest, rfl⟩ := prefixed
    -- The brace of the data stands behind the prefix, so what is left there is no end mark.
    have notMark : lstrip rest ≠ doneMark := by
      intro mark
      have found : '{' ∈ rest := by
        rcases mem_eventData (brace_mem parsed) with newline | inEvent
        · exact absurd newline (by decide)
        · rcases List.mem_append.mp inEvent with inPrefix | inRest
          · exact absurd inPrefix (by decide)
          · exact inRest
      have kept := mem_lstrip brace_visible found
      rw [mark] at kept
      exact absurd kept (by decide)
    simp only [readEvent, removePrefix_append, if_neg notMark, if_neg present, if_neg goesOn,
      parsed]
    split
    · rename_i other parsedRest
      rw [prefixed_agrees visible parsed parsedRest]
    · rfl
  · have neither : event ≠ doneMark ∧ json.validateJson event = none :=
      data_not_raw stripped present
    simp only [readEvent, removePrefix_absent prefixed, stripped, if_neg neither.1, neither.2,
      if_neg present, if_neg goesOn, parsed]

/-- An event that ends the stream is read as its end. -/
theorem readEvent_done {rawEvent : Text} (ends : StreamEnd (strip rawEvent)) :
    readEvent json sse (strip rawEvent) = .done := by
  have stripped := lstrip_strip rawEvent
  generalize strip rawEvent = event at stripped ends
  rcases ends with (whole | ⟨present, mark⟩) | ⟨rest, rfl, mark⟩
  · subst whole
    rfl
  · by_cases prefixed : "data:".toList <+: event
    · obtain ⟨rest, rfl⟩ := prefixed
      simp only [readEvent, removePrefix_append, if_neg present, if_pos mark]
      split
      · rfl
      · split
        · rename_i obj parsed
          exact absurd mark (prefixed_goes_on parsed)
        · rfl
    · have neither : event ≠ doneMark ∧ json.validateJson event = none :=
        data_not_raw stripped present
      simp only [readEvent, removePrefix_absent prefixed, stripped, if_neg neither.1, neither.2,
        if_neg present, if_pos mark]
  · simp only [readEvent, removePrefix_append, if_pos mark]

/-- An event has at most one meaning, the one that is read from it. -/
theorem readEvent_of_means {rawEvent : Text} {outcome : Outcome Obj}
    (means : Means json sse StreamEnd (strip rawEvent) outcome) :
    readEvent json sse (strip rawEvent) = outcome := by
  have stripped := lstrip_strip rawEvent
  cases means with
  | data obj present parsed => exact readEvent_data present parsed
  | raw obj parsed =>
    have absent : ¬ "data:".toList <+: strip rawEvent := by
      rintro ⟨rest, same⟩
      rw [← same, raw_not_prefixed] at parsed
      cases parsed
    have notMark : strip rawEvent ≠ doneMark := by
      rw [← stripped]
      exact lstrip_not_doneMark (by rwa [stripped])
    simp only [readEvent, removePrefix_absent absent, stripped, if_neg notMark, parsed]
  | prefixed obj rest shape parsed =>
    simp only [readEvent, shape, removePrefix_append, if_neg (lstrip_not_doneMark parsed), parsed]
  | done ends => exact readEvent_done ends
  | nothing noData notRaw goesOn marked =>
    have absent : ¬ "data:".toList <+: strip rawEvent := by
      rintro ⟨rest, same⟩
      exact dataLines_behind_ne_nil rest (same ▸ noData)
    have notMark : strip rawEvent ≠ doneMark := fun whole => goesOn (Or.inl (Or.inl whole))
    have shown : (sse || (fields (strip rawEvent)).any sseMark) = true := by
      simpa only [Bool.or_eq_true, List.any_eq_true] using marked
    simp only [readEvent, removePrefix_absent absent, stripped, if_neg notMark, notRaw,
      if_pos noData, if_pos shown]
  | invalid notData notRaw notPrefixed goesOn unmarked =>
    have notMark : lstrip (removePrefix "data:".toList (strip rawEvent)) ≠ doneMark :=
      fun mark => goesOn ((streamEnd_iff stripped).mpr (Or.inl mark))
    have notPayload : json.validateJson
        (lstrip (removePrefix "data:".toList (strip rawEvent))) = none :=
      (payload_none stripped).mpr ⟨notRaw, notPrefixed⟩
    by_cases noData : dataLines (strip rawEvent) = []
    · have hidden : (sse || (fields (strip rawEvent)).any sseMark) = false := by
        rw [Bool.or_eq_false_iff, List.any_eq_false]
        exact ⟨(unmarked noData).1, fun field listed => by simp [(unmarked noData).2 field listed]⟩
      simp only [readEvent, if_neg notMark, notPayload, if_pos noData, hidden]
      rfl
    · have data : strip (eventData (strip rawEvent)) ≠ doneMark :=
        fun mark => goesOn (Or.inl (Or.inr ⟨noData, mark⟩))
      simp only [readEvent, if_neg notMark, notPayload, if_neg noData, if_neg data, notData noData]

/-- `_iter_stream_json` delivers exactly what its events mean, in order, and stops at the first
end mark or rejected event. -/
theorem iterStreamJson_delivers (json : JsonObjects Obj) (sse : Bool) (events : List Text)
    (chunks : List Obj) (stop : Option InvokeError) :
    Delivers json sse StreamEnd events chunks stop ↔
      iterStreamJson json sse events = ⟨chunks, stop⟩ := by
  constructor
  · intro delivers
    induction delivers with
    | eof => rfl
    | blank empty _ ih => simp only [iterStreamJson, if_pos empty, ih]
    | chunk visible means _ ih =>
      simp only [iterStreamJson, if_neg visible, readEvent_of_means means, ih]
      rfl
    | nothing visible means _ ih =>
      simp only [iterStreamJson, if_neg visible, readEvent_of_means means, ih]
    | done visible means =>
      simp only [iterStreamJson, if_neg visible, readEvent_of_means means]
      rfl
    | invalid visible means =>
      simp only [iterStreamJson, if_neg visible, readEvent_of_means means]
      rfl
  · intro read
    induction events generalizing chunks with
    | nil =>
      obtain ⟨rfl, rfl⟩ : [] = chunks ∧ none = stop := by
        simpa [iterStreamJson, Generated.finished] using read
      exact .eof
    | cons rawEvent rest ih =>
      rw [iterStreamJson] at read
      by_cases empty : strip rawEvent = []
      · rw [if_pos empty] at read
        exact .blank empty (ih _ read)
      · rw [if_neg empty] at read
        have means := means_readEvent json sse rawEvent
        cases outcome : readEvent json sse (strip rawEvent) with
        | chunk obj =>
          simp only [outcome] at read means
          obtain ⟨rfl, rfl⟩ : obj :: (iterStreamJson json sse rest).yielded = chunks ∧
              (iterStreamJson json sse rest).raised = stop := by
            simpa [Generated.yield] using read
          exact .chunk empty means (ih _ rfl)
        | nothing =>
          simp only [outcome] at read means
          exact .nothing empty means (ih _ read)
        | done =>
          simp only [outcome] at read means
          obtain ⟨rfl, rfl⟩ : [] = chunks ∧ none = stop := by
            simpa [Generated.finished] using read
          exact .done empty means
        | invalid =>
          simp only [outcome] at read means
          obtain ⟨rfl, rfl⟩ : [] = chunks ∧ some invalidJson = stop := by
            simpa [Generated.raise] using read
          exact .invalid empty means

/-- The texts of the empty JSON object: its two braces, with any white space around them. -/
def emptyObjectTexts : JsonObjects Unit where
  validateJson text :=
    if text.filter (fun char => !jsonSpace char) = ['{', '}'] then some () else none
  brace := by
    intro text obj parsed
    simp only [Option.ite_none_right_eq_some, and_true] at parsed
    have parts := List.takeWhile_append_dropWhile (p := jsonSpace) (l := text)
    have blank : (text.takeWhile jsonSpace).filter (fun char => !jsonSpace char) = [] := by
      simp only [List.filter_eq_nil_iff, Bool.not_eq_true, Bool.not_eq_false']
      exact fun char found => List.mem_takeWhile_imp found
    rw [← parts, List.filter_append, blank, List.nil_append] at parsed
    refine ⟨text.takeWhile jsonSpace, (text.dropWhile jsonSpace).tail, ?_,
      fun char found => List.mem_takeWhile_imp found⟩
    cases rest : text.dropWhile jsonSpace with
    | nil => simp [rest] at parsed
    | cons head tail =>
      have visible := List.head?_dropWhile_not jsonSpace text
      simp only [rest, List.head?_cons] at visible
      rw [rest, List.filter_cons_of_pos (by simpa using visible)] at parsed
      obtain ⟨rfl, -⟩ := List.cons.inj parsed
      conv_lhs => rw [← parts, rest]
      rfl
  padded := by
    intro blank text spaces
    have none : blank.filter (fun char => !jsonSpace char) = [] := by
      simpa only [List.filter_eq_nil_iff, Bool.not_eq_true, Bool.not_eq_false'] using spaces
    simp only [List.filter_append, none, List.nil_append]
  ended := by
    intro text more obj parsed visible
    obtain ⟨char, found, visible⟩ := visible
    simp only [Option.ite_none_right_eq_some, and_true] at parsed
    have kept : char ∈ more.filter (fun char => !jsonSpace char) := by
      refine List.mem_filter.mpr ⟨found, ?_⟩
      cases blank : jsonSpace char with
      | false => rfl
      | true => simp [isSpace_of_jsonSpace blank] at visible
    rw [if_neg]
    intro same
    rw [List.filter_append, parsed, List.filter_cons_of_neg (by decide)] at same
    rw [List.append_right_eq_self.mp same] at kept
    cases kept
  field := by
    intro text obj line parsed listed named
    simp only [Option.ite_none_right_eq_some, and_true] at parsed
    obtain ⟨rest, rfl⟩ := partition_data named
    have found : 'd' ∈ text := mem_of_mem_lines listed List.mem_cons_self
    have kept : 'd' ∈ text.filter (fun char => !jsonSpace char) :=
      List.mem_filter.mpr ⟨found, by decide⟩
    rw [parsed] at kept
    exact absurd kept (by decide)

/-- A comment, an object over two data lines after an `id`, the end mark, and a broken event
that is never looked at. -/
theorem iterStreamJson_delivers_object :
    iterStreamJson emptyObjectTexts false
        [": ping".toList, "id: 3\ndata: \x7b\ndata: \x7d".toList, "data: [DONE]".toList,
          "broken".toList] = ⟨[()], none⟩ := by
  refine (iterStreamJson_delivers emptyObjectTexts false _ _ _).mp ?_
  refine .nothing (by decide) (.nothing (by decide) (by decide) ?_ (Or.inr (by decide))) ?_
  · rintro ((whole | ⟨present, -⟩) | ⟨rest, shape, -⟩)
    · exact absurd whole (by decide)
    · exact absurd present (by decide)
    · have heads : some ':' = some 'd' := congrArg List.head? shape
      exact absurd heads (by decide)
  · refine .chunk (by decide) (.data () (by decide) (by decide)) ?_
    exact .done (by decide) (.done (Or.inl (Or.inr (by decide))))

/-- An end mark on the line after an empty `data:` is neither the event nor its data, and the
event carries no object; still it ends the stream and raises nothing. -/
theorem iterStreamJson_prefixed_end :
    Delivers emptyObjectTexts true EndsStream ["data:\n[DONE]".toList] [] (some invalidJson) ∧
      iterStreamJson emptyObjectTexts true ["data:\n[DONE]".toList] = ⟨[], none⟩ := by
  refine ⟨.invalid (by decide) (.invalid (by decide) (by decide) ?_ ?_ (by decide)), by decide⟩
  · intro rest shape
    have whole : strip "data:\n[DONE]".toList = "data:".toList ++ "\n[DONE]".toList := by decide
    obtain rfl : "\n[DONE]".toList = rest := List.append_cancel_left (whole.symm.trans shape)
    decide
  · rintro (whole | ⟨-, mark⟩)
    · exact absurd whole (by decide)
    · exact absurd mark (by decide)

end DifyPlugin.OpenaiCompatible
