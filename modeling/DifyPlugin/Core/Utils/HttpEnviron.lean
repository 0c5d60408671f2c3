import DifyPlugin.Core.Utils.HttpParser
import DifyPlugin.Library.Fallible

/-!
# The environment of a raw HTTP request

The headers of a request are written to keys that are made of their names, next to the keys that
describe the request. The keys of different names differ, and none is a key of the request, since
`h11` lets only lower-case tokens through and names with underscores are rejected.
-/

namespace DifyPlugin.HttpParser

open Encoding Decoding

/-- The name of the header of the body's length. -/
abbrev contentLength : Bytes := literal "content-length"

/-- The name of the header of the body's type. -/
abbrev contentType : Bytes := literal "content-type"

/-- The name of the header of the body's transfer coding. -/
abbrev transferEncoding : Bytes := literal "transfer-encoding"

/-- A token character that is no upper-case letter. -/
def isLowerToken (byte : UInt8) : Bool :=
  let char := Char.ofNat byte.toNat
  char.isLower || char.isDigit || decide (char ∈ "!#$%&'*+-.^_`|~".toList)

/-- A decimal digit. -/
def isDigitByte (byte : UInt8) : Bool := decide (48 ≤ byte.toNat ∧ byte.toNat ≤ 57)

/-- What `h11` promises about the headers of a request. -/
structure Platform.Validates (platform : Platform) : Prop where
  /-- Names are tokens in lower case. -/
  names : ∀ head event, platform.h11 head = .request event →
    ∀ header ∈ event.headers, ∀ byte ∈ header.1, isLowerToken byte = true
  /-- A content length is made of digits. -/
  lengths : ∀ head event, platform.h11 head = .request event →
    ∀ header ∈ event.headers, header.1 = contentLength →
      header.2 ≠ [] ∧ ∀ byte ∈ header.2, isDigitByte byte = true

/-- `name.decode("ascii").upper().replace("-", "_")`. -/
def envName (name : Bytes) : Text :=
  (name.map fun byte => Char.ofNat byte.toNat).map fun char =>
    if char = '-' then '_' else char.toUpper

/-- The key that the header of a name is written to. -/
def environKey (name : Bytes) : Text :=
  if name = contentType ∨ name = contentLength then envName name
  else "HTTP_".toList ++ envName name

/-- The keys that describe the request. -/
def requestKeys : List Text :=
  ["REQUEST_METHOD", "PATH_INFO", "QUERY_STRING", "SERVER_NAME", "SERVER_PORT",
    "SERVER_PROTOCOL"].map String.toList

/-- A key that no header may be written to. -/
def Reserved (key : Text) : Prop := key ∈ requestKeys ∨ "wsgi.".toList <+: key

/-- A text that is a number in decimal digits. -/
structure Denotes (text : Text) (number : Nat) : Prop where
  /-- There is a digit. -/
  nonempty : text ≠ []
  /-- There are only digits. -/
  digits : ∀ char ∈ text, char.isDigit = true
  /-- They are those of the number. -/
  value : Nat.ofDigitChars 10 text 0 = number

/-- A name that is accepted: a token in lower case without underscores. -/
def Accepted (name : Bytes) : Prop := ∀ byte ∈ name, isLowerToken byte = true ∧ byte ≠ 95

instance (name : Bytes) : Decidable (Accepted name) := List.decidableBAll _ name

/-- The environment is made of the headers of the event and the body, and of nothing else. -/
structure SafeEnviron (event : H11Request) (body : Bytes) (environ : Environ) : Prop where
  /-- `wsgi.input` is the body. -/
  input : environ.input = body
  /-- Different names have different keys. -/
  separate : ∀ left ∈ event.headers, ∀ right ∈ event.headers,
    environKey left.1 = environKey right.1 → left.1 = right.1
  /-- No name has a reserved key. -/
  unreserved : ∀ header ∈ event.headers, ¬Reserved (environKey header.1)
  /-- Every header but the transfer coding is passed on. -/
  passed : ∀ header ∈ event.headers, header.1 ≠ transferEncoding →
    (environ.headers.get (environKey header.1)).isSome = true
  /-- What is passed on is a header but the transfer coding, or the length of a body whose length
  no header says. -/
  written : ∀ key value, environ.headers.get key = some value →
    (∃ header ∈ event.headers, header.1 ≠ transferEncoding ∧ environKey header.1 = key ∧
      decodeText header.2 = .ok value) ∨
    key = environKey contentLength ∧ value = (toString body.length).toList ∧ body ≠ [] ∧
      ∀ header ∈ event.headers, header.1 ≠ contentLength
  /-- No transfer coding is passed on. -/
  uncoded : environ.headers.get (environKey transferEncoding) = none
  /-- The type of the body is not repeated. -/
  typed : (event.headers.filter fun header => header.1 = contentType).length ≤ 1
  /-- The body has a length or a transfer coding, not both. -/
  unambiguous : ∀ left ∈ event.headers, ∀ right ∈ event.headers, left.1 = contentLength →
    right.1 ≠ transferEncoding
  /-- A length in a header is that of the body. -/
  framed : ∀ header ∈ event.headers, header.1 = contentLength →
    contentLengthValue header.2 = body.length
  /-- There is a length when there is a header for it, or a body. -/
  present : (environ.headers.get (environKey contentLength)).isSome = true ↔
    (∃ header ∈ event.headers, header.1 = contentLength) ∨ body ≠ []
  /-- The length is the number of bytes of `wsgi.input`. -/
  denotes : ∀ value, environ.headers.get (environKey contentLength) = some value →
    Denotes value environ.input.length

section Keys

/-- The byte that a character of a key stands for. -/
def keyByte (char : Char) : UInt8 :=
  if char = '_' then 45 else UInt8.ofNat char.toLower.toNat

/-- A character of a key stands for the byte it is made of. -/
theorem keyByte_spec : ∀ code : Nat, code < 256 → isLowerToken (UInt8.ofNat code) = true →
    UInt8.ofNat code ≠ 95 →
    keyByte (if Char.ofNat (UInt8.ofNat code).toNat = '-' then '_'
      else (Char.ofNat (UInt8.ofNat code).toNat).toUpper) = UInt8.ofNat code := by
  decide +kernel

/-- A name can be read off its key. -/
theorem map_keyByte_envName {name : Bytes} (accepted : Accepted name) :
    (envName name).map keyByte = name := by
  rw [envName, List.map_map, List.map_map]
  refine (List.map_congr_left fun byte listed => ?_).trans (List.map_id' name)
  obtain ⟨token, plain⟩ := accepted byte listed
  have byteSpec := keyByte_spec byte.toNat byte.toNat_lt
  rw [UInt8.ofNat_toNat] at byteSpec
  exact byteSpec token plain

/-- The first character of a key tells whether the header is about the body. -/
theorem head_environKey (name : Bytes) : (environKey name).head? =
    some (if name = contentType ∨ name = contentLength then 'C' else 'H') := by
  by_cases framed : name = contentType ∨ name = contentLength
  · rw [environKey, if_pos framed, if_pos framed]
    rcases framed with rfl | rfl
    · rfl
    · rfl
  · rw [environKey, if_neg framed, if_neg framed]
    rfl

/-- Different accepted names have different keys. -/
theorem environKey_injective {left right : Bytes} (acceptedLeft : Accepted left)
    (acceptedRight : Accepted right) (same : environKey left = environKey right) :
    left = right := by
  have heads := congrArg List.head? same
  rw [head_environKey, head_environKey, Option.some.injEq] at heads
  have names : envName left = envName right := by
    rw [environKey, environKey] at same
    by_cases framedLeft : left = contentType ∨ left = contentLength
    · by_cases framedRight : right = contentType ∨ right = contentLength
      · rw [if_pos framedLeft, if_pos framedRight] at same
        exact same
      · rw [if_pos framedLeft, if_neg framedRight] at heads
        exact absurd heads (by decide)
    · by_cases framedRight : right = contentType ∨ right = contentLength
      · rw [if_neg framedLeft, if_pos framedRight] at heads
        exact absurd heads (by decide)
      · rw [if_neg framedLeft, if_neg framedRight] at same
        exact List.append_cancel_left same
  rw [← map_keyByte_envName acceptedLeft, names, map_keyByte_envName acceptedRight]

/-- No header is written to a reserved key. -/
theorem environKey_unreserved (name : Bytes) : ¬Reserved (environKey name) := by
  have head := head_environKey name
  have first : (environKey name).head? = some 'C' ∨ (environKey name).head? = some 'H' := by
    rw [head]
    split
    · exact Or.inl rfl
    · exact Or.inr rfl
  rintro (listed | ⟨rest, wsgi⟩)
  · have others : ∀ key ∈ requestKeys, key.head? ≠ some 'C' ∧ key.head? ≠ some 'H' := by decide
    obtain ⟨notC, notH⟩ := others (environKey name) listed
    exact first.elim notC notH
  · rw [← wsgi] at first
    exact absurd first (by simp)

end Keys

section Loop

variable {headers next final : Dict Text Text} {header : Bytes × Bytes}
  {pairs : List (Bytes × Bytes)}

/-- What a round of the loop does when it goes on. -/
theorem setHeader_ok (set : setHeader headers header = .ok next) :
    header.1 = transferEncoding ∧ next = headers ∨
      header.1 ≠ transferEncoding ∧ ∃ value, decodeText header.2 = .ok value ∧
        next = headers.set (environKey header.1) value ∧
        (header.1 = contentType ∨ header.1 = contentLength →
          headers.get (environKey header.1) = none) := by
  rw [setHeader] at set
  by_cases coded : header.1 = transferEncoding
  · rw [if_pos coded] at set
    exact Or.inl ⟨coded, (Except.ok.inj set).symm⟩
  · rw [if_neg coded, Fallible.bind_eq_ok] at set
    obtain ⟨name, decoded, set⟩ := set
    have ascii : name = header.1.map fun byte => Char.ofNat byte.toNat := by
      rw [decodeAscii] at decoded
      split at decoded
      · exact (Except.ok.inj decoded).symm
      · exact absurd decoded (by simp)
    subst ascii
    refine Or.inr ⟨coded, ?_⟩
    by_cases framed : header.1 = contentType ∨ header.1 = contentLength
    · have key : environKey header.1 = envName header.1 := if_pos framed
      simp only [framed, decide_true, if_true, Bool.true_and] at set
      change (if (headers.get (envName header.1)).isSome then _ else _) = _ at set
      rw [← key] at set
      split at set
      · exact absurd set (by simp)
      · rename_i fresh
        obtain ⟨value, decodedValue, set⟩ := Fallible.bind_eq_ok.mp set
        exact ⟨value, decodedValue, by rw [key]; exact (Except.ok.inj set).symm,
          fun _ => Option.not_isSome_iff_eq_none.mp fresh⟩
    · have key : environKey header.1 = "HTTP_".toList ++ envName header.1 := if_neg framed
      simp only [framed, decide_false, Bool.false_and] at set
      obtain ⟨value, decodedValue, set⟩ := Fallible.bind_eq_ok.mp set
      exact ⟨value, decodedValue, by rw [key]; exact (Except.ok.inj set).symm,
        fun about => absurd about framed⟩

/-- A header that was written stays written. -/
theorem foldlM_setHeader_keeps (ran : pairs.foldlM setHeader headers = .ok final) {key : Text}
    (present : (headers.get key).isSome = true) : (final.get key).isSome = true := by
  induction pairs generalizing headers with
  | nil =>
    obtain rfl := Except.ok.inj ran
    exact present
  | cons header rest ih =>
    rw [List.foldlM_cons, Fallible.bind_eq_ok] at ran
    obtain ⟨next, set, ran⟩ := ran
    refine ih ran ?_
    rcases setHeader_ok set with ⟨-, rfl⟩ | ⟨-, value, -, rfl, -⟩
    · exact present
    · by_cases same : key = environKey header.1
      · rw [same, Dict.get_set_self]
        rfl
      · rw [Dict.get_set_of_ne headers same]
        exact present

/-- Every header but the transfer coding is written. -/
theorem foldlM_setHeader_passed (ran : pairs.foldlM setHeader headers = .ok final)
    (listed : header ∈ pairs) (plain : header.1 ≠ transferEncoding) :
    (final.get (environKey header.1)).isSome = true := by
  induction pairs generalizing headers with
  | nil => exact absurd listed List.not_mem_nil
  | cons first rest ih =>
    rw [List.foldlM_cons, Fallible.bind_eq_ok] at ran
    obtain ⟨next, set, ran⟩ := ran
    rcases List.mem_cons.mp listed with rfl | later
    · rcases setHeader_ok set with ⟨coded, -⟩ | ⟨-, value, -, rfl, -⟩
      · exact absurd coded plain
      · exact foldlM_setHeader_keeps ran (by rw [Dict.get_set_self]; rfl)
    · exact ih ran later

/-- What is written is the value of a header but the transfer coding. -/
theorem foldlM_setHeader_written (ran : pairs.foldlM setHeader headers = .ok final)
    {key value : Text} (found : final.get key = some value) :
    headers.get key = some value ∨ ∃ header ∈ pairs, header.1 ≠ transferEncoding ∧
      environKey header.1 = key ∧ decodeText header.2 = .ok value := by
  induction pairs generalizing headers with
  | nil =>
    obtain rfl := Except.ok.inj ran
    exact Or.inl found
  | cons header rest ih =>
    rw [List.foldlM_cons, Fallible.bind_eq_ok] at ran
    obtain ⟨next, set, ran⟩ := ran
    rcases ih ran with before | ⟨other, listed, written⟩
    · rcases setHeader_ok set with ⟨-, rfl⟩ | ⟨plain, given, decoded, rfl, -⟩
      · exact Or.inl before
      · by_cases same : key = environKey header.1
        · rw [same, Dict.get_set_self] at before
          rw [Option.some.inj before] at decoded
          exact Or.inr ⟨header, List.mem_cons_self, plain, same.symm, decoded⟩
        · rw [Dict.get_set_of_ne headers same] at before
          exact Or.inl before
    · exact Or.inr ⟨other, List.mem_cons_of_mem header listed, written⟩

/-- A header about the body that was written is not repeated. -/
theorem foldlM_setHeader_fresh (ran : pairs.foldlM setHeader headers = .ok final) {name : Bytes}
    (framed : name = contentType ∨ name = contentLength)
    (present : (headers.get (environKey name)).isSome = true) :
    ∀ header ∈ pairs, header.1 ≠ name := by
  induction pairs generalizing headers with
  | nil => exact List.forall_mem_nil _
  | cons header rest ih =>
    rw [List.foldlM_cons, Fallible.bind_eq_ok] at ran
    obtain ⟨next, set, ran⟩ := ran
    have single : [header].foldlM setHeader headers = .ok next := by
      rw [List.foldlM_cons, set]
      rfl
    have kept : (next.get (environKey name)).isSome = true := foldlM_setHeader_keeps single present
    refine List.forall_mem_cons.mpr ⟨?_, ih ran kept⟩
    rintro rfl
    rcases setHeader_ok set with ⟨coded, -⟩ | ⟨-, -, -, -, fresh⟩
    · rw [coded] at framed
      exact absurd framed (by decide)
    · rw [fresh framed] at present
      exact absurd present (by decide)

/-- A header about the body is not repeated. -/
theorem foldlM_setHeader_once (ran : pairs.foldlM setHeader headers = .ok final) {name : Bytes}
    (framed : name = contentType ∨ name = contentLength) :
    (pairs.filter fun header => header.1 = name).length ≤ 1 := by
  induction pairs generalizing headers with
  | nil => exact Nat.zero_le 1
  | cons header rest ih =>
    rw [List.foldlM_cons, Fallible.bind_eq_ok] at ran
    obtain ⟨next, set, ran⟩ := ran
    by_cases same : header.1 = name
    · have written : (next.get (environKey name)).isSome = true := by
        have single : [header].foldlM setHeader headers = .ok next := by
          rw [List.foldlM_cons, set]
          rfl
        rw [← same]
        refine foldlM_setHeader_passed single List.mem_cons_self fun coded => ?_
        rw [← same, coded] at framed
        exact absurd framed (by decide)
      have others : rest.filter (fun header => header.1 = name) = [] :=
        List.filter_eq_nil_iff.mpr fun other listed => by
          simpa using foldlM_setHeader_fresh ran framed written other listed
      simp [same, others]
    · simpa [same] using ih ran

end Loop

section Requests

variable {platform : Platform} {line : RequestLine} {event : H11Request} {body : Bytes}
  {environ : Environ}

/-- An accepted environment has the written headers, and the length of a body without one. -/
theorem buildEnviron_ok (accepted : platform.buildEnviron line event body = .ok environ) :
    checkFraming (Dict.ofPairs event.headers) body = .ok () ∧ environ.input = body ∧
      ∃ headers, event.headers.foldlM setHeader Dict.empty = .ok headers ∧
        environ.headers =
          if ((Dict.ofPairs event.headers).get contentLength).isNone && !body.isEmpty then
            headers.set (environKey contentLength) (toString body.length).toList
          else headers := by
  rw [Platform.buildEnviron] at accepted
  obtain ⟨server, -, accepted⟩ := Fallible.bind_eq_ok.mp accepted
  obtain ⟨method, -, accepted⟩ := Fallible.bind_eq_ok.mp accepted
  obtain ⟨version, -, accepted⟩ := Fallible.bind_eq_ok.mp accepted
  obtain ⟨framing, accepted⟩ := Fallible.andThen_eq_ok.mp accepted
  obtain ⟨headers, written, accepted⟩ := Fallible.bind_eq_ok.mp accepted
  obtain rfl := Except.ok.inj accepted
  exact ⟨framing, rfl, headers, written, rfl⟩

/-- An accepted head has names that are accepted, and lengths in digits. -/
theorem requestEvent_ok (validates : platform.Validates) {headerLines : List Bytes}
    (accepted : platform.requestEvent line headerLines = .ok event) :
    (∀ header ∈ event.headers, Accepted header.1) ∧
      ∀ header ∈ event.headers, header.1 = contentLength →
        header.2 ≠ [] ∧ ∀ byte ∈ header.2, isDigitByte byte = true := by
  rw [Platform.requestEvent] at accepted
  cases parsed : platform.h11 (requestHead line headerLines) with
  | protocolError message => simp [parsed] at accepted
  | other => simp [parsed] at accepted
  | request found =>
    simp only [parsed] at accepted
    split at accepted
    · exact absurd accepted nofun
    · rename_i plain
      obtain rfl := Except.ok.inj accepted
      refine ⟨fun header listed byte inside => ⟨?_, ?_⟩, validates.lengths _ found parsed⟩
      · exact validates.names _ found parsed header listed byte inside
      · rintro rfl
        exact plain (List.any_eq_true.mpr ⟨header, listed, by simpa using inside⟩)

/-- A checked body has one framing, and the length that the header says. -/
theorem checkFraming_ok {headerValues : Dict Bytes Bytes}
    (checked : checkFraming headerValues body = .ok ()) {length : Bytes}
    (given : headerValues.get contentLength = some length) :
    headerValues.get transferEncoding = none ∧ contentLengthValue length = body.length := by
  rw [checkFraming, given] at checked
  cases coding : headerValues.get transferEncoding with
  | some value => simp [coding] at checked
  | none =>
    simp only [coding] at checked
    split at checked
    · exact absurd checked (by simp)
    · rename_i same
      exact ⟨rfl, not_not.mp same⟩

/-- The number that a header's digits denote. -/
theorem denotes_of_digits {bytes : Bytes} {value : Text} (decoded : decodeText bytes = .ok value)
    (nonempty : bytes ≠ []) (digits : ∀ byte ∈ bytes, isDigitByte byte = true) :
    Denotes value (contentLengthValue bytes) := by
  have found : utf8Decode bytes = some value := by
    rw [decodeText] at decoded
    split at decoded
    · rename_i text shape
      rw [shape, Except.ok.inj decoded]
    · exact absurd decoded (by simp)
  have ranges : ∀ byte ∈ bytes, 48 ≤ byte.toNat ∧ byte.toNat ≤ 57 :=
    fun byte listed => of_decide_eq_true (digits byte listed)
  have chars : ∀ char ∈ value, 48 ≤ char.toNat ∧ char.toNat ≤ 57 := by
    intro char listed
    obtain ⟨byte, inside, same⟩ := mem_of_mem_utf8Decode found
      (fun byte inside => by have := ranges byte inside; omega) listed
    rw [same]
    exact ranges byte inside
  have encoded : bytes = value.map fun char => UInt8.ofNat char.toNat := by
    rw [← utf8Encode_of_utf8Decode found]
    exact utf8Encode_ascii fun char listed => by have := chars char listed; omega
  refine ⟨?_, ?_, ?_⟩
  · rintro rfl
    exact nonempty encoded
  · intro char listed
    obtain ⟨least, most⟩ := chars char listed
    have lower : '0'.val ≤ char.val := UInt32.le_iff_toNat_le.mpr least
    have upper : char.val ≤ '9'.val := UInt32.le_iff_toNat_le.mpr most
    simp only [Char.isDigit, Bool.and_eq_true, decide_eq_true_eq]
    exact ⟨lower, upper⟩
  · rw [encoded, contentLengthValue, Nat.ofDigitChars_eq_foldl, List.foldl_map]
    refine List.foldl_ext _ _ 0 fun total char listed => ?_
    have range := chars char listed
    have code : (UInt8.ofNat char.toNat).toNat = char.toNat := by
      rw [UInt8.toNat_ofNat']
      omega
    rw [code, Nat.mul_comm]
    rfl

/-- The digits of a number denote it. -/
theorem denotes_toString (number : Nat) : Denotes (toString number).toList number := by
  rw [Nat.toString_eq_repr, Nat.toList_repr]
  refine ⟨?_, fun char => Nat.isDigit_of_mem_toDigits (by decide) (by decide), ?_⟩
  · exact List.ne_nil_of_length_pos Nat.length_toDigits_pos
  · exact Nat.ofDigitChars_ten_toDigits

/-- Two headers of a name that is not repeated are the same. -/
theorem eq_of_once {headers : List (Bytes × Bytes)} {name : Bytes}
    (once : (headers.filter fun header => header.1 = name).length ≤ 1)
    {left right : Bytes × Bytes} (inLeft : left ∈ headers) (inRight : right ∈ headers)
    (isLeft : left.1 = name) (isRight : right.1 = name) : left = right := by
  have filteredLeft : left ∈ headers.filter fun header => header.1 = name :=
    List.mem_filter.mpr ⟨inLeft, decide_eq_true isLeft⟩
  have filteredRight : right ∈ headers.filter fun header => header.1 = name :=
    List.mem_filter.mpr ⟨inRight, decide_eq_true isRight⟩
  generalize headers.filter (fun header => header.1 = name) = named
    at once filteredLeft filteredRight
  match named, once, filteredLeft, filteredRight with
  | [single], _, one, other => rw [List.mem_singleton.mp one, List.mem_singleton.mp other]

/-- What is in an accepted environment. -/
theorem buildEnviron_written (accepted : platform.buildEnviron line event body = .ok environ)
    {key value : Text} (found : environ.headers.get key = some value) :
    (∃ header ∈ event.headers, header.1 ≠ transferEncoding ∧ environKey header.1 = key ∧
      decodeText header.2 = .ok value) ∨
    key = environKey contentLength ∧ value = (toString body.length).toList ∧ body ≠ [] ∧
      ∀ header ∈ event.headers, header.1 ≠ contentLength := by
  obtain ⟨-, -, headers, ran, shape⟩ := buildEnviron_ok accepted
  have passed : ∀ value, headers.get key = some value →
      ∃ header ∈ event.headers, header.1 ≠ transferEncoding ∧ environKey header.1 = key ∧
        decodeText header.2 = .ok value := by
    intro value given
    rcases foldlM_setHeader_written ran given with before | written
    · exact absurd before (Option.some_ne_none value).symm
    · exact written
  rw [shape] at found
  split at found
  · rename_i missing
    by_cases same : key = environKey contentLength
    · rw [same, Dict.get_set_self] at found
      obtain ⟨absent, full⟩ := Bool.and_eq_true_iff.mp missing
      refine Or.inr ⟨same, (Option.some.inj found).symm, by simpa using full, ?_⟩
      intro header listed named
      obtain ⟨length, -, given⟩ :=
        Dict.get_update_of_mem (List.mem_map.mpr ⟨header, listed, named⟩) Dict.empty
      rw [Dict.ofPairs, given] at absent
      exact absurd absent (by simp)
    · rw [Dict.get_set_of_ne headers same] at found
      exact Or.inl (passed value found)
  · exact Or.inl (passed value found)

/-- A header that says the length of the body says it right, and the transfer has no coding. -/
theorem buildEnviron_framed (accepted : platform.buildEnviron line event body = .ok environ)
    {header : Bytes × Bytes} (listed : header ∈ event.headers) (named : header.1 = contentLength) :
    (∀ other ∈ event.headers, other.1 ≠ transferEncoding) ∧
      contentLengthValue header.2 = body.length := by
  obtain ⟨checked, -, headers, ran, -⟩ := buildEnviron_ok accepted
  obtain ⟨length, inside, given⟩ :=
    Dict.get_update_of_mem (List.mem_map.mpr ⟨header, listed, named⟩) Dict.empty
  obtain ⟨uncoded, same⟩ := checkFraming_ok checked given
  constructor
  · intro other found coded
    obtain ⟨coding, -, present⟩ :=
      Dict.get_update_of_mem (List.mem_map.mpr ⟨other, found, coded⟩) Dict.empty
    exact absurd (uncoded.symm.trans present) nofun
  · have once := foldlM_setHeader_once ran (Or.inr rfl)
    rw [eq_of_once once listed inside named rfl]
    exact same

/-- Every header but the transfer coding is in an accepted environment, and so is the length of
a body. -/
theorem buildEnviron_passed (accepted : platform.buildEnviron line event body = .ok environ) :
    (∀ header ∈ event.headers, header.1 ≠ transferEncoding →
      (environ.headers.get (environKey header.1)).isSome = true) ∧
    (body ≠ [] → (environ.headers.get (environKey contentLength)).isSome = true) := by
  obtain ⟨-, -, headers, ran, shape⟩ := buildEnviron_ok accepted
  have written : ∀ header ∈ event.headers, header.1 ≠ transferEncoding →
      (environ.headers.get (environKey header.1)).isSome = true := by
    intro header listed plain
    have passed := foldlM_setHeader_passed ran listed plain
    rw [shape]
    split
    · by_cases same : environKey header.1 = environKey contentLength
      · rw [same, Dict.get_set_self]
        rfl
      · rw [Dict.get_set_of_ne headers same]
        exact passed
    · exact passed
  refine ⟨written, fun full => ?_⟩
  by_cases given : contentLength ∈ event.headers.map Prod.fst
  · obtain ⟨header, listed, named⟩ := List.mem_map.mp given
    rw [← named]
    exact written header listed (by rw [named]; decide)
  · have missing : (Dict.ofPairs event.headers).get contentLength = none :=
      Dict.get_update_of_not_mem given Dict.empty
    have visible : body.isEmpty = false := List.isEmpty_eq_false_iff.mpr full
    rw [shape, missing, visible]
    simp only [Option.isNone_none, Bool.not_false, Bool.and_self, if_true, Dict.get_set_self,
      Option.isSome_some]

/-- An accepted environment is made of the accepted headers and the body. -/
theorem buildEnviron_safe (accepted : platform.buildEnviron line event body = .ok environ)
    (names : ∀ header ∈ event.headers, Accepted header.1)
    (digits : ∀ header ∈ event.headers, header.1 = contentLength →
      header.2 ≠ [] ∧ ∀ byte ∈ header.2, isDigitByte byte = true) :
    SafeEnviron event body environ := by
  obtain ⟨-, input, headers, ran, -⟩ := buildEnviron_ok accepted
  obtain ⟨passed, lengthOfBody⟩ := buildEnviron_passed accepted
  have lengthAccepted : Accepted contentLength := by decide
  have codingAccepted : Accepted transferEncoding := by decide
  exact {
    input := input
    separate := fun left inLeft right inRight =>
      environKey_injective (names left inLeft) (names right inRight)
    unreserved := fun header _ => environKey_unreserved header.1
    passed := passed
    written := fun key value => buildEnviron_written accepted
    uncoded := by
      refine Option.eq_none_iff_forall_ne_some.mpr fun value found => ?_
      rcases buildEnviron_written accepted found with ⟨header, listed, plain, same, -⟩ | ⟨same, -⟩
      · exact plain (environKey_injective (names header listed) codingAccepted same)
      · exact absurd (environKey_injective codingAccepted lengthAccepted same) (by decide)
    typed := foldlM_setHeader_once ran (Or.inl rfl)
    unambiguous := fun left inLeft right inRight named =>
      (buildEnviron_framed accepted inLeft named).1 right inRight
    framed := fun header listed named => (buildEnviron_framed accepted listed named).2
    present := by
      constructor
      · intro found
        obtain ⟨value, given⟩ := Option.isSome_iff_exists.mp found
        rcases buildEnviron_written accepted given with ⟨header, listed, -, same, -⟩ | written
        · exact Or.inl ⟨header, listed,
            environKey_injective (names header listed) lengthAccepted same⟩
        · exact Or.inr written.2.2.1
      · rintro (⟨header, listed, named⟩ | full)
        · rw [← named]
          exact passed header listed (by rw [named]; decide)
        · exact lengthOfBody full
    denotes := by
      intro value found
      rw [input]
      rcases buildEnviron_written accepted found with
        ⟨header, listed, -, same, decoded⟩ | ⟨-, rfl, -⟩
      · have named := environKey_injective (names header listed) lengthAccepted same
        obtain ⟨nonempty, digitsOnly⟩ := digits header listed named
        rw [← (buildEnviron_framed accepted listed named).2]
        exact denotes_of_digits decoded nonempty digitsOnly
      · exact denotes_toString body.length }

end Requests

/-- The environment of an accepted request is made of its headers and its body: no header takes
the place of another one, of a key of the request or of the length of the body. -/
theorem deserializeRequest_safe (platform : Platform) (validates : platform.Validates)
    {rawData : Bytes} {environ : Environ}
    (accepted : platform.deserializeRequest rawData = .ok environ) :
    ∃ headerData lineSeparator body line event,
      splitHead rawData = (headerData, lineSeparator, body) ∧
      platform.parseHead headerData lineSeparator = .ok (line, event) ∧
      SafeEnviron event body environ := by
  have present : rawData ≠ [] := by
    rintro rfl
    exact absurd accepted nofun
  rcases split : splitHead rawData with ⟨headerData, lineSeparator, body⟩
  rw [deserializeRequest_of_splitHead platform present split] at accepted
  obtain ⟨⟨line, event⟩, parsed, built⟩ := Fallible.bind_eq_ok.mp accepted
  have found := parsed
  rw [Platform.parseHead] at parsed
  obtain ⟨checked, -, parsed⟩ := Fallible.bind_eq_ok.mp parsed
  obtain ⟨request, read, same⟩ := Fallible.bind_eq_ok.mp parsed
  obtain ⟨rfl, rfl⟩ := Prod.mk.inj (Except.ok.inj same)
  obtain ⟨names, digits⟩ := requestEvent_ok validates read
  exact ⟨headerData, lineSeparator, body, checked, request, rfl, found,
    buildEnviron_safe built names digits⟩

/-- A head with the length of its body. -/
def postHead : Bytes := literal "POST /hook HTTP/1.1\r\nHost: a\r\nContent-Length: 2\r\n\r\n"

/-- A platform on which `h11` reads that head. -/
def postPlatform : Platform where
  h11 head :=
    if head = postHead then
      .request ⟨literal "POST",
        [(literal "host", literal "a"), (contentLength, literal "2")], literal "1.1"⟩
    else .protocolError "illegal request line".toList
  urlsplit text := .ok ⟨some (text.drop 2), .ok none⟩
  isPrintable _ := false

/-- It keeps the promises of `h11`. -/
theorem postPlatform_validates : postPlatform.Validates := by
  have parsed : ∀ head event, postPlatform.h11 head = .request event →
      event.headers = [(literal "host", literal "a"), (contentLength, literal "2")] := by
    intro head event found
    simp only [postPlatform] at found
    split at found
    · rw [← H11Event.request.inj found]
    · exact absurd found nofun
  have tokens : ∀ header ∈ [(literal "host", literal "a"), (contentLength, literal "2")],
      header.1.all isLowerToken = true := by decide
  have digits : ∀ header ∈ [(literal "host", literal "a"), (contentLength, literal "2")],
      header.1 = contentLength → header.2 ≠ [] ∧ header.2.all isDigitByte = true := by decide
  constructor
  · intro head event found header listed
    rw [parsed head event found] at listed
    exact List.all_eq_true.mp (tokens header listed)
  · intro head event found header listed named
    rw [parsed head event found] at listed
    obtain ⟨written, numeric⟩ := digits header listed named
    exact ⟨written, List.all_eq_true.mp numeric⟩

/-- The environment of the head with a body of two bytes. -/
def postEnviron : Environ where
  requestMethod := "POST".toList
  pathInfo := "/hook".toList
  queryString := []
  serverName := "a".toList
  serverPort := "80".toList
  serverProtocol := "HTTP/1.1".toList
  input := literal "ok"
  headers := Dict.ofPairs [("HTTP_HOST".toList, "a".toList), ("CONTENT_LENGTH".toList, "2".toList)]

/-- The environment of the head and the two bytes is made of them. -/
theorem deserializeRequest_safe_post :
    ∃ headerData lineSeparator body line event,
      splitHead (postHead ++ literal "ok") = (headerData, lineSeparator, body) ∧
      postPlatform.parseHead headerData lineSeparator = .ok (line, event) ∧
      SafeEnviron event body postEnviron :=
  deserializeRequest_safe postPlatform postPlatform_validates rfl

end DifyPlugin.HttpParser
