import DifyPlugin.Core.Ebml
import DifyPlugin.Library.Splitting

/-!
# WebM headers

`_is_webm_header` goes through the elements of an EBML header until it finds the type of the
document. An element is an id, a size and a content; the content has to be inside of the header
element and of the bytes that were read.
-/

namespace DifyPlugin.Ebml

open Decoding BigEndian

/-- The id of the header element. -/
def ebmlMagic : Bytes := [0x1a, 0x45, 0xdf, 0xa3]

/-- The id of the `DocType` element. -/
def docTypeId : Bytes := [0x42, 0x82]

/-- `b"webm"`. -/
def webmName : Bytes := [0x77, 0x65, 0x62, 0x6d]

/-- `data.partition(b"\\0")[0]`. -/
def beforeNul (data : Bytes) : Bytes :=
  match Splitting.cut [0] data with
  | some (before, _) => before
  | none => data

/-- The element at an offset, as a round of the loop reads it: its id, and where its content
starts and ends; `none` stands for `break`. -/
def nextElement (header : Bytes) (rootEnd offset : Nat) :
    Except Stop (Option (Bytes × Nat × Nat)) :=
  if header.length ≤ offset then .ok none
  else do
    let first ← byteAt header offset
    let idWidth := 9 - bitLength first.toNat
    if ebmlMaxIdWidth < idWidth ∨ min rootEnd header.length < offset + idWidth then .ok none
    else
      let elementId := slice header offset (offset + idWidth)
      match ← readEbmlSize header (offset + idWidth) with
      | none => .ok none
      | some (elementSize, valueStart) =>
        let valueEnd := valueStart + elementSize
        if rootEnd < valueEnd ∨ header.length < valueEnd then .ok none
        else .ok (some (elementId, valueStart, valueEnd))

/-- The loop over the elements, with a bound on its rounds. -/
def walkElements (header : Bytes) (rootEnd : Nat) : Nat → Nat → Except Stop Bool
  | 0, _ => .error .exhausted
  | rounds + 1, offset =>
    if offset < rootEnd then do
      match ← nextElement header rootEnd offset with
      | none => .ok false
      | some (elementId, valueStart, valueEnd) =>
        if elementId = docTypeId then
          .ok (decide (beforeNul (slice header valueStart valueEnd) = webmName))
        else walkElements header rootEnd rounds valueEnd
    else .ok false

/-- `_is_webm_header`. -/
def isWebmHeader (header : Bytes) : Except Stop Bool :=
  if ebmlMagic.isPrefixOf header then do
    match ← readEbmlSize header 4 with
    | none => .ok false
    | some (rootSize, offset) =>
      walkElements header (offset + rootSize) (header.length + 1) offset
  else .ok false

/-- A well-formed element. -/
structure Element where
  /-- The id, with its marker. -/
  id : Bytes
  /-- The width of the size. -/
  sizeWidth : Nat
  /-- The content. -/
  content : Bytes
  /-- The first byte of the id marks its width. -/
  marked : ∃ first rest, id = first :: rest ∧ Marks first id.length
  /-- The id has at most four bytes. -/
  narrow : id.length ≤ ebmlMaxIdWidth
  /-- The size is known. -/
  known : Known sizeWidth content.length

/-- The bytes of an element. -/
def Element.encode (element : Element) : Bytes :=
  element.id ++ (encodeSize element.sizeWidth element.content.length ++ element.content)

/-- From the offset on there are elements of other types and then the document type `webm`,
inside of the header element. -/
def Declares (header : Bytes) (rootEnd offset : Nat) : Prop :=
  ∃ (elements : List Element) (docType : Element) (rest : Bytes),
    header.drop offset = elements.flatMap Element.encode ++ docType.encode ++ rest ∧
      offset + (elements.flatMap Element.encode ++ docType.encode).length ≤ rootEnd ∧
      (∀ element ∈ elements, element.id ≠ docTypeId) ∧ docType.id = docTypeId ∧
      docType.content.takeWhile (fun byte => byte ≠ 0) = webmName

/-- A byte that is not NUL belongs to the part before the first NUL. -/
theorem beforeNul_cons {byte : UInt8} (visible : byte ≠ 0) (rest : Bytes) :
    beforeNul (byte :: rest) = byte :: beforeNul rest := by
  have later : Splitting.cut [0] (byte :: rest) =
      (Splitting.cut [0] rest).map fun (before, after) => (byte :: before, after) := by
    simp [Splitting.cut, Ne.symm visible]
  rw [beforeNul, beforeNul, later]
  cases Splitting.cut [0] rest with
  | none => rfl
  | some parts => rfl

/-- The part before the first NUL. -/
theorem beforeNul_eq (data : Bytes) :
    beforeNul data = data.takeWhile (fun byte => byte ≠ 0) := by
  induction data with
  | nil => rfl
  | cons byte rest ih =>
    by_cases zero : byte = 0
    · subst zero
      have here : Splitting.cut [0] ((0 : UInt8) :: rest) = some ([], rest) := by
        simp [Splitting.cut]
      rw [beforeNul, here, List.takeWhile_cons_of_neg (by simp)]
    · rw [beforeNul_cons zero, ih, List.takeWhile_cons_of_pos (by simpa using zero)]

/-- The length of an element. -/
theorem Element.length_encode (element : Element) :
    element.encode.length = element.id.length + (element.sizeWidth + element.content.length) := by
  rw [Element.encode, List.length_append, List.length_append, length_encodeSize]

/-- An element is not empty. -/
theorem Element.length_pos (element : Element) : 0 < element.encode.length := by
  have positive := element.known.positive
  rw [element.length_encode]
  omega

/-- Where an element stands, its content does. -/
theorem slice_content {header rest : Bytes} {offset : Nat} {element : Element}
    (shape : header.drop offset = element.encode ++ rest) :
    slice header (offset + element.id.length + element.sizeWidth)
      (offset + element.encode.length) = element.content := by
  have start : header.drop (offset + element.id.length + element.sizeWidth) =
      element.content ++ rest := by
    have head : (element.id ++ encodeSize element.sizeWidth element.content.length).length =
        element.id.length + element.sizeWidth := by
      rw [List.length_append, length_encodeSize]
    rw [Nat.add_assoc, ← head, ← List.drop_drop, shape, Element.encode, ← List.append_assoc,
      List.append_assoc _ element.content rest, List.drop_left]
  have width : offset + element.encode.length - (offset + element.id.length + element.sizeWidth) =
      element.content.length := by
    rw [element.length_encode]
    omega
  rw [slice, start, width, List.take_left]

/-- A round reads the element that stands at its offset. -/
theorem nextElement_of_encode {header rest : Bytes} {rootEnd offset : Nat} {element : Element}
    (shape : header.drop offset = element.encode ++ rest)
    (inside : offset + element.encode.length ≤ rootEnd) :
    nextElement header rootEnd offset =
      .ok (some (element.id, offset + element.id.length + element.sizeWidth,
        offset + element.encode.length)) := by
  obtain ⟨first, others, start, marks⟩ := element.marked
  have narrow := element.narrow
  have length := congrArg List.length shape
  rw [List.length_drop, List.length_append] at length
  have total := element.length_encode
  have positive := element.length_pos
  have byte : header[offset]? = some first := by
    rw [Element.encode, start, List.cons_append, List.cons_append] at shape
    exact getElem?_of_drop shape
  have behind : header.drop (offset + element.id.length) =
      encodeSize element.sizeWidth element.content.length ++ (element.content ++ rest) := by
    rw [← List.drop_drop, shape, Element.encode, List.append_assoc, List.drop_left,
      List.append_assoc]
  have read := readEbmlSize_eq_some.mpr
    ⟨element.sizeWidth, element.content ++ rest, element.known, behind, rfl⟩
  have identity : slice header offset (offset + element.id.length) = element.id := by
    rw [slice, Nat.add_sub_cancel_left, shape, Element.encode, List.append_assoc, List.take_left]
  have room : ¬ (ebmlMaxIdWidth < element.id.length ∨
      min rootEnd header.length < offset + element.id.length) := by
    omega
  have whole : ¬ (rootEnd < offset + element.id.length + element.sizeWidth +
        element.content.length ∨
      header.length < offset + element.id.length + element.sizeWidth +
        element.content.length) := by
    omega
  have stop : offset + element.id.length + element.sizeWidth + element.content.length =
      offset + element.encode.length := by
    omega
  rw [nextElement, if_neg (by omega), byteAt, byte]
  show (if _ then _ else _) = _
  rw [marks.width, if_neg room, identity, read]
  show (if _ then _ else _) = _
  rw [if_neg whole, stop]

/-- The bytes of an id, a size and a content that follow one another are an element. -/
theorem exists_element {header rest : Bytes} {rootEnd offset width size sizeWidth : Nat}
    {first : UInt8} (byte : header[offset]? = some first) (marks : Marks first width)
    (narrow : width ≤ ebmlMaxIdWidth) (inside : offset + width ≤ header.length)
    (known : Known sizeWidth size)
    (shape : header.drop (offset + width) = encodeSize sizeWidth size ++ rest)
    (withinRoot : offset + width + sizeWidth + size ≤ rootEnd)
    (withinHeader : offset + width + sizeWidth + size ≤ header.length) :
    ∃ (element : Element) (later : Bytes), header.drop offset = element.encode ++ later ∧
      offset + element.encode.length ≤ rootEnd := by
  have idLength : (slice header offset (offset + width)).length = width := by
    rw [slice, Nat.add_sub_cancel_left, List.length_take, List.length_drop]
    omega
  have contentLength : (rest.take size).length = size := by
    have length := congrArg List.length shape
    rw [List.length_drop, List.length_append, length_encodeSize] at length
    rw [List.length_take]
    omega
  have marked : ∃ byte others, slice header offset (offset + width) = byte :: others ∧
      Marks byte (slice header offset (offset + width)).length := by
    have positive := marks.positive
    cases field : slice header offset (offset + width) with
    | nil =>
      rw [field, List.length_nil] at idLength
      omega
    | cons head others =>
      have start := congrArg List.head? field
      rw [slice, List.head?_take, if_neg (by omega), List.head?_drop, byte] at start
      rw [field] at idLength
      obtain rfl := Option.some.inj start
      exact ⟨first, others, rfl, idLength ▸ marks⟩
  have split : header.drop offset = slice header offset (offset + width) ++
      (encodeSize sizeWidth size ++ (rest.take size ++ rest.drop size)) := by
    rw [List.take_append_drop, ← shape, slice, Nat.add_sub_cancel_left, ← List.drop_drop,
      List.take_append_drop]
  have short : (slice header offset (offset + width)).length ≤ ebmlMaxIdWidth := by
    rwa [idLength]
  have content : Known sizeWidth (rest.take size).length := by
    rwa [contentLength]
  refine ⟨⟨slice header offset (offset + width), sizeWidth, rest.take size, marked, short,
    content⟩, rest.drop size, ?_, ?_⟩
  · rw [split, Element.encode, contentLength]
    simp only [List.append_assoc]
  · simp only [Element.length_encode, idLength, contentLength]
    omega

/-- A round ends the loop, or an element stands at its offset. -/
theorem nextElement_cases (header : Bytes) (rootEnd offset : Nat) :
    nextElement header rootEnd offset = .ok none ∨
      ∃ (element : Element) (rest : Bytes), header.drop offset = element.encode ++ rest ∧
        offset + element.encode.length ≤ rootEnd := by
  by_cases outside : header.length ≤ offset
  · exact Or.inl (if_pos outside)
  · have byte : header[offset]? = some header[offset] := List.getElem?_eq_getElem (by omega)
    have round : nextElement header rootEnd offset =
        (let idWidth := 9 - bitLength header[offset].toNat
        if ebmlMaxIdWidth < idWidth ∨ min rootEnd header.length < offset + idWidth then .ok none
        else
          readEbmlSize header (offset + idWidth) >>= fun element =>
            match element with
            | none => .ok none
            | some (elementSize, valueStart) =>
              if rootEnd < valueStart + elementSize ∨ header.length < valueStart + elementSize then
                .ok none
              else
                .ok (some (slice header offset (offset + idWidth), valueStart,
                  valueStart + elementSize))) := by
      rw [nextElement, if_neg outside, byteAt, byte]
      rfl
    simp only at round
    split at round
    · exact Or.inl round
    · rename_i room
      have nonzero : header[offset] ≠ 0 := by
        intro zero
        rw [zero] at room
        exact room (Or.inl (by decide))
      have marks := marks_width nonzero
      obtain ⟨result, read⟩ := readEbmlSize_ok header
        (offset + (9 - bitLength header[offset].toNat))
      rw [read] at round
      cases result with
      | none => exact Or.inl round
      | some found =>
        obtain ⟨size, start⟩ := found
        by_cases beyond : rootEnd < start + size ∨ header.length < start + size
        · left
          rw [round]
          exact if_pos beyond
        · right
          obtain ⟨sizeWidth, rest, known, shape, rfl⟩ := readEbmlSize_eq_some.mp read
          exact exists_element byte marks (by omega) (by omega) known shape (by omega) (by omega)

/-- From an element on, a document type is declared by it or behind it. -/
theorem declares_iff {header rest : Bytes} {rootEnd offset : Nat} {element : Element}
    (shape : header.drop offset = element.encode ++ rest)
    (inside : offset + element.encode.length ≤ rootEnd) :
    Declares header rootEnd offset ↔
      if element.id = docTypeId then
        element.content.takeWhile (fun byte => byte ≠ 0) = webmName
      else Declares header rootEnd (offset + element.encode.length) := by
  have round := nextElement_of_encode shape inside
  have content := slice_content shape
  -- What is read at one offset is one element.
  have same {other : Element} {later : Bytes} (otherShape : header.drop offset =
      other.encode ++ later) (otherInside : offset + other.encode.length ≤ rootEnd) :
      other.id = element.id ∧ other.content = element.content ∧
        other.encode.length = element.encode.length := by
    have again := nextElement_of_encode otherShape otherInside
    have otherContent := slice_content otherShape
    rw [round] at again
    simp only [Except.ok.injEq, Option.some.injEq, Prod.mk.injEq] at again
    obtain ⟨ids, starts, stops⟩ := again
    rw [← starts, ← stops, content] at otherContent
    exact ⟨ids.symm, otherContent.symm, by omega⟩
  constructor
  · rintro ⟨elements, docType, after, whole, bound, others, isDocType, named⟩
    cases elements with
    | nil =>
      simp only [List.flatMap_nil, List.nil_append] at whole bound
      obtain ⟨ids, contents, -⟩ := same whole bound
      rw [if_pos (ids ▸ isDocType), ← contents]
      exact named
    | cons head elements =>
      simp only [List.flatMap_cons, List.append_assoc, List.length_append] at whole bound
      obtain ⟨ids, -, lengths⟩ := same whole (by omega)
      obtain ⟨headOther, others⟩ := List.forall_mem_cons.mp others
      rw [if_neg (ids ▸ headOther)]
      refine ⟨elements, docType, after, ?_, ?_, others, isDocType, named⟩
      · rw [← lengths, ← List.drop_drop, whole, List.drop_left]
        simp only [List.append_assoc]
      · rw [List.length_append]
        omega
  · intro found
    split at found
    · rename_i isDocType
      exact ⟨[], element, rest, by simpa using shape, by simpa using inside,
        List.forall_mem_nil _, isDocType, found⟩
    · rename_i isOther
      obtain ⟨elements, docType, after, whole, bound, others, isDocType, named⟩ := found
      have tail : rest = header.drop (offset + element.encode.length) := by
        rw [← List.drop_drop, shape, List.drop_left]
      refine ⟨element :: elements, docType, after, ?_, ?_,
        List.forall_mem_cons.mpr ⟨isOther, others⟩, isDocType, named⟩
      · rw [shape, tail, whole]
        simp only [List.flatMap_cons, List.append_assoc]
      · simp only [List.flatMap_cons, List.length_append] at bound ⊢
        omega

/-- Where a round ends the loop, nothing is declared. -/
theorem not_declares {header : Bytes} {rootEnd offset : Nat}
    (ended : nextElement header rootEnd offset = .ok none) :
    ¬ Declares header rootEnd offset := by
  rintro ⟨elements, docType, after, whole, bound, -⟩
  have read : ∃ element rest, header.drop offset = Element.encode element ++ rest ∧
      offset + element.encode.length ≤ rootEnd := by
    cases elements with
    | nil => exact ⟨docType, after, by simpa using whole, by simpa using bound⟩
    | cons head elements =>
      simp only [List.flatMap_cons, List.append_assoc, List.length_append] at whole bound
      exact ⟨head, _, whole, by omega⟩
  obtain ⟨element, rest, shape, inside⟩ := read
  rw [nextElement_of_encode shape inside] at ended
  exact absurd ended (by simp)

/-- Nothing is declared behind the end of the header element. -/
theorem Declares.inside {header : Bytes} {rootEnd offset : Nat}
    (declares : Declares header rootEnd offset) : offset < rootEnd := by
  obtain ⟨elements, docType, -, -, bound, -⟩ := declares
  have positive := docType.length_pos
  rw [List.length_append] at bound
  omega

/-- With a round for each byte that is left and one more, the loop finds whether the type is
declared. -/
theorem walkElements_spec (header : Bytes) (rootEnd : Nat) :
    ∀ rounds offset, header.length - offset < rounds →
      ∃ answer, walkElements header rootEnd rounds offset = .ok answer ∧
        (answer = true ↔ Declares header rootEnd offset) := by
  intro rounds
  induction rounds with
  | zero =>
    intro offset enough
    exact absurd enough (Nat.not_lt_zero _)
  | succ rounds ih =>
    intro offset enough
    by_cases inside : offset < rootEnd
    · rcases nextElement_cases header rootEnd offset with ended | ⟨element, rest, shape, bound⟩
      · refine ⟨false, ?_, ?_⟩
        · rw [walkElements, if_pos inside, ended]
          rfl
        · simpa using not_declares ended
      · have length := congrArg List.length shape
        rw [List.length_drop, List.length_append] at length
        have positive := element.length_pos
        have round := nextElement_of_encode shape bound
        by_cases isDocType : element.id = docTypeId
        · refine ⟨decide (beforeNul element.content = webmName), ?_, ?_⟩
          · rw [walkElements, if_pos inside, round]
            show (if _ then _ else _) = _
            rw [if_pos isDocType, slice_content shape]
          · rw [declares_iff shape bound, if_pos isDocType, ← beforeNul_eq]
            exact decide_eq_true_iff
        · obtain ⟨answer, walked, correct⟩ := ih (offset + element.encode.length) (by omega)
          refine ⟨answer, ?_, ?_⟩
          · rw [walkElements, if_pos inside, round]
            show (if _ then _ else _) = _
            rw [if_neg isDocType, walked]
          · rw [declares_iff shape bound, if_neg isDocType]
            exact correct
    · refine ⟨false, ?_, ?_⟩
      · rw [walkElements, if_neg inside]
      · simpa using fun declares => inside (Declares.inside declares)

/-- The detection ends without an error for all bytes, and finds exactly the headers of WebM:
after the magic number and a known size there are well-formed elements inside of the header
element and of the bytes, and the first of them that is a `DocType` says `webm`. -/
theorem isWebmHeader_exact (header : Bytes) :
    ∃ answer, isWebmHeader header = .ok answer ∧
      (answer = true ↔
        ∃ (width rootSize : Nat) (elements : List Element) (docType : Element) (rest : Bytes),
          Known width rootSize ∧
            header = ebmlMagic ++ encodeSize width rootSize ++
              (elements.flatMap Element.encode ++ docType.encode) ++ rest ∧
            (elements.flatMap Element.encode ++ docType.encode).length ≤ rootSize ∧
            (∀ element ∈ elements, element.id ≠ docTypeId) ∧ docType.id = docTypeId ∧
            docType.content.takeWhile (fun byte => byte ≠ 0) = webmName) := by
  by_cases magic : ebmlMagic.isPrefixOf header = true
  · obtain ⟨body, rfl⟩ := List.isPrefixOf_iff_prefix.mp magic
    have behind : (ebmlMagic ++ body).drop 4 = body := rfl
    obtain ⟨root, read⟩ := readEbmlSize_ok (ebmlMagic ++ body) 4
    cases root with
    | none =>
      refine ⟨false, ?_, ?_⟩
      · rw [isWebmHeader, if_pos magic, read]
        rfl
      · have unread : ¬ ∃ width size rest, Known width size ∧
            body = encodeSize width size ++ rest := by
          rintro ⟨width, size, rest, known, shape⟩
          rw [readEbmlSize_eq_some.mpr ⟨width, rest, known, behind.trans shape, rfl⟩] at read
          exact absurd read (by simp)
        simp only [Bool.false_eq_true, false_iff]
        rintro ⟨width, size, elements, docType, rest, known, shape, -⟩
        simp only [List.append_assoc, List.append_cancel_left_eq] at shape
        exact unread ⟨width, size, _, known, shape⟩
    | some found =>
      obtain ⟨rootSize, offset⟩ := found
      obtain ⟨answer, walked, correct⟩ := walkElements_spec (ebmlMagic ++ body)
        (offset + rootSize) ((ebmlMagic ++ body).length + 1) offset (by omega)
      refine ⟨answer, ?_, ?_⟩
      · rw [isWebmHeader, if_pos magic, read]
        exact walked
      · obtain ⟨width, tail, known, shape, rfl⟩ := readEbmlSize_eq_some.mp read
        rw [behind] at shape
        subst shape
        have start :
            (ebmlMagic ++ (encodeSize width rootSize ++ tail)).drop (4 + width) = tail := by
          have head : (ebmlMagic ++ encodeSize width rootSize).length = 4 + width := by
            rw [List.length_append, length_encodeSize]
            rfl
          rw [← List.append_assoc, ← head, List.drop_left]
        rw [correct, Declares, start]
        constructor
        · rintro ⟨elements, docType, rest, whole, bound, others, isDocType, named⟩
          refine ⟨width, rootSize, elements, docType, rest, known, ?_, by omega, others,
            isDocType, named⟩
          rw [whole]
          simp only [List.append_assoc]
        · rintro ⟨other, size, elements, docType, rest, otherKnown, whole, bound, others,
            isDocType, named⟩
          simp only [List.append_assoc, List.append_cancel_left_eq] at whole
          have again := readEbmlSize_eq_some.mpr
            ⟨other, _, otherKnown, behind.trans whole, rfl⟩
          rw [read] at again
          simp only [Except.ok.injEq, Option.some.injEq, Prod.mk.injEq] at again
          obtain ⟨rfl, widths⟩ := again
          obtain rfl : width = other := by omega
          have tails := List.append_cancel_left whole
          refine ⟨elements, docType, rest, ?_, by omega, others, isDocType, named⟩
          rw [tails, List.append_assoc]
  · refine ⟨false, ?_, ?_⟩
    · rw [isWebmHeader, if_neg magic]
    · simp only [Bool.false_eq_true, false_iff]
      rintro ⟨width, size, elements, docType, rest, -, rfl, -⟩
      apply magic
      apply List.isPrefixOf_iff_prefix.mpr
      simp only [List.append_assoc]
      exact List.prefix_append _ _

end DifyPlugin.Ebml
