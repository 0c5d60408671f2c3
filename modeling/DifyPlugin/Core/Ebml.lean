import DifyPlugin.Library.BigEndian

/-!
# Sizes of EBML elements

`_read_ebml_size` reads the size of an element: a number of one to eight bytes whose width shows
in the place of the leading bit of its first byte. The marker is no part of the value, and the
value of only ones stands for an unknown size.
-/

namespace DifyPlugin.Ebml

open Decoding BigEndian

/-- Why a run ends without a result. -/
inductive Stop where
  /-- The `IndexError` of an index behind the end. -/
  | indexError
  /-- The rounds a loop was given are used up. -/
  | exhausted
  deriving DecidableEq

/-- `_EBML_MAX_ID_WIDTH`. -/
def ebmlMaxIdWidth : Nat := 4

/-- `_EBML_MAX_SIZE_WIDTH`. -/
def ebmlMaxSizeWidth : Nat := 8

/-- `data[offset]`. -/
def byteAt (data : Bytes) (offset : Nat) : Except Stop UInt8 :=
  match data[offset]? with
  | some byte => .ok byte
  | none => .error .indexError

/-- `data[start:stop]`. -/
def slice (data : Bytes) (start stop : Nat) : Bytes := (data.drop start).take (stop - start)

/-- `_read_ebml_size`: the value and the offset behind it. -/
def readEbmlSize (data : Bytes) (offset : Nat) : Except Stop (Option (Nat × Nat)) :=
  if data.length ≤ offset then .ok none
  else do
    let first ← byteAt data offset
    let width := 9 - bitLength first.toNat
    if ebmlMaxSizeWidth < width ∨ data.length < offset + width then .ok none
    else
      let value := fromBytes (slice data offset (offset + width)) &&& ((1 <<< (7 * width)) - 1)
      if value = (1 <<< (7 * width)) - 1 then .ok none
      else .ok (some (value, offset + width))

/-- The marker in the first byte of a field of this width. -/
structure Marks (first : UInt8) (width : Nat) : Prop where
  /-- There is a byte. -/
  positive : 1 ≤ width
  /-- There are at most eight. -/
  atMost : width ≤ 8
  /-- The marker is set. -/
  set : 2 ^ (8 - width) ≤ first.toNat
  /-- No bit before the marker is. -/
  leading : first.toNat < 2 ^ (9 - width)

/-- A size of a given width: the marker and then the value. -/
def encodeSize (width value : Nat) : Bytes := toBytes width (2 ^ (7 * width) + value)

/-- A size of a known element that has this width. -/
structure Known (width value : Nat) : Prop where
  /-- There is a byte. -/
  positive : 1 ≤ width
  /-- There are at most eight. -/
  atMost : width ≤ 8
  /-- The value fits, and is not the unknown size. -/
  below : value < 2 ^ (7 * width) - 1

/-- The width that is computed from the first byte is the one it marks. -/
theorem width_eq {first : UInt8} {width : Nat} (positive : 1 ≤ width) (atMost : width ≤ 8) :
    9 - bitLength first.toNat = width ↔ Marks first width := by
  have bits := bitLength_byte first
  have length : bitLength first.toNat = 9 - width ↔
      2 ^ (8 - width) ≤ first.toNat ∧ first.toNat < 2 ^ (9 - width) := by
    have place : 9 - width - 1 = 8 - width := by omega
    rw [bitLength_eq (by omega), place]
  constructor
  · intro computed
    have leading := length.mp (by omega)
    exact ⟨positive, atMost, leading.1, leading.2⟩
  · intro marks
    have computed := length.mpr ⟨marks.set, marks.leading⟩
    omega

/-- A byte that is not zero marks the width that is computed from it. -/
theorem marks_width {first : UInt8} (nonzero : first ≠ 0) :
    Marks first (9 - bitLength first.toNat) := by
  have bits := bitLength_byte first
  have positive : 1 ≤ bitLength first.toNat := by
    have value : first.toNat ≠ 0 := fun zero => nonzero (UInt8.toNat_inj.mp zero)
    rw [bitLength, if_neg value]
    omega
  exact (width_eq (by omega) (by omega)).mp rfl

/-- A first byte marks one width. -/
theorem Marks.width {first : UInt8} {width : Nat} (marks : Marks first width) :
    9 - bitLength first.toNat = width :=
  (width_eq marks.positive marks.atMost).mpr marks

/-- The place of the marker, counted in bits. -/
theorem pow_marker {width : Nat} (positive : 1 ≤ width) (atMost : width ≤ 8) :
    2 ^ (8 - width) * 256 ^ (width - 1) = 2 ^ (7 * width) := by
  have bits : (256 : Nat) ^ (width - 1) = 2 ^ (8 * (width - 1)) := by rw [Nat.pow_mul]
  have place : 8 - width + 8 * (width - 1) = 7 * width := by omega
  rw [bits, ← Nat.pow_add, place]

/-- No marker is as great as twice the marker. -/
theorem pow_leading {width : Nat} (positive : 1 ≤ width) (atMost : width ≤ 8) :
    2 ^ (9 - width) * 256 ^ (width - 1) = 2 * 2 ^ (7 * width) := by
  have next : 9 - width = 8 - width + 1 := by omega
  rw [next, Nat.pow_succ, Nat.mul_comm _ 2, Nat.mul_assoc, pow_marker positive atMost]

/-- A marker and a value fit in the bytes of their width. -/
theorem encoded_fits {width value : Nat} (positive : 1 ≤ width) (fits : value < 2 ^ (7 * width)) :
    2 ^ (7 * width) + value < 256 ^ width := by
  have bits : (256 : Nat) ^ width = 2 ^ (8 * width) := by rw [Nat.pow_mul]
  have room : 2 ^ (7 * width + 1) ≤ 2 ^ (8 * width) := Nat.pow_le_pow_right (by decide) (by omega)
  rw [Nat.pow_succ] at room
  omega

/-- A size is as long as its width. -/
@[simp] theorem length_encodeSize (width value : Nat) : (encodeSize width value).length = width :=
  length_toBytes width _

/-- A size is read as the marker and the value. -/
theorem fromBytes_encodeSize {width value : Nat} (positive : 1 ≤ width)
    (fits : value < 2 ^ (7 * width)) :
    fromBytes (encodeSize width value) = 2 ^ (7 * width) + value :=
  fromBytes_toBytes (encoded_fits positive fits)

/-- The first byte of a field carries its marker exactly when the number does. -/
theorem marks_iff {first : UInt8} {rest : Bytes} (atMost : rest.length + 1 ≤ 8) :
    Marks first (rest.length + 1) ↔
      2 ^ (7 * (rest.length + 1)) ≤ fromBytes (first :: rest) ∧
        fromBytes (first :: rest) < 2 * 2 ^ (7 * (rest.length + 1)) := by
  have marker := pow_marker (Nat.le_add_left 1 rest.length) atMost
  have leading := pow_leading (Nat.le_add_left 1 rest.length) atMost
  have below := fromBytes_lt rest
  have power : 0 < 256 ^ rest.length := Nat.pow_pos (by decide)
  have byte : fromBytes (first :: rest) / 256 ^ rest.length = first.toNat := by
    rw [fromBytes_cons, Nat.mul_comm, Nat.mul_add_div power, Nat.div_eq_of_lt below, Nat.add_zero]
  rw [Nat.add_sub_cancel] at marker leading
  have low : 2 ^ (7 * (rest.length + 1)) ≤ fromBytes (first :: rest) ↔
      2 ^ (8 - (rest.length + 1)) ≤ first.toNat := by
    rw [← marker, ← Nat.le_div_iff_mul_le power, byte]
  have high : fromBytes (first :: rest) < 2 * 2 ^ (7 * (rest.length + 1)) ↔
      first.toNat < 2 ^ (9 - (rest.length + 1)) := by
    rw [← leading, ← Nat.div_lt_iff_lt_mul power, byte]
  constructor
  · intro marks
    exact ⟨low.mpr marks.set, high.mpr marks.leading⟩
  · intro bounds
    exact ⟨Nat.succ_pos _, atMost, low.mp bounds.1, high.mp bounds.2⟩

/-- A size starts with the byte that marks its width. -/
theorem encodeSize_eq_cons {width value : Nat} (positive : 1 ≤ width) (atMost : width ≤ 8)
    (fits : value < 2 ^ (7 * width)) :
    ∃ first rest, encodeSize width value = first :: rest ∧ Marks first width := by
  have length := length_encodeSize width value
  cases shape : encodeSize width value with
  | nil =>
    rw [shape, List.length_nil] at length
    omega
  | cons first rest =>
    rw [shape, List.length_cons] at length
    have number := fromBytes_encodeSize positive fits
    rw [shape, ← length] at number
    have marks : Marks first (rest.length + 1) := by
      apply (marks_iff (by omega)).mpr
      rw [← length] at fits
      omega
    exact ⟨first, rest, rfl, length ▸ marks⟩

/-- Bytes that start with a marker of their length are a size. -/
theorem eq_encodeSize {first : UInt8} {rest : Bytes} (marks : Marks first (rest.length + 1)) :
    ∃ value, value < 2 ^ (7 * (rest.length + 1)) ∧
      first :: rest = encodeSize (rest.length + 1) value := by
  have bounds := (marks_iff marks.atMost).mp marks
  have fits : fromBytes (first :: rest) - 2 ^ (7 * (rest.length + 1)) <
      2 ^ (7 * (rest.length + 1)) := by omega
  refine ⟨_, fits, fromBytes_inj (length_encodeSize _ _).symm ?_⟩
  rw [fromBytes_encodeSize marks.positive fits]
  omega

/-- What stands at an offset. -/
theorem getElem?_of_drop {data rest : Bytes} {offset : Nat} {first : UInt8}
    (shape : data.drop offset = first :: rest) : data[offset]? = some first := by
  have head := congrArg List.head? shape
  rwa [List.head?_drop, List.head?_cons] at head

/-- Reading where there is a byte. -/
theorem readEbmlSize_inside {data : Bytes} {offset : Nat} {first : UInt8}
    (byte : data[offset]? = some first) :
    readEbmlSize data offset =
      (let width := 9 - bitLength first.toNat
      if ebmlMaxSizeWidth < width ∨ data.length < offset + width then .ok none
      else
        let value := fromBytes (slice data offset (offset + width)) &&& ((1 <<< (7 * width)) - 1)
        if value = (1 <<< (7 * width)) - 1 then .ok none
        else .ok (some (value, offset + width))) := by
  have inside : ¬ data.length ≤ offset := by
    have found := (List.getElem?_eq_some_iff.mp byte).1
    omega
  rw [readEbmlSize, if_neg inside, byteAt, byte]
  rfl

/-- A whole size is read, unless it is the unknown one. -/
theorem readEbmlSize_encoded {data rest : Bytes} {offset width value : Nat}
    (positive : 1 ≤ width) (atMost : width ≤ 8) (fits : value < 2 ^ (7 * width))
    (shape : data.drop offset = encodeSize width value ++ rest) :
    readEbmlSize data offset =
      .ok (if value = 2 ^ (7 * width) - 1 then none else some (value, offset + width)) := by
  obtain ⟨first, others, start, marks⟩ := encodeSize_eq_cons positive atMost fits
  have length := congrArg List.length shape
  rw [List.length_drop, List.length_append, length_encodeSize] at length
  have whole : ¬ (ebmlMaxSizeWidth < width ∨ data.length < offset + width) := by
    rw [ebmlMaxSizeWidth]
    omega
  have byte : data[offset]? = some first := by
    rw [start, List.cons_append] at shape
    exact getElem?_of_drop shape
  have field : slice data offset (offset + width) = encodeSize width value := by
    have length : (encodeSize width value).length = width := length_encodeSize width value
    rw [slice, shape, Nat.add_sub_cancel_left]
    exact List.take_left' length
  have masked : (2 ^ (7 * width) + value) % 2 ^ (7 * width) = value := by
    rw [Nat.add_mod_left, Nat.mod_eq_of_lt fits]
  simp only [readEbmlSize_inside byte, marks.width, if_neg whole, field,
    fromBytes_encodeSize positive fits, Nat.one_shiftLeft, Nat.and_two_pow_sub_one_eq_mod, masked]
  split <;> rfl

/-- Where the field of a size is cut off, nothing is read. -/
theorem readEbmlSize_cut {data : Bytes} {offset width : Nat} {first : UInt8}
    (byte : data[offset]? = some first) (marks : Marks first width)
    (cut : data.length < offset + width) : readEbmlSize data offset = .ok none := by
  simp only [readEbmlSize_inside byte, marks.width, if_pos (Or.inr cut)]

/-- A field that starts with zero has no width. -/
theorem readEbmlSize_zero {data : Bytes} {offset : Nat} (byte : data[offset]? = some 0) :
    readEbmlSize data offset = .ok none := by
  have wide : ebmlMaxSizeWidth < 9 - bitLength (0 : UInt8).toNat := by decide
  simp only [readEbmlSize_inside byte, if_pos (Or.inl wide)]

/-- What can stand at an offset. -/
inductive Field (data : Bytes) (offset : Nat) : Prop where
  /-- The offset is behind the end. -/
  | past (outside : data.length ≤ offset)
  /-- The first byte is zero. -/
  | zero (byte : data[offset]? = some 0)
  /-- The field is cut off by the end. -/
  | cut (first : UInt8) (width : Nat) (byte : data[offset]? = some first)
    (marks : Marks first width) (short : data.length < offset + width)
  /-- A whole size. -/
  | whole (width value : Nat) (rest : Bytes) (positive : 1 ≤ width) (atMost : width ≤ 8)
    (fits : value < 2 ^ (7 * width)) (shape : data.drop offset = encodeSize width value ++ rest)

/-- One of these stands at every offset. -/
theorem field (data : Bytes) (offset : Nat) : Field data offset := by
  cases shape : data.drop offset with
  | nil => exact .past (List.drop_eq_nil_iff.mp shape)
  | cons first rest =>
    have byte := getElem?_of_drop shape
    by_cases zero : first = 0
    · exact .zero (zero ▸ byte)
    · have marks := marks_width zero
      by_cases short : data.length < offset + (9 - bitLength first.toNat)
      · exact .cut first _ byte marks short
      · have length := congrArg List.length shape
        rw [List.length_drop, List.length_cons] at length
        have positive := marks.positive
        have taken : (rest.take (8 - bitLength first.toNat)).length + 1 =
            9 - bitLength first.toNat := by
          rw [List.length_take]
          omega
        rw [← taken] at marks
        obtain ⟨value, fits, same⟩ := eq_encodeSize marks
        apply Field.whole _ value (rest.drop (8 - bitLength first.toNat)) marks.positive
          marks.atMost fits
        rw [shape, ← same, List.cons_append, List.take_append_drop]

/-- Reading raises nothing. -/
theorem readEbmlSize_ok (data : Bytes) (offset : Nat) :
    ∃ result, readEbmlSize data offset = .ok result := by
  cases field data offset with
  | past outside => exact ⟨none, if_pos outside⟩
  | zero byte => exact ⟨none, readEbmlSize_zero byte⟩
  | cut first width byte marks short => exact ⟨none, readEbmlSize_cut byte marks short⟩
  | whole width value rest positive atMost fits shape =>
    exact ⟨_, readEbmlSize_encoded positive atMost fits shape⟩

/-- What is read is the value of a known size that stands there. -/
theorem readEbmlSize_eq_some {data : Bytes} {offset value next : Nat} :
    readEbmlSize data offset = .ok (some (value, next)) ↔
      ∃ width rest, Known width value ∧ data.drop offset = encodeSize width value ++ rest ∧
        next = offset + width := by
  constructor
  · intro read
    cases field data offset with
    | past outside =>
      rw [readEbmlSize, if_pos outside] at read
      exact absurd read (by simp)
    | zero byte =>
      rw [readEbmlSize_zero byte] at read
      exact absurd read (by simp)
    | cut first width byte marks short =>
      rw [readEbmlSize_cut byte marks short] at read
      exact absurd read (by simp)
    | whole width found rest positive atMost fits shape =>
      rw [readEbmlSize_encoded positive atMost fits shape] at read
      by_cases unknown : found = 2 ^ (7 * width) - 1
      · rw [if_pos unknown] at read
        exact absurd read (by simp)
      · rw [if_neg unknown] at read
        simp only [Except.ok.injEq, Option.some.injEq, Prod.mk.injEq] at read
        obtain ⟨rfl, rfl⟩ := read
        exact ⟨width, rest, ⟨positive, atMost, by omega⟩, shape, rfl⟩
  · rintro ⟨width, rest, known, shape, rfl⟩
    have below := known.below
    rw [readEbmlSize_encoded known.positive known.atMost (by omega) shape, if_neg (by omega)]

/-- The sizes that are not read. -/
theorem readEbmlSize_eq_none {data : Bytes} {offset : Nat} :
    readEbmlSize data offset = .ok none ↔
      data.length ≤ offset ∨ data[offset]? = some 0 ∨
        (∃ first width, data[offset]? = some first ∧ Marks first width ∧
          data.length < offset + width) ∨
        ∃ width rest, 1 ≤ width ∧ width ≤ 8 ∧
          data.drop offset = encodeSize width (2 ^ (7 * width) - 1) ++ rest := by
  constructor
  · intro read
    cases field data offset with
    | past outside => exact Or.inl outside
    | zero byte => exact Or.inr (Or.inl byte)
    | cut first width byte marks short =>
      exact Or.inr (Or.inr (Or.inl ⟨first, width, byte, marks, short⟩))
    | whole width value rest positive atMost fits shape =>
      have unknown : value = 2 ^ (7 * width) - 1 := by
        by_contra known
        rw [readEbmlSize_encoded positive atMost fits shape, if_neg known] at read
        exact absurd read (by simp)
      exact Or.inr (Or.inr (Or.inr ⟨width, rest, positive, atMost, unknown ▸ shape⟩))
  · rintro (outside | byte | ⟨first, width, byte, marks, short⟩ |
      ⟨width, rest, positive, atMost, shape⟩)
    · rw [readEbmlSize, if_pos outside]
    · exact readEbmlSize_zero byte
    · exact readEbmlSize_cut byte marks short
    · have power : 0 < 2 ^ (7 * width) := Nat.pow_pos (by decide)
      rw [readEbmlSize_encoded positive atMost (by omega) shape, if_pos rfl]

/-- The offset behind a size that is read is greater, and not behind the end. -/
theorem readEbmlSize_next {data : Bytes} {offset value next : Nat}
    (read : readEbmlSize data offset = .ok (some (value, next))) :
    offset < next ∧ next ≤ data.length := by
  obtain ⟨width, rest, known, shape, rfl⟩ := readEbmlSize_eq_some.mp read
  have positive := known.positive
  have length := congrArg List.length shape
  rw [List.length_drop, List.length_append, length_encodeSize] at length
  omega

/-- Reading gives back every size that was written, between any bytes. From any bytes it reads
without an error, refuses exactly the cut, marked by no bit or unknown sizes, and goes on. -/
theorem readEbmlSize_inverts {width value : Nat} (known : Known width value)
    (before after data : Bytes) (offset : Nat) :
    readEbmlSize (before ++ encodeSize width value ++ after) before.length =
        .ok (some (value, before.length + width)) ∧
      ∃ result, readEbmlSize data offset = .ok result ∧
        (result = none ↔ data.length ≤ offset ∨ data[offset]? = some 0 ∨
          (∃ first width, data[offset]? = some first ∧ Marks first width ∧
            data.length < offset + width) ∨
          ∃ width rest, 1 ≤ width ∧ width ≤ 8 ∧
            data.drop offset = encodeSize width (2 ^ (7 * width) - 1) ++ rest) ∧
        ∀ value next, result = some (value, next) → offset < next ∧ next ≤ data.length := by
  have shape : (before ++ encodeSize width value ++ after).drop before.length =
      encodeSize width value ++ after := by
    rw [List.append_assoc, List.drop_left]
  have inverse := readEbmlSize_eq_some.mpr ⟨width, after, known, shape, rfl⟩
  obtain ⟨result, read⟩ := readEbmlSize_ok data offset
  refine ⟨inverse, result, read, ?_, fun value next found => ?_⟩
  · have refused : readEbmlSize data offset = .ok none ↔ _ := readEbmlSize_eq_none
    rw [read, Except.ok.injEq] at refused
    exact refused
  · rw [found] at read
    exact readEbmlSize_next read

/-- A size of two bytes between others, and a field that is cut off. -/
theorem readEbmlSize_inverts_two :
    readEbmlSize [0x42, 0x41, 0x2c, 0x85] 1 = .ok (some (300, 3)) ∧
      readEbmlSize [0x10, 0x00] 0 = .ok none := by
  have known : Known 2 300 := ⟨by decide, by decide, by decide⟩
  have read := (readEbmlSize_inverts known [0x42] [0x85] [] 0).1
  exact ⟨read, by decide⟩

end DifyPlugin.Ebml
