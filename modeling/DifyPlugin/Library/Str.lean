import Mathlib.Data.List.DropRight
import DifyPlugin.Library.Splitting

/-!
# Python strings

A `str` is its sequence of code points. The methods here follow the documented behaviour of
the language: white space is the set of `str.isspace`, and the sides of `partition` keep
nothing of the separator.
-/

namespace DifyPlugin

/-- A Python `str`. -/
abbrev Text := List Char

namespace Str

open Splitting

/-- `str.isspace` on one character. -/
def isSpace (char : Char) : Bool :=
  let code := char.toNat
  (9 ≤ code && code ≤ 13) || (28 ≤ code && code ≤ 32) || code == 0x85 || code == 0xa0 ||
    code == 0x1680 || (0x2000 ≤ code && code ≤ 0x200a) || code == 0x2028 || code == 0x2029 ||
    code == 0x202f || code == 0x205f || code == 0x3000

/-- `str.lstrip()`. -/
def lstrip (text : Text) : Text := text.dropWhile isSpace

/-- `str.rstrip()`. -/
def rstrip (text : Text) : Text := text.rdropWhile isSpace

/-- `str.strip()`. -/
def strip (text : Text) : Text := rstrip (lstrip text)

/-- `str.removeprefix(start)`. -/
def removePrefix (start text : Text) : Text :=
  if start.isPrefixOf text then text.drop start.length else text

/-- `str.partition(separator)`: the sides of the first occurrence, with the separator between
them; without an occurrence the whole text and two empty strings. -/
def partition (separator text : Text) : Text × Text × Text :=
  match cut separator text with
  | some (before, after) => (before, separator, after)
  | none => (text, [], [])

/-- `str.split("\n")`. -/
def lines (text : Text) : List Text := text.splitOn '\n'

/-- `separator.join(parts)`. -/
def join (separator : Text) (parts : List Text) : Text := separator.intercalate parts

/-- Removing a present prefix leaves what follows it. -/
theorem removePrefix_append (start rest : Text) : removePrefix start (start ++ rest) = rest := by
  rw [removePrefix, if_pos (List.isPrefixOf_iff_prefix.mpr (List.prefix_append start rest)),
    List.drop_left]

/-- A text without the prefix is unchanged. -/
theorem removePrefix_absent {start text : Text} (absent : ¬ start <+: text) :
    removePrefix start text = text := by
  rw [removePrefix, if_neg (fun found => absent (List.isPrefixOf_iff_prefix.mp found))]

/-- The lines of a text joined again are the text. -/
theorem join_lines (text : Text) : join ['\n'] (lines text) = text :=
  List.intercalate_splitOn '\n'

/-- A text always has a first line. -/
theorem lines_ne_nil (text : Text) : lines text ≠ [] := List.splitOnP_ne_nil _ _

/-- Lines are counted from the front: a newline starts a new one, anything else extends the
first one. -/
theorem lines_cons (char : Char) (text : Text) :
    lines (char :: text) =
      if char = '\n' then [] :: lines text else (lines text).modifyHead (char :: ·) := by
  simp only [lines, List.splitOn, List.splitOnP_cons_eq_if_modifyHead, beq_iff_eq]

/-- A prefix without a newline extends the first line. -/
theorem lines_behind {start : Text} (single : '\n' ∉ start) (text : Text) :
    lines (start ++ text) = (lines text).modifyHead (start ++ ·) := by
  induction start with
  | nil => cases shape : lines text <;> simp [shape]
  | cons char start ih =>
    simp only [List.mem_cons, not_or] at single
    rw [List.cons_append, lines_cons, if_neg (Ne.symm single.1), ih single.2,
      List.modifyHead_modifyHead]
    rfl

/-- What stands on a line stands in the text. -/
theorem mem_of_mem_lines {text line : Text} (listed : line ∈ lines text) {char : Char}
    (found : char ∈ line) : char ∈ text := by
  induction text generalizing line with
  | nil =>
    obtain rfl : line = [] := by simpa [lines] using listed
    exact found
  | cons head text ih =>
    rw [lines_cons] at listed
    split at listed
    · rcases List.mem_cons.mp listed with rfl | later
      · simp at found
      · exact List.mem_cons_of_mem _ (ih later found)
    · obtain ⟨first, others, shape⟩ := List.exists_cons_of_ne_nil (lines_ne_nil text)
      rw [shape, List.modifyHead_cons] at listed
      rcases List.mem_cons.mp listed with rfl | later
      · rcases List.mem_cons.mp found with rfl | found
        · exact List.mem_cons_self
        · exact List.mem_cons_of_mem _ (ih (shape ▸ List.mem_cons_self) found)
      · exact List.mem_cons_of_mem _ (ih (shape ▸ List.mem_cons_of_mem _ later) found)

/-- The first of several parts is followed by the separator and the other parts. -/
theorem join_cons (separator first second : Text) (rest : List Text) :
    join separator (first :: second :: rest) =
      first ++ separator ++ join separator (second :: rest) := by
  simp [join, List.intercalate, List.intersperse]

/-- Joining adds the separator and nothing else. -/
theorem mem_join {separator : Text} {parts : List Text} {char : Char}
    (found : char ∈ join separator parts) :
    char ∈ separator ∨ ∃ part ∈ parts, char ∈ part := by
  induction parts with
  | nil => simp [join] at found
  | cons first rest ih =>
    cases rest with
    | nil => exact Or.inr ⟨first, List.mem_cons_self, by simpa [join] using found⟩
    | cons second rest =>
      rw [join_cons] at found
      rcases List.mem_append.mp found with early | later
      · rcases List.mem_append.mp early with inFirst | inSeparator
        · exact Or.inr ⟨first, List.mem_cons_self, inFirst⟩
        · exact Or.inl inSeparator
      · rcases ih later with inSeparator | ⟨part, listed, inPart⟩
        · exact Or.inl inSeparator
        · exact Or.inr ⟨part, List.mem_cons_of_mem _ listed, inPart⟩

/-- Stripping on the left removes nothing from a text that starts with a visible character. -/
theorem lstrip_visible {char : Char} {text : Text} (visible : isSpace char = false) :
    lstrip (char :: text) = char :: text := by
  simp [lstrip, visible]

/-- A visible character stays when the left is stripped. -/
theorem mem_lstrip {char : Char} {text : Text} (visible : isSpace char = false)
    (found : char ∈ text) : char ∈ lstrip text := by
  have parts := List.takeWhile_append_dropWhile (p := isSpace) (l := text)
  rw [← parts] at found
  rcases List.mem_append.mp found with blank | kept
  · simp [List.mem_takeWhile_imp blank] at visible
  · exact kept

/-- Only the first part is stripped when it is not blank. -/
theorem lstrip_append {left : Text} (visible : lstrip left ≠ []) (right : Text) :
    lstrip (left ++ right) = lstrip left ++ right := by
  simp only [lstrip] at visible ⊢
  rw [List.dropWhile_append, if_neg (by simpa using visible)]

/-- Blank characters in front do not change the stripped text. -/
theorem lstrip_blank {blank : Text} (spaces : ∀ char ∈ blank, isSpace char = true)
    (text : Text) : lstrip (blank ++ text) = lstrip text := by
  rw [lstrip, List.dropWhile_append_of_pos spaces, lstrip]

/-- A line that starts with a visible character survives stripping the text. -/
theorem mem_lines_lstrip {char : Char} {line text : Text} (visible : isSpace char = false)
    (listed : char :: line ∈ lines text) : char :: line ∈ lines (lstrip text) := by
  induction text with
  | nil => exact listed
  | cons head text ih =>
    by_cases blank : isSpace head = true
    · rw [lstrip, List.dropWhile_cons_of_pos blank]
      apply ih
      rw [lines_cons] at listed
      split at listed
      · simpa using listed
      · obtain ⟨first, others, shape⟩ := List.exists_cons_of_ne_nil (lines_ne_nil text)
        rw [shape, List.modifyHead_cons] at listed
        rcases List.mem_cons.mp listed with same | later
        · obtain ⟨rfl, -⟩ := List.cons.inj same
          simp [blank] at visible
        · exact shape ▸ List.mem_cons_of_mem _ later
    · rw [lstrip, List.dropWhile_cons_of_neg blank]
      exact listed

/-- A text is white space followed by its left-stripped form. -/
theorem lstrip_eq (text : Text) :
    ∃ blank, text = blank ++ lstrip text ∧ ∀ char ∈ blank, isSpace char = true :=
  ⟨text.takeWhile isSpace, (List.takeWhile_append_dropWhile).symm,
    fun _ found => List.mem_takeWhile_imp found⟩

/-- A text is its right-stripped form followed by white space. -/
theorem rstrip_eq (text : Text) :
    ∃ blank, text = rstrip text ++ blank ∧ ∀ char ∈ blank, isSpace char = true := by
  refine ⟨(text.reverse.takeWhile isSpace).reverse, ?_, fun char found => ?_⟩
  · rw [rstrip, List.rdropWhile, ← List.reverse_append, List.takeWhile_append_dropWhile,
      List.reverse_reverse]
  · exact List.mem_takeWhile_imp (List.mem_reverse.mp found)

/-- A text is its stripped form between two runs of white space. -/
theorem strip_eq (text : Text) :
    ∃ left right, text = left ++ strip text ++ right ∧
      (∀ char ∈ left, isSpace char = true) ∧ ∀ char ∈ right, isSpace char = true := by
  obtain ⟨left, splitLeft, blankLeft⟩ := lstrip_eq text
  obtain ⟨right, splitRight, blankRight⟩ := rstrip_eq (lstrip text)
  refine ⟨left, right, ?_, blankLeft, blankRight⟩
  conv_lhs => rw [splitLeft, splitRight]
  simp [strip]

/-- A stripped text starts with a visible character. -/
theorem strip_head {text rest : Text} {char : Char} (shape : strip text = char :: rest) :
    isSpace char = false := by
  cases inner : lstrip text with
  | nil => simp [strip, inner, rstrip, List.rdropWhile] at shape
  | cons first tail =>
    obtain ⟨blank, whole, -⟩ := rstrip_eq (lstrip text)
    have same : first = char := by
      have heads := congrArg List.head? whole
      rw [show rstrip (lstrip text) = char :: rest from shape, inner] at heads
      simpa using heads
    rw [← same]
    by_contra blankHead
    have := List.head?_dropWhile_not isSpace text
    simp only [lstrip] at inner
    simp only [inner, List.head?_cons] at this
    exact blankHead (by simpa using this)

/-- A stripped text ends with a visible character. -/
theorem strip_last {text front : Text} {char : Char} (shape : strip text = front ++ [char]) :
    isSpace char = false := by
  have reversed : (lstrip text).reverse.dropWhile isSpace = char :: front.reverse := by
    have := congrArg List.reverse shape
    simpa [strip, rstrip, List.rdropWhile] using this
  have head := List.head?_dropWhile_not isSpace (lstrip text).reverse
  simpa [reversed] using head

/-- Stripping a stripped text changes nothing. -/
theorem lstrip_strip (text : Text) : lstrip (strip text) = strip text := by
  cases shape : strip text with
  | nil => rfl
  | cons char rest => exact lstrip_visible (strip_head shape)

end Str

end DifyPlugin
