import DifyPlugin.Library.Search
import DifyPlugin.Library.Str
import Mathlib.Order.Basic

/-!
# Stop sequences

`LargeLanguageModel.enforce_stop_tokens` keeps the start of a text up to the earliest stop
sequence. A sequence is meant literally, and the empty one occurs at the start of every text.
-/

namespace DifyPlugin.StopTokens

open Search

/-- `text.find(token)`, which is -1 when the token does not occur. -/
def textFind (text token : Text) : ℤ :=
  match find token text with
  | some position => position
  | none => -1

/-- A round of the loop over the stop sequences. -/
def stopAtToken (text : Text) (stopAt : ℤ) (token : Text) : ℤ :=
  let position := textFind text token
  if 0 ≤ position ∧ position < stopAt then position else stopAt

/-- `LargeLanguageModel.enforce_stop_tokens`. -/
def enforceStopTokens (text : Text) (stop : List Text) : Text :=
  text.take (stop.foldl (stopAtToken text) text.length).toNat

/-- A start of the text that no occurrence of a stop sequence starts within. -/
def EndsBefore (text : Text) (stop : List Text) (start : Text) : Prop :=
  start <+: text ∧
    ∀ token ∈ stop, ∀ position, OccursAt token text position → start.length ≤ position

/-- A bound stays below after a round exactly when it is below all occurrences of the token. -/
theorem le_stopAtToken {text token : Text} {stopAt : ℤ} {bound : Nat} :
    (bound : ℤ) ≤ stopAtToken text stopAt token ↔
      (bound : ℤ) ≤ stopAt ∧ ∀ position, OccursAt token text position → bound ≤ position := by
  cases found : find token text with
  | none =>
    have nowhere : ∀ position, OccursAt token text position → bound ≤ position :=
      fun position occurs => absurd occurs (find_none found position)
    have kept : stopAtToken text stopAt token = stopAt := by
      simp [stopAtToken, textFind, found]
    rw [kept]
    exact ⟨fun below => ⟨below, nowhere⟩, fun below => below.1⟩
  | some first =>
    obtain ⟨occurs, least⟩ := find_first found
    have all : (∀ position, OccursAt token text position → bound ≤ position) ↔ bound ≤ first :=
      ⟨fun below => below first occurs,
        fun below position other => below.trans (least position other)⟩
    rw [all]
    simp only [stopAtToken, textFind, found]
    split <;> omega

/-- What is kept is as long as possible. -/
theorem le_foldl_stopAtToken {text : Text} {stop : List Text} {stopAt : ℤ} {bound : Nat} :
    (bound : ℤ) ≤ stop.foldl (stopAtToken text) stopAt ↔
      (bound : ℤ) ≤ stopAt ∧
        ∀ token ∈ stop, ∀ position, OccursAt token text position → bound ≤ position := by
  induction stop generalizing stopAt with
  | nil => simp
  | cons token rest ih =>
    rw [List.foldl_cons, ih, le_stopAtToken, List.forall_mem_cons, and_assoc]

/-- The starts of the text before all occurrences are the starts of what is kept. -/
theorem prefix_enforceStopTokens {text start : Text} {stop : List Text} :
    start <+: enforceStopTokens text stop ↔ EndsBefore text stop start := by
  have short : stop.foldl (stopAtToken text) text.length ≤ text.length := by
    by_contra long
    have beyond : ((text.length + 1 : Nat) : ℤ) ≤ stop.foldl (stopAtToken text) text.length := by
      omega
    have inside := (le_foldl_stopAtToken.mp beyond).1
    omega
  rw [enforceStopTokens, List.prefix_take_iff, EndsBefore]
  apply and_congr_right
  intro starts
  have within := starts.length_le
  have bound : start.length ≤ (stop.foldl (stopAtToken text) text.length).toNat ↔
      (start.length : ℤ) ≤ stop.foldl (stopAtToken text) text.length := by
    have natural : ((0 : Nat) : ℤ) ≤ stop.foldl (stopAtToken text) text.length :=
      le_foldl_stopAtToken.mpr ⟨by omega, fun _ _ position _ => Nat.zero_le position⟩
    omega
  rw [bound, le_foldl_stopAtToken]
  constructor
  · intro below
    exact below.2
  · intro below
    exact ⟨by omega, below⟩

/-- What is kept starts the text, before all occurrences. -/
theorem endsBefore_enforceStopTokens (text : Text) (stop : List Text) :
    EndsBefore text stop (enforceStopTokens text stop) :=
  prefix_enforceStopTokens.mp List.prefix_rfl

/-- No stop sequence survives: an occurrence in what is kept would start within it. -/
theorem not_infix_enforceStopTokens (text : Text) {stop : List Text} {token : Text}
    (listed : token ∈ stop) (visible : token ≠ []) :
    ¬ token <:+: enforceStopTokens text stop := by
  intro occurs
  obtain ⟨position, inside⟩ := infix_iff_occursAt.mp occurs
  have kept := endsBefore_enforceStopTokens text stop
  have early := kept.2 token listed position (occursAt_of_start kept.1 inside)
  have cut : (enforceStopTokens text stop).drop position = [] := List.drop_eq_nil_of_le early
  rw [OccursAt, cut] at inside
  exact visible (List.prefix_nil.mp inside.2)

/-- More stop sequences keep less. -/
theorem enforceStopTokens_mono (text : Text) {stop others : List Text}
    (more : ∀ token ∈ stop, token ∈ others) :
    enforceStopTokens text others <+: enforceStopTokens text stop := by
  have kept := endsBefore_enforceStopTokens text others
  exact prefix_enforceStopTokens.mpr ⟨kept.1, fun token listed => kept.2 token (more token listed)⟩

/-- Everything is kept exactly when nothing occurs, or there is nothing. -/
theorem enforceStopTokens_eq_self {text : Text} {stop : List Text} :
    enforceStopTokens text stop = text ↔ (∀ token ∈ stop, ¬ token <:+: text) ∨ text = [] := by
  constructor
  · intro whole
    by_cases empty : text = []
    · exact Or.inr empty
    · left
      intro token listed occurs
      have kept := endsBefore_enforceStopTokens text stop
      rw [whole] at kept
      have start : OccursAt token text text.length → False := by
        intro last
        rw [OccursAt, List.drop_length, List.prefix_nil] at last
        have front : OccursAt token text 0 := by
          rw [last.2]
          exact occursAt_zero.mpr List.nil_prefix
        have none := kept.2 token listed 0 front
        exact empty (List.length_eq_zero_iff.mp (by omega))
      obtain ⟨position, inside⟩ := infix_iff_occursAt.mp occurs
      have late := kept.2 token listed position inside
      have last : position = text.length := le_antisymm inside.1 late
      exact start (last ▸ inside)
  · intro unstopped
    have whole : EndsBefore text stop text := by
      refine ⟨List.prefix_rfl, fun token listed position occurs => ?_⟩
      rcases unstopped with absent | rfl
      · exact absurd (infix_iff_occursAt.mpr ⟨position, occurs⟩) (absent token listed)
      · exact Nat.zero_le position
    exact (endsBefore_enforceStopTokens text stop).1.eq_of_length_le
      (prefix_enforceStopTokens.mpr whole).length_le

/-- Cutting a second time changes nothing. -/
theorem enforceStopTokens_idempotent (text : Text) (stop : List Text) :
    enforceStopTokens (enforceStopTokens text stop) stop = enforceStopTokens text stop := by
  have kept := endsBefore_enforceStopTokens text stop
  have again : EndsBefore (enforceStopTokens text stop) stop (enforceStopTokens text stop) :=
    ⟨List.prefix_rfl, fun token listed position occurs =>
      kept.2 token listed position (occursAt_of_start kept.1 occurs)⟩
  exact (endsBefore_enforceStopTokens _ stop).1.eq_of_length_le
    (prefix_enforceStopTokens.mpr again).length_le

/-- The text is cut at the earliest stop sequence: what is kept is the longest start before all
occurrences, holds no stop sequence, depends on which sequences there are only, is not cut again,
gets shorter with more sequences, and is the text exactly when nothing occurs in it. -/
theorem enforceStopTokens_earliest (text : Text) (stop : List Text) :
    (EndsBefore text stop (enforceStopTokens text stop) ∧
        ∀ start, EndsBefore text stop start →
          start.length ≤ (enforceStopTokens text stop).length) ∧
      (∀ token ∈ stop, token ≠ [] → ¬ token <:+: enforceStopTokens text stop) ∧
      (∀ others, (∀ token, token ∈ others ↔ token ∈ stop) →
        enforceStopTokens text others = enforceStopTokens text stop) ∧
      enforceStopTokens (enforceStopTokens text stop) stop = enforceStopTokens text stop ∧
      (∀ others, (∀ token ∈ stop, token ∈ others) →
        enforceStopTokens text others <+: enforceStopTokens text stop) ∧
      (enforceStopTokens text stop = text ↔
        (∀ token ∈ stop, ¬ token <:+: text) ∨ text = []) := by
  refine ⟨⟨endsBefore_enforceStopTokens text stop, ?_⟩, ?_, ?_,
    enforceStopTokens_idempotent text stop, ?_, enforceStopTokens_eq_self⟩
  · intro start before
    exact (prefix_enforceStopTokens.mpr before).length_le
  · intro token listed visible
    exact not_infix_enforceStopTokens text listed visible
  · intro others same
    have less := enforceStopTokens_mono text fun token listed => (same token).mpr listed
    have more := enforceStopTokens_mono text fun token listed => (same token).mp listed
    exact less.eq_of_length_le more.length_le
  · intro others more
    exact enforceStopTokens_mono text more

/-- Overlapping stop sequences: the earliest occurrence decides, not the first in the list. -/
theorem enforceStopTokens_earliest_overlap :
    enforceStopTokens "aabab".toList ["bab".toList, "abab".toList, "aba".toList] = ['a'] ∧
      enforceStopTokens "aabab".toList ["bab".toList, "abab".toList, "aba".toList] ≠
        "aabab".toList := by
  have earliest := enforceStopTokens_earliest "aabab".toList
    ["bab".toList, "abab".toList, "aba".toList]
  have absent := earliest.2.1 "aba".toList (by decide) (by decide)
  refine ⟨by decide, fun whole => ?_⟩
  rw [whole] at absent
  exact absent ⟨['a'], ['b'], by decide⟩

end DifyPlugin.StopTokens
