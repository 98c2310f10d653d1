/-
What trimming leaves.

Characters of a class are dropped at an end of a text as long as there are any.  So
what is left has none of them at this end, what was dropped has no others, and a
text that has none at this end is left alone.  The other end is not touched, nor is
anything between.
-/
import Mathlib.Data.List.TakeWhile
import MfmRender.Text.Blank

namespace MfmRender.Text

/-- No character that `p` holds of stands first. -/
def NotFirst (p : Char → Bool) (cs : List Char) : Prop :=
  ∀ c ∈ cs.head?, p c = false

/-- No character that `p` holds of stands last. -/
def NotLast (p : Char → Bool) (cs : List Char) : Prop :=
  ∀ c ∈ cs.getLast?, p c = false

theorem NotFirst.of_append {p : Char → Bool} {cs more : List Char} (h : NotFirst p (cs ++ more)) :
    NotFirst p cs := by
  intro c hc
  refine h c ?_
  rw [List.head?_append, Option.mem_def.mp hc]
  rfl

theorem NotLast.of_append {p : Char → Bool} {cs more : List Char} (h : NotLast p (more ++ cs)) :
    NotLast p cs := by
  intro c hc
  refine h c ?_
  rw [List.getLast?_append, Option.mem_def.mp hc]
  rfl

theorem dropWhile_eq_self_of_notFirst {p : Char → Bool} {cs : List Char} (h : NotFirst p cs) :
    cs.dropWhile p = cs := by
  cases cs with
  | nil => rfl
  | cons c cs => rw [List.dropWhile_cons, h c rfl, if_neg Bool.false_ne_true]

theorem dropWhileEnd_eq_self_of_notLast {p : Char → Bool} {cs : List Char} (h : NotLast p cs) :
    dropWhileEnd p cs = cs := by
  have hfirst : NotFirst p cs.reverse := by
    intro c hc
    exact h c (by rwa [← List.head?_reverse])
  rw [dropWhileEnd, dropWhile_eq_self_of_notFirst hfirst, List.reverse_reverse]

/-- What is dropped in front are characters that `p` holds of, all there were. -/
theorem exists_dropWhile (p : Char → Bool) (cs : List Char) :
    NotFirst p (cs.dropWhile p) ∧
      ∃ dropped, (∀ c ∈ dropped, p c = true) ∧ cs = dropped ++ cs.dropWhile p := by
  refine ⟨?_, cs.takeWhile p, fun c hc => List.mem_takeWhile_imp hc,
    List.takeWhile_append_dropWhile.symm⟩
  intro c hc
  have hnot := List.head?_dropWhile_not p cs
  rw [Option.mem_def.mp hc] at hnot
  simpa using hnot

/-- What is dropped at the end are characters that `p` holds of, all there were. -/
theorem exists_dropWhileEnd (p : Char → Bool) (cs : List Char) :
    NotLast p (dropWhileEnd p cs) ∧
      ∃ dropped, (∀ c ∈ dropped, p c = true) ∧ cs = dropWhileEnd p cs ++ dropped := by
  obtain ⟨hfirst, dropped, hall, hcs⟩ := exists_dropWhile p cs.reverse
  refine ⟨?_, dropped.reverse, fun c hc => hall c (List.mem_reverse.mp hc), ?_⟩
  · intro c hc
    refine hfirst c ?_
    rwa [dropWhileEnd, List.getLast?_reverse] at hc
  · rw [dropWhileEnd, ← List.reverse_append, ← hcs, List.reverse_reverse]

/-- Trimming drops blanks at both ends, all there were. -/
theorem exists_trim (cs : List Char) :
    NotFirst isBlank (trim cs) ∧ NotLast isBlank (trim cs) ∧
      ∃ before after, (∀ c ∈ before, isBlank c = true) ∧ (∀ c ∈ after, isBlank c = true) ∧
        cs = before ++ trim cs ++ after := by
  obtain ⟨hfirst, before, hbefore, hcs⟩ := exists_dropWhile isBlank cs
  obtain ⟨hlast, after, hafter, hrest⟩ := exists_dropWhileEnd isBlank (cs.dropWhile isBlank)
  refine ⟨?_, hlast, before, after, hbefore, hafter, ?_⟩
  · rw [hrest] at hfirst
    exact hfirst.of_append
  · rw [List.append_assoc, trim, ← hrest, ← hcs]

/-- Only blanks are trimmed to nothing. -/
theorem trim_eq_nil_iff {cs : List Char} : trim cs = [] ↔ ∀ c ∈ cs, isBlank c = true := by
  constructor
  · intro h
    obtain ⟨-, -, before, after, hbefore, hafter, hcs⟩ := exists_trim cs
    rw [h, List.append_nil] at hcs
    rw [hcs, List.forall_mem_append]
    exact ⟨hbefore, hafter⟩
  · intro h
    have hdrop : cs.dropWhile isBlank = [] := List.dropWhile_eq_nil_iff.mpr h
    rw [trim, hdrop]
    rfl

/-- Trimming finds what stands between blanks, if no blank stands at either end of it. -/
theorem trim_of_blanks_around {before core after : List Char}
    (hbefore : ∀ c ∈ before, isBlank c = true) (hafter : ∀ c ∈ after, isBlank c = true)
    (hne : core ≠ []) (hfirst : NotFirst isBlank core) (hlast : NotLast isBlank core) :
    trim (before ++ core ++ after) = core := by
  have hfront : (before ++ core ++ after).dropWhile isBlank = core ++ after := by
    have hstays : NotFirst isBlank (core ++ after) := by
      cases core with
      | nil => exact absurd rfl hne
      | cons c rest => exact hfirst
    rw [List.append_assoc, List.dropWhile_append_of_pos hbefore,
      dropWhile_eq_self_of_notFirst hstays]
  have hback : dropWhileEnd isBlank (core ++ after) = dropWhileEnd isBlank core := by
    have hreversed : ∀ c ∈ after.reverse, isBlank c = true := by
      intro c hc
      exact hafter c (List.mem_reverse.mp hc)
    rw [dropWhileEnd, List.reverse_append, List.dropWhile_append_of_pos hreversed, dropWhileEnd]
  rw [trim, hfront, hback, dropWhileEnd_eq_self_of_notLast hlast]

end MfmRender.Text
