import CommandLink.Text.Blank
import Mathlib.Data.List.TakeWhile
import Mathlib.Tactic.Common

/-!
# Trimmed texts

Trimming takes nothing from characters that begin and end with none that is blank
(`trimChars_eq_self`), and of others it takes the blank ones at their beginning
(`trimChars_append_of_blank`) and at their end (`trimChars_append_blank`). So what is left is the
only part between blank characters that neither begins nor ends with one (`trims_iff`).
-/

namespace CommandLink.Text

variable {p : Char → Bool} {cs : List Char}

theorem head?_dropWhile_eq_false {c : Char} (h : (cs.dropWhile p).head? = some c) :
    p c = false := by
  have hnot := List.head?_dropWhile_not p cs
  rw [h] at hnot
  simpa using hnot

/-- Nothing is trimmed from characters that begin and end with none that is blank. -/
theorem trimChars_eq_self (hfirst : ∀ c, cs.head? = some c → isBlank c = false)
    (hlast : ∀ c, cs.getLast? = some c → isBlank c = false) : trimChars cs = cs := by
  have hdrop : ∀ ds : List Char, (∀ c, ds.head? = some c → isBlank c = false) →
      ds.dropWhile isBlank = ds := by
    intro ds hd
    rcases ds with _ | ⟨d, ds⟩
    · rfl
    · rw [List.dropWhile_cons, hd d rfl]
      rfl
  rw [trimChars, hdrop cs hfirst, hdrop cs.reverse (by rwa [List.head?_reverse]),
    List.reverse_reverse]

/-- Blank characters at the beginning are trimmed away. -/
theorem trimChars_append_of_blank {blanks : List Char} (h : ∀ c ∈ blanks, isBlank c = true)
    (cs : List Char) : trimChars (blanks ++ cs) = trimChars cs := by
  rw [trimChars, List.dropWhile_append_of_pos h, trimChars]

/-- Blank characters at the end are trimmed away. -/
theorem trimChars_append_blank {blanks : List Char} (h : ∀ c ∈ blanks, isBlank c = true)
    (cs : List Char) : trimChars (cs ++ blanks) = trimChars cs := by
  rcases hcs : cs.dropWhile isBlank with _ | ⟨d, ds⟩
  -- where all is blank, nothing is left before the end is looked at
  · have hall : (cs ++ blanks).dropWhile isBlank = [] := by
      rw [List.dropWhile_append, hcs, List.isEmpty_nil, if_pos rfl, List.dropWhile_eq_nil_iff]
      exact h
    rw [trimChars, trimChars, hall, hcs]
  · have hrest : (cs ++ blanks).dropWhile isBlank = d :: ds ++ blanks := by
      rw [List.dropWhile_append, hcs, List.isEmpty_cons, if_neg Bool.false_ne_true]
    have hback : ∀ c ∈ blanks.reverse, isBlank c = true := fun c hc => h c (List.mem_reverse.mp hc)
    rw [trimChars, trimChars, hrest, hcs, List.reverse_append, List.dropWhile_append_of_pos hback]

/-- Trimmed characters begin with none that is blank. -/
theorem isBlank_head?_trimChars {c : Char} (h : (trimChars cs).head? = some c) :
    isBlank c = false := by
  have hsuffix : (cs.dropWhile isBlank).reverse.dropWhile isBlank <:+
      (cs.dropWhile isBlank).reverse := List.dropWhile_suffix _
  have hprefix : trimChars cs <+: cs.dropWhile isBlank :=
    List.reverse_suffix.mp (by rwa [trimChars, List.reverse_reverse])
  obtain ⟨rest, hrest⟩ := hprefix
  have hhead : (cs.dropWhile isBlank).head? = some c := by
    rw [← hrest, List.head?_append, h]
    rfl
  exact head?_dropWhile_eq_false hhead

/-- Trimmed characters end with none that is blank. -/
theorem isBlank_getLast?_trimChars {c : Char} (h : (trimChars cs).getLast? = some c) :
    isBlank c = false := by
  rw [trimChars, List.getLast?_reverse] at h
  exact head?_dropWhile_eq_false h

/-- `ts` is the part of `cs` between the blank characters at its ends. -/
structure Trims (cs ts : List Char) : Prop where
  between : ∃ before after, cs = before ++ ts ++ after ∧
    (∀ c ∈ before, isBlank c = true) ∧ ∀ c ∈ after, isBlank c = true
  first : ∀ c, ts.head? = some c → isBlank c = false
  last : ∀ c, ts.getLast? = some c → isBlank c = false

theorem trims_trimChars (cs : List Char) : Trims cs (trimChars cs) where
  between := by
    refine ⟨cs.takeWhile isBlank, ((cs.dropWhile isBlank).reverse.takeWhile isBlank).reverse, ?_,
      fun c hc => List.mem_takeWhile_imp hc,
      fun c hc => List.mem_takeWhile_imp (List.mem_reverse.mp hc)⟩
    rw [List.append_assoc, trimChars, ← List.reverse_append, List.takeWhile_append_dropWhile,
      List.reverse_reverse, List.takeWhile_append_dropWhile]
  first _ := isBlank_head?_trimChars
  last _ := isBlank_getLast?_trimChars

/-- **There is one part between the blank characters, and trimming finds it.** -/
theorem trims_iff {ts : List Char} : Trims cs ts ↔ ts = trimChars cs := by
  constructor
  · intro h
    obtain ⟨before, after, rfl, hbefore, hafter⟩ := h.between
    rw [trimChars_append_blank hafter, trimChars_append_of_blank hbefore,
      trimChars_eq_self h.first h.last]
  · rintro rfl
    exact trims_trimChars cs

end CommandLink.Text
