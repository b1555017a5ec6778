import CommandLink.Credentials.Url
import CommandLink.Proofs.Text.Blank

/-!
# The one form of an address

Bringing an address into its one form changes nothing the second time (`normalizeUrl_normalizeUrl`):
the form begins with no white space and ends in a slash, so nothing is taken from it and nothing is
added. Two addresses have the same form if they differ in no more than the white space around them
and a slash at the end of one that the other lacks (`normalizeUrl_eq_iff`).
-/

namespace CommandLink

/-- Characters with a slash at their end, which is added if there is none. -/
def slashed (cs : List Char) : List Char :=
  if cs.getLast? = some '/' then cs else cs ++ ['/']

theorem slashed_of_getLast? {cs : List Char} (h : cs.getLast? = some '/') : slashed cs = cs :=
  if_pos h

theorem slashed_of_not_getLast? {cs : List Char} (h : cs.getLast? ≠ some '/') :
    slashed cs = cs ++ ['/'] :=
  if_neg h

theorem getLast?_slashed (cs : List Char) : (slashed cs).getLast? = some '/' := by
  by_cases h : cs.getLast? = some '/'
  · rw [slashed_of_getLast? h, h]
  · rw [slashed_of_not_getLast? h, List.getLast?_concat]

theorem toList_normalizeUrl (url : String) :
    (normalizeUrl url).toList = slashed (Text.trimChars url.toList) := by
  simp only [normalizeUrl, slashed]
  split_ifs
  · rw [String.toList_ofList]
  · rw [String.toList_ofList]

/-- The one form of an address ends in a slash. -/
theorem getLast?_normalizeUrl (url : String) : (normalizeUrl url).toList.getLast? = some '/' := by
  rw [toList_normalizeUrl, getLast?_slashed]

/-- The one form of an address has no white space at its ends. -/
theorem trimChars_normalizeUrl (url : String) :
    Text.trimChars (normalizeUrl url).toList = (normalizeUrl url).toList := by
  have hslash : Text.isBlank '/' = false := by decide
  refine Text.trimChars_eq_self (fun c hc => ?_) fun c hc => ?_
  · rw [toList_normalizeUrl, slashed] at hc
    split_ifs at hc
    · exact Text.isBlank_head?_trimChars hc
    · rw [List.head?_append, Option.or_eq_some_iff] at hc
      rcases hc with hc | ⟨-, hc⟩
      · exact Text.isBlank_head?_trimChars hc
      · rw [← Option.some.inj hc]
        exact hslash
  · rw [getLast?_normalizeUrl] at hc
    rw [← Option.some.inj hc]
    exact hslash

/-- **The one form of an address is its own one form.** -/
theorem normalizeUrl_normalizeUrl (url : String) :
    normalizeUrl (normalizeUrl url) = normalizeUrl url := by
  refine String.toList_injective ?_
  rw [toList_normalizeUrl (normalizeUrl url), trimChars_normalizeUrl,
    slashed_of_getLast? (getLast?_normalizeUrl url)]

/-! ## Addresses of one form -/

/-- Two texts are the same, or one of them ends in a slash that is all the other one lacks. A text
that ends in a slash itself lacks none, so it is not alike to the same text with one more. -/
inductive SlashAlike : List Char → List Char → Prop
  | same (t : List Char) : SlashAlike t t
  | added {t : List Char} (h : t.getLast? ≠ some '/') : SlashAlike t (t ++ ['/'])
  | dropped {t : List Char} (h : t.getLast? ≠ some '/') : SlashAlike (t ++ ['/']) t

theorem SlashAlike.slashed_eq {t w : List Char} (h : SlashAlike t w) : slashed t = slashed w := by
  cases h with
  | same => rfl
  | added h => rw [slashed_of_not_getLast? h, slashed_of_getLast? List.getLast?_concat]
  | dropped h => rw [slashed_of_not_getLast? h, slashed_of_getLast? List.getLast?_concat]

theorem slashed_eq_iff {t w : List Char} : slashed t = slashed w ↔ SlashAlike t w := by
  refine ⟨fun h => ?_, SlashAlike.slashed_eq⟩
  by_cases ht : t.getLast? = some '/' <;> by_cases hw : w.getLast? = some '/'
  · rw [slashed_of_getLast? ht, slashed_of_getLast? hw] at h
    exact h ▸ .same t
  · rw [slashed_of_getLast? ht, slashed_of_not_getLast? hw] at h
    exact h ▸ .dropped hw
  · rw [slashed_of_not_getLast? ht, slashed_of_getLast? hw] at h
    exact h ▸ .added ht
  · rw [slashed_of_not_getLast? ht, slashed_of_not_getLast? hw, List.append_left_inj] at h
    exact h ▸ .same t

instance (t w : List Char) : Decidable (SlashAlike t w) :=
  decidable_of_iff (slashed t = slashed w) slashed_eq_iff

/-- Two addresses are the same but for how they are written: they are alike without the white space
around them. -/
def SameAddress (u v : String) : Prop :=
  SlashAlike (Text.trimChars u.toList) (Text.trimChars v.toList)

instance (u v : String) : Decidable (SameAddress u v) :=
  inferInstanceAs (Decidable (SlashAlike _ _))

/-- **Two addresses have one form** just when they are the same but for how they are written. -/
theorem normalizeUrl_eq_iff {u v : String} : normalizeUrl u = normalizeUrl v ↔ SameAddress u v := by
  rw [SameAddress, ← slashed_eq_iff, ← toList_normalizeUrl, ← toList_normalizeUrl,
    String.toList_inj]

example : SameAddress " a/ " "a" ∧ ¬ SameAddress "a//" "a/" := by decide

end CommandLink
