import CommandLink.Proofs.Text.Utf8
import CommandLink.Text.Repaired

/-!
# What repairing leaves alone

Bytes that encode a text are read as that text (`repaired_encode`). In a text that has been read
from other bytes a character has been replaced: a text without the replacement character has the
bytes that it has been read from (`ofString_repaired`).
-/

namespace CommandLink.Text

theorem mem_repairOnto {read : List Char} {c : Char} (h : c ∈ read) (bytes : Bytes) :
    c ∈ repairOnto read bytes := by
  fun_induction repairOnto read bytes with
  | case1 read => exact List.mem_reverse.mpr h
  | case2 read b bytes c' rest htake _ ih => exact ih (List.mem_cons_of_mem _ h)
  | case3 read b bytes htake count low high _ ih => exact ih (List.mem_cons_of_mem _ h)

theorem repairOnto_encode (read cs : List Char) :
    repairOnto read (Utf8.encode cs) = read.reverse ++ cs := by
  induction cs generalizing read with
  | nil => simp [repairOnto]
  | cons c cs ih =>
    rw [Utf8.encode_cons]
    have ht := Utf8.take?_append c (Utf8.encode cs)
    obtain ⟨b, bytes, hb⟩ := List.exists_cons_of_length_pos (Utf8.utf8EncodeChar_length_pos c)
    rw [hb, List.cons_append] at ht ⊢
    unfold repairOnto
    split
    · rename_i c' rest h
      rw [ht] at h
      cases h
      rw [ih]
      simp
    · rename_i h
      rw [ht] at h
      cases h

/-- The bytes of characters are read as those characters. -/
theorem repaired_encode (cs : List Char) : repaired (Utf8.encode cs) = String.ofList cs := by
  rw [repaired, repairOnto_encode, List.reverse_nil, List.nil_append]

/-- Without a replacement every character has been read from its own bytes. -/
theorem encode_of_repairOnto {read cs : List Char} {bytes : Bytes}
    (h : repairOnto read bytes = cs) (hnone : replacement ∉ cs) :
    Utf8.encode read.reverse ++ bytes = Utf8.encode cs := by
  fun_induction repairOnto read bytes with
  | case1 read => rw [← h, List.append_nil]
  | case2 read b bytes c rest htake _ ih =>
    rw [← ih h, Utf8.eq_of_take? htake]
    simp
  | case3 read b bytes htake count low high _ ih =>
    exact absurd (h ▸ mem_repairOnto List.mem_cons_self _) hnone

/-- **A text in which nothing has been replaced** has the bytes that it has been read from. -/
theorem ofString_repaired {bytes : Bytes} (h : replacement ∉ (repaired bytes).toList) :
    Utf8.ofString (repaired bytes) = bytes := by
  rw [repaired, String.toList_ofList] at h
  rw [repaired, Utf8.ofString, String.toList_ofList, ← encode_of_repairOnto rfl h,
    List.reverse_nil, Utf8.encode_nil, List.nil_append]

end CommandLink.Text
