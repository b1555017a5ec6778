import CommandLink.Proofs.Frame.Stream

/-!
# Bodies of a stream

The bodies at the front of a stream are those of the frames that are in it as a whole: a frame is
taken from the front (`bodies_wire_append`), and part of a frame is left as it is (`bodies_part`).
-/

namespace CommandLink.Frame

variable {limit : ℕ} {frame : Frame} {w : Bytes}

theorem bodies_nil : bodies [] = ([], []) := by
  rw [bodies, dif_neg (by simp)]

/-- A frame at the front of a stream. -/
theorem bodies_wire_append (hw : frame.wire limit = .ok w) (rest : Bytes) :
    bodies (w ++ rest) = (frame.body :: (bodies rest).1, (bodies rest).2) := by
  obtain ⟨-, hb, rfl⟩ := wire_eq_ok_iff.mp hw
  have hlength := Bytes.length_bigEndian 4 frame.body.length
  have htake : (Bytes.bigEndian 4 frame.body.length ++ frame.body ++ rest).take 4 =
      Bytes.bigEndian 4 frame.body.length := by
    rw [List.append_assoc, List.take_left' hlength]
  have hdrop : (Bytes.bigEndian 4 frame.body.length ++ frame.body ++ rest).drop 4 =
      frame.body ++ rest := by
    rw [List.append_assoc, List.drop_left' hlength]
  have hvalue : Bytes.toNat (Bytes.bigEndian 4 frame.body.length) = frame.body.length :=
    Bytes.toNat_bigEndian hb
  rw [bodies]
  simp only [htake, hdrop, hvalue, List.take_left', List.drop_left']
  rw [dif_pos ⟨hlength, trivial⟩]

/-- Less than a frame completes no body. -/
theorem bodies_part {part more : Bytes} (hw : frame.wire limit = .ok (part ++ more))
    (hmore : more ≠ []) : bodies part = ([], part) := by
  obtain ⟨-, hb, heq⟩ := wire_eq_ok_iff.mp hw
  have hvalue : Bytes.toNat (Bytes.bigEndian 4 frame.body.length) = frame.body.length :=
    Bytes.toNat_bigEndian hb
  have hlength : part.length + more.length = 4 + frame.body.length := by
    rw [← List.length_append, heq, List.length_append, Bytes.length_bigEndian]
  have hpos := List.length_pos_iff.mpr hmore
  rw [bodies, dif_neg]
  rintro ⟨hheader, hbody⟩
  have hfour : 4 ≤ part.length := by
    rw [List.length_take] at hheader
    omega
  have htake : part.take 4 = Bytes.bigEndian 4 frame.body.length := by
    rw [← List.take_append_of_le_length hfour, heq, List.take_left' (Bytes.length_bigEndian ..)]
  rw [htake, hvalue, List.length_take, List.length_drop] at hbody
  omega

end CommandLink.Frame
