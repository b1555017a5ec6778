import CommandLink.Proofs.Text.Utf8
import CommandLink.Token.Codec

/-!
# Exactness of signed tokens

A token is accepted with some fields exactly if it is the token of these fields
(`decode_eq_ok_iff`, `encode_eq_ok_iff`): there is one spelling for every list of fields, and one
list of fields for every spelling. The bytes that are hashed for a signature tell the fields apart
under one key (`hashed_injective`) and the keys apart for one list of fields
(`key_eq_of_hashed_eq`), although the fields are not escaped and the key may hold anything. So a
signature that is accepted for other fields than it was made for, or under another key, shows two
different strings of bytes with the same digest (`Collision`).
-/

namespace CommandLink

/-- Two different strings of bytes with the same digest. -/
def Digest.Sha256.Collision (a b : Bytes) : Prop :=
  a ≠ b ∧ Digest.Sha256.digest a = Digest.Sha256.digest b

namespace TokenCodec

open Digest.Sha256 (Collision)

/-- Fields that a token can hold: none of them holds a colon. -/
def Plain (fields : List String) : Prop := ∀ field ∈ fields, ':' ∉ field.toList

/-- The characters of fields. -/
def chars (fields : List String) : List (List Char) := fields.map String.toList

variable (codec : TokenCodec)

theorem map_ofList_chars (fields : List String) : (chars fields).map String.ofList = fields := by
  simp [chars, Function.comp_def]

theorem chars_injective : Function.Injective chars := fun fields others h => by
  rw [← map_ofList_chars fields, h, map_ofList_chars]

theorem chars_map_ofList (parts : List (List Char)) : chars (parts.map String.ofList) = parts := by
  simp [chars, Function.comp_def]

theorem plain_iff {fields : List String} : Plain fields ↔ ∀ part ∈ chars fields, ':' ∉ part := by
  simp [Plain, chars]

/-! ## Joining and splitting -/

theorem splitOn_join {parts : List (List Char)} (hp : ∀ part ∈ parts, ':' ∉ part)
    {signature : List Char} (hs : ':' ∉ signature) :
    Text.splitOn ':' (join parts signature) = parts ++ [signature] := by
  induction parts with
  | nil => simpa [join] using Text.splitOn_of_not_mem hs
  | cons part parts ih =>
    have hj : join (part :: parts) signature = part ++ ':' :: join parts signature := by
      simp [join]
    rw [hj, Text.splitOn_append (hp part List.mem_cons_self),
      ih fun p hmem => hp p (List.mem_cons_of_mem _ hmem), List.cons_append]

theorem join_splitOn (cs : List Char) :
    join (Text.splitOn ':' cs).dropLast ((Text.splitOn ':' cs).getLastD []) = cs := by
  have h (parts : List (List Char)) (hne : parts ≠ []) :
      join parts.dropLast (parts.getLastD []) = [':'].intercalate parts := by
    induction parts with
    | nil => exact absurd rfl hne
    | cons part parts ih =>
      cases parts with
      | nil => simp [join]
      | cons next parts =>
        have := ih (by simp)
        simp only [join] at this ⊢
        simp only [List.dropLast_cons_cons, List.flatMap_cons, List.getLastD_cons] at this ⊢
        rw [List.append_assoc, this]
        simp [List.intercalate, List.intersperse]
  rw [h _ (Text.splitOn_ne_nil ':' cs), Text.intercalate_splitOn]

theorem join_inj {parts others : List (List Char)} (hp : ∀ part ∈ parts, ':' ∉ part)
    (ho : ∀ part ∈ others, ':' ∉ part) {signature other : List Char} (hs : ':' ∉ signature)
    (hs' : ':' ∉ other) (h : join parts signature = join others other) :
    parts = others ∧ signature = other := by
  have := congrArg (Text.splitOn ':') h
  rw [splitOn_join hp hs, splitOn_join ho hs'] at this
  simpa using this

theorem colon_not_mem_sign (parts : List (List Char)) : ':' ∉ codec.sign parts := fun h => by
  have := Bytes.isSome_hexValue?_of_mem h
  revert this
  decide

/-! ## Reading and writing -/

theorem agree_encode_iff (a b : List Char) :
    Bytes.agree (Text.Utf8.encode a) (Text.Utf8.encode b) = true ↔ a = b :=
  (Bytes.agree_iff _ _).trans Text.Utf8.encode_injective.eq_iff

/-- What is accepted: the fields, in their number, under their signature. -/
theorem decode_eq_ok_iff {token : String} {count : ℕ} {fields : List String} :
    codec.decode token count = .ok fields ↔
      fields.length = count ∧ Plain fields ∧
        token.toList = join (chars fields) (codec.sign (chars fields)) := by
  constructor
  · intro h
    simp only [decode] at h
    split at h
    · cases h
    rename_i hn
    split at h
    · rename_i hs
      cases h
      rw [agree_encode_iff] at hs
      have hl : (Text.splitOn ':' token.toList).dropLast.length =
          (Text.splitOn ':' token.toList).length - 1 := List.length_dropLast
      refine ⟨by rw [List.length_map]; omega, ?_, ?_⟩
      · rw [plain_iff, chars_map_ofList]
        exact fun part hp => Text.not_mem_of_mem_splitOn ((List.dropLast_sublist _).subset hp)
      · rw [chars_map_ofList, hs, join_splitOn]
    · cases h
  · rintro ⟨hn, hp, ht⟩
    have hsplit := splitOn_join (plain_iff.1 hp) (codec.colon_not_mem_sign (chars fields))
    have hl : (chars fields).length = fields.length := List.length_map _
    simp only [decode, ht, hsplit, List.length_append, List.length_singleton, hl, hn, ne_eq,
      not_true_eq_false, if_false, List.dropLast_concat, List.getLastD_concat, agree_encode_iff,
      if_true, map_ofList_chars]

/-- What is written: some fields, all of them without a colon, under their signature. -/
theorem encode_eq_ok_iff {fields : List String} {token : String} :
    codec.encode fields = .ok token ↔
      fields ≠ [] ∧ Plain fields ∧
        token.toList = join (chars fields) (codec.sign (chars fields)) := by
  unfold encode
  split
  · rename_i h
    simp [List.isEmpty_iff.1 h]
  · rename_i hne
    rw [List.isEmpty_iff] at hne
    split
    · rename_i field h
      have hf := List.find?_some h
      have hm := List.mem_of_find?_eq_some h
      simp only [reduceCtorEq, false_iff]
      intro h
      exact h.2.1 field hm (by simpa using hf)
    · rename_i h
      have hp : Plain fields := by simpa [Plain] using List.find?_eq_none.1 h
      simp only [Except.ok.injEq, ne_eq, hne, not_false_eq_true, hp, true_and, chars]
      rw [← String.toList_inj, String.toList_ofList, eq_comm]

/-- A token whose parts are some fields and another signature than theirs is refused for its
signature. -/
theorem decode_join_of_ne {fields : List String} (hp : Plain fields) {signature : List Char}
    (hs : ':' ∉ signature) (hne : signature ≠ codec.sign (chars fields)) :
    codec.decode (String.ofList (join (chars fields) signature)) fields.length =
      .error .invalidSignature := by
  have hsplit := splitOn_join (plain_iff.1 hp) hs
  have hl : (chars fields).length = fields.length := List.length_map _
  have ha : Bytes.agree (Text.Utf8.encode (codec.sign (chars fields)))
      (Text.Utf8.encode signature) ≠ true := fun h => hne ((agree_encode_iff _ _).1 h).symm
  simp only [decode, String.toList_ofList, hsplit, List.length_append, List.length_singleton, hl,
    ne_eq, not_true_eq_false, if_false, List.dropLast_concat, List.getLastD_concat, ha]
  simp

/-- A token is refused for its form when another number of fields is asked for. -/
theorem decode_of_length_ne {fields : List String} {token : String}
    (h : codec.encode fields = .ok token) {count : ℕ} (hne : count ≠ fields.length) :
    codec.decode token count = .error (.malformed (.fieldCount (count + 1) (fields.length + 1))) := by
  obtain ⟨-, hp, ht⟩ := codec.encode_eq_ok_iff.1 h
  have hsplit := splitOn_join (plain_iff.1 hp) (codec.colon_not_mem_sign (chars fields))
  have hl : (chars fields).length = fields.length := List.length_map _
  have hne' : ¬ fields.length + 1 = count + 1 := by omega
  simp only [decode, ht, hsplit, List.length_append, List.length_singleton, hl, ne_eq, hne',
    not_false_eq_true, if_true]

/-! ## What is hashed -/

/-- Under one key the hashed bytes tell the fields. The placeholder and the key stand behind the
fields, so they are the same at the end of both, whatever they hold. -/
theorem hashed_injective {parts others : List (List Char)} (hp : ∀ part ∈ parts, ':' ∉ part)
    (ho : ∀ part ∈ others, ':' ∉ part) (h : codec.hashed parts = codec.hashed others) :
    parts = others := by
  have h' : codec.preimage parts = codec.preimage others := Text.Utf8.encode_injective h
  simp only [preimage, List.append_assoc] at h'
  have hj : join parts [] = join others [] := by
    simpa [join] using List.append_cancel_right h'
  exact (join_inj hp ho (by simp) (by simp) hj).1

/-- For one list of fields the hashed bytes tell the key. -/
theorem key_eq_of_hashed_eq {codec other : TokenCodec} {parts : List (List Char)}
    (h : codec.hashed parts = other.hashed parts) : codec = other := by
  have h' : codec.preimage parts = other.preimage parts := Text.Utf8.encode_injective h
  simp only [preimage, List.append_assoc] at h'
  have hk : codec.key.secret = other.key.secret :=
    String.toList_inj.1 (List.append_cancel_left (List.append_cancel_left h'))
  obtain ⟨⟨secret⟩⟩ := codec
  obtain ⟨⟨secret'⟩⟩ := other
  cases hk
  rfl

/-- The signature tells the digest. -/
theorem digest_eq_of_sign_eq {codec other : TokenCodec} {parts others : List (List Char)}
    (h : codec.sign parts = other.sign others) :
    Digest.Sha256.digest (codec.hashed parts) = Digest.Sha256.digest (other.hashed others) := by
  have := congrArg Bytes.ofHexChars? h
  simpa only [sign, Bytes.ofHexChars?_toHexChars, Option.some.injEq] using this

/-! ## The codec as a whole -/

/-- **A token is an exact and tamper-evident encoding of its fields.** The last three parts are
about what is hashed: the fields and the key can be told from it, so that a signature taken from
other fields or made with another key is accepted only where two strings of bytes that differ have
one digest. -/
theorem exact_tamperEvident (codec : TokenCodec) :
    -- for one field or more, reading and writing are inverse to each other
    (∀ count ≥ 1, ∀ (token : String) (fields : List String), fields.length = count →
      (codec.decode token count = .ok fields ↔ codec.encode fields = .ok token)) ∧
    -- what can be written
    (∀ fields, (∃ token, codec.encode fields = .ok token) ↔ fields ≠ [] ∧ Plain fields) ∧
    -- a token is read with the number of its fields, and with no other
    (∀ fields token, codec.encode fields = .ok token →
      codec.decode token fields.length = .ok fields ∧
      ∀ count ≠ fields.length, codec.decode token count =
        .error (.malformed (.fieldCount (count + 1) (fields.length + 1)))) ∧
    -- no accepted token has a second spelling
    (∀ count token fields, codec.decode token count = .ok fields →
      (∀ other, codec.decode other count = .ok fields → other = token) ∧
      ∀ signature, ':' ∉ signature → signature ≠ codec.sign (chars fields) →
        codec.decode (String.ofList (join (chars fields) signature)) count =
          .error .invalidSignature) ∧
    -- fields and keys can be told from what is hashed
    (∀ fields others, Plain fields → Plain others → fields ≠ others →
      codec.hashed (chars fields) ≠ codec.hashed (chars others)) ∧
    (∀ other : TokenCodec, other.key.secret ≠ codec.key.secret →
      ∀ fields, codec.hashed (chars fields) ≠ other.hashed (chars fields)) ∧
    -- fields accepted under the signature of others, or under the signature of another key
    (∀ count token fields signed, codec.decode token count = .ok fields → Plain signed →
      signed ≠ fields → token.toList = join (chars fields) (codec.sign (chars signed)) →
      Collision (codec.hashed (chars fields)) (codec.hashed (chars signed))) ∧
    (∀ other : TokenCodec, other.key.secret ≠ codec.key.secret →
      ∀ count token fields signed, other.encode signed = .ok token →
        codec.decode token count = .ok fields →
        fields = signed ∧ Collision (codec.hashed (chars fields)) (other.hashed (chars signed))) := by
  have told {fields others : List String} (hp : Plain fields) (ho : Plain others)
      (hne : fields ≠ others) : codec.hashed (chars fields) ≠ codec.hashed (chars others) :=
    fun h => hne (chars_injective (codec.hashed_injective (plain_iff.1 hp) (plain_iff.1 ho) h))
  have keyTold {other : TokenCodec} (hk : other.key.secret ≠ codec.key.secret)
      (parts : List (List Char)) : codec.hashed parts ≠ other.hashed parts :=
    fun h => hk (by rw [key_eq_of_hashed_eq h])
  refine ⟨?_, ?_, ?_, ?_, fun _ _ => told, fun _ hk fields => keyTold hk _, ?_, ?_⟩
  · intro count hc token fields hn
    rw [decode_eq_ok_iff, encode_eq_ok_iff]
    have hne : fields ≠ [] := by
      rintro rfl
      simp only [List.length_nil] at hn
      omega
    simp [hn, hne]
  · intro fields
    constructor
    · rintro ⟨token, h⟩
      obtain ⟨hne, hp, -⟩ := codec.encode_eq_ok_iff.1 h
      exact ⟨hne, hp⟩
    · rintro ⟨hne, hp⟩
      exact ⟨String.ofList (join (chars fields) (codec.sign (chars fields))),
        codec.encode_eq_ok_iff.2 ⟨hne, hp, String.toList_ofList⟩⟩
  · intro fields token h
    obtain ⟨-, hp, ht⟩ := codec.encode_eq_ok_iff.1 h
    exact ⟨codec.decode_eq_ok_iff.2 ⟨rfl, hp, ht⟩, fun count hne => codec.decode_of_length_ne h hne⟩
  · intro count token fields h
    obtain ⟨hn, hp, ht⟩ := codec.decode_eq_ok_iff.1 h
    refine ⟨fun other ho => ?_, fun signature hs hne => ?_⟩
    · obtain ⟨-, -, ht'⟩ := codec.decode_eq_ok_iff.1 ho
      exact String.toList_inj.1 (ht'.trans ht.symm)
    · rw [← hn]
      exact codec.decode_join_of_ne hp hs hne
  · intro count token fields signed h hs hne ht
    obtain ⟨-, hp, ht'⟩ := codec.decode_eq_ok_iff.1 h
    have hsign := (join_inj (plain_iff.1 hp) (plain_iff.1 hp) (codec.colon_not_mem_sign _)
      (codec.colon_not_mem_sign _) (ht'.symm.trans ht)).2
    exact ⟨told hp hs hne.symm, digest_eq_of_sign_eq hsign⟩
  · intro other hk count token fields signed ho h
    obtain ⟨-, hp, ht⟩ := codec.decode_eq_ok_iff.1 h
    obtain ⟨-, hs, ht'⟩ := other.encode_eq_ok_iff.1 ho
    obtain ⟨hparts, hsign⟩ := join_inj (plain_iff.1 hp) (plain_iff.1 hs)
      (codec.colon_not_mem_sign _) (other.colon_not_mem_sign _) (ht.symm.trans ht')
    obtain rfl := chars_injective hparts
    exact ⟨rfl, keyTold hk _, digest_eq_of_sign_eq hsign⟩

end TokenCodec

end CommandLink
