import RunPlan.Url.Percent
import RunPlan.Proofs.Text.Bytes
import Mathlib.Data.List.Infix

/-!
Percent encoding. Main statements: decoding an encoded text gives what decoding the text itself
gives, which are the bytes of the text unless a `%` stands before two hexadecimal digits; then they
are fewer.
-/

set_option autoImplicit false

namespace RunPlan.Url

open RunPlan.Text

variable {c a b : Char} {s r : List Char}

private theorem hexValue?_upperHexDigit {n : Nat} (h : n < 16) :
    hexValue? (upperHexDigit n) = some n := by
  have hall : ∀ n < 16, hexValue? (upperHexDigit n) = some n := by decide
  exact hall n h

private theorem decode_encodeByte (b : UInt8) (r : List Char) :
    decode (encodeByte b ++ r) = b :: decode r := by
  have hbyte : b.toNat < 256 := UInt8.toNat_lt_size b
  have hhigh := hexValue?_upperHexDigit (show b.toNat / 16 < 16 by omega)
  have hlow := hexValue?_upperHexDigit (show b.toNat % 16 < 16 by omega)
  have hvalue : UInt8.ofNat (16 * (b.toNat / 16) + b.toNat % 16) = b := by
    rw [Nat.div_add_mod, UInt8.ofNat_toNat]
  rw [encodeByte, List.cons_append, List.cons_append, List.cons_append, List.nil_append, decode,
    hhigh, hlow]
  exact congrArg (· :: decode r) hvalue

private theorem decode_flatMap_encodeByte (bs : List UInt8) (r : List Char) :
    decode (bs.flatMap encodeByte ++ r) = bs ++ decode r := by
  induction bs with
  | nil => rfl
  | cons b bs ih =>
    rw [List.flatMap_cons, List.append_assoc, decode_encodeByte, ih, List.cons_append]

/-- Two hexadecimal digits. -/
def IsPair (a b : Char) : Prop := (hexValue? a).isSome = true ∧ (hexValue? b).isSome = true

instance (a b : Char) : Decidable (IsPair a b) := inferInstanceAs (Decidable (_ ∧ _))

theorem decode_cons (h : c = '%' → ∀ a b t, r = a :: b :: t → ¬ IsPair a b) :
    decode (c :: r) = utf8 [c] ++ decode r := by
  have hform := decode.eq_def (c :: r)
  rw [hform, ← bytesOf_eq_utf8]
  split
  · next hnil => cases hnil
  · next a b t hcons =>
    obtain ⟨rfl, rfl⟩ := List.cons.inj hcons
    have hnot := h rfl a b t rfl
    split
    · next hhigh hlow => exact absurd ⟨by rw [hhigh]; rfl, by rw [hlow]; rfl⟩ hnot
    · rfl
  · next c r _ hcons =>
    obtain ⟨rfl, rfl⟩ := List.cons.inj hcons
    rfl

private theorem exists_decode_escape (h : IsPair a b) :
    ∃ byte, ∀ r, decode ('%' :: a :: b :: r) = byte :: decode r := by
  obtain ⟨high, hhigh⟩ := Option.isSome_iff_exists.mp h.1
  obtain ⟨low, hlow⟩ := Option.isSome_iff_exists.mp h.2
  refine ⟨UInt8.ofNat (16 * high + low), fun r => ?_⟩
  rw [decode, hhigh, hlow]

private theorem decode_cons_cases (c : Char) (r : List Char) :
    (∃ a b t, c = '%' ∧ r = a :: b :: t ∧ IsPair a b) ∨
      (c = '%' → ∀ a b t, r = a :: b :: t → ¬ IsPair a b) := by
  by_cases h : c = '%' → ∀ a b t, r = a :: b :: t → ¬ IsPair a b
  · exact .inr h
  · simp only [not_forall, not_not] at h
    obtain ⟨rfl, a, b, t, rfl, hpair⟩ := h
    exact .inl ⟨a, b, t, rfl, rfl, hpair⟩

section Encoding

private theorem bounds_of_hexValue? (h : (hexValue? c).isSome = true) :
    0x30 ≤ c.toNat ∧ c.toNat ≤ 0x66 := by
  unfold hexValue? at h
  split at h
  · next hdigit =>
    have hbounds : 48 ≤ c.toNat ∧ c.toNat ≤ 57 := Char.isDigit_iff_toNat.mp hdigit
    omega
  · split at h
    · next hlower =>
      simp only [Bool.and_eq_true, decide_eq_true_eq, Char.le_def, UInt32.le_iff_toNat_le] at hlower
      exact ⟨Nat.le_trans (by decide) hlower.1, hlower.2⟩
    · split at h
      · next hupper =>
        simp only [Bool.and_eq_true, decide_eq_true_eq, Char.le_def,
          UInt32.le_iff_toNat_le] at hupper
        exact ⟨Nat.le_trans (by decide) hupper.1, Nat.le_trans hupper.2 (by decide)⟩
      · cases h

private theorem encodeChar_of_hexValue? (h : (hexValue? c).isSome = true) :
    encodeChar inPathSet c = [c] := by
  obtain ⟨hlow, hhigh⟩ := bounds_of_hexValue? h
  have hnot : c ∉ [' ', '"', '<', '>', '\x60', '#', '?', '\x7b', '\x7d'] := by
    intro hc
    simp only [List.mem_cons, List.not_mem_nil, or_false] at hc
    rcases hc with rfl | rfl | rfl | rfl | rfl | rfl | rfl | rfl | rfl <;> cases h
  have hset : inPathSet c = false := by
    simp only [List.mem_cons, List.not_mem_nil, or_false, not_or] at hnot
    simp [inPathSet, inFragmentSet, isControl, hnot]
    omega
  rw [encodeChar, hset]
  simp
  omega

theorem encode_cons (c : Char) (s : List Char) :
    encode inPathSet (c :: s) = encodeChar inPathSet c ++ encode inPathSet s := List.flatMap_cons

theorem encodeChar_cases (c : Char) :
    (c ≠ '%' ∧ encodeChar inPathSet c = (utf8 [c]).flatMap encodeByte) ∨
      encodeChar inPathSet c = [c] := by
  unfold encodeChar
  split
  · next h =>
    refine .inl ⟨?_, by rw [bytesOf_eq_utf8]⟩
    rintro rfl
    cases h
  · exact .inr rfl

private theorem head_ne_of_encoded (c : Char) (r : List Char) (ha : (hexValue? a).isSome = true) :
    ((utf8 [c]).flatMap encodeByte ++ r).head? ≠ some a := by
  obtain ⟨byte, bytes, hbytes⟩ := exists_utf8_cons c []
  rw [hbytes]
  rintro h
  obtain rfl : '%' = a := Option.some.inj h
  cases ha

private theorem exists_of_encode_eq_cons (ha : (hexValue? a).isSome = true)
    (h : encode inPathSet s = a :: r) : ∃ t, s = a :: t ∧ r = encode inPathSet t := by
  cases s with
  | nil => cases h
  | cons c s =>
    rw [encode_cons] at h
    rcases encodeChar_cases c with ⟨-, hc⟩ | hc
    · rw [hc] at h
      exact absurd (by rw [h]; rfl) (head_ne_of_encoded c _ ha)
    · rw [hc] at h
      obtain ⟨rfl, rfl⟩ := List.cons.inj h
      exact ⟨s, rfl, rfl⟩

/-- Encoding changes nothing of what a text decodes to. -/
theorem decode_encode (s : List Char) : decode (encode inPathSet s) = decode s := by
  induction hlength : s.length using Nat.strongRecOn generalizing s with
  | ind n ih =>
    cases s with
    | nil => rfl
    | cons c s =>
      rw [List.length_cons] at hlength
      have hs : decode (encode inPathSet s) = decode s := ih s.length (by omega) s rfl
      rw [encode_cons]
      rcases encodeChar_cases c with ⟨hne, hc⟩ | hc
      · rw [hc, decode_flatMap_encodeByte, hs, decode_cons fun he => absurd he hne]
      · rw [hc, List.singleton_append]
        rcases decode_cons_cases c s with ⟨a, b, t, rfl, rfl, hpair⟩ | hplain
        · obtain ⟨byte, hbyte⟩ := exists_decode_escape hpair
          have ht := ih t.length (by simp only [List.length_cons] at hlength; omega) t rfl
          rw [encode_cons, encode_cons, encodeChar_of_hexValue? hpair.1,
            encodeChar_of_hexValue? hpair.2, List.singleton_append, List.singleton_append, hbyte,
            hbyte, ht]
        · rw [decode_cons hplain, decode_cons, hs]
          rintro he a b t ht hpair
          obtain ⟨s', rfl, hb⟩ := exists_of_encode_eq_cons hpair.1 ht
          obtain ⟨t', rfl, -⟩ := exists_of_encode_eq_cons hpair.2 hb.symm
          exact hplain he a b t' rfl hpair

end Encoding

section Escapes

/-- A `%` in front of two digits. -/
def HasEscape (s : List Char) : Prop := ∃ a b, IsPair a b ∧ ['%', a, b] <:+: s

def beginsWithEscape : List Char → Bool
  | '%' :: a :: b :: _ => IsPair a b
  | _ => false

private theorem beginsWithEscape_iff : beginsWithEscape s = true ↔
    ∃ a b, IsPair a b ∧ ['%', a, b] <+: s := by
  constructor
  · intro h
    unfold beginsWithEscape at h
    split at h
    · next a b r => exact ⟨a, b, of_decide_eq_true h, r, rfl⟩
    · cases h
  · rintro ⟨a, b, hpair, r, rfl⟩
    exact decide_eq_true hpair

private theorem hasEscape_iff : HasEscape s ↔ ∃ t ∈ s.tails, beginsWithEscape t = true := by
  simp only [HasEscape, beginsWithEscape_iff, List.mem_tails, List.infix_iff_prefix_suffix]
  constructor
  · rintro ⟨a, b, hpair, t, hprefix, hsuffix⟩
    exact ⟨t, hsuffix, a, b, hpair, hprefix⟩
  · rintro ⟨t, hsuffix, a, b, hpair, hprefix⟩
    exact ⟨a, b, hpair, t, hprefix, hsuffix⟩

instance (s : List Char) : Decidable (HasEscape s) := decidable_of_iff _ hasEscape_iff.symm

theorem HasEscape.cons (h : HasEscape s) (c : Char) : HasEscape (c :: s) := by
  obtain ⟨a, b, hpair, hinfix⟩ := h
  exact ⟨a, b, hpair, List.infix_cons hinfix⟩

private theorem HasEscape.of_cons (h : HasEscape (c :: s))
    (hplain : c = '%' → ∀ a b t, s = a :: b :: t → ¬ IsPair a b) : HasEscape s := by
  obtain ⟨a, b, hpair, hinfix⟩ := h
  rcases List.infix_cons_iff.mp hinfix with hprefix | hinfix
  · obtain ⟨t, ht⟩ := hprefix
    obtain ⟨rfl, rfl⟩ := List.cons.inj ht
    exact absurd hpair (hplain rfl a b t rfl)
  · exact ⟨a, b, hpair, hinfix⟩

theorem HasEscape.of_append (h : HasEscape (r ++ s)) (hr : '%' ∉ r) : HasEscape s := by
  induction r with
  | nil => exact h
  | cons c r ih =>
    obtain ⟨hc, hr⟩ := not_or.mp (List.mem_cons.not.mp hr)
    exact ih (h.of_cons fun hpercent => absurd hpercent.symm hc) hr

private theorem length_utf8_cons (c : Char) (s : List Char) :
    (utf8 s).length + 1 ≤ (utf8 (c :: s)).length := by
  rw [utf8_cons, List.length_append, String.length_utf8EncodeChar]
  have hpos := c.utf8Size_pos
  omega

theorem decode_cases (s : List Char) : (¬ HasEscape s ∧ decode s = utf8 s) ∨
    (HasEscape s ∧ (decode s).length < (utf8 s).length) := by
  induction hlength : s.length using Nat.strongRecOn generalizing s with
  | ind n ih =>
    cases s with
    | nil =>
      refine .inl ⟨?_, by rw [decode]; rfl⟩
      rintro ⟨a, b, -, hinfix⟩
      cases List.infix_nil.mp hinfix
    | cons c s =>
      rw [List.length_cons] at hlength
      rcases decode_cons_cases c s with ⟨a, b, t, rfl, rfl, hpair⟩ | hplain
      · obtain ⟨byte, hbyte⟩ := exists_decode_escape hpair
        have hle : (decode t).length ≤ (utf8 t).length := by
          rcases ih t.length (by simp only [List.length_cons] at hlength; omega) t rfl with
            ⟨-, h⟩ | ⟨-, h⟩
          · rw [h]
          · exact Nat.le_of_lt h
        have hinfix : ['%', a, b] <:+: '%' :: a :: b :: t := ⟨[], t, rfl⟩
        refine .inr ⟨⟨a, b, hpair, hinfix⟩, ?_⟩
        have hpercent := length_utf8_cons '%' (a :: b :: t)
        have ha := length_utf8_cons a (b :: t)
        have hb := length_utf8_cons b t
        rw [hbyte, List.length_cons]
        omega
      · rw [decode_cons hplain]
        have hbytes : utf8 (c :: s) = utf8 [c] ++ utf8 s := utf8_append [c] s
        rcases ih s.length (by omega) s rfl with ⟨hnone, h⟩ | ⟨hsome, h⟩
        · refine .inl ⟨fun hescape => hnone (hescape.of_cons hplain), ?_⟩
          rw [h, hbytes]
        · refine .inr ⟨hsome.cons c, ?_⟩
          rw [hbytes, List.length_append, List.length_append]
          omega

theorem decode_eq_utf8 (h : ¬ HasEscape s) : decode s = utf8 s :=
  (decode_cases s).elim (·.2) fun hescape => absurd hescape.1 h

theorem length_decode_le (s : List Char) : (decode s).length ≤ (utf8 s).length := by
  rcases decode_cases s with ⟨-, h⟩ | ⟨-, h⟩
  · rw [h]
  · exact Nat.le_of_lt h

end Escapes

end RunPlan.Url
