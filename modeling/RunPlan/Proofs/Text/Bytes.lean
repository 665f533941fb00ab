import RunPlan.Proofs.Text.ByteOrder
import RunPlan.Text.Split
import Mathlib.Data.List.Flatten

/-!
Texts as bytes. Main statements: the bytes of a text are read back as this text, and a byte below
0x80 is a character of its own, so that both are split at it alike.
-/

set_option autoImplicit false

namespace RunPlan.Text

variable {c : Char} {s t : List Char} {b : UInt8} {bs : List UInt8}

private theorem toList_loop_eq (bytes : ByteArray) (i : Nat) (r : List UInt8) :
    ByteArray.toList.loop bytes i r = r.reverse ++ bytes.data.toList.drop i := by
  fun_induction ByteArray.toList.loop bytes i r with
  | case1 i r h ih =>
    have hi : i < bytes.data.toList.length := by simpa using h
    rw [ih, List.drop_eq_getElem_cons hi]
    simp [ByteArray.get!, h]
  | case2 i r h =>
    rw [List.drop_eq_nil_of_le (by simpa using Nat.le_of_not_lt h)]
    simp

theorem bytesOf_eq_utf8 (s : List Char) : bytesOf s = utf8 s := by
  rw [utf8_eq_toUTF8, bytesOf, ByteArray.toList, toList_loop_eq]
  rfl

theorem utf8_append (s t : List Char) : utf8 (s ++ t) = utf8 s ++ utf8 t := List.flatMap_append

theorem utf8_sublist (h : s.Sublist t) : (utf8 s).Sublist (utf8 t) := h.flatMap _

theorem utf8ByteSize_ofList (s : List Char) : (String.ofList s).utf8ByteSize = (utf8 s).length := by
  rw [utf8_eq_toUTF8]
  rfl

theorem ofBytes?_eq_some_iff {text : String} : ofBytes? bs = some text ↔ bs = utf8 text.toList := by
  rw [utf8_eq_toUTF8, String.ofList_toList, ofBytes?, String.fromUTF8?]
  constructor
  · intro h
    split at h
    · cases h
      rfl
    · cases h
  · rintro rfl
    have hvalid : (⟨text.toUTF8.data.toList.toArray⟩ : ByteArray).IsValidUTF8 := text.isValidUTF8
    rw [dif_pos hvalid]
    rfl

theorem ofBytes?_utf8 (s : List Char) : ofBytes? (utf8 s) = some (String.ofList s) := by
  rw [ofBytes?_eq_some_iff, String.toList_ofList]

theorem utf8_injective (h : utf8 s = utf8 t) : s = t := by
  have htext := (ofBytes?_utf8 s).symm.trans ((congrArg ofBytes? h).trans (ofBytes?_utf8 t))
  exact String.ofList_inj.mp (Option.some.inj htext)

theorem utf8_inj : utf8 s = utf8 t ↔ s = t := ⟨utf8_injective, fun h => h ▸ rfl⟩

theorem utf8EncodeChar_of_lt (h : c.toNat < 0x80) :
    String.utf8EncodeChar c = [UInt8.ofNat c.toNat] := by
  rw [String.utf8EncodeChar]
  exact if_pos (Nat.le_of_lt_succ h)

theorem le_of_mem_utf8EncodeChar (h : 0x80 ≤ c.toNat) (hb : b ∈ String.utf8EncodeChar c) :
    0x80 ≤ b.toNat := by
  simp only [String.utf8EncodeChar, Char.toNat_val] at hb
  split_ifs at hb <;>
    simp only [List.mem_cons, List.not_mem_nil, or_false] at hb
  · omega
  · rcases hb with rfl | rfl <;> simp only [UInt8.toNat_ofNat'] <;> omega
  · rcases hb with rfl | rfl | rfl <;> simp only [UInt8.toNat_ofNat'] <;> omega
  · rcases hb with rfl | rfl | rfl | rfl <;> simp only [UInt8.toNat_ofNat'] <;> omega

theorem mem_of_mem_utf8 (hc : c.toNat < 0x80) (h : UInt8.ofNat c.toNat ∈ utf8 s) : c ∈ s := by
  obtain ⟨d, hd, hbyte⟩ := List.mem_flatMap.mp h
  have hc' : (UInt8.ofNat c.toNat).toNat = c.toNat := by
    rw [UInt8.toNat_ofNat', Nat.mod_eq_of_lt (by omega)]
  by_cases hsmall : d.toNat < 0x80
  · rw [utf8EncodeChar_of_lt hsmall, List.mem_singleton] at hbyte
    have hd' : (UInt8.ofNat d.toNat).toNat = d.toNat := by
      rw [UInt8.toNat_ofNat', Nat.mod_eq_of_lt (by omega)]
    rw [← hbyte, hc'] at hd'
    rwa [Char.toNat_inj.mp hd']
  · have hbig := le_of_mem_utf8EncodeChar (Nat.le_of_not_lt hsmall) hbyte
    omega

private theorem split_append_of_notMem {α : Type} [DecidableEq α] {sep : α} {front : List α}
    (h : sep ∉ front) {s p : List α} {ps : List (List α)} (hs : split sep s = p :: ps) :
    split sep (front ++ s) = (front ++ p) :: ps := by
  induction front with
  | nil => exact hs
  | cons a front ih =>
    rw [List.mem_cons, not_or] at h
    rw [List.cons_append, split, if_neg (Ne.symm h.1), ih h.2]
    rfl

theorem split_utf8 (hc : c.toNat < 0x80) (s : List Char) :
    split (UInt8.ofNat c.toNat) (utf8 s) = (split c s).map utf8 := by
  induction s with
  | nil => rfl
  | cons d s ih =>
    obtain ⟨p, ps, hs⟩ := List.exists_cons_of_ne_nil (split_ne_nil c s)
    rw [hs, List.map_cons] at ih
    rw [utf8_cons, split, hs]
    by_cases hd : d = c
    · rw [if_pos hd, hd, utf8EncodeChar_of_lt hc, List.singleton_append, split, if_pos rfl, ih]
      rfl
    · have hbytes : UInt8.ofNat c.toNat ∉ String.utf8EncodeChar d := fun hmem =>
        hd (List.mem_singleton.mp (mem_of_mem_utf8 hc (s := [d]) (by simpa [utf8] using hmem))).symm
      rw [if_neg hd, split_append_of_notMem hbytes ih, List.map_cons, utf8_cons]

theorem exists_of_utf8_eq_concat (hb : b.toNat < 0x80) (h : utf8 s = bs ++ [b]) :
    ∃ t c, s = t ++ [c] ∧ utf8 t = bs ∧ c.toNat = b.toNat := by
  rcases List.eq_nil_or_concat' s with rfl | ⟨t, c, rfl⟩
  · cases bs <;> cases h
  · rw [utf8_append] at h
    by_cases hc : c.toNat < 0x80
    · have hone : utf8 [c] = [UInt8.ofNat c.toNat] := by
        rw [utf8_cons, utf8EncodeChar_of_lt hc]
        rfl
      rw [hone] at h
      obtain ⟨hfront, hlast⟩ := List.append_inj' h rfl
      refine ⟨t, c, rfl, hfront, ?_⟩
      rw [← (List.cons.inj hlast).1, UInt8.toNat_ofNat', Nat.mod_eq_of_lt (by omega)]
    · have hone : utf8 [c] = String.utf8EncodeChar c := by rw [utf8_cons]; exact List.append_nil _
      have hne : String.utf8EncodeChar c ≠ [] := by
        rw [ne_eq, ← List.length_eq_zero_iff, String.length_utf8EncodeChar]
        exact Nat.ne_of_gt c.utf8Size_pos
      obtain ⟨front, last, hlast⟩ := (List.eq_nil_or_concat' _).resolve_left hne
      rw [hone, hlast, ← List.append_assoc] at h
      obtain rfl : last = b := (List.cons.inj (List.append_inj' h rfl).2).1
      have hbig := le_of_mem_utf8EncodeChar (Nat.le_of_not_lt hc)
        (hlast ▸ List.mem_append_right front List.mem_cons_self)
      omega

theorem head?_utf8_eq_iff {c : Char} (hc : c.toNat < 0x80) (s : List Char) :
    (utf8 s).head? = some (UInt8.ofNat c.toNat) ↔ s.head? = some c := by
  cases s with
  | nil => exact iff_of_false nofun nofun
  | cons d s =>
    obtain ⟨byte, bytes, hbytes⟩ := exists_utf8_cons d []
    have hhead : (utf8 (d :: s)).head? = some byte := by
      rw [← List.singleton_append, utf8_append, hbytes]
      rfl
    rw [hhead, List.head?_cons, Option.some_inj, Option.some_inj]
    constructor
    · rintro rfl
      exact (List.mem_singleton.mp (mem_of_mem_utf8 hc (hbytes ▸ List.mem_cons_self))).symm
    · rintro rfl
      rw [utf8_cons, utf8EncodeChar_of_lt hc] at hbytes
      exact (List.cons.inj hbytes).1.symm

end RunPlan.Text
