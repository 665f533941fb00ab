import RunPlan.Proofs.Text.Bytes

/-!
Bytes as they are shown. Main statement: those of a text are shown as this text, so only bytes that
are no text are ever replaced.
-/

set_option autoImplicit false

namespace RunPlan.Text

variable {c : Char} {b : UInt8} {bs : List UInt8}

private theorem leadForm?_eq (b : UInt8) : leadForm? b =
    if 0xC2 ≤ b.toNat ∧ b.toNat ≤ 0xDF then some (1, 0x80, 0xBF)
    else if b.toNat = 0xE0 then some (2, 0xA0, 0xBF)
    else if b.toNat = 0xED then some (2, 0x80, 0x9F)
    else if 0xE1 ≤ b.toNat ∧ b.toNat ≤ 0xEF then some (2, 0x80, 0xBF)
    else if b.toNat = 0xF0 then some (3, 0x90, 0xBF)
    else if 0xF1 ≤ b.toNat ∧ b.toNat ≤ 0xF3 then some (3, 0x80, 0xBF)
    else if b.toNat = 0xF4 then some (3, 0x80, 0x8F)
    else none := by
  simp only [leadForm?, Bool.and_eq_true, decide_eq_true_eq, UInt8.le_iff_toNat_le,
    ← UInt8.toNat_inj]
  rfl

private theorem continuing_append {lo hi : UInt8} (hsecond : lo ≤ b ∧ b ≤ hi)
    (hothers : ∀ b ∈ bs, 0x80 ≤ b ∧ b ≤ 0xBF) (rest : List UInt8) :
    continuing (bs.length + 1) lo hi (b :: bs ++ rest) = bs.length + 1 := by
  induction bs generalizing b lo hi with
  | nil => cases rest <;> simp [continuing, hsecond]
  | cons next bs ih =>
    obtain ⟨hnext, hothers⟩ := List.forall_mem_cons.mp hothers
    have hrest := ih hnext hothers
    rw [List.cons_append] at hrest ⊢
    rw [List.length_cons, continuing, if_pos (by simpa using hsecond), List.cons_append, hrest,
      Nat.add_comm]

private theorem continues (n : Nat) :
    (0x80 : UInt8) ≤ UInt8.ofNat (n % 64 + 0x80) ∧ UInt8.ofNat (n % 64 + 0x80) ≤ 0xBF := by
  simp only [UInt8.le_iff_toNat_le, UInt8.toNat_ofNat', UInt8.reduceToNat]
  omega

private theorem exists_leadForm (h : 0x80 ≤ c.toNat) : ∃ first second others lo hi,
    String.utf8EncodeChar c = first :: second :: others ∧
      leadForm? first = some (others.length + 1, lo, hi) ∧ (lo ≤ second ∧ second ≤ hi) ∧
      ∀ b ∈ others, 0x80 ≤ b ∧ b ≤ 0xBF := by
  have hvalid : c.toNat < 0xD800 ∨ 0xDFFF < c.toNat ∧ c.toNat < 0x110000 := c.valid
  simp only [String.utf8EncodeChar, Char.toNat_val]
  generalize c.toNat = v at *
  have htail : ∀ n, ∀ b ∈ [UInt8.ofNat (n % 64 + 0x80)], (0x80 : UInt8) ≤ b ∧ b ≤ 0xBF :=
    fun n => List.forall_mem_singleton.mpr (continues n)
  have htails : ∀ m n, ∀ b ∈ [UInt8.ofNat (m % 64 + 0x80), UInt8.ofNat (n % 64 + 0x80)],
      (0x80 : UInt8) ≤ b ∧ b ≤ 0xBF :=
    fun m n => List.forall_mem_cons.mpr ⟨continues m, htail n⟩
  split_ifs with h1 h2 h3
  · omega
  · refine ⟨_, _, [], 0x80, 0xBF, rfl, ?_, continues v, nofun⟩
    simp (disch := omega) only [leadForm?_eq, UInt8.toNat_ofNat', if_pos]
    rfl
  · by_cases hlow : v / 4096 = 0
    · refine ⟨_, _, _, 0xA0, 0xBF, rfl, ?_, ?_, htail v⟩
      · simp (disch := omega) only [leadForm?_eq, UInt8.toNat_ofNat', if_pos, if_neg]
        rfl
      · simp only [UInt8.le_iff_toNat_le, UInt8.toNat_ofNat', UInt8.reduceToNat]
        omega
    by_cases hsurrogate : v / 4096 = 13
    · refine ⟨_, _, _, 0x80, 0x9F, rfl, ?_, ?_, htail v⟩
      · simp (disch := omega) only [leadForm?_eq, UInt8.toNat_ofNat', if_pos, if_neg]
        rfl
      · simp only [UInt8.le_iff_toNat_le, UInt8.toNat_ofNat', UInt8.reduceToNat]
        omega
    · refine ⟨_, _, _, 0x80, 0xBF, rfl, ?_, continues _, htail v⟩
      simp (disch := omega) only [leadForm?_eq, UInt8.toNat_ofNat', if_pos, if_neg]
      rfl
  · by_cases hlow : v / 262144 = 0
    · refine ⟨_, _, _, 0x90, 0xBF, rfl, ?_, ?_, htails _ v⟩
      · simp (disch := omega) only [leadForm?_eq, UInt8.toNat_ofNat', if_pos, if_neg]
        rfl
      · simp only [UInt8.le_iff_toNat_le, UInt8.toNat_ofNat', UInt8.reduceToNat]
        omega
    by_cases hhigh : v / 262144 = 4
    · refine ⟨_, _, _, 0x80, 0x8F, rfl, ?_, ?_, htails _ v⟩
      · simp (disch := omega) only [leadForm?_eq, UInt8.toNat_ofNat', if_pos, if_neg]
        rfl
      · simp only [UInt8.le_iff_toNat_le, UInt8.toNat_ofNat', UInt8.reduceToNat]
        omega
    · refine ⟨_, _, _, 0x80, 0xBF, rfl, ?_, continues _, htails _ v⟩
      simp (disch := omega) only [leadForm?_eq, UInt8.toNat_ofNat', if_pos, if_neg]
      rfl

private theorem shownFrom_utf8EncodeChar_append (c : Char) (fuel : Nat) (rest : List UInt8) :
    shownFrom (fuel + 1) (String.utf8EncodeChar c ++ rest) = c :: shownFrom fuel rest := by
  by_cases hc : c.toNat < 0x80
  · have hbyte : (UInt8.ofNat c.toNat).toNat = c.toNat := by
      rw [UInt8.toNat_ofNat', Nat.mod_eq_of_lt (by omega)]
    have hsmall : UInt8.ofNat c.toNat < 0x80 := by
      rw [UInt8.lt_iff_toNat_lt, hbyte]
      exact hc
    rw [utf8EncodeChar_of_lt hc, List.singleton_append, shownFrom, if_pos hsmall, hbyte,
      Char.ofNat_toNat]
  · obtain ⟨first, second, others, lo, hi, hbytes, hform, hsecond, hothers⟩ :=
      exists_leadForm (Nat.le_of_not_lt hc)
    have hbig : ¬ first < 0x80 := by
      have hfirst := le_of_mem_utf8EncodeChar (Nat.le_of_not_lt hc) (hbytes ▸ List.mem_cons_self)
      rw [UInt8.lt_iff_toNat_lt]
      exact Nat.not_lt_of_le hfirst
    have hone : ofBytes? (first :: second :: others) = some (String.ofList [c]) := by
      rw [← hbytes, ← ofBytes?_utf8 [c], utf8, List.flatMap_singleton]
    have hlength : (second :: others).length = others.length + 1 := rfl
    rw [hbytes, List.cons_append, shownFrom, if_neg hbig, hform]
    dsimp only
    rw [continuing_append hsecond hothers, if_neg (Nat.lt_irrefl _), ← hlength, List.take_left,
      List.drop_left, hone]
    dsimp only
    rw [String.toList_ofList, List.singleton_append]

private theorem shownFrom_utf8 (s : List Char) {fuel : Nat} (h : s.length ≤ fuel) :
    shownFrom fuel (utf8 s) = s := by
  induction s generalizing fuel with
  | nil => cases fuel <;> rfl
  | cons c s ih =>
    obtain ⟨fuel, rfl⟩ := Nat.exists_eq_add_of_le' (Nat.lt_of_lt_of_le (Nat.succ_pos _) h)
    rw [utf8_cons, shownFrom_utf8EncodeChar_append, ih (Nat.le_of_succ_le_succ h)]

/-- A text is shown as it is. -/
theorem shown_utf8 (s : List Char) : shown (utf8 s) = String.ofList s := by
  have hlength : s.length ≤ (utf8 s).length := by
    induction s with
    | nil => exact Nat.le_refl _
    | cons c s ih =>
      have hc := c.utf8Size_pos
      rw [utf8_cons, List.length_append, String.length_utf8EncodeChar, List.length_cons]
      omega
  rw [shown, shownFrom_utf8 s hlength]

end RunPlan.Text
