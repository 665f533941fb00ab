import Mathlib.Data.List.Forall2

/-!
Outcomes of steps that may fail: what a sequence of steps needs in order to succeed.
-/

set_option autoImplicit false

namespace RunPlan

variable {ε α β : Type}

theorem bind_eq_ok_iff {x : Except ε α} {f : α → Except ε β} {b : β} :
    x >>= f = .ok b ↔ ∃ a, x = .ok a ∧ f a = .ok b := by
  cases x <;> simp [bind, Except.bind]

/-- Two steps succeed exactly if the first does and the second does, when its success does not
depend on what the first gives. -/
theorem exists_bind_eq_ok_iff {x : Except ε α} {f : α → Except ε β} {p : Prop}
    (h : ∀ a, (∃ b, f a = .ok b) ↔ p) : (∃ b, x >>= f = .ok b) ↔ (∃ a, x = .ok a) ∧ p := by
  cases x <;> simp [bind, Except.bind, h]

theorem exists_bind_pure_eq_ok_iff {x : Except ε α} {f : α → β} :
    (∃ b, (x >>= fun a => pure (f a)) = Except.ok b) ↔ ∃ a, x = .ok a := by
  cases x <;> simp [bind, Except.bind, pure, Except.pure]

theorem map_eq_ok_iff {x : Except ε α} {f : α → β} {b : β} :
    x.map f = .ok b ↔ ∃ a, x = .ok a ∧ f a = b := by
  cases x <;> simp [Except.map]

theorem mapError_eq_ok_iff {ε' : Type} {x : Except ε α} {f : ε → ε'} {a : α} :
    x.mapError f = .ok a ↔ x = .ok a := by
  cases x <;> simp [Except.mapError]

theorem mapError_eq_error_iff {ε' : Type} {x : Except ε α} {f : ε → ε'} {e' : ε'} :
    x.mapError f = .error e' ↔ ∃ e, x = .error e ∧ f e = e' := by
  cases x <;> simp [Except.mapError]

theorem map_eq_error_iff {x : Except ε α} {f : α → β} {e : ε} :
    x.map f = .error e ↔ x = .error e := by
  cases x <;> simp [Except.map]

theorem eq_ok_of_toOption {x : Except ε α} {a : α} (h : x.toOption = some a) : x = .ok a := by
  cases x with
  | error e => cases h
  | ok a' => exact congrArg Except.ok (Option.some.inj h)

theorem exists_eq_ok_of_isSome {x : Except ε α} (h : x.toOption.isSome = true) :
    ∃ a, x = .ok a := by
  cases x with
  | error e => cases h
  | ok a => exact ⟨a, rfl⟩

theorem toOption_bind (x : Except ε α) (f : α → Except ε β) :
    (x >>= f).toOption = x.toOption.bind fun a => (f a).toOption := by
  cases x <;> rfl

theorem toOption_mapError {ε' : Type} (x : Except ε α) (f : ε → ε') :
    (x.mapError f).toOption = x.toOption := by
  cases x <;> rfl

theorem toOption_mapM_congr {ε' : Type} {f : α → Except ε β} {g : α → Except ε' β} {as : List α}
    (h : ∀ a ∈ as, (f a).toOption = (g a).toOption) :
    (as.mapM f).toOption = (as.mapM g).toOption := by
  induction as with
  | nil => rfl
  | cons a as ih =>
    obtain ⟨ha, has⟩ := List.forall_mem_cons.mp h
    simp only [List.mapM_cons, toOption_bind, ha, ih has]
    rfl

theorem mapM_eq_ok_iff {f : α → Except ε β} {as : List α} {bs : List β} :
    as.mapM f = .ok bs ↔ List.Forall₂ (fun a b => f a = .ok b) as bs := by
  induction as generalizing bs with
  | nil =>
    rw [List.forall₂_nil_left_iff]
    constructor
    · intro h
      cases h
      rfl
    · rintro rfl
      rfl
  | cons a as ih =>
    rw [List.mapM_cons, bind_eq_ok_iff, List.forall₂_cons_left_iff]
    constructor
    · rintro ⟨b, hb, h⟩
      obtain ⟨rest, hrest, h⟩ := bind_eq_ok_iff.mp h
      cases h
      exact ⟨b, rest, hb, ih.mp hrest, rfl⟩
    · rintro ⟨b, rest, hb, hrest, rfl⟩
      exact ⟨b, hb, bind_eq_ok_iff.mpr ⟨rest, ih.mpr hrest, rfl⟩⟩

theorem mapM_flatMap_eq_ok_iff {γ : Type} {f : β → Except ε γ} {items : α → List β} {as : List α}
    {cs : List γ} : (as.flatMap items).mapM f = .ok cs ↔
      ∃ blocks, List.Forall₂ (fun a block => (items a).mapM f = .ok block) as blocks ∧
        cs = blocks.flatten := by
  induction as generalizing cs with
  | nil =>
    simp only [List.forall₂_nil_left_iff, exists_eq_left, List.flatMap_nil, List.mapM_nil]
    constructor
    · intro h
      cases h
      rfl
    · rintro rfl
      rfl
  | cons a as ih =>
    simp only [List.flatMap_cons, List.mapM_append, bind_eq_ok_iff, ih, List.forall₂_cons_left_iff]
    constructor
    · rintro ⟨block, hblock, _, ⟨blocks, hblocks, rfl⟩, h⟩
      cases h
      exact ⟨_, ⟨block, blocks, hblock, hblocks, rfl⟩, rfl⟩
    · rintro ⟨_, ⟨block, blocks, hblock, hblocks, rfl⟩, rfl⟩
      exact ⟨block, hblock, _, ⟨blocks, hblocks, rfl⟩, rfl⟩

theorem exists_mem_of_mapM_eq_ok {f : α → Except ε β} {as : List α} {bs : List β}
    (h : as.mapM f = .ok bs) {a : α} (ha : a ∈ as) : ∃ b ∈ bs, f a = .ok b := by
  have hall := mapM_eq_ok_iff.mp h
  clear h
  induction hall with
  | nil => cases ha
  | cons hb _ ih =>
    rcases List.mem_cons.mp ha with rfl | ha
    · exact ⟨_, List.mem_cons_self, hb⟩
    · obtain ⟨b, hmem, hb'⟩ := ih ha
      exact ⟨b, List.mem_cons_of_mem _ hmem, hb'⟩

theorem forall_mem_of_forall₂ {R : α → β → Prop} {P : β → Prop} {as : List α} {bs : List β}
    (h : List.Forall₂ R as bs) (hR : ∀ a b, R a b → P b) : ∀ b ∈ bs, P b := by
  induction h with
  | nil => simp
  | cons hab _ ih => exact List.forall_mem_cons.mpr ⟨hR _ _ hab, ih⟩

theorem exists_forall₂_iff {R : α → β → Prop} {as : List α} :
    (∃ bs, List.Forall₂ R as bs) ↔ ∀ a ∈ as, ∃ b, R a b := by
  induction as with
  | nil => exact iff_of_true ⟨[], .nil⟩ nofun
  | cons a as ih =>
    rw [List.forall_mem_cons, ← ih]
    constructor
    · rintro ⟨_, _ | ⟨hb, hbs⟩⟩
      exact ⟨⟨_, hb⟩, _, hbs⟩
    · rintro ⟨⟨b, hb⟩, bs, hbs⟩
      exact ⟨b :: bs, .cons hb hbs⟩

theorem forall_mem_iff_of_forall₂ {R : α → β → Prop} {P : α → Prop} {Q : β → Prop} {as : List α}
    {bs : List β} (h : List.Forall₂ R as bs) (hR : ∀ a b, R a b → (P a ↔ Q b)) :
    (∀ a ∈ as, P a) ↔ ∀ b ∈ bs, Q b := by
  induction h with
  | nil => exact iff_of_true nofun nofun
  | cons hab _ ih => rw [List.forall_mem_cons, List.forall_mem_cons, hR _ _ hab, ih]

theorem forall_mem_of_mapM_eq_ok {f : α → Except ε β} {P : β → Prop} {as : List α} {bs : List β}
    (h : as.mapM f = .ok bs) (hf : ∀ a b, f a = .ok b → P b) : ∀ b ∈ bs, P b :=
  forall_mem_of_forall₂ (mapM_eq_ok_iff.mp h) hf

/-- A step over a list fails with the error of the first item that it fails for. -/
theorem mapM_eq_error_iff {f : α → Except ε β} {as : List α} {e : ε} :
    as.mapM f = .error e ↔ ∃ before a after, as = before ++ a :: after ∧
      (∀ a' ∈ before, ∃ b, f a' = .ok b) ∧ f a = .error e := by
  constructor
  · intro h
    induction as with
    | nil => cases h
    | cons a as ih =>
      rw [List.mapM_cons] at h
      cases ha : f a with
      | error e' =>
        rw [ha] at h
        cases h
        exact ⟨[], a, as, rfl, nofun, ha⟩
      | ok b =>
        rw [ha] at h
        cases hrest : as.mapM f with
        | ok bs =>
          rw [hrest] at h
          cases h
        | error e' =>
          rw [hrest] at h
          cases h
          obtain ⟨before, a', after, rfl, hbefore, ha'⟩ := ih hrest
          refine ⟨a :: before, a', after, rfl, ?_, ha'⟩
          intro a'' hmem
          rcases List.mem_cons.mp hmem with rfl | hmem
          · exact ⟨b, ha⟩
          · exact hbefore a'' hmem
  · rintro ⟨before, a, after, rfl, hbefore, ha⟩
    induction before with
    | nil =>
      rw [List.nil_append, List.mapM_cons, ha]
      rfl
    | cons a' before ih =>
      obtain ⟨b, hb⟩ := hbefore a' List.mem_cons_self
      have hrest := ih fun a'' hmem => hbefore a'' (List.mem_cons_of_mem _ hmem)
      rw [List.cons_append, List.mapM_cons, hb]
      show (((before ++ a :: after).mapM f) >>= _) = _
      rw [hrest]
      rfl

theorem mapM_filter_eq_error_iff {f : α → Except ε β} {p : α → Bool} {as : List α} {e : ε} :
    (as.filter p).mapM f = .error e ↔ ∃ before a after, as = before ++ a :: after ∧
      (∀ a' ∈ before, p a' = true → ∃ b, f a' = .ok b) ∧ p a = true ∧ f a = .error e := by
  rw [mapM_eq_error_iff]
  constructor
  · rintro ⟨before, a, after, hsplit, hbefore, ha⟩
    obtain ⟨front, back, rfl, rfl, hback⟩ := List.filter_eq_append_iff.mp hsplit
    obtain ⟨between, rest, rfl, hbetween, hp, -⟩ := List.filter_eq_cons_iff.mp hback
    refine ⟨front ++ between, a, rest, (List.append_assoc _ _ _).symm, ?_, hp, ha⟩
    intro a' hmem hp'
    rcases List.mem_append.mp hmem with hmem | hmem
    · exact hbefore a' (List.mem_filter.mpr ⟨hmem, hp'⟩)
    · exact absurd hp' (hbetween a' hmem)
  · rintro ⟨before, a, after, rfl, hbefore, hp, ha⟩
    refine ⟨before.filter p, a, after.filter p, ?_, ?_, ha⟩
    · rw [List.filter_append, List.filter_cons_of_pos hp]
    · intro a' hmem
      obtain ⟨hmem, hp'⟩ := List.mem_filter.mp hmem
      exact hbefore a' hmem hp'

theorem mapM_filter_fails_iff {f : α → Except ε β} {p : α → Bool} {as : List α} :
    (∃ e, (as.filter p).mapM f = .error e) ↔ ∃ a ∈ as, p a = true ∧ ∃ e, f a = .error e := by
  constructor
  · rintro ⟨e, h⟩
    obtain ⟨before, a, after, rfl, -, hp, ha⟩ := mapM_filter_eq_error_iff.mp h
    exact ⟨a, List.mem_append_right _ List.mem_cons_self, hp, e, ha⟩
  · rintro ⟨a, ha, hp, e, he⟩
    cases hall : (as.filter p).mapM f with
    | error e' => exact ⟨e', rfl⟩
    | ok bs =>
      obtain ⟨b, -, hb⟩ := exists_mem_of_mapM_eq_ok hall (List.mem_filter.mpr ⟨ha, hp⟩)
      rw [he] at hb
      cases hb

theorem mapM_congr_of_mem {f g : α → Except ε β} {as : List α} (h : ∀ a ∈ as, f a = g a) :
    as.mapM f = as.mapM g := by
  induction as with
  | nil => rfl
  | cons a as ih =>
    rw [List.mapM_cons, List.mapM_cons, h a List.mem_cons_self,
      ih fun a' ha' => h a' (List.mem_cons_of_mem _ ha')]

end RunPlan
