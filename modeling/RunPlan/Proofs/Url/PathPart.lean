import RunPlan.Url.PathPart
import RunPlan.Proofs.Text.Splitting
import RunPlan.Proofs.Url.Percent

/-!
The path of a URL of a file. Main statements: it is read segment by segment, and segments that are
no steps to the directory above and no drives are kept, but for those that stay in the directory.
-/

set_option autoImplicit false

namespace RunPlan.Url.PathPart

open RunPlan.Text

variable {c : Char} {isFile : Bool} {path s p segment : List Char} {ps segments : List (List Char)}

section Reading

def endsPath (c : Char) : Bool := c = '?' || c = '#'

def slashed (s : List Char) : List Char := s.map fun c => if c = '\\' then '/' else c

theorem slashed_eq_self (h : '\\' ∉ s) : slashed s = s := by
  refine (List.map_congr_left fun c hc => if_neg ?_).trans (List.map_id s)
  rintro rfl
  exact h hc

theorem takeWhile_endsPath_append (h : ∀ c ∈ s, c ∉ ['?', '#']) (r : List Char) :
    (s ++ r).takeWhile (fun c => !endsPath c) = s ++ r.takeWhile fun c => !endsPath c := by
  refine List.takeWhile_append_of_pos fun c hc => ?_
  have hmark := h c hc
  simp only [List.mem_cons, List.not_mem_nil, or_false, not_or] at hmark
  simp [endsPath, hmark]

/-- Adds segments one after the other; a `/` follows each but the last. -/
def pushAll (isFile : Bool) (path : List Char) : List (List Char) → List Char
  | [] => path
  | [p] => push isFile path (encode inPathSet p) false
  | p :: q :: ps => pushAll isFile (push isFile path (encode inPathSet p) true) (q :: ps)

theorem pushAll_cons (hne : ps ≠ []) (isFile : Bool) (path p : List Char) :
    pushAll isFile path (p :: ps) =
      pushAll isFile (push isFile path (encode inPathSet p) true) ps := by
  cases ps with
  | nil => exact absurd rfl hne
  | cons q ps => rfl

private def endsSegment (c : Char) : Bool := c = '/' || (true && c = '\\') || c = '?' || c = '#'

private theorem split_slashed_of_forall (h : ∀ c ∈ s, endsSegment c = false) :
    split '/' (slashed s) = [s] := by
  have hback : '\\' ∉ s := fun hmem => Bool.noConfusion (h '\\' hmem)
  have hslash : '/' ∉ s := fun hmem => Bool.noConfusion (h '/' hmem)
  rw [slashed_eq_self hback, split_of_notMem hslash]

private theorem takeWhile_endsPath_of_forall (h : ∀ c ∈ s, endsSegment c = false) (r : List Char) :
    (s ++ r).takeWhile (fun c => !endsPath c) = s ++ r.takeWhile (fun c => !endsPath c) ∧
      (s ++ r).dropWhile (fun c => !endsPath c) = r.dropWhile (fun c => !endsPath c) := by
  have hall : ∀ c ∈ s, (!endsPath c) = true := by
    intro c hc
    have hend := h c hc
    simp only [endsSegment, Bool.or_eq_false_iff] at hend
    simp [endsPath, hend]
  exact ⟨List.takeWhile_append_of_pos hall, List.dropWhile_append_of_pos hall⟩

private theorem readFrom_last {fuel : Nat} (h : s.dropWhile (fun c => !endsSegment c) = []) :
    readFrom true isFile (fuel + 1) path s =
      (push isFile path (encode inPathSet (s.takeWhile fun c => !endsSegment c)) false, []) := by
  rw [readFrom]
  split
  · next hrest => cases hrest.symm.trans h
  · rfl

private theorem readFrom_segment {fuel : Nat} {c : Char} {r : List Char}
    (h : s.dropWhile (fun c => !endsSegment c) = c :: r) :
    readFrom true isFile (fuel + 1) path s =
      if c = '?' || c = '#' then
        (push isFile path (encode inPathSet (s.takeWhile fun c => !endsSegment c)) false, c :: r)
      else readFrom true isFile fuel
        (push isFile path (encode inPathSet (s.takeWhile fun c => !endsSegment c)) true) r := by
  rw [readFrom]
  split
  · next hrest =>
    cases hrest.symm.trans h
    rfl
  · next hrest => cases hrest.symm.trans h

theorem readFrom_eq {fuel : Nat} (hfuel : s.length < fuel) :
    readFrom true isFile fuel path s =
      (pushAll isFile path (split '/' (slashed (s.takeWhile fun c => !endsPath c))),
        s.dropWhile fun c => !endsPath c) := by
  induction fuel generalizing path s with
  | zero => cases hfuel
  | succ fuel ih =>
    have hseg : ∀ c ∈ s.takeWhile (fun c => !endsSegment c), endsSegment c = false := by
      intro c hc
      simpa using List.all_eq_true.mp List.all_takeWhile c hc
    have hsplit := List.takeWhile_append_dropWhile (p := fun c => !endsSegment c) (l := s)
    cases hrest : s.dropWhile (fun c => !endsSegment c) with
    | nil =>
      rw [readFrom_last hrest]
      generalize s.takeWhile (fun c => !endsSegment c) = first at hseg hsplit
      rw [hrest, List.append_nil] at hsplit
      subst hsplit
      obtain ⟨htake, hdrop⟩ := takeWhile_endsPath_of_forall hseg []
      rw [List.append_nil] at htake hdrop
      rw [htake, hdrop, List.takeWhile_nil, List.append_nil, split_slashed_of_forall hseg]
      rfl
    | cons c r =>
      have hc : endsSegment c = true := by
        have hhead := List.head?_dropWhile_not (fun c => !endsSegment c) s
        rw [hrest] at hhead
        simpa using hhead
      rw [readFrom_segment hrest]
      generalize s.takeWhile (fun c => !endsSegment c) = first at hseg hsplit
      rw [hrest] at hsplit
      obtain ⟨htake, hdrop⟩ := takeWhile_endsPath_of_forall hseg (c :: r)
      rw [hsplit] at htake hdrop
      rw [htake, hdrop]
      by_cases hend : endsPath c = true
      · have hstop : (c = '?' || c = '#') = true := hend
        rw [List.takeWhile_cons_of_neg (by simp [hend]),
          List.dropWhile_cons_of_neg (by simp [hend]), List.append_nil,
          split_slashed_of_forall hseg]
        exact if_pos hstop
      · have hslash : (if c = '\\' then '/' else c) = '/' := by
          simp only [endsPath, Bool.not_eq_true, Bool.or_eq_false_iff,
            decide_eq_false_iff_not] at hend
          simp only [endsSegment, hend, decide_false, Bool.or_false, Bool.true_and, Bool.or_eq_true,
            decide_eq_true_eq] at hc
          rcases hc with rfl | rfl <;> rfl
        have hstop : ¬ (c = '?' || c = '#') = true := hend
        have hshort : r.length < fuel := by
          have hlength := congrArg List.length hsplit
          rw [List.length_append, List.length_cons] at hlength
          omega
        rw [List.takeWhile_cons_of_pos (by simpa using hend),
          List.dropWhile_cons_of_pos (by simpa using hend)]
        have hpieces : split '/' (slashed (first ++ c :: r.takeWhile fun c => !endsPath c)) =
            first :: split '/' (slashed (r.takeWhile fun c => !endsPath c)) := by
          have hone := split_slashed_of_forall hseg
          rw [slashed, List.map_append, List.map_cons, hslash, split_append_cons]
          exact congrArg (· ++ _) hone
        rw [hpieces, pushAll_cons (split_ne_nil _ _)]
        exact (if_neg hstop).trans (ih hshort)

end Reading

section Steps

private theorem toNat_toLower_cases (c : Char) : c.toLower = c ∨
    (c.toLower.toNat = c.toNat + 32 ∧ 65 ≤ c.toNat ∧ c.toNat ≤ 90) := by
  unfold Char.toLower
  split
  · next h =>
    have hlow : 65 ≤ c.val.toNat := UInt32.le_iff_toNat_le.mp h.1
    have hhigh : c.val.toNat ≤ 90 := UInt32.le_iff_toNat_le.mp h.2
    refine .inr ⟨?_, hlow, hhigh⟩
    have hdistance : ('a'.val - 'A'.val).toNat = 32 := by decide
    show (c.val + ('a'.val - 'A'.val)).toNat = c.val.toNat + 32
    rw [UInt32.toNat_add, hdistance]
    omega
  · exact .inl rfl

private theorem eq_of_toLower_eq {d : Char} (hd : d.toNat < 97) (h : c.toLower = d) : c = d := by
  rcases toNat_toLower_cases c with hsame | ⟨hlower, hlow, -⟩
  · exact hsame.symm.trans h
  · rw [h] at hlower
    omega

private theorem eq_or_of_toLower_eq (h : c.toLower = 'e') : c = 'e' ∨ c = 'E' := by
  rcases toNat_toLower_cases c with hsame | ⟨hlower, -, -⟩
  · exact .inl (hsame.symm.trans h)
  · have hvalue : 'e'.toNat = 'E'.toNat + 32 := by decide
    rw [h, hvalue] at hlower
    exact .inr (Char.toNat_inj.mp (Nat.add_right_cancel hlower).symm)

private theorem decode_point (r : List Char) : decode ('.' :: r) = 0x2E :: decode r :=
  decode_cons fun h => absurd h (by decide)

private theorem decode_escaped_point (he : c = 'e' ∨ c = 'E') (r : List Char) :
    decode ('%' :: '2' :: c :: r) = 0x2E :: decode r := by
  rcases he with rfl | rfl <;> (rw [decode]; rfl)

private theorem exists_point {word t : List Char} (hword : word = ['.'] ∨ word = ['%', '2', 'e'])
    (h : s.map Char.toLower = word ++ t) :
    ∃ r, r.map Char.toLower = t ∧ decode s = 0x2E :: decode r := by
  obtain ⟨front, r, rfl, hfront, hr⟩ := List.map_eq_append_iff.mp h
  refine ⟨r, hr, ?_⟩
  rcases hword with rfl | rfl
  · obtain ⟨c, rfl, hc⟩ := List.map_eq_singleton_iff.mp hfront
    rw [eq_of_toLower_eq (by decide) hc]
    exact decode_point r
  · obtain ⟨a, front, rfl, ha, hfront⟩ := List.map_eq_cons_iff.mp hfront
    obtain ⟨b, front, rfl, hb, hfront⟩ := List.map_eq_cons_iff.mp hfront
    obtain ⟨e, rfl, he⟩ := List.map_eq_singleton_iff.mp hfront
    rw [eq_of_toLower_eq (by decide) ha, eq_of_toLower_eq (by decide) hb]
    exact decode_escaped_point (eq_or_of_toLower_eq he) r

private theorem decode_of_map_toLower_nil (h : s.map Char.toLower = []) : decode s = [] := by
  rw [List.map_eq_nil_iff.mp h, decode]

private theorem map_toLower_of_contains {words : List String}
    (h : words.contains (String.ofList (s.map Char.toLower)) = true) :
    ∃ word ∈ words, s.map Char.toLower = word.toList := by
  refine ⟨_, List.contains_iff_mem.mp h, ?_⟩
  rw [String.toList_ofList]

private theorem decode_of_isDot (h : isDot segment = true) : decode segment = [0x2E] := by
  obtain ⟨word, hword, hsegment⟩ := map_toLower_of_contains h
  have hpoint : word.toList = ['.'] ++ [] ∨ word.toList = ['%', '2', 'e'] ++ [] := by
    simp only [List.mem_cons, List.not_mem_nil, or_false] at hword
    rcases hword with rfl | rfl
    · exact .inl rfl
    · exact .inr rfl
  obtain ⟨r, hr, hdecode⟩ : ∃ r, r.map Char.toLower = [] ∧ decode segment = 0x2E :: decode r := by
    rcases hpoint with hpoint | hpoint
    · exact exists_point (.inl rfl) (hsegment.trans hpoint)
    · exact exists_point (.inr rfl) (hsegment.trans hpoint)
  rw [hdecode, decode_of_map_toLower_nil hr]

private theorem decode_of_isDotDot (h : isDotDot segment = true) :
    decode segment = [0x2E, 0x2E] := by
  obtain ⟨word, hword, hsegment⟩ := map_toLower_of_contains h
  have hpoints : ∃ first second, (first = ['.'] ∨ first = ['%', '2', 'e']) ∧
      (second = ['.'] ∨ second = ['%', '2', 'e']) ∧ word.toList = first ++ (second ++ []) := by
    simp only [List.mem_cons, List.not_mem_nil, or_false] at hword
    rcases hword with rfl | rfl | rfl | rfl
    · exact ⟨_, _, .inl rfl, .inl rfl, rfl⟩
    · exact ⟨_, _, .inl rfl, .inr rfl, rfl⟩
    · exact ⟨_, _, .inr rfl, .inl rfl, rfl⟩
    · exact ⟨_, _, .inr rfl, .inr rfl, rfl⟩
  obtain ⟨first, second, hfirst, hsecond, hboth⟩ := hpoints
  obtain ⟨r, hr, hdecode⟩ := exists_point hfirst (hsegment.trans hboth)
  obtain ⟨r', hr', hdecode'⟩ := exists_point hsecond hr
  rw [hdecode, hdecode', decode_of_map_toLower_nil hr']

end Steps

section Keeping

/-- A segment that a URL does not change. -/
structure IsKept (p : List Char) : Prop where
  no_escape : ¬ HasEscape p
  no_step : p ≠ ['.', '.']

theorem decode_encode_of_isKept (h : IsKept p) : decode (encode inPathSet p) = utf8 p := by
  rw [decode_encode, decode_eq_utf8 h.no_escape]

private theorem isDotDot_encode (h : IsKept p) : isDotDot (encode inPathSet p) = false := by
  by_contra hdots
  have hbytes := decode_of_isDotDot (Bool.not_eq_false _ |>.mp hdots)
  rw [decode_encode_of_isKept h] at hbytes
  exact h.no_step (utf8_injective hbytes)

private theorem isDot_encode (h : IsKept p) (hdot : p ≠ ['.']) :
    isDot (encode inPathSet p) = false := by
  by_contra hpoint
  have hbytes := decode_of_isDot (Bool.not_eq_false _ |>.mp hpoint)
  rw [decode_encode_of_isKept h] at hbytes
  exact hdot (utf8_injective hbytes)

private theorem exists_of_encode_eq_cons_of_ne {x : Char} {r : List Char} (hx : x ≠ '%')
    (h : encode inPathSet p = x :: r) : ∃ t, p = x :: t ∧ encode inPathSet t = r := by
  cases p with
  | nil => cases h
  | cons c t =>
    rw [encode_cons] at h
    rcases encodeChar_cases c with ⟨-, hc⟩ | hc
    · obtain ⟨byte, bytes, hbytes⟩ := exists_utf8_cons c []
      rw [hc, hbytes] at h
      exact absurd (List.cons.inj h).1.symm hx
    · rw [hc] at h
      obtain ⟨rfl, hr⟩ := List.cons.inj h
      exact ⟨t, rfl, hr⟩

theorem encode_eq_nil_iff : encode inPathSet p = [] ↔ p = [] := by
  constructor
  · intro h
    cases p with
    | nil => rfl
    | cons c t =>
      rw [encode_cons] at h
      rcases encodeChar_cases c with ⟨-, hc⟩ | hc
      · obtain ⟨byte, bytes, hbytes⟩ := exists_utf8_cons c []
        rw [hc, hbytes] at h
        cases h
      · rw [hc] at h
        cases h
  · rintro rfl
    rfl

theorem isDrive_iff : isDrive p = true ↔
    ∃ a d, p = [a, d] ∧ a.isAlpha = true ∧ (d = ':' ∨ d = '|') := by
  rw [isDrive, Bool.and_eq_true, decide_eq_true_eq]
  constructor
  · rintro ⟨hlength, hdrive⟩
    obtain ⟨a, d, rfl⟩ := List.length_eq_two.mp hlength
    simp only [startsWithDrive, Bool.and_eq_true, Bool.or_eq_true, decide_eq_true_eq] at hdrive
    exact ⟨a, d, rfl, hdrive.1⟩
  · rintro ⟨a, d, rfl, ha, hd⟩
    refine ⟨rfl, ?_⟩
    simp only [startsWithDrive, Bool.and_eq_true, Bool.or_eq_true, decide_eq_true_eq]
    exact ⟨⟨ha, hd⟩, rfl⟩

private theorem of_isDrive_encode (h : isDrive (encode inPathSet p) = true) :
    encode inPathSet p = p ∧ ∃ a d, p = [a, d] ∧ a.isAlpha = true ∧ (d = ':' ∨ d = '|') := by
  obtain ⟨a, d, had, ha, hd⟩ := isDrive_iff.mp h
  have hletter : a ≠ '%' := by
    rintro rfl
    cases ha
  have hmark : d ≠ '%' := by
    rintro rfl
    rcases hd with hd | hd <;> cases hd
  obtain ⟨t, rfl, ht⟩ := exists_of_encode_eq_cons_of_ne hletter had
  obtain ⟨t', rfl, ht'⟩ := exists_of_encode_eq_cons_of_ne hmark ht
  rw [encode_eq_nil_iff.mp ht'] at had ⊢
  exact ⟨had, a, d, rfl, ha, hd⟩

private theorem push_of_isKept (h : IsKept p) (hdot : p ≠ ['.'])
    (hdrive : path.length = 1 → ∀ a, p = [a, '|'] → a.isAlpha = false) (slash : Bool) :
    push true path (encode inPathSet p) slash =
      path ++ encode inPathSet p ++ if slash then ['/'] else [] := by
  unfold push
  rw [isDotDot_encode h, isDot_encode h hdot]
  simp only [Bool.false_eq_true, if_false, Bool.true_and]
  split
  · next hletter =>
    rw [Bool.and_eq_true, decide_eq_true_eq] at hletter
    obtain ⟨hsame, a, d, hform, ha, rfl | rfl⟩ := of_isDrive_encode hletter.2
    · rw [hsame, hform]
      simp
    · exact absurd (hdrive hletter.1 a hform) (by simp [ha])
  · rfl

private theorem push_point (hpath : path.getLast? = some '/') (slash : Bool) :
    push true path (encode inPathSet ['.']) slash = path := by
  have hsame : encode inPathSet ['.'] = ['.'] := rfl
  have hstep : isDotDot ['.'] = false := by decide
  have hpoint : isDot ['.'] = true := by decide
  rw [push, hsame, hstep, hpoint, closed, if_pos hpath]
  rfl

/-- The segments without those that stay in the directory. At the end one leaves its slash. -/
def undotted : List (List Char) → List (List Char)
  | [] => []
  | [p] => if p = ['.'] then [[]] else [p]
  | p :: q :: ps => if p = ['.'] then undotted (q :: ps) else p :: undotted (q :: ps)

theorem undotted_cons (hne : ps ≠ []) (p : List Char) :
    undotted (p :: ps) = if p = ['.'] then undotted ps else p :: undotted ps := by
  cases ps with
  | nil => exact absurd rfl hne
  | cons q ps => rfl

theorem undotted_ne_nil (hne : ps ≠ []) : undotted ps ≠ [] := by
  induction ps with
  | nil => exact absurd rfl hne
  | cons p ps ih =>
    by_cases hps : ps = []
    · rw [hps, undotted]
      split <;> exact List.cons_ne_nil _ _
    · rw [undotted_cons hps]
      split
      · exact ih hps
      · exact List.cons_ne_nil _ _

theorem pushAll_eq (hne : ps ≠ []) (hkept : ∀ p ∈ ps, IsKept p) (hpath : path.getLast? = some '/')
    (hdrive : path.length = 1 → ∀ a, ps.find? (· ≠ ['.']) = some [a, '|'] → a.isAlpha = false) :
    pushAll true path ps = path ++ join ['/'] ((undotted ps).map (encode inPathSet)) := by
  induction ps generalizing path with
  | nil => exact absurd rfl hne
  | cons p ps ih =>
    obtain ⟨hp, hrest⟩ := List.forall_mem_cons.mp hkept
    by_cases hps : ps = []
    · subst hps
      by_cases hdot : p = ['.']
      · rw [hdot, pushAll, push_point hpath]
        exact (List.append_nil path).symm
      · have hfirst : path.length = 1 → ∀ a, p = [a, '|'] → a.isAlpha = false := by
          rintro hlength a rfl
          exact hdrive hlength a (by simp)
        rw [pushAll, push_of_isKept hp hdot hfirst, undotted, if_neg hdot]
        simp [join]
    · rw [pushAll_cons hps, undotted_cons hps]
      by_cases hdot : p = ['.']
      · rw [if_pos hdot, hdot, push_point hpath]
        refine ih hps hrest hpath fun hlength a ha => hdrive hlength a ?_
        rw [hdot, List.find?_cons_of_neg (by simp)]
        exact ha
      · have hfirst : path.length = 1 → ∀ a, p = [a, '|'] → a.isAlpha = false := by
          rintro hlength a rfl
          exact hdrive hlength a (by simp)
        have hlonger : (path ++ encode inPathSet p ++ ['/']).length ≠ 1 := by
          have hpos : path ≠ [] := by
            rintro rfl
            cases hpath
          have hlength := List.length_pos_iff.mpr hpos
          rw [List.length_append, List.length_append, List.length_singleton]
          omega
        rw [if_neg hdot, push_of_isKept hp hdot hfirst, if_pos rfl,
          ih hps hrest List.getLast?_concat fun hlength => absurd hlength hlonger, List.map_cons,
          join_cons (by simpa using undotted_ne_nil hps)]
        simp

end Keeping

end RunPlan.Url.PathPart
