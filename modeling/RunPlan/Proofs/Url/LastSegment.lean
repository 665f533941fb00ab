import RunPlan.Proofs.Url.File

/-!
The end of the path of a file URL. Main statement: only a name that the URL keeps is the last name
of the path that the URL means.
-/

set_option autoImplicit false

namespace RunPlan.Url

open RunPlan.Text PathPart

variable {c : Char} {s u p e path : List Char} {ps qs : List (List Char)}

section Pushing

private theorem getLast?_closed (path : List Char) : (closed path).getLast? = some '/' := by
  rw [closed]
  split
  · assumption
  · exact List.getLast?_concat

private theorem getLast?_push (path segment : List Char) :
    (push true path segment true).getLast? = some '/' := by
  rw [push]
  split
  · exact getLast?_closed _
  · split
    · exact getLast?_closed _
    · split <;> exact List.getLast?_concat

private theorem shorten_of_getLast? (h : path.getLast? = some '/') : shorten true path = path := by
  obtain ⟨front, rfl⟩ := List.getLast?_eq_some_iff.mp h
  have hcut : cutSegment (front ++ ['/']) = (front ++ ['/'], []) := by
    rw [cutSegment, cutLast_append_cons List.not_mem_nil]
  have hnone : isNormalDrive [] = false := rfl
  rw [shorten, hcut]
  simp [hnone]

private theorem isNormalDrive_append (front last : List Char) :
    isNormalDrive (front ++ '/' :: last) = false := by
  by_contra hdrive
  simp only [isNormalDrive, isDrive, Bool.not_eq_false, Bool.and_eq_true, decide_eq_true_eq]
    at hdrive
  obtain ⟨⟨hlength, hletter⟩, hcolon⟩ := hdrive
  cases front with
  | nil =>
    obtain ⟨c, rfl⟩ := List.length_eq_one_iff.mp (Nat.succ.inj hlength)
    cases hletter
  | cons b front =>
    have hboth : front = [] ∧ last = [] := by
      simp only [List.length_append, List.length_cons, List.cons_append] at hlength
      exact ⟨List.length_eq_zero_iff.mp (by omega), List.length_eq_zero_iff.mp (by omega)⟩
    rw [hboth.1, hboth.2] at hcolon
    cases hcolon

private theorem not_isDrive (h : startsWithDrive (s ++ ['/']) = false) : isDrive s = false := by
  by_contra hdrive
  simp only [isDrive, Bool.not_eq_false, Bool.and_eq_true, decide_eq_true_eq] at hdrive
  obtain ⟨a, d, rfl⟩ := List.length_eq_two.mp hdrive.1
  have hletter := hdrive.2
  simp only [startsWithDrive, List.head?_nil, Option.all_none, Bool.and_true] at hletter
  simp [startsWithDrive, hletter] at h

private theorem getLast?_shorten (h : path.getLast? = some '/') :
    (shorten true (dropSlash path)).getLast? = some '/' := by
  rw [dropSlash, if_pos h]
  split
  · next before last hcut =>
    split
    · rwa [shorten_of_getLast? h]
    · next hdrive =>
      obtain ⟨hpath, hslash⟩ := cutLast_eq_some_iff.mp hcut
      have hsegment : cutSegment (before ++ '/' :: last) = (before ++ ['/'], last) := by
        rw [cutSegment, cutLast_append_cons hslash]
      have hnone : isNormalDrive last = false := by
        rw [isNormalDrive, not_isDrive (by simpa using hdrive)]
        rfl
      rw [hpath, shorten, isNormalDrive_append, hsegment]
      simp [hnone]
  · rwa [shorten_of_getLast? h]

private theorem push_cases (h : path.getLast? = some '/') (segment : List Char) :
    ∃ x e, push true path segment false = x ++ '/' :: e ∧
      (e = [] ∨ e = segment ∨ ∃ a, a.isAlpha = true ∧ e = [a, ':']) := by
  have hclosed : ∀ {path : List Char}, path.getLast? = some '/' → ∃ x e, path = x ++ '/' :: e ∧
      (e = [] ∨ e = segment ∨ ∃ a, a.isAlpha = true ∧ e = [a, ':']) := by
    intro path h
    obtain ⟨x, hx⟩ := List.getLast?_eq_some_iff.mp h
    exact ⟨x, [], hx, .inl rfl⟩
  rw [push]
  split
  · exact hclosed (getLast?_shorten h)
  · split
    · exact hclosed (getLast?_closed path)
    · obtain ⟨x, rfl⟩ := List.getLast?_eq_some_iff.mp h
      split
      · next hdrive =>
        rw [Bool.and_eq_true, isDrive_iff] at hdrive
        obtain ⟨-, a, d, rfl, ha, -⟩ := hdrive
        exact ⟨x, [a, ':'], by simp, .inr (.inr ⟨a, ha, rfl⟩)⟩
      · exact ⟨x, segment, by simp, .inr (.inl rfl)⟩

private theorem pushAll_concat (h : path.getLast? = some '/') (qs : List (List Char))
    (p : List Char) :
    ∃ path', path'.getLast? = some '/' ∧
      pushAll true path (qs ++ [p]) = push true path' (encode inPathSet p) false := by
  induction qs generalizing path with
  | nil => exact ⟨path, h, rfl⟩
  | cons q qs ih =>
    rw [List.cons_append, pushAll_cons (by simp)]
    exact ih (getLast?_push _ _)

end Pushing

section Ends

private theorem exists_dropWhile_slash (x : List Char) (he : '/' ∉ e) :
    ∃ y, '/' :: (x ++ '/' :: e).dropWhile (· = '/') = y ++ '/' :: e := by
  rw [List.dropWhile_append]
  split
  · refine ⟨[], ?_⟩
    rw [List.dropWhile_cons_of_pos (by simp), List.nil_append]
    cases e with
    | nil => rfl
    | cons c e =>
      rw [List.dropWhile_cons_of_neg]
      simpa using fun hc : c = '/' => he (hc ▸ List.mem_cons_self)
  · exact ⟨'/' :: x.dropWhile (· = '/'), rfl⟩

private theorem exists_bytesOfPath_eq {r x : List Char} (h : '/' :: r = x ++ '/' :: e)
    (he : '/' ∉ e) :
    ∃ bytes, bytesOfPath r = bytes ++ 0x2F :: decode e := by
  have hslash : bytesOf ['/'] = [0x2F] := by
    rw [bytesOf_eq_utf8]
    rfl
  have hlast : ([e].flatMap fun segment => bytesOf ['/'] ++ decode segment) = 0x2F :: decode e := by
    rw [hslash]
    simp
  rw [bytesOfPath]
  cases x with
  | nil =>
    rw [(List.cons.inj h).2, split_of_notMem he]
    exact ⟨[], hlast⟩
  | cons c x =>
    have hr : r = x ++ '/' :: e := (List.cons.inj h).2
    rw [hr, split_append_cons, split_of_notMem he, List.flatMap_append, hlast]
    exact ⟨_, rfl⟩

private theorem suffix_of_split {text n : List Char} (h : split '/' text = ps ++ [n]) :
    n <:+ text := by
  rcases split_eq_concat_cases h with ⟨-, rfl⟩ | ⟨before, rfl, -⟩
  · exact List.suffix_rfl
  · exact (List.suffix_cons _ _).trans (List.suffix_append _ _)

private theorem utf8_suffix_of_split {text n : List Char} {bytes bytes' : List UInt8}
    (htext : split '/' text = ps ++ [n]) (h : utf8 text = bytes ++ 0x2F :: bytes') :
    utf8 n <:+ bytes' := by
  have hn : (0x2F : UInt8) ∉ utf8 n := fun hmem =>
    not_mem_of_mem_split (htext ▸ List.mem_concat_self)
      (mem_of_mem_utf8 (c := '/') (by decide) hmem)
  refine suffix_of_suffix_append_cons (s := bytes) hn ?_
  obtain ⟨before, hbefore⟩ := suffix_of_split htext
  rw [← h, ← hbefore, utf8_append]
  exact List.suffix_append _ _

private theorem of_split_filePath {text n : List Char}
    (hfile : (ofFilePath u).filePath? = some (utf8 text)) (htext : split '/' text = ps ++ [n])
    (hne : n ≠ []) (hu : split '/' (slashed (u.takeWhile fun c => !endsPath c)) = qs ++ [p]) :
    utf8 n <:+ decode p ∧ ¬ EndsInDrive n := by
  have hstart : (['/'] : List Char).getLast? = some '/' := rfl
  have hp : '/' ∉ p := not_mem_of_mem_split (hu ▸ List.mem_concat_self)
  obtain ⟨path', hpath', hpush⟩ := pushAll_concat hstart qs p
  obtain ⟨x, e, hpushed, he⟩ := push_cases hpath' (encode inPathSet p)
  have hslash : '/' ∉ e := by
    rcases he with rfl | rfl | ⟨a, ha, rfl⟩
    · exact List.not_mem_nil
    · exact slash_notMem_encode hp
    · exact slash_notMem_drive ha (.inl rfl)
  obtain ⟨y, hy⟩ := exists_dropWhile_slash x hslash
  obtain ⟨bytes, hbytes⟩ := exists_bytesOfPath_eq hy hslash
  have hpath : (ofFilePath u).path = '/' :: (x ++ '/' :: e).dropWhile (· = '/') := by
    rw [← hpushed, ← hpush, ← hu]
    rfl
  rcases filePath?_cases rfl hpath with ⟨-, hclosed⟩ | ⟨hends, hopen⟩
  · rw [hclosed, bytesOf_eq_utf8] at hfile
    obtain ⟨t, c, rfl, -, hc⟩ := exists_of_utf8_eq_concat (by decide) (Option.some.inj hfile).symm
    obtain rfl : c = '/' := Char.toNat_inj.mp hc
    rw [split_append_cons] at htext
    exact absurd (List.cons.inj (List.append_inj' htext rfl).2).1.symm hne
  · rw [hopen] at hfile
    have hsuffix : utf8 n <:+ decode e :=
      utf8_suffix_of_split htext ((Option.some.inj hfile).symm.trans hbytes)
    refine ⟨?_, ?_⟩
    · rcases he with rfl | rfl | ⟨a, ha, rfl⟩
      · rw [decode.eq_1, List.suffix_nil] at hsuffix
        exact absurd (utf8_injective (t := []) hsuffix) hne
      · rwa [decode_encode] at hsuffix
      · have hplain : ¬ HasEscape [a, ':'] := by
          rintro ⟨b, c, -, hinfix⟩
          have hlength := hinfix.length_le
          simp at hlength
        rw [hbytes, decode_eq_utf8 hplain, ← List.singleton_append, ← List.append_assoc] at hends
        exact absurd (.of_utf8 (by simp) ha (.inl rfl)) hends
    · rintro ⟨front, a, c, hfront, ha, hmark⟩
      obtain ⟨before, hbefore⟩ := hsuffix
      rw [hbytes, ← hbefore, hfront, utf8_append, ← List.append_assoc, ← List.cons_append,
        ← List.append_assoc] at hends
      exact hends (.of_utf8 (by simp) ha hmark)

end Ends

section Names

variable {n x : List Char}

private theorem suffix_of_split_slashed (h : split '/' (slashed s) = qs ++ [p]) :
    p <:+ s ∧ '\\' ∉ p := by
  have hslash : '/' ∉ p := not_mem_of_mem_split (h ▸ List.mem_concat_self)
  obtain ⟨t, hsuffix, rfl⟩ := List.suffix_map_iff.mp (suffix_of_split h)
  have hback : '\\' ∉ t := fun hmem => hslash (List.mem_map.mpr ⟨'\\', hmem, if_pos rfl⟩)
  have hsame : t.map (fun c => if c = '\\' then '/' else c) = t := slashed_eq_self hback
  rw [hsame]
  exact ⟨hsuffix, hback⟩

private theorem notMem_marks_of_kept (hkept : (p.takeWhile fun c => !endsPath c) = p)
    (hback : '\\' ∉ p)
    (hblank : ∀ c ∈ p, c ∉ ['\t', '\n', '\r']) :
    ∀ c ∈ p, c ∉ ['?', '#', '\\', '\t', '\n', '\r'] := by
  intro c hc hmark
  have hopen : (!endsPath c) = true := List.all_eq_true.mp List.all_takeWhile c (hkept.symm ▸ hc)
  have hcases : endsPath c = true ∨ c = '\\' ∨ c ∈ ['\t', '\n', '\r'] := by
    simp only [List.mem_cons, List.not_mem_nil, or_false] at hmark ⊢
    rcases hmark with rfl | rfl | hmark
    · exact .inl rfl
    · exact .inl rfl
    · exact .inr hmark
  rcases hcases with hends | rfl | hmark
  · rw [hends] at hopen
    cases hopen
  · exact hback hc
  · exact hblank c hc hmark

theorem isKeptText_of_split_filePath {text : List Char}
    (hx : ∀ c ∈ x, c ∉ ['?', '#', '\\', '\t', '\n', '\r']) (hslash : '/' ∉ n) (hne : n ≠ [])
    (hstep : n ≠ ['.', '.'])
    (hfile : (ofFilePath (x ++ '/' :: cleaned n)).filePath? = some (utf8 text))
    (htext : split '/' text = ps ++ [n]) : IsKeptText n := by
  have hwhole : (x ++ '/' :: cleaned n).takeWhile (fun c => !endsPath c) =
      x ++ '/' :: (cleaned n).takeWhile (fun c => !endsPath c) := by
    rw [takeWhile_endsPath_append fun c hc hmem =>
      hx c hc (List.mem_append_left ['\\', '\t', '\n', '\r'] hmem)]
    rfl
  have hslashed : slashed (x ++ '/' :: (cleaned n).takeWhile (fun c => !endsPath c)) =
      x ++ '/' :: slashed ((cleaned n).takeWhile (fun c => !endsPath c)) := by
    rw [slashed, List.map_append, ← slashed, slashed_eq_self fun hmem => hx _ hmem (by decide)]
    rfl
  obtain ⟨qs, p, hp⟩ := (List.eq_nil_or_concat' _).resolve_left
    (split_ne_nil '/' (slashed ((cleaned n).takeWhile (fun c => !endsPath c))))
  have hpieces : split '/' (slashed ((x ++ '/' :: cleaned n).takeWhile fun c => !endsPath c)) =
      split '/' x ++ qs ++ [p] := by
    rw [hwhole, hslashed, split_append_cons, hp, List.append_assoc]
  obtain ⟨hsuffix, hdrive⟩ := of_split_filePath hfile htext hne hpieces
  obtain ⟨hend, hback⟩ := suffix_of_split_slashed hp
  -- Each step of reading leaves at most what there was; if all of the name is left, none took any.
  have hcut : ((cleaned n).takeWhile fun c => !endsPath c).Sublist (cleaned n) :=
    List.takeWhile_sublist _
  have hbytes : (utf8 n).length ≤ (utf8 p).length :=
    hsuffix.length_le.trans (length_decode_le p)
  have hsub : p.Sublist n := (hend.sublist.trans hcut).trans (cleaned_sublist n)
  obtain rfl : p = n := utf8_injective ((utf8_sublist hsub).eq_of_length_le hbytes)
  have hcleaned : cleaned p = p := (cleaned_sublist p).antisymm (hend.sublist.trans hcut)
  rw [hcleaned] at hcut hend
  have hkept : (p.takeWhile fun c => !endsPath c) = p := hcut.antisymm hend.sublist
  obtain ⟨hlast, hblank⟩ := cleaned_eq_self_iff.mp hcleaned
  refine ⟨notMem_marks_of_kept hkept hback hblank, hlast, fun hescape => ?_, ?_, hdrive⟩
  · rcases decode_cases p with ⟨hnone, -⟩ | ⟨-, hshort⟩
    · exact hnone hescape
    · exact absurd hsuffix.length_le (Nat.not_le_of_lt hshort)
  · rw [split_of_notMem hslash, List.mem_singleton]
    exact hstep.symm

end Names

end RunPlan.Url
