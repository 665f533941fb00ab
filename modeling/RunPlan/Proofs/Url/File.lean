import RunPlan.Url.Parse
import RunPlan.Proofs.Text.Trimming
import RunPlan.Proofs.Url.PathPart

/-!
URLs of files. Main statement: a path whose segments a URL keeps is the path that its URL means, but
for segments that stay in the directory.
-/

set_option autoImplicit false

namespace RunPlan.Url

open RunPlan.Text PathPart

variable {c : Char} {s u p body front : List Char} {ps segments : List (List Char)}

section Significance

def isOuter (c : Char) : Bool := c.toNat ≤ 0x20

def cleaned (body : List Char) : List Char :=
  (body.rdropWhile isOuter).filter fun c => !(['\t', '\n', '\r'].contains c)

private theorem significant_file (body : List Char) :
    significant ("file:".toList ++ body) = "file:".toList ++ cleaned body := by
  have hform : significant ("file:".toList ++ body) =
      (("file".toList ++ ':' :: body).rdropWhile isOuter).filter
        fun c => !(['\t', '\n', '\r'].contains c) := rfl
  have hcolon : isOuter ':' = false := rfl
  rw [hform, rdropWhile_append_cons hcolon, List.filter_append]
  rfl

theorem cleaned_sublist (body : List Char) : (cleaned body).Sublist body :=
  List.filter_sublist.trans (List.rdropWhile_prefix _ _).sublist

theorem cleaned_eq_self_iff : cleaned body = body ↔
    (∀ c, body.getLast? = some c → 0x20 < c.toNat) ∧ ∀ c ∈ body, c ∉ ['\t', '\n', '\r'] := by
  have htrim : body.rdropWhile isOuter = body ↔ ∀ c, body.getLast? = some c → 0x20 < c.toNat := by
    rw [List.rdropWhile_eq_self_iff]
    constructor
    · intro h c hc
      have hne : body ≠ [] := by
        rintro rfl
        cases hc
      have hlast := h hne
      rw [List.getLast_of_getLast?_eq_some hc] at hlast
      simpa [isOuter] using hlast
    · intro h hne
      simpa [isOuter] using h _ (List.getLast?_eq_some_getLast hne)
  have hkeep : ∀ s : List Char, s.filter (fun c => !(['\t', '\n', '\r'].contains c)) = s ↔
      ∀ c ∈ s, c ∉ ['\t', '\n', '\r'] := by
    intro s
    rw [List.filter_eq_self]
    simp
  constructor
  · intro h
    have hwhole : body.rdropWhile isOuter = body := by
      refine (List.rdropWhile_prefix _ _).sublist.antisymm ?_
      have hfilter : (cleaned body).Sublist (body.rdropWhile isOuter) := List.filter_sublist
      rwa [h] at hfilter
    rw [cleaned, hwhole] at h
    exact ⟨htrim.mp hwhole, (hkeep body).mp h⟩
  · rintro ⟨hend, hblank⟩
    rw [cleaned, htrim.mpr hend, (hkeep body).mpr hblank]

theorem cleaned_append (hfront : ∀ c ∈ front, c ∉ ['\t', '\n', '\r']) (s : List Char) :
    cleaned (front ++ '/' :: s) = front ++ '/' :: cleaned s := by
  have hkeep : front.filter (fun c => !(['\t', '\n', '\r'].contains c)) = front := by
    refine List.filter_eq_self.mpr fun c hc => ?_
    simpa using hfront c hc
  have hslash : isOuter '/' = false := rfl
  rw [cleaned, rdropWhile_append_cons hslash, List.filter_append, hkeep]
  rfl

end Significance

section Parsing

/-- What a URL of a file is read as, up to what stands behind its path. -/
def ofFilePath (u : List Char) : Url :=
  let ending := readEnd true (u.dropWhile fun c => !endsPath c)
  ⟨"file", some ⟨[], none, none⟩,
    '/' :: (pushAll true ['/'] (split '/' (slashed (u.takeWhile fun c => !endsPath c)))).dropWhile
      (· = '/'),
    ending.1, ending.2⟩

theorem readFile_eq (hslash : u.head? ≠ some '/') (hback : u.head? ≠ some '\\') :
    readFile ('/' :: u) = .ok (ofFilePath u) := by
  have hread : PathPart.read true true ['/'] u =
      (pushAll true ['/'] (split '/' (slashed (u.takeWhile fun c => !endsPath c))),
        u.dropWhile fun c => !endsPath c) :=
    readFrom_eq (Nat.lt_succ_self _)
  have hfirst : isSlash '/' = true := rfl
  cases u with
  | nil =>
    rw [readFile]
    · simp only [pure_bind, hfirst, if_true, hread, ite_self]
      rfl
    · nofun
  | cons b r =>
    have hb : isSlash b = false := by
      simp only [List.head?_cons, ne_eq, Option.some.injEq] at hslash hback
      simp [isSlash, hslash, hback]
    have hhost : ¬ (isSlash '/' && isSlash b) = true := by
      rw [hfirst, hb]
      exact Bool.false_ne_true
    rw [readFile, if_neg hhost]
    simp only [pure_bind, hfirst, if_true, hread, ite_self]
    rfl

theorem parse_file (hclean : cleaned body = '/' :: u) (hslash : u.head? ≠ some '/')
    (hback : u.head? ≠ some '\\') :
    parse (String.ofList ("file:".toList ++ body)) = .ok (ofFilePath u) := by
  have hscheme : readScheme? ("file:".toList ++ '/' :: u) = some ("file", '/' :: u) := by
    rfl
  rw [parse, String.toList_ofList, significant_file, hclean, hscheme]
  exact readFile_eq hslash hback

end Parsing

section Segments

theorem slash_notMem_encode (h : '/' ∉ s) : '/' ∉ encode inPathSet s := by
  have hdigit : ∀ n < 16, upperHexDigit n ≠ '/' := by decide
  intro hmem
  obtain ⟨c, hc, hmem⟩ := List.mem_flatMap.mp hmem
  rcases encodeChar_cases c with ⟨-, hencoded⟩ | hplain
  · rw [hencoded] at hmem
    obtain ⟨byte, -, hbyte⟩ := List.mem_flatMap.mp hmem
    have hlt : byte.toNat < 256 := UInt8.toNat_lt_size byte
    simp only [encodeByte, List.mem_cons, List.not_mem_nil, or_false] at hbyte
    rcases hbyte with hbyte | hbyte | hbyte
    · cases hbyte
    · exact hdigit _ (by omega) hbyte.symm
    · exact hdigit _ (by omega) hbyte.symm
  · rw [hplain, List.mem_singleton] at hmem
    exact h (hmem ▸ hc)

/-- Pieces without those at the start that are empty; the last one stays. -/
def dropEmpty : List (List Char) → List (List Char)
  | [] :: p :: ps => dropEmpty (p :: ps)
  | ps => ps

theorem split_dropWhile_slash (s : List Char) :
    split '/' (s.dropWhile (· = '/')) = dropEmpty (split '/' s) := by
  induction s with
  | nil => rfl
  | cons c s ih =>
    obtain ⟨p, ps, hps⟩ := List.exists_cons_of_ne_nil (split_ne_nil '/' s)
    by_cases hc : c = '/'
    · rw [List.dropWhile_cons_of_pos (by simpa using hc), ih, split, if_pos hc, hps, dropEmpty]
    · rw [List.dropWhile_cons_of_neg (by simpa using hc), split, if_neg hc, hps, dropEmpty]
      exact fun _ _ h => absurd (List.cons.inj h).1 (List.cons_ne_nil _ _)

private theorem dropEmpty_map_encode (ps : List (List Char)) :
    dropEmpty (ps.map (encode inPathSet)) = (dropEmpty ps).map (encode inPathSet) := by
  fun_induction dropEmpty ps with
  | case1 p ps ih => exact ih
  | case2 ps hbusy =>
    rw [dropEmpty]
    intro q qs hmap
    obtain ⟨p, ps, rfl, hp, hps⟩ := List.map_eq_cons_iff.mp hmap
    obtain ⟨p', ps, rfl, -, -⟩ := List.map_eq_cons_iff.mp hps
    exact hbusy p' ps (congrArg (· :: _) (encode_eq_nil_iff.mp hp))

end Segments

section Places

def bytesOfPath (r : List Char) : List UInt8 :=
  (split '/' r).flatMap fun segment => bytesOf ['/'] ++ decode segment

/-- The letter of a drive and one of its marks at the end of a text. -/
def EndsInDrive (s : List Char) : Prop :=
  ∃ front a c, s = front ++ [a, c] ∧ a.isAlpha = true ∧ (c = ':' ∨ c = '|')

private theorem endsInDrive_iff : EndsInDrive s ↔ isDrive (s.drop (s.length - 2)) = true := by
  rw [isDrive_iff]
  constructor
  · rintro ⟨front, a, c, rfl, hdrive⟩
    exact ⟨a, c, by simp, hdrive⟩
  · rintro ⟨a, c, hend, hdrive⟩
    refine ⟨s.take (s.length - 2), a, c, ?_, hdrive⟩
    rw [← hend, List.take_append_drop]

instance (s : List Char) : Decidable (EndsInDrive s) := decidable_of_iff _ endsInDrive_iff.symm

/-- The same for the bytes of a path, with something in front. -/
def EndsInDriveBytes (bytes : List UInt8) : Prop :=
  ∃ front c d, bytes = front ++ [c, d] ∧ front ≠ [] ∧
    ((0x41 ≤ c ∧ c ≤ 0x5A) ∨ (0x61 ≤ c ∧ c ≤ 0x7A)) ∧ (d = 0x3A ∨ d = 0x7C)

private theorem isAlpha_iff_toNat : c.isAlpha = true ↔
    (0x41 ≤ c.toNat ∧ c.toNat ≤ 0x5A) ∨ (0x61 ≤ c.toNat ∧ c.toNat ≤ 0x7A) := by
  have hletter : c.isAlpha = (decide (0x41 ≤ c.val ∧ c.val ≤ 0x5A) ||
      (decide (0x61 ≤ c.val) && decide (c.val ≤ 0x7A))) := rfl
  rw [hletter]
  simp [UInt32.le_iff_toNat_le]

theorem slash_notMem_drive {a : Char} (ha : a.isAlpha = true) (hc : c = ':' ∨ c = '|') :
    '/' ∉ [a, c] := by
  simp only [List.mem_cons, List.not_mem_nil, or_false, not_or]
  refine ⟨?_, ?_⟩
  · rintro rfl
    cases ha
  · rintro rfl
    rcases hc with hc | hc <;> cases hc

theorem EndsInDriveBytes.of_utf8 {front : List UInt8} {a c : Char} (hne : front ≠ [])
    (ha : a.isAlpha = true) (hc : c = ':' ∨ c = '|') : EndsInDriveBytes (front ++ utf8 [a, c]) := by
  have hletter := isAlpha_iff_toNat.mp ha
  have hbyte : (UInt8.ofNat a.toNat).toNat = a.toNat := by
    rw [UInt8.toNat_ofNat', Nat.mod_eq_of_lt (by omega)]
  have hbytes : utf8 [a, c] = [UInt8.ofNat a.toNat, UInt8.ofNat c.toNat] := by
    have hsmall : c.toNat < 0x80 := by rcases hc with rfl | rfl <;> decide
    rw [utf8_cons, utf8_cons, utf8EncodeChar_of_lt (by omega), utf8EncodeChar_of_lt hsmall]
    rfl
  refine ⟨front, _, _, congrArg (front ++ ·) hbytes, hne, ?_, ?_⟩
  · simp only [UInt8.le_iff_toNat_le, hbyte]
    exact hletter
  · rcases hc with rfl | rfl
    · exact .inl rfl
    · exact .inr rfl

private theorem endsInDriveBytes_utf8_iff : EndsInDriveBytes (utf8 ('/' :: s)) ↔ EndsInDrive s := by
  constructor
  · rintro ⟨front, c, d, hbytes, -, hletter, hmark⟩
    simp only [UInt8.le_iff_toNat_le] at hletter
    have hd : d.toNat < 0x80 := by
      rcases hmark with rfl | rfl <;> decide
    have hc : c.toNat < 0x80 := by
      rcases hletter with ⟨-, h⟩ | ⟨-, h⟩
      · exact Nat.lt_of_le_of_lt h (by decide)
      · exact Nat.lt_of_le_of_lt h (by decide)
    have hconcat : front ++ [c, d] = front ++ [c] ++ [d] := by simp
    rw [hconcat] at hbytes
    obtain ⟨t, x, ht, hfront, hx⟩ := exists_of_utf8_eq_concat hd hbytes
    obtain ⟨t', a, rfl, -, ha⟩ := exists_of_utf8_eq_concat hc hfront
    have halpha : a.isAlpha = true := isAlpha_iff_toNat.mpr (ha ▸ hletter)
    have hx' : x = ':' ∨ x = '|' := by
      rcases hmark with rfl | rfl
      · exact .inl (Char.toNat_inj.mp hx)
      · exact .inr (Char.toNat_inj.mp hx)
    cases t' with
    | nil =>
      obtain ⟨rfl, -⟩ := List.cons.inj ht
      cases halpha
    | cons c' t' =>
      refine ⟨t', a, x, ?_, halpha, hx'⟩
      simpa using (List.cons.inj ht).2
  · rintro ⟨front, a, c, rfl, ha, hc⟩
    rw [← List.cons_append, utf8_append]
    exact .of_utf8 (by rw [utf8_cons]; exact List.cons_ne_nil _ _) ha hc

theorem filePath?_cases {url : Url} {r : List Char}
    (hhost : url.authority?.bind Authority.host? = none) (hpath : url.path = '/' :: r) :
    (EndsInDriveBytes (bytesOfPath r) ∧ url.filePath? = some (bytesOfPath r ++ bytesOf ['/'])) ∨
      (¬ EndsInDriveBytes (bytesOfPath r) ∧ url.filePath? = some (bytesOfPath r)) := by
  rw [filePath?, hhost, hpath]
  simp only []
  rw [← bytesOfPath]
  generalize bytesOfPath r = bytes
  split
  · next d c b front hreverse =>
    have hbytes : bytes = (b :: front).reverse ++ [c, d] := by
      rw [← List.reverse_reverse bytes, hreverse]
      simp
    have hdrive : EndsInDriveBytes bytes ↔
        ((decide (0x41 ≤ c) && decide (c ≤ 0x5A) || decide (0x61 ≤ c) && decide (c ≤ 0x7A)) &&
          (decide (d = 0x3A) || decide (d = 0x7C))) = true := by
      rw [hbytes]
      constructor
      · rintro ⟨front', c', d', hends, -, hletter, hmark⟩
        obtain ⟨-, hlast⟩ := List.append_inj' hends rfl
        simp only [List.cons.injEq, and_true] at hlast
        rw [hlast.1, hlast.2]
        simpa using ⟨hletter, hmark⟩
      · intro h
        refine ⟨_, c, d, rfl, by simp, ?_⟩
        simpa using h
    by_cases h : EndsInDriveBytes bytes
    · exact .inl ⟨h, congrArg some (if_pos (hdrive.mp h))⟩
    · exact .inr ⟨h, congrArg some (if_neg fun hcond => h (hdrive.mpr hcond))⟩
  · next hshort =>
    refine .inr ⟨?_, rfl⟩
    rintro ⟨front, c, d, rfl, hne, -⟩
    obtain ⟨init, b, rfl⟩ := (List.eq_nil_or_concat' front).resolve_left hne
    exact hshort d c b init.reverse (by simp)

end Places

section Keeping

/-- A text behind the first slash of which a URL keeps all segments, but for those that stay in the
directory. -/
structure IsKeptText (s : List Char) : Prop where
  no_mark : ∀ c ∈ s, c ∉ ['?', '#', '\\', '\t', '\n', '\r']
  end_shown : ∀ c ∈ s.getLast?, 0x20 < c.toNat
  no_escape : ¬ HasEscape s
  no_step : ['.', '.'] ∉ split '/' s
  no_drive : ¬ EndsInDrive s

private theorem isKeptText_iff : IsKeptText s ↔
    s.all (fun c => c ∉ ['?', '#', '\\', '\t', '\n', '\r']) = true ∧
      s.getLast?.all (fun c => 0x20 < c.toNat) = true ∧ ¬ HasEscape s ∧ ['.', '.'] ∉ split '/' s ∧
        ¬ EndsInDrive s := by
  rw [List.all_eq_true, Option.all_eq_true]
  simp only [decide_eq_true_eq]
  exact ⟨fun ⟨hmark, hend, hescape, hstep, hdrive⟩ => ⟨hmark, hend, hescape, hstep, hdrive⟩,
    fun ⟨hmark, hend, hescape, hstep, hdrive⟩ => ⟨hmark, hend, hescape, hstep, hdrive⟩⟩

instance (s : List Char) : Decidable (IsKeptText s) := decidable_of_iff _ isKeptText_iff.symm

private theorem IsKeptText.not_ends (h : IsKeptText s) : ∀ c ∈ s, c ∉ ['?', '#'] :=
  fun c hc hmem => h.no_mark c hc (List.mem_append_left ['\\', '\t', '\n', '\r'] hmem)

private theorem IsKeptText.isKept (h : IsKeptText s) (hp : p ∈ split '/' s) : IsKept p := by
  refine ⟨?_, ?_⟩
  · rintro ⟨a, b, hpair, hinfix⟩
    exact h.no_escape ⟨a, b, hpair, hinfix.trans (infix_of_mem_split hp)⟩
  · rintro rfl
    exact h.no_step hp

private theorem dropEmpty_ne_nil (hne : ps ≠ []) : dropEmpty ps ≠ [] := by
  fun_induction dropEmpty ps with
  | case1 p ps ih => exact ih (List.cons_ne_nil _ _)
  | case2 ps => exact hne

private theorem mem_of_mem_dropEmpty (h : p ∈ dropEmpty ps) : p ∈ ps := by
  fun_induction dropEmpty ps with
  | case1 q ps ih => exact List.mem_cons_of_mem _ (ih h)
  | case2 ps => exact h

private theorem getLast?_dropEmpty (ps : List (List Char)) :
    (dropEmpty ps).getLast? = ps.getLast? := by
  fun_induction dropEmpty ps with
  | case1 p ps ih => rw [ih, List.getLast?_cons_cons]
  | case2 ps => rfl

private theorem bytesOfPath_eq (hne : ps ≠ []) (hslash : ∀ p ∈ ps, '/' ∉ p)
    (hdecode : ∀ p ∈ ps, decode (encode inPathSet p) = utf8 p) :
    bytesOfPath (join ['/'] (ps.map (encode inPathSet))) = utf8 ('/' :: join ['/'] ps) := by
  have hsplit : split '/' (join ['/'] (ps.map (encode inPathSet))) = ps.map (encode inPathSet) := by
    refine split_join (by simpa using hne) fun q hq => ?_
    obtain ⟨p, hp, rfl⟩ := List.mem_map.mp hq
    exact slash_notMem_encode (hslash p hp)
  have hjoin : '/' :: join ['/'] ps = ps.flatMap fun p => ['/'] ++ p := by
    obtain ⟨p, ps, rfl⟩ := List.exists_cons_of_ne_nil hne
    rw [join_cons_eq_flatMap]
    rfl
  rw [bytesOfPath, hsplit, hjoin, utf8, List.flatMap_map, List.flatMap_assoc]
  refine List.flatMap_congr fun p hp => ?_
  rw [hdecode p hp, bytesOf_eq_utf8, ← utf8_append]
  rfl

private theorem mem_undotted (h : p ∈ undotted ps) : p = [] ∨ p ∈ ps := by
  induction ps with
  | nil => cases h
  | cons q ps ih =>
    by_cases hps : ps = []
    · subst hps
      rw [undotted] at h
      split at h
      · exact .inl (List.mem_singleton.mp h)
      · exact .inr h
    · rw [undotted_cons hps] at h
      split at h
      · exact (ih h).imp_right (List.mem_cons_of_mem _)
      · rcases List.mem_cons.mp h with rfl | h
        · exact .inr List.mem_cons_self
        · exact (ih h).imp_right (List.mem_cons_of_mem _)

private theorem getLast?_undotted (h : (undotted ps).getLast? = some p) :
    p = [] ∨ ps.getLast? = some p := by
  induction ps with
  | nil => cases h
  | cons q ps ih =>
    by_cases hps : ps = []
    · subst hps
      rw [undotted] at h
      split at h
      · exact .inl (Option.some.inj h).symm
      · exact .inr h
    · obtain ⟨q', ps', rfl⟩ := List.exists_cons_of_ne_nil hps
      rw [List.getLast?_cons_cons]
      rw [undotted_cons hps] at h
      split at h
      · exact ih h
      · obtain ⟨r, rs, hrs⟩ := List.exists_cons_of_ne_nil (undotted_ne_nil hps)
        rw [hrs, List.getLast?_cons_cons, ← hrs] at h
        exact ih h

def segmentsOf (s : List Char) : List (List Char) := dropEmpty (undotted (split '/' s))

private theorem segmentsOf_ne_nil (s : List Char) : segmentsOf s ≠ [] :=
  dropEmpty_ne_nil (undotted_ne_nil (split_ne_nil '/' s))

private theorem mem_segmentsOf (h : p ∈ segmentsOf s) : p = [] ∨ p ∈ split '/' s :=
  mem_undotted (mem_of_mem_dropEmpty h)

private theorem slash_notMem_of_mem_segmentsOf (h : p ∈ segmentsOf s) : '/' ∉ p := by
  rcases mem_segmentsOf h with rfl | h
  · nofun
  · exact not_mem_of_mem_split h

theorem split_join_segmentsOf (s : List Char) :
    split '/' (join ['/'] (segmentsOf s)) = segmentsOf s :=
  split_join (segmentsOf_ne_nil s) fun _ => slash_notMem_of_mem_segmentsOf

private theorem suffix_of_getLast? (h : (segmentsOf s).getLast? = some p) : p <:+ s := by
  rw [segmentsOf, getLast?_dropEmpty] at h
  rcases getLast?_undotted h with rfl | h
  · exact List.nil_suffix
  · obtain ⟨front, hfront⟩ := List.getLast?_eq_some_iff.mp h
    rcases split_eq_concat_cases hfront with ⟨-, rfl⟩ | ⟨before, rfl, -⟩
    · exact List.suffix_rfl
    · exact (List.suffix_cons _ _).trans (List.suffix_append _ _)

private theorem not_endsInDriveBytes (h : IsKeptText u) :
    ¬ EndsInDriveBytes (utf8 ('/' :: join ['/'] (segmentsOf u))) := by
  rw [endsInDriveBytes_utf8_iff]
  rintro ⟨front, a, c, hends, ha, hc⟩
  obtain ⟨qs, q, hqs⟩ := (List.eq_nil_or_concat' _).resolve_left (segmentsOf_ne_nil u)
  have hsuffix : q <:+ u := suffix_of_getLast? (by rw [hqs]; exact List.getLast?_concat)
  have hsplit := split_join_segmentsOf u
  rw [hends] at hsplit
  have hlast : [a, c] <:+ q := by
    rcases split_eq_concat_cases (hsplit.trans hqs) with ⟨-, hq⟩ | ⟨before, hbefore, -⟩
    · exact ⟨front, hq⟩
    · exact suffix_of_suffix_append_cons (slash_notMem_drive ha hc) ⟨front, hbefore⟩
  obtain ⟨start, hstart⟩ := hlast.trans hsuffix
  exact h.no_drive ⟨start, a, c, hstart.symm, ha, hc⟩

private theorem path_ofFilePath (h : IsKeptText u)
    (hdrive : ∀ a, (split '/' u).find? (· ≠ ['.']) = some [a, '|'] → a.isAlpha = false) :
    (ofFilePath u).path = '/' :: join ['/'] ((segmentsOf u).map (encode inPathSet)) := by
  have hwhole : u.takeWhile (fun c => !endsPath c) = u := by
    have happend := takeWhile_endsPath_append h.not_ends []
    rwa [List.append_nil, List.takeWhile_nil, List.append_nil] at happend
  have hslashed : slashed u = u := slashed_eq_self fun hmem => h.no_mark _ hmem (by decide)
  have hstart : (['/'] : List Char).getLast? = some '/' := rfl
  have hpushed := pushAll_eq (split_ne_nil '/' u) (fun p hp => h.isKept hp) hstart fun _ => hdrive
  have hpath : (ofFilePath u).path = '/' :: (pushAll true ['/']
      (split '/' (slashed (u.takeWhile fun c => !endsPath c)))).dropWhile (· = '/') := rfl
  have hencoded : split '/' (join ['/'] ((undotted (split '/' u)).map (encode inPathSet))) =
      (undotted (split '/' u)).map (encode inPathSet) := by
    refine split_join (by simpa using undotted_ne_nil (split_ne_nil '/' u)) fun q hq => ?_
    obtain ⟨p, hp, rfl⟩ := List.mem_map.mp hq
    refine slash_notMem_encode ?_
    rcases mem_undotted hp with rfl | hp
    · nofun
    · exact not_mem_of_mem_split hp
  rw [hpath, hwhole, hslashed, hpushed, List.singleton_append, List.dropWhile_cons_of_pos rfl,
    ← join_split '/' (List.dropWhile _ _), split_dropWhile_slash, hencoded, dropEmpty_map_encode]
  rfl

/-- The path that a URL of a file means. -/
theorem filePath?_of_isKeptText (h : IsKeptText u)
    (hdrive : ∀ a, (split '/' u).find? (· ≠ ['.']) = some [a, '|'] → a.isAlpha = false) :
    (ofFilePath u).filePath? = some (utf8 ('/' :: join ['/'] (segmentsOf u))) := by
  have hbytes : bytesOfPath (join ['/'] ((segmentsOf u).map (encode inPathSet))) =
      utf8 ('/' :: join ['/'] (segmentsOf u)) := by
    refine bytesOfPath_eq (segmentsOf_ne_nil u) (fun p => slash_notMem_of_mem_segmentsOf) ?_
    intro p hp
    rcases mem_segmentsOf hp with rfl | hp
    · exact decode.eq_1
    · exact decode_encode_of_isKept (h.isKept hp)
  rcases filePath?_cases rfl (path_ofFilePath h hdrive) with ⟨hends, -⟩ | ⟨-, heq⟩
  · rw [hbytes] at hends
    exact absurd hends (not_endsInDriveBytes h)
  · rw [heq, hbytes]

end Keeping

end RunPlan.Url
