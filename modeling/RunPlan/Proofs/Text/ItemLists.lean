import RunPlan.Text.ItemList
import RunPlan.Proofs.Text.Splitting

/-!
Item lists as texts. Main statements: joined texts list what each of them lists, in order; so items
are given back by their list exactly if each of them is an item, which is to say that nothing would
be trimmed off it and that it cannot be taken for two.
-/

set_option autoImplicit false

namespace RunPlan.Text

/-- A text that stands for itself in an item list: not empty, without white space at its ends and
without a comma. -/
structure IsItem (item : String) : Prop where
  tight : IsTight item.toList
  comma : ',' ∉ item.toList

private theorem trim_trim (s : List Char) : trim (trim s) = trim s := by
  calc trim (trimEnd (trimStart s)) = trim (trimStart s) := trim_trimEnd _
    _ = trim s := trim_trimStart s

private theorem mem_of_mem_trim {c : Char} {s : List Char} (h : c ∈ trim s) : c ∈ s :=
  (List.dropWhile_sublist isBlank).subset (mem_of_mem_trimEnd h)

private theorem splitList_append (front back : String) :
    splitList (front ++ ", " ++ back) = splitList front ++ splitList back := by
  have htext : (front ++ ", " ++ back).toList = front.toList ++ ',' :: ' ' :: back.toList := by simp
  rw [splitList, htext, split_append_cons, List.map_append, map_trim_split_cons rfl rfl,
    List.filter_append, List.map_append]
  rfl

theorem splitList_joinList (items : List String) :
    splitList (joinList items) = items.flatMap splitList := by
  induction items with
  | nil => rfl
  | cons item items ih =>
    cases items with
    | nil => rw [joinList, String.intercalate_singleton, List.flatMap_singleton]
    | cons next items =>
      rw [joinList, String.intercalate_cons_cons, splitList_append, ← joinList, ih,
        ← List.flatMap_cons]

private theorem isItem_of_mem_splitList {item value : String} (h : item ∈ splitList value) :
    IsItem item := by
  obtain ⟨text, htext, rfl⟩ := List.mem_map.mp h
  obtain ⟨hpiece, hne⟩ := List.mem_filter.mp htext
  obtain ⟨piece, hmem, rfl⟩ := List.mem_map.mp hpiece
  constructor
  · rw [String.toList_ofList]
    exact isTight_iff.mpr ⟨by simpa using hne, trim_trim piece⟩
  · rw [String.toList_ofList]
    exact fun hcomma => not_mem_of_mem_split hmem (mem_of_mem_trim hcomma)

private theorem IsItem.splitList_eq {item : String} (h : IsItem item) :
    splitList item = [item] := by
  have hne : (item.toList.isEmpty) = false := by simpa using h.tight.nonempty
  simp [splitList, split_of_notMem h.comma, h.tight.trim_eq, hne]

theorem flatMap_splitList_eq_self_iff {items : List String} :
    items.flatMap splitList = items ↔ ∀ item ∈ items, IsItem item := by
  constructor
  · intro h item hitem
    rw [← h] at hitem
    obtain ⟨value, -, hmem⟩ := List.mem_flatMap.mp hitem
    exact isItem_of_mem_splitList hmem
  · intro h
    induction items with
    | nil => rfl
    | cons item items ih =>
      obtain ⟨hitem, hitems⟩ := List.forall_mem_cons.mp h
      rw [List.flatMap_cons, hitem.splitList_eq, ih hitems, List.singleton_append]

end RunPlan.Text
