import RunPlan.Proofs.Definition.Expansion
import RunPlan.Proofs.Text.ItemLists

/-!
Sequences in a definition and the lists that descriptors give. Main statement: a sequence of texts
under the key of a list is given back, item for item, exactly if each text is an item, by every
descriptor whose candidate does not bind the key; a later key with the same text stands in for it.
-/

set_option autoImplicit false

namespace RunPlan.Definition

open RunPlan.Text RunPlan.Yaml RunPlan.Template

/-- The keys whose values list items, each with the list that a descriptor gives for it. -/
def itemLists : List (String × (Descriptor → List String)) :=
  [(Key.queryNames, Descriptor.queryNames), (Key.beforeBenchmark, Descriptor.beforeBenchmark),
    (Key.afterBenchmark, Descriptor.afterBenchmark),
    (Key.beforeExecution, Descriptor.beforeExecution),
    (Key.afterExecution, Descriptor.afterExecution)]

def listing (key : String) (items : List String) : Value × Value :=
  (.string key, .sequence (items.map .string))

/-- Each descriptor whose candidate does not bind the key lists what the items list, and so the
items themselves exactly if each of them is one. -/
def GivesBack (definition : Mapping) (key : String) (list : Descriptor → List String)
    (items : List String) : Prop :=
  ∀ cs ds, candidates definition = .ok cs → descriptors definition = .ok ds →
    List.Forall₂ (fun candidate d => key ∉ candidate.keys →
      list d = items.flatMap splitList ∧ (list d = items ↔ ∀ item ∈ items, IsItem item)) cs ds

section ItemLists

variable {definition before after : Mapping} {key : String} {list : Descriptor → List String}
  {items : List String}

private theorem list_of_mem_itemLists (h : (key, list) ∈ itemLists) :
    key ≠ Key.groups ∧ list = fun d => d.list key := by
  simp only [itemLists, List.mem_cons, Prod.mk.injEq, List.not_mem_nil, or_false] at h
  rcases h with ⟨rfl, rfl⟩ | ⟨rfl, rfl⟩ | ⟨rfl, rfl⟩ | ⟨rfl, rfl⟩ | ⟨rfl, rfl⟩ <;>
    exact ⟨by decide, rfl⟩

private theorem itemTexts_string (items : List String) : itemTexts (items.map .string) = items := by
  induction items with
  | nil => rfl
  | cons item items ih => simp [itemTexts, Value.text?, ih]

private theorem lookup_otherTexts (hkey : key ≠ Key.groups)
    (hafter : ∀ e ∈ after, e.1.text? = some key → e.2.text? = none) :
    (otherTexts (before ++ listing key items :: after)).reverse.lookup key =
      some (joinList items) := by
  have hparts : otherTexts (before ++ listing key items :: after) =
      otherTexts before ++ (key, joinList items) :: otherTexts after := by
    simp [otherTexts, listing, Value.text?, itemTexts_string, hkey]
  have hlater : (otherTexts after).reverse.lookup key = none := by
    rw [List.lookup_eq_none_iff]
    intro pair hpair
    obtain ⟨hpair, -⟩ := List.mem_filter.mp (List.mem_reverse.mp hpair)
    obtain ⟨e, he, htexts⟩ := List.mem_filterMap.mp hpair
    obtain ⟨name, hname, htext⟩ := Option.bind_eq_some_iff.mp htexts
    obtain ⟨text, htext, rfl⟩ := Option.map_eq_some_iff.mp htext
    have hne : name ≠ key := by
      rintro rfl
      rw [hafter e he hname] at htext
      cases htext
    simpa using fun h => hne h.symm
  rw [hparts, List.reverse_append, List.reverse_cons, List.append_assoc, List.lookup_append,
    hlater, Option.none_or, List.singleton_append, List.lookup_cons_self]

private theorem get?_of_describe {candidate : Variables} {d : Descriptor} {value : String}
    (h : describe (complete (globals definition) candidate) = .ok d) (hkey : key ∉ candidate.keys)
    (hvalue : (otherTexts definition).reverse.lookup key = some value)
    (hplain : isTemplated value = false) : d.vars.get? key = some value := by
  refine (settles_of_evaluate (evaluate_of_describe h)).plain key value ?_ hplain
  rw [(completes_complete definition candidate).taken key hkey, hvalue]

private theorem splitList_joinList_eq_iff (items : List String) :
    splitList (joinList items) = items ↔ ∀ item ∈ items, IsItem item := by
  rw [splitList_joinList, flatMap_splitList_eq_self_iff]

/-- Item lists keep their items through the text form: joined they list what the items list, and
they are given back exactly if each is an item. So it is with the sequences of a definition, as
long as no later key has the text of theirs and a value with a text. -/
theorem itemLists_given_back :
    (∀ items, splitList (joinList items) = items.flatMap splitList ∧
      (splitList (joinList items) = items ↔ ∀ item ∈ items, IsItem item)) ∧
    ∀ (before after : Mapping) key list items, (key, list) ∈ itemLists →
      isTemplated (joinList items) = false →
      (∀ e ∈ after, e.1.text? = some key → e.2.text? = none) →
      GivesBack (before ++ listing key items :: after) key list items := by
  refine ⟨fun items => ⟨splitList_joinList items, splitList_joinList_eq_iff items⟩, ?_⟩
  intro before after key list items hlist hplain hafter cs ds hcs hds
  obtain ⟨hkey, rfl⟩ := list_of_mem_itemLists hlist
  obtain ⟨cs', hcs', hds⟩ := bind_eq_ok_iff.mp hds
  obtain rfl : cs' = cs := Except.ok.inj (hcs'.symm.trans hcs)
  refine (mapM_eq_ok_iff.mp hds).imp fun candidate d hd hfree => ?_
  have hlisted : d.list key = splitList (joinList items) := by
    rw [Descriptor.list, get?_of_describe hd hfree (lookup_otherTexts hkey hafter) hplain]
    rfl
  simp only [hlisted]
  exact ⟨splitList_joinList items, splitList_joinList_eq_iff items⟩

/-- Two queries for two combinations, with a later key of the same text that says nothing. -/
def Sample.listed : Mapping :=
  [(.string "data-source", .string "d")] ++ listing "query-names" ["q 1", "q2"] ::
    [(.sequence [.string "query-names"], .null),
      (.string "variables", .mapping [(.string "g", .mapping [(.string "size", .string "1, 2")])])]

theorem itemLists_sample_given_back : ∃ ds, descriptors Sample.listed = .ok ds ∧ ds.length = 2 ∧
    ∀ d ∈ ds, d.queryNames = ["q 1", "q2"] := by
  have hlength : (descriptors Sample.listed).toOption.map List.length = some 2 := by decide +kernel
  have hfree : (candidates Sample.listed).toOption.map
      (fun cs => cs.all fun c => !c.keys.contains "query-names") = some true := by decide +kernel
  obtain ⟨ds, hds, htwo⟩ := Option.map_eq_some_iff.mp hlength
  obtain ⟨cs, hcs, hfree⟩ := Option.map_eq_some_iff.mp hfree
  have hback : GivesBack Sample.listed "query-names" Descriptor.queryNames ["q 1", "q2"] := by
    refine itemLists_given_back.2 _ _ _ _ _ List.mem_cons_self (by decide +kernel) ?_
    intro e he hkey
    rcases List.mem_pair.mp he with rfl | rfl
    · rfl
    · exact absurd hkey (by decide +kernel)
  have hitems : ∀ item ∈ ["q 1", "q2"], IsItem item := by
    rw [← splitList_joinList_eq_iff]
    decide +kernel
  have hnot : ∀ c ∈ cs, "query-names" ∉ c.keys := fun c hc => by
    simpa using List.all_eq_true.mp hfree c hc
  have hgiven := hback cs ds (eq_ok_of_toOption hcs) (eq_ok_of_toOption hds)
  exact ⟨ds, eq_ok_of_toOption hds, htwo, forall_mem_of_forall₂
    ((List.forall₂_and_left cs ds).mpr ⟨hnot, hgiven⟩) fun c d h => (h.2 h.1).2.mpr hitems⟩

/-- A definition whose last key has the text of the one in front of it. -/
def Sample.listedTwice : Mapping :=
  [(.string "data-source", .string "d")] ++ listing "query-names" ["q1", "q2"] ::
    [(.sequence [.string "query-names"], .string "q3")]

/-- Without the condition on later keys, a list may be another one than the sequence says. -/
theorem not_forall_itemLists_given_back :
    ¬ ∀ (before after : Mapping) key list items, (key, list) ∈ itemLists →
      isTemplated (joinList items) = false →
      GivesBack (before ++ listing key items :: after) key list items := by
  intro h
  have hback : GivesBack Sample.listedTwice "query-names" Descriptor.queryNames ["q1", "q2"] :=
    h _ _ _ _ _ List.mem_cons_self (by decide +kernel)
  have hnames : (descriptors Sample.listedTwice).toOption.map (List.map Descriptor.queryNames) =
      some [["q3"]] := by decide +kernel
  obtain ⟨ds, hds, hnames⟩ := Option.map_eq_some_iff.mp hnames
  obtain ⟨d, rfl, hd⟩ := List.map_eq_singleton_iff.mp hnames
  have hgiven := hback [∅] [d] rfl (eq_ok_of_toOption hds)
  obtain ⟨hlists, -⟩ := (List.forall₂_cons.mp hgiven).1 (by decide +kernel)
  rw [hd] at hlists
  revert hlists
  decide +kernel

end ItemLists

end RunPlan.Definition
