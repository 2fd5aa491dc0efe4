import Mathlib.Tactic.SplitIfs
import VmMonitor.Proofs.ObjectName

/-!
# Names as texts, and what a name matches

A name is read from its text and written as it again, and nothing else is known of it: names are the
same just if their texts are. Whether a name stands for another one is told by the two key lists. They
may bind a key more than once, have items that bind nothing, and be those of two patterns. A pattern
asks for all its bindings, those of a repeated key included, while of the other name only the first
binding of a key counts. So a pattern that binds a key to two values matches nothing, not even itself.
All the same, what is matched by something that a name matches is matched by that name, too.

## What is proved

* `pieces_splitAll`, `Pieces.splitAll_eq` — there is one way to cut a text at a character.
* `ObjectName.ofString?_eq_some_iff`, `ObjectName.ofString?_isSome_iff` — a name and its text.
* `ObjectName.mem_bindings_iff`, `ObjectName.binding?_eq_some_iff` — what a key list binds.
* `ObjectName.not_isMatch_of_two` — a pattern that contradicts itself.
* `ObjectName.isMatch_trans` — **matching is transitive**, over patterns and plain names alike.
* `ObjectName.names_and_patterns` — all of that, with the names of the platform.
-/

namespace VmMonitor

/-! ### Texts in pieces -/

/-- The pieces of a text between the occurrences of a character: joined by it they are the text, and it
is in none of them. -/
structure Pieces (sep : Char) (cs : List Char) (pieces : List (List Char)) : Prop where
  ne_nil : pieces ≠ []
  intercalate_eq : [sep].intercalate pieces = cs
  notMem : ∀ piece ∈ pieces, sep ∉ piece

section

variable {sep : Char} {cs : List Char}

theorem splitAll_of_notMem (h : sep ∉ cs) : splitAll sep cs = [cs] := by
  induction cs with
  | nil => rfl
  | cons c cs ih =>
    obtain ⟨hc, hcs⟩ : sep ≠ c ∧ sep ∉ cs := by simpa using h
    simp [splitAll, Ne.symm hc, ih hcs]

theorem pieces_splitAll (sep : Char) (cs : List Char) : Pieces sep cs (splitAll sep cs) := by
  induction cs with
  | nil => exact ⟨by simp [splitAll], rfl, by simp [splitAll]⟩
  | cons c cs ih =>
    obtain ⟨hne, hjoin, hfree⟩ := ih
    obtain ⟨piece, pieces, hpieces⟩ := List.exists_cons_of_ne_nil hne
    rw [hpieces] at hjoin hfree
    by_cases hc : c = sep
    · subst hc
      refine ⟨by simp [splitAll], ?_, by simpa [splitAll, hpieces] using hfree⟩
      simp [splitAll, hpieces, List.intercalate_cons_cons, hjoin]
    · have hsplit : splitAll sep (c :: cs) = (c :: piece) :: pieces := by
        simp [splitAll, hc, hpieces]
      rw [hsplit]
      refine ⟨by simp, ?_, by simpa [Ne.symm hc] using hfree⟩
      cases pieces with
      | nil => simpa using hjoin
      | cons next pieces => simpa [List.intercalate_cons_cons] using hjoin

/-- There is no other way to cut a text. -/
theorem Pieces.splitAll_eq {pieces : List (List Char)} (h : Pieces sep cs pieces) :
    splitAll sep cs = pieces := by
  obtain ⟨hne, rfl, hfree⟩ := h
  induction pieces with
  | nil => exact absurd rfl hne
  | cons piece pieces ih =>
    have hpiece : sep ∉ piece := hfree _ (.head _)
    cases pieces with
    | nil => simpa using splitAll_of_notMem hpiece
    | cons next pieces =>
      have hrest := ih (by simp) fun p hp => hfree p (.tail _ hp)
      rw [List.intercalate_cons_cons, List.append_assoc, List.singleton_append,
        splitAll_append hpiece, hrest]

/-- One piece more. -/
theorem intercalate_concat {pieces : List (List Char)} (h : pieces ≠ []) (last : List Char) :
    [sep].intercalate (pieces ++ [last]) = [sep].intercalate pieces ++ sep :: last := by
  induction pieces with
  | nil => exact absurd rfl h
  | cons piece pieces ih =>
    cases pieces with
    | nil => simp [List.intercalate_cons_cons]
    | cons next pieces =>
      have hrest := ih (by simp)
      simp only [List.cons_append, List.intercalate_cons_cons] at hrest ⊢
      simp [hrest]

theorem splitFirst?_eq_some_iff {before after : List Char} :
    splitFirst? sep cs = some (before, after) ↔ cs = before ++ sep :: after ∧ sep ∉ before := by
  refine ⟨fun h => ?_, fun ⟨hcs, hfree⟩ => hcs ▸ splitFirst?_append hfree after⟩
  induction cs generalizing before with
  | nil => simp [splitFirst?] at h
  | cons c cs ih =>
    simp only [splitFirst?] at h
    split_ifs at h with hc
    · cases h
      simp [hc]
    · obtain ⟨⟨before', after'⟩, hsplit, heq⟩ := Option.map_eq_some_iff.1 h
      cases heq
      obtain ⟨rfl, hfree⟩ := ih hsplit
      simp [Ne.symm hc, hfree]

end

namespace ObjectName

variable {o p q r : ObjectName}

/-! ### Names and their texts -/

theorem ofChars?_toChars (o : ObjectName) : ofChars? o.toChars = some o := by
  have hdomain : ∀ c ∈ o.domain, decide (c ≠ ':') = true := fun c hc => by
    simpa using fun h : c = ':' => o.colon_notMem (h ▸ hc)
  have htake : o.toChars.takeWhile (· ≠ ':') = o.domain := by
    rw [toChars, List.takeWhile_append_of_pos hdomain]
    simp
  have hdrop : o.toChars.dropWhile (· ≠ ':') = ':' :: o.keys := by
    rw [toChars, List.dropWhile_append_of_pos hdomain]
    simp
  simp only [ofChars?, htake, hdrop]
  rw [dif_pos ⟨o.domain_ne, o.keys_ne⟩]

theorem toChars_of_ofChars? {cs : List Char} (h : ofChars? cs = some o) : o.toChars = cs := by
  have hcs : cs.takeWhile (· ≠ ':') ++ cs.dropWhile (· ≠ ':') = cs := List.takeWhile_append_dropWhile
  simp only [ofChars?] at h
  split at h
  · simp at h
  · next c keys hdrop =>
    have hcolon : c = ':' := by
      have hhead := List.head?_dropWhile_not (· ≠ ':') cs
      rw [hdrop] at hhead
      simpa using hhead
    split_ifs at h
    obtain rfl := Option.some.inj h
    rw [hdrop, hcolon] at hcs
    exact hcs

/-- A name is read from its text, and from no other. -/
theorem ofString?_eq_some_iff {s : String} : ofString? s = some o ↔ o.text = s := by
  constructor
  · intro h
    rw [text, toChars_of_ofChars? h, String.ofList_toList]
  · rintro rfl
    rw [ofString?, text, String.toList_ofList, ofChars?_toChars]

/-- A text is a name if its first colon has text on both sides. -/
theorem ofString?_isSome_iff {s : String} : (ofString? s).isSome ↔
    ∃ before after, s.toList = before ++ ':' :: after ∧ ':' ∉ before ∧ before ≠ [] ∧ after ≠ [] := by
  rw [Option.isSome_iff_exists]
  constructor
  · rintro ⟨o, h⟩
    refine ⟨o.domain, o.keys, ?_, o.colon_notMem, o.domain_ne, o.keys_ne⟩
    rw [← ofString?_eq_some_iff.1 h, text, String.toList_ofList, toChars]
  · rintro ⟨before, after, hs, hfree, hbefore, hafter⟩
    refine ⟨⟨before, after, hbefore, hfree, hafter⟩, ofString?_eq_some_iff.2 ?_⟩
    rw [text, toChars, ← hs, String.ofList_toList]

theorem text_inj : p.text = q.text ↔ p = q := by
  refine ⟨fun h => ?_, fun h => h ▸ rfl⟩
  have hp : ofString? q.text = some p := ofString?_eq_some_iff.2 h
  have hq : ofString? q.text = some q := ofString?_eq_some_iff.2 rfl
  exact Option.some.inj (hp.symm.trans hq)

/-! ### Bindings -/

/-- An item that binds a key to a value, which stand on the two sides of its first equals sign. -/
def Binds (item key value : List Char) : Prop := item = key ++ '=' :: value ∧ '=' ∉ key

/-- Some item of the key list binds the key to the value. -/
def HasBinding (o : ObjectName) (key value : List Char) : Prop :=
  ∃ items, Pieces ',' o.keys items ∧ ∃ item ∈ items, Binds item key value

/-- Of the items that bind the key at all, the first one binds it to the value. -/
def FirstBinding (o : ObjectName) (key value : List Char) : Prop :=
  ∃ before item after, Pieces ',' o.keys (before ++ item :: after) ∧ Binds item key value ∧
    ∀ other ∈ before, ∀ v, ¬ Binds other key v

theorem FirstBinding.hasBinding {key value : List Char} (h : o.FirstBinding key value) :
    o.HasBinding key value := by
  obtain ⟨before, item, after, hpieces, hbinds, -⟩ := h
  exact ⟨_, hpieces, item, by simp, hbinds⟩

theorem mem_bindings_iff {key value : List Char} :
    (key, value) ∈ o.bindings ↔ o.HasBinding key value := by
  rw [bindings, List.mem_filterMap]
  constructor
  · rintro ⟨item, hitem, hsplit⟩
    exact ⟨_, pieces_splitAll ',' o.keys, item, hitem, splitFirst?_eq_some_iff.1 hsplit⟩
  · rintro ⟨items, hpieces, item, hitem, hbinds⟩
    rw [hpieces.splitAll_eq]
    exact ⟨item, hitem, splitFirst?_eq_some_iff.2 hbinds⟩

/-- An item that is looked for by its key. -/
theorem any_splitFirst?_iff {item key : List Char} :
    (splitFirst? '=' item).any (fun b => b.1 = key) ↔ ∃ value, Binds item key value := by
  rw [Option.any_eq_true]
  constructor
  · rintro ⟨⟨key', value⟩, hsplit, hkey⟩
    obtain rfl : key' = key := by simpa using hkey
    exact ⟨value, splitFirst?_eq_some_iff.1 hsplit⟩
  · rintro ⟨value, hbinds⟩
    exact ⟨(key, value), splitFirst?_eq_some_iff.2 hbinds, by simp⟩

theorem binding?_eq_some_iff {key value : List Char} :
    o.binding? key = some value ↔ o.FirstBinding key value := by
  rw [binding?, bindings, List.find?_filterMap]
  simp only [Option.map_eq_some_iff, Option.bind_eq_some_iff, List.find?_eq_some_iff_append]
  constructor
  · rintro ⟨⟨key', value'⟩, ⟨item, ⟨hkey, before, after, hitems, hbefore⟩, hsplit⟩, rfl⟩
    obtain ⟨value'', hbinds⟩ := any_splitFirst?_iff.1 hkey
    obtain ⟨rfl, rfl⟩ : key = key' ∧ value'' = value' := by
      simpa using (splitFirst?_eq_some_iff.2 hbinds).symm.trans hsplit
    refine ⟨before, item, after, hitems ▸ pieces_splitAll ',' o.keys, hbinds, fun other hother v hv => ?_⟩
    have hnone := hbefore other hother
    rw [any_splitFirst?_iff.2 ⟨v, hv⟩] at hnone
    simp at hnone
  · rintro ⟨before, item, after, hpieces, hbinds, hbefore⟩
    refine ⟨(key, value), ⟨item, ⟨any_splitFirst?_iff.2 ⟨value, hbinds⟩, before, after,
      hpieces.splitAll_eq, fun other hother => ?_⟩, splitFirst?_eq_some_iff.2 hbinds⟩, rfl⟩
    rw [Bool.not_eq_true', Bool.eq_false_iff]
    intro hother'
    obtain ⟨v, hv⟩ := any_splitFirst?_iff.1 hother'
    exact hbefore other hother v hv

/-- A key has one first binding. -/
theorem FirstBinding.unique {key v v' : List Char} (h : o.FirstBinding key v)
    (h' : o.FirstBinding key v') : v = v' :=
  Option.some.inj ((binding?_eq_some_iff.2 h).symm.trans (binding?_eq_some_iff.2 h'))

/-! ### Matching -/

/-- A pattern is a name whose last item is a star. -/
theorem isPattern_iff : p.isPattern ↔ ∃ items, Pieces ',' p.keys (items ++ [['*']]) := by
  simp only [isPattern, Bool.or_eq_true, decide_eq_true_eq, List.isSuffixOf_iff_suffix]
  constructor
  · rintro (hkeys | ⟨init, hkeys⟩)
    · exact ⟨[], by simp, by simp [hkeys], by simp⟩
    · obtain ⟨hne, hjoin, hfree⟩ := pieces_splitAll ',' init
      refine ⟨splitAll ',' init, by simp, ?_, ?_⟩
      · rw [intercalate_concat hne, hjoin, ← hkeys]
      · intro piece hpiece
        rcases List.mem_append.1 hpiece with hpiece | hpiece
        · exact hfree piece hpiece
        · obtain rfl := List.mem_singleton.1 hpiece
          decide
  · rintro ⟨items, -, hjoin, -⟩
    rcases List.eq_nil_or_concat items with rfl | ⟨earlier, item, rfl⟩
    · exact .inl (by simpa using hjoin.symm)
    · rw [intercalate_concat (by simp)] at hjoin
      exact .inr ⟨_, hjoin⟩

/-- A plain name stands for itself. -/
theorem isMatch_of_not_isPattern (h : ¬ p.isPattern) : p.isMatch q ↔ q = p := by
  simp [isMatch, h, eq_comm]

/-- A pattern stands for every name of its domain that has its bindings as first ones. -/
theorem isMatch_of_isPattern (h : p.isPattern) : p.isMatch q ↔
    p.domain = q.domain ∧ ∀ key value, p.HasBinding key value → q.FirstBinding key value := by
  simp only [isMatch, h, if_true, Bool.and_eq_true, decide_eq_true_eq, List.all_eq_true]
  refine and_congr_right fun _ => ⟨fun hall key value hbinding => ?_, fun hall b hb => ?_⟩
  · exact binding?_eq_some_iff.1 (hall _ (mem_bindings_iff.2 hbinding))
  · exact binding?_eq_some_iff.2 (hall _ _ (mem_bindings_iff.1 hb))

/-- A pattern that binds a key to two values matches nothing. -/
theorem not_isMatch_of_two {key v v' : List Char} (hp : p.isPattern) (h : p.HasBinding key v)
    (h' : p.HasBinding key v') (hne : v ≠ v') : ¬ p.isMatch q := by
  intro hmatch
  obtain ⟨-, hbindings⟩ := (isMatch_of_isPattern hp).1 hmatch
  exact hne ((hbindings key v h).unique (hbindings key v' h'))

/-- **Matching is transitive.** -/
theorem isMatch_trans (hpq : p.isMatch q) (hqr : q.isMatch r) : p.isMatch r := by
  by_cases hp : p.isPattern
  · by_cases hq : q.isPattern
    · obtain ⟨hdomain, hbindings⟩ := (isMatch_of_isPattern hp).1 hpq
      obtain ⟨hdomain', hbindings'⟩ := (isMatch_of_isPattern hq).1 hqr
      refine (isMatch_of_isPattern hp).2 ⟨hdomain.trans hdomain', fun key value hbinding => ?_⟩
      exact hbindings' key value (hbindings key value hbinding).hasBinding
    · obtain rfl := (isMatch_of_not_isPattern hq).1 hqr
      exact hpq
  · obtain rfl := (isMatch_of_not_isPattern hp).1 hpq
    exact hqr

/-! ### The names of the platform -/

/-- The objects of the platform whose names are fixed, with their texts. -/
def platformTexts : List (ObjectName × String) :=
  [(memory, "java.lang:type=Memory"), (runtime, "java.lang:type=Runtime"),
    (threading, "java.lang:type=Threading"), (classLoading, "java.lang:type=ClassLoading"),
    (operatingSystem, "java.lang:type=OperatingSystem"),
    (garbageCollectors, "java.lang:type=GarbageCollector,*")]

theorem text_of_mem_platformTexts : ∀ e ∈ platformTexts, e.1.text = e.2 := by decide

theorem text_garbageCollector (name : String) :
    (garbageCollector name).text = "java.lang:type=GarbageCollector,name=" ++ name := by
  rw [← String.toList_inj]
  simp [text, toChars, garbageCollector, platform]

/-- **Names and patterns.** A text is a name just if its first colon has text on both sides. The name
has the text before that colon as its domain, is written as the text it was read from, and is told by
it; so are the names of the platform, whatever a collector is called. A plain name matches itself and no
other, a pattern the names of its domain in which all its bindings are first ones, and matching is
transitive. Every collector is matched by the pattern for them. -/
theorem names_and_patterns :
    (∀ s, (ofString? s).isSome ↔ ∃ before after, s.toList = before ++ ':' :: after ∧
      ':' ∉ before ∧ before ≠ [] ∧ after ≠ []) ∧
    (∀ s o, ofString? s = some o ↔ o.text = s) ∧
    (∀ o : ObjectName, ':' ∉ o.domain ∧ ∃ after, o.text.toList = o.domain ++ ':' :: after) ∧
    (∀ p q : ObjectName, p = q ↔ p.text = q.text) ∧
    (∀ e ∈ platformTexts, ofString? e.2 = some e.1) ∧
    (∀ name, ofString? ("java.lang:type=GarbageCollector,name=" ++ name) =
      some (garbageCollector name)) ∧
    (∀ p : ObjectName, p.isPattern ↔ ∃ items, Pieces ',' p.keys (items ++ [['*']])) ∧
    (∀ p q : ObjectName, ¬ p.isPattern → (p.isMatch q ↔ q = p)) ∧
    (∀ p q : ObjectName, p.isPattern → (p.isMatch q ↔
      p.domain = q.domain ∧ ∀ key value, p.HasBinding key value → q.FirstBinding key value)) ∧
    (∀ p q r : ObjectName, p.isMatch q → q.isMatch r → p.isMatch r) ∧
    ∀ name, garbageCollectors.isMatch (garbageCollector name) := by
  refine ⟨fun s => ofString?_isSome_iff, fun s o => ofString?_eq_some_iff, fun o => ?_,
    fun p q => text_inj.symm, fun e he => ?_, fun name => ?_, fun p => isPattern_iff,
    fun p q => isMatch_of_not_isPattern, fun p q => isMatch_of_isPattern,
    fun p q r => isMatch_trans, isMatch_garbageCollectors⟩
  · exact ⟨o.colon_notMem, o.keys, by simp [text, toChars]⟩
  · exact ofString?_eq_some_iff.2 (text_of_mem_platformTexts e he)
  · exact ofString?_eq_some_iff.2 (text_garbageCollector name)

/-- Everything on the platform matches the collectors, which match a collector with a comma in its name;
so everything matches that collector. A plain name is not matched by another one. -/
theorem names_and_patterns_of_everything :
    let everything := platform '*' []
    ofString? "java.lang:*" = some everything ∧ everything.isPattern ∧
      everything.isMatch garbageCollectors ∧ everything.isMatch (garbageCollector "G1,old") ∧
      ¬ memory.isPattern ∧ ¬ memory.isMatch runtime := by
  intro everything
  obtain ⟨-, htext, -, -, -, -, -, hplain, -, htrans, hcollectors⟩ := names_and_patterns
  have hall : everything.isMatch garbageCollectors := by decide
  have hmemory : ¬ memory.isPattern := by decide
  refine ⟨(htext _ _).2 (by decide), by decide, hall, ?_, hmemory, fun h => ?_⟩
  · exact htrans _ _ _ hall (hcollectors "G1,old")
  · exact absurd ((hplain _ _ hmemory).1 h) (by decide)

end ObjectName

end VmMonitor
