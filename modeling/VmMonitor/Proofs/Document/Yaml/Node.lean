import VmMonitor.Proofs.Document.Yaml.Block

/-!
# What is written as YAML reads back

The tokens of block lines spell the nodes of the document that was written: a level list goes on as long
as dashes follow, and a table up to the end of its block. Nothing has an anchor or a tag, so the nodes
stand for the document as they are. Each leaf is found as it is spelled, and its type is open.

## What is proved

* `Yaml.readsAs` — the tokens of a document are read as its nodes, whatever tokens follow but a further
  item; with one lemma for the items of a list and one for the entries of a table.
* `Yaml.nameless` — the nodes stand for what was written.
* `Yaml.read_write` — **a table that is written in blocks** reads back, with what is spelled in the
  place of each leaf.
-/

namespace VmMonitor.Yaml

open Node

mutual

/-- The nodes of a document, without anchors and tags. -/
def node {ι : Type} : Doc → Node ι
  | .scalar x => .scalar none none (x.asRead .yaml)
  | .list items => .list none none (itemNodes items)
  | .table entries => .table none none (entryNodes entries)
  | .tagged _ d => node d

def itemNodes {ι : Type} : List Doc → List (Node ι)
  | [] => []
  | d :: ds => node d :: itemNodes ds

def entryNodes {ι : Type} : List (Doc × Doc) → List (Node ι × Node ι)
  | [] => []
  | (k, d) :: es => (node k, node d) :: entryNodes es

end

/-! ### Reading -/

/-- In a setting, the tokens of a document are read as its nodes, whatever follows but a further
item. -/
def ReadsAs (setting : Setting) (d : Doc) : Prop :=
  ∀ {handles : List (String × String)} {fuel : Nat} {ts : List Token},
    2 * (tokens d).length + 2 ≤ fuel → (setting = .entry → ∀ ts', ts ≠ .dash :: ts') →
      Node.read handles fuel setting (tokens d ++ ts) = some (node d, ts)

variable {handles : List (String × String)} {fuel : Nat} {ts : List Token}

theorem exists_eq_succ {n fuel : Nat} (h : n + 1 ≤ fuel) : ∃ f, fuel = f + 1 :=
  Nat.exists_eq_succ_of_ne_zero (Nat.ne_of_gt (Nat.lt_of_lt_of_le (Nat.succ_pos n) h))

theorem readsAs_scalar (setting : Setting) (x : Scalar) : ReadsAs setting (.scalar x) := by
  intro handles fuel ts hfuel _
  obtain ⟨fuel, rfl⟩ := exists_eq_succ hfuel
  simp [tokens, Node.read, front, node]

theorem readsAs_nothing (setting : Setting) : ReadsAs setting (.list []) := by
  intro handles fuel ts hfuel _
  simp only [tokens, List.length_cons, List.length_nil] at hfuel
  obtain ⟨fuel, rfl⟩ : ∃ f, fuel = f + 2 := ⟨fuel - 2, by omega⟩
  simp [tokens, Node.read, front, node, readFlowItems, itemNodes]

/-- A document starts with a token that leaves nothing out. -/
theorem exists_tokens_eq_cons {d : Doc} (h : d.Blockwise) (hlist : ∀ ds, d ≠ .list ds) :
    ∃ t ts, tokens d = t :: ts ∧ endsItem (some t) = false ∧ endsEntry (some t) = false := by
  cases h with
  | scalar _ => exact ⟨_, _, rfl, rfl, rfl⟩
  | nothing => exact absurd rfl (hlist [])
  | list _ _ _ => exact absurd rfl (hlist _)
  | record _ _ _ => exact ⟨_, _, rfl, rfl, rfl⟩

theorem readLevelItems_items (handles : List (String × String)) {items : List Doc}
    (hitems : ∀ d ∈ items, d.Blockwise ∧ ∀ ds, d ≠ .list ds) (hreads : ∀ d ∈ items, ReadsAs .block d)
    (acc : List (Node String)) (hfuel : 2 * (itemTokens items).length + 1 ≤ fuel)
    (hts : ∀ ts', ts ≠ .dash :: ts') :
    readLevelItems handles fuel acc (itemTokens items ++ ts) =
      some (acc.reverse ++ itemNodes items, ts) := by
  induction items generalizing fuel acc with
  | nil =>
    obtain ⟨fuel, rfl⟩ := exists_eq_succ hfuel
    rw [itemTokens, List.nil_append, readLevelItems]
    · simp [itemNodes]
    · simpa using hts
  | cons d ds ih =>
    obtain ⟨fuel, rfl⟩ := exists_eq_succ hfuel
    simp only [itemTokens, List.length_cons, List.length_append] at hfuel
    have hread : Node.read handles fuel .block (tokens d ++ (itemTokens ds ++ ts)) =
        some (node d, itemTokens ds ++ ts) := hreads d (.head _) (by omega) (by simp)
    have hrest := ih (fun d hd => hitems d (.tail _ hd)) (fun d hd => hreads d (.tail _ hd))
      (node d :: acc) (show _ ≤ fuel by omega)
    obtain ⟨t, tail, htokens, hitem, hentry⟩ := exists_tokens_eq_cons (hitems d (.head _)).1
      (hitems d (.head _)).2
    have hends : (endsItem (tokens d ++ (itemTokens ds ++ ts)).head? ||
        endsEntry (tokens d ++ (itemTokens ds ++ ts)).head?) = false := by
      simp [htokens, hitem, hentry]
    rw [itemTokens, List.cons_append, List.append_assoc, readLevelItems, hends]
    simp [hread, hrest, itemNodes]

/-- A value starts with a token that leaves nothing out, too. -/
theorem endsEntry_tokens {d : Doc} (h : d.Blockwise) (ts : List Token) :
    endsEntry (tokens d ++ ts).head? = false := by
  cases h with
  | scalar _ => rfl
  | nothing => rfl
  | list hne _ _ =>
    obtain ⟨d, ds, rfl⟩ := List.exists_cons_of_ne_nil hne
    rfl
  | record _ _ _ => rfl

theorem entryTokens_keyed_cons (key : String) (d : Doc) (es : List (String × Doc)) :
    entryTokens (keyed ((key, d) :: es)) =
      .key :: .scalar (.plain key) :: .value :: (tokens d ++ entryTokens (keyed es)) := rfl

theorem readEntries_entries (handles : List (String × String)) {entries : List (String × Doc)}
    (hblocks : ∀ e ∈ entries, e.2.Blockwise) (hreads : ∀ e ∈ entries, ReadsAs .entry e.2)
    (ts : List Token) (acc : List (Node String × Node String))
    (hfuel : 2 * (entryTokens (keyed entries)).length + 1 ≤ fuel) :
    readEntries handles fuel acc (entryTokens (keyed entries) ++ .blockEnd :: ts) =
      some (acc.reverse ++ entryNodes (keyed entries), ts) := by
  induction entries generalizing fuel acc with
  | nil =>
    obtain ⟨fuel, rfl⟩ := exists_eq_succ hfuel
    simp [keyed, entryTokens, readEntries, entryNodes]
  | cons e es ih =>
    obtain ⟨fuel, rfl⟩ := exists_eq_succ hfuel
    obtain ⟨key, d⟩ := e
    rw [entryTokens_keyed_cons] at hfuel ⊢
    simp only [List.length_cons, List.length_append] at hfuel
    obtain ⟨rest, hrest⟩ : ∃ rest, rest = entryTokens (keyed es) ++ .blockEnd :: ts := ⟨_, rfl⟩
    have hnext : ∀ ts', rest ≠ .dash :: ts' := by
      rw [hrest]
      cases es <;> simp [keyed, entryTokens]
    have hkey : Node.read handles fuel .entry (.scalar (.plain key) :: .value :: (tokens d ++ rest)) =
        some (node (.text key), .value :: (tokens d ++ rest)) :=
      readsAs_scalar .entry (.text key) (by simp only [tokens, List.length_singleton]; omega)
        fun _ => by simp
    have hread : Node.read handles fuel .entry (tokens d ++ rest) = some (node d, rest) :=
      hreads (key, d) (.head _) (by dsimp only; omega) fun _ => hnext
    have hentries := ih (fun e he => hblocks e (.tail _ he)) (fun e he => hreads e (.tail _ he))
      ((node (.text key), node d) :: acc) (show _ ≤ fuel by omega)
    rw [← hrest] at hentries
    have hends := endsEntry_tokens (hblocks (key, d) (.head _)) rest
    have hends' : endsEntry (some (.scalar (.plain key))) = false := rfl
    simp only [List.cons_append, List.append_assoc, ← hrest, readEntries, List.head?_cons, hends',
      Bool.false_eq_true, if_false, hkey, Option.bind_eq_bind, Option.bind_some, hends, hread, hentries]
    simp [keyed, entryNodes]

theorem readsAs {d : Doc} (h : d.Blockwise) :
    ReadsAs .entry d ∧ ((∀ ds, d ≠ .list ds) → ReadsAs .block d) := by
  induction h with
  | @scalar x _ => exact ⟨readsAs_scalar _ x, fun _ => readsAs_scalar _ x⟩
  | nothing => exact ⟨readsAs_nothing _, fun hlist => absurd rfl (hlist [])⟩
  | @list items hne hitems hblocks ih =>
    refine ⟨?_, fun hlist => absurd rfl (hlist items)⟩
    intro handles fuel ts hfuel hts
    rw [tokens_list hne] at hfuel ⊢
    obtain ⟨fuel, rfl⟩ := exists_eq_succ hfuel
    have hread := readLevelItems_items handles (fun d hd => ⟨hblocks d hd, hitems d hd⟩)
      (fun d hd => (ih d hd).2 (hitems d hd)) [] (show _ ≤ fuel by omega) (hts rfl)
    obtain ⟨d, ds, rfl⟩ := List.exists_cons_of_ne_nil hne
    simp only [itemTokens, List.cons_append, List.append_assoc] at hread ⊢
    simp [Node.read, front, hread, node]
  | @record entries hne hkeys hblocks ih =>
    have hreads (setting : Setting) (hsetting : setting ≠ .flow) :
        ReadsAs setting (.record entries) := by
      intro handles fuel ts hfuel hts
      obtain ⟨fuel, rfl⟩ := exists_eq_succ hfuel
      have htokens : tokens (.record entries) =
        .blockTable :: (entryTokens (keyed entries) ++ [.blockEnd]) := rfl
      rw [htokens, List.length_cons, List.length_append] at hfuel
      have hread := readEntries_entries handles hblocks (fun e he => (ih e he).1) ts []
        (show _ ≤ fuel by omega)
      have hnode : node (ι := String) (.record entries) =
        .table none none (entryNodes (keyed entries)) := rfl
      rw [htokens, hnode, List.cons_append, List.append_assoc, List.singleton_append]
      simp [Node.read, front, hsetting, hread]
    exact ⟨hreads .entry (by decide), fun _ => hreads .block (by decide)⟩

/-! ### Without anchors -/

/-- Nothing is named in the nodes of a document, so they stand for the document as they are. -/
structure Nameless (d : Doc) : Prop where
  numbered : Node.numbered (node d) = (pure (node d) : StateT Names Option (Node Nat))
  doc : ∀ target, (node d).doc target = d.asRead .yaml

theorem nameless_list {items : List Doc} (h : ∀ d ∈ items, Nameless d) : Nameless (.list items) := by
  have hitems : numberedItems (itemNodes items) =
        (pure (itemNodes items) : StateT Names Option (List (Node Nat))) ∧
      ∀ target, docItems target (itemNodes items) = items.map (Doc.asRead .yaml) := by
    induction items with
    | nil => exact ⟨rfl, fun _ => rfl⟩
    | cons d ds ih =>
      obtain ⟨hnumbered, hdoc⟩ := h d (.head _)
      obtain ⟨hnumbered', hdoc'⟩ := ih fun d hd => h d (.tail _ hd)
      simp [itemNodes, numberedItems, docItems, *]
  obtain ⟨hnumbered, hdoc⟩ := hitems
  refine ⟨?_, fun target => ?_⟩
  · simp only [node, Node.numbered, hnumbered]
    rfl
  · simp [node, Node.doc, tagged, hdoc, Doc.asRead_list]

theorem nameless_record {entries : List (String × Doc)} (h : ∀ e ∈ entries, Nameless e.2) :
    Nameless (.record entries) := by
  have hentries : numberedEntries (entryNodes (keyed entries)) =
        (pure (entryNodes (keyed entries)) : StateT Names Option (List (Node Nat × Node Nat))) ∧
      ∀ target, docEntries target (entryNodes (keyed entries)) =
        entries.map fun e => ((Doc.text e.1).asRead .yaml, e.2.asRead .yaml) := by
    induction entries with
    | nil => exact ⟨rfl, fun _ => rfl⟩
    | cons e es ih =>
      obtain ⟨hnumbered, hdoc⟩ := h e (.head _)
      obtain ⟨hnumbered', hdoc'⟩ := ih fun e he => h e (.tail _ he)
      have hcons (ι : Type) : entryNodes (ι := ι) (keyed (e :: es)) =
          (node (.text e.1), node e.2) :: entryNodes (keyed es) := rfl
      have hkey : Node.numbered (node (.text e.1)) =
          (pure (node (.text e.1)) : StateT Names Option (Node Nat)) := rfl
      have hkey' (target : Nat → Doc) :
          (node (.text e.1)).doc target = (Doc.text e.1).asRead .yaml := rfl
      refine ⟨?_, fun target => ?_⟩
      · rw [hcons, hcons, numberedEntries, hkey, hnumbered, hnumbered']
        rfl
      · rw [hcons, docEntries, hkey', hdoc, hdoc', List.map_cons]
  obtain ⟨hnumbered, hdoc⟩ := hentries
  have htable (ι : Type) :
      node (ι := ι) (.record entries) = .table none none (entryNodes (keyed entries)) := rfl
  refine ⟨?_, fun target => ?_⟩
  · rw [htable, htable, Node.numbered, hnumbered]
    rfl
  · rw [htable, Node.doc, tagged, hdoc, Doc.asRead_record]

theorem nameless {d : Doc} (h : d.Blockwise) : Nameless d := by
  induction h with
  | scalar _ => exact ⟨rfl, fun _ => rfl⟩
  | nothing => exact nameless_list nofun
  | list _ _ _ ih => exact nameless_list ih
  | record _ _ _ ih => exact nameless_record ih

/-- **What is written in blocks** reads back, with what is spelled in the place of each leaf. -/
theorem read_write {entries : List (String × Doc)} (hne : entries ≠ [])
    (hkeys : ∀ e ∈ entries, IsKey e.1) (hblocks : ∀ e ∈ entries, e.2.Blockwise) :
    read (write (.record entries)) = some ((Doc.record entries).asRead .yaml) := by
  have htokens := ofText?_write hne hkeys hblocks
  obtain ⟨ts, hts⟩ : ∃ ts, tokens (.record entries) = .blockTable :: ts := ⟨_, rfl⟩
  have hread : Node.read usualHandles (3 * (tokens (.record entries)).length + 3) .block
      (tokens (.record entries) ++ []) = some (node (.record entries), []) :=
    (readsAs (.record hne hkeys hblocks)).2 (Doc.record_ne_list _) (by omega) (by simp)
  have hroot : ofTokens? (tokens (.record entries)) = some (node (.record entries)) := by
    rw [hts, List.append_nil] at hread
    rw [hts]
    simp only [ofTokens?, hread, Option.bind_eq_bind, Option.bind_some]
    rfl
  obtain ⟨hnumbered, hdoc⟩ := nameless (.record hne hkeys hblocks)
  have hroot' : root? (write (.record entries)).toList = some (node (.record entries)) := by
    simp only [root?, htokens, Option.bind_eq_bind, Option.bind_some, hroot, hnumbered]
    rfl
  rw [read, hroot', Option.map_some, rootDoc, hdoc]

end VmMonitor.Yaml
