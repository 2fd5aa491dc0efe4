import VmMonitor.Proofs.Document.Yaml.Style

/-!
# Block lines as tokens

A document is written in lines, each indented to the column of the list or the table that it belongs to.
The scanner finds the structure again from those columns: a key that stands further inside than what is
open opens a table, and a line further outside closes the tables that it leaves. So what the scanner
makes of a value depends on what stands below it, but only on its first column.

## The model

`Doc.Blockwise` says which documents are written that way, and `Yaml.tokens` what tokens they are.

## What is proved

* `Yaml.scan_entries`, `Yaml.scan_items` — one piece of a table or a list after the other.
* `Yaml.scans` — **every document in blocks** is cut into its tokens, by induction on the document.
* `Yaml.ofText?_write` — and so is the whole text of a table.
-/

namespace VmMonitor

/-- A document that is written in blocks, without quotes: no table is empty, no list is the item of a
list, and no key is too long to wait for its colon. -/
inductive Doc.Blockwise : Doc → Prop
  | scalar {x : Scalar} : Yaml.Unquoted x → Blockwise (.scalar x)
  | nothing : Blockwise (.list [])
  | list {items : List Doc} : items ≠ [] → (∀ d ∈ items, ∀ ds, d ≠ .list ds) →
    (∀ d ∈ items, Blockwise d) → Blockwise (.list items)
  | record {entries : List (String × Doc)} : entries ≠ [] →
    (∀ e ∈ entries, Yaml.IsKey e.1) → (∀ e ∈ entries, Blockwise e.2) → Blockwise (.record entries)

theorem Doc.record_ne_list (entries : List (String × Doc)) (items : List Doc) :
    Doc.record entries ≠ .list items := nofun

namespace Yaml

/-! ### Lines -/

namespace Block

/-- The column of the first line. -/
def lead : Block → Nat
  | [] => 0
  | (column, _) :: _ => column

/-- The text of a block behind the blanks that it starts with. -/
def body : Block → List Char
  | [] => []
  | (_, line) :: b => line.toList ++ '\n' :: (List.replicate (lead b) ' ' ++ body b)

theorem toList_text {b : Block} (h : ∀ l ∈ b, ∀ c ∈ l.2.toList, isBreak c = false) :
    (text b).toList = List.replicate (lead b) ' ' ++ body b := by
  induction b with
  | nil => rfl
  | cons l b ih =>
    obtain ⟨column, line⟩ := l
    have hline : (List.replicate column ' ' ++ line.toList).getLast?.any isBreak = false := by
      cases hlast : (List.replicate column ' ' ++ line.toList).getLast? with
      | none => rfl
      | some c =>
        rcases List.mem_append.1 (List.mem_of_getLast? hlast) with hc | hc
        · rw [List.eq_of_mem_replicate hc]
          decide
        · exact h _ (.head _) c hc
    have hclosed : (closed (String.ofList (List.replicate column ' ' ++ line.toList))).toList =
        List.replicate column ' ' ++ (line.toList ++ ['\n']) := by
      rw [closed, String.toList_ofList, hline, if_neg (by decide)]
      simp
    have hcons : (text ((column, line) :: b)).toList =
        (closed (String.ofList (List.replicate column ' ' ++ line.toList))).toList ++
          (text b).toList := by
      rw [text, text, List.map_cons, String.join_cons, String.toList_append]
    rw [hcons, hclosed, ih fun l hl => h l (.tail _ hl), lead, body]
    simp

theorem body_dash {column : Nat} {below : Block} (h : below ≠ []) (b : Block) :
    body (dash column below ++ b) = '-' :: ' ' :: body (below ++ b) := by
  obtain ⟨l, below, rfl⟩ := List.exists_cons_of_ne_nil h
  simp [dash, body]

end Block

/-! ### Tokens -/

mutual

/-- The tokens of a document that is written in blocks. -/
def tokens : Doc → List Token
  | .scalar x => [.scalar (x.asRead .yaml)]
  | .list [] => [.openList, .closeList]
  | .list (d :: ds) => itemTokens (d :: ds)
  | .table entries => .blockTable :: (entryTokens entries ++ [.blockEnd])
  | .tagged _ d => tokens d

def itemTokens : List Doc → List Token
  | [] => []
  | d :: ds => .dash :: (tokens d ++ itemTokens ds)

def entryTokens : List (Doc × Doc) → List Token
  | [] => []
  | (k, d) :: es => .key :: (tokens k ++ .value :: (tokens d ++ entryTokens es))

end

theorem tokens_list {items : List Doc} (h : items ≠ []) : tokens (.list items) = itemTokens items := by
  obtain ⟨d, ds, rfl⟩ := List.exists_cons_of_ne_nil h
  rfl

open Block

/-- What stands behind a key in a column, and in the lines below, up to another block. -/
def valueText (k : Nat) (d : Doc) (b : Block) : List Char :=
  (valueOf k (k + 2) d).1.toList ++ '\n' ::
    (List.replicate (lead ((valueOf k (k + 2) d).2 ++ b)) ' ' ++ body ((valueOf k (k + 2) d).2 ++ b))

/-- What stands behind a key, and below it, is cut into the tokens of a document. -/
def ScansEntry (d : Doc) : Prop :=
  ∀ {s : Scan} {k n : Nat} {outer : List Nat} {ts : List Token} {b : Block},
    (∀ m ∈ outer, m < k) → k < n → lead b ≤ k → Scan.Start (body b) →
    s.At (valueText k d b) n (k :: outer) ts false →
    ∃ s', s'.At (body b) (lead b) (k :: outer) ((tokens d).reverse ++ ts) true ∧ s.Reaches s'

/-- An item of a list is cut into the tokens of a document behind a dash. -/
def ScansItem (d : Doc) : Prop :=
  ∀ {s : Scan} {k : Nat} {outer : List Nat} {ts : List Token} {b : Block},
    (∀ m ∈ outer, m < k) → lead b ≤ k → Scan.Start (body b) →
    s.At (body (itemLines k [d] ++ b)) k (k :: outer) ts true →
    ∃ s', s'.At (body b) (lead b) (k :: outer) ((itemTokens [d]).reverse ++ ts) true ∧ s.Reaches s'

/-! ### Where lines start -/

variable {b : Block} {k n : Nat}

theorem itemLines_cons (d : Doc) (ds : List Doc) :
    itemLines k (d :: ds) = itemLines k [d] ++ itemLines k ds := by
  simp [itemLines]

theorem lead_itemLines {items : List Doc} (h : items ≠ []) (b : Block) :
    lead (itemLines k items ++ b) = k := by
  obtain ⟨d, ds, rfl⟩ := List.exists_cons_of_ne_nil h
  rw [itemLines]
  split
  · rename_i here below _
    by_cases hhere : here.isEmpty = true
    · cases below <;> simp [hhere, dash, lead]
    · simp [hhere, lead]

theorem start_itemLines {items : List Doc} (h : items ≠ []) (b : Block) :
    Scan.Start (body (itemLines k items ++ b)) := by
  have hdash (cs : List Char) : Scan.Start ('-' :: cs) := by
    simp [Scan.Start, isBlank, isBreak, byteOrderMark]
  obtain ⟨d, ds, rfl⟩ := List.exists_cons_of_ne_nil h
  rw [itemLines]
  split
  · rename_i here below _
    by_cases hhere : here.isEmpty = true
    · cases below
      · simpa [hhere, dash, body] using hdash _
      · simpa [hhere, dash, body] using hdash _
    · simpa [hhere, body] using hdash _

/-- The entries of a table of texts. -/
def keyed (entries : List (String × Doc)) : List (Doc × Doc) := entries.map fun e => (.text e.1, e.2)

theorem valueOf_record {entries : List (String × Doc)} (h : entries ≠ []) (l c : Nat) :
    valueOf l c (.record entries) = ("", entryLines c (keyed entries)) := by
  obtain ⟨e, es, rfl⟩ := List.exists_cons_of_ne_nil h
  rfl

theorem valueOf_list {items : List Doc} (h : items ≠ []) (l c : Nat) :
    valueOf l c (.list items) = ("", itemLines l items) := by
  obtain ⟨d, ds, rfl⟩ := List.exists_cons_of_ne_nil h
  rfl

/-- The first line of a table, from its key on. -/
theorem body_entryLines {key : String} (h : IsKey key) (d : Doc) (es : List (String × Doc))
    (b : Block) : body (entryLines k (keyed ((key, d) :: es)) ++ b) =
      key.toList ++ ':' :: valueText k d (entryLines k (keyed es) ++ b) := by
  rw [keyed, List.map_cons, entryLines]
  simp [h.writeKey, body, keyed, valueText]

theorem lead_entryLines {entries : List (String × Doc)} (h : entries ≠ []) (b : Block) :
    lead (entryLines k (keyed entries) ++ b) = k := by
  obtain ⟨e, es, rfl⟩ := List.exists_cons_of_ne_nil h
  rfl

theorem start_entryLines {entries : List (String × Doc)} (h : entries ≠ [])
    (hkeys : ∀ e ∈ entries, IsKey e.1) (b : Block) :
    Scan.Start (body (entryLines k (keyed entries) ++ b)) := by
  obtain ⟨⟨key, d⟩, es, rfl⟩ := List.exists_cons_of_ne_nil h
  have hkey := hkeys _ (.head _)
  rw [body_entryLines hkey]
  exact Scan.start_of_isPlain hkey.isPlain _

/-- Behind a colon there is a blank or the end of the line. -/
theorem blankNext_valueText (k : Nat) (d : Doc) (b : Block) : blankNext (valueText k d b) := by
  have hhere (here : String) (h : here = "" ∨ here.toList.head? = some ' ') (cs : List Char) :
      blankNext (here.toList ++ '\n' :: cs) := by
    rcases h with rfl | h
    · rfl
    · cases hcs : here.toList <;> simp_all [blankNext, isBlank]
  refine hhere _ ?_ _
  cases d with
  | scalar x => exact .inr (by simp [valueOf])
  | list items => cases items <;> simp [valueOf]
  | table entries => cases entries <;> simp [valueOf]
  | tagged tag d => exact .inr (by simp [valueOf])

/-! ### Tables and lists -/

open Scan

variable {s : Scan} {outer : List Nat} {ts : List Token}

theorem Opens.outer_lt {indents : List Nat} {opened : List Token}
    (h : Opens k indents (k :: outer) opened) : ∀ m ∈ outer, m < k := by
  cases h with
  | new h => exact h
  | old h => exact h

/-- **The entries of a table**, one after the other. The first key opens the table. -/
theorem scan_entries {entries : List (String × Doc)} (hne : entries ≠ [])
    (hkeys : ∀ e ∈ entries, IsKey e.1) (hscans : ∀ e ∈ entries, ScansEntry e.2)
    {indents : List Nat} {opened : List Token} (hopens : Opens k indents (k :: outer) opened)
    (hlead : lead b ≤ k) (hstart : Start (body b))
    (h : s.At (body (entryLines k (keyed entries) ++ b)) k indents ts true) :
    ∃ s', s'.At (body b) (lead b) (k :: outer)
      ((entryTokens (keyed entries)).reverse ++ (opened ++ ts)) true ∧ s.Reaches s' := by
  induction entries generalizing s indents opened ts with
  | nil => exact absurd rfl hne
  | cons e es ih =>
    obtain ⟨key, d⟩ := e
    have hkey : IsKey key := hkeys _ (.head _)
    rw [body_entryLines hkey] at h
    have hlength : key.toList.length ≤ 256 := key.length_toList ▸ hkey.2
    obtain ⟨s₁, h₁, hreaches₁⟩ := h.key hkey.isPlain hlength hopens (blankNext_valueText _ _ _)
    rw [String.ofList_toList] at h₁
    by_cases hes : es = []
    · subst hes
      obtain ⟨s₂, h₂, hreaches₂⟩ :=
        hscans _ (.head _) (Opens.outer_lt hopens) (by omega) hlead hstart h₁
      refine ⟨s₂, ?_, hreaches₁.trans hreaches₂⟩
      simpa [entryTokens, keyed, tokens, Doc.text, Scalar.asRead] using h₂
    · obtain ⟨s₂, h₂, hreaches₂⟩ := hscans _ (.head _) (Opens.outer_lt hopens) (by omega)
        (lead_entryLines hes b).le (start_entryLines hes (fun e he => hkeys e (.tail _ he)) b) h₁
      rw [lead_entryLines hes] at h₂
      obtain ⟨s₃, h₃, hreaches₃⟩ := ih hes (fun e he => hkeys e (.tail _ he))
        (fun e he => hscans e (.tail _ he)) (.old (Opens.outer_lt hopens)) h₂
      refine ⟨s₃, ?_, hreaches₁.trans (hreaches₂.trans hreaches₃)⟩
      simpa [entryTokens, keyed, tokens, Doc.text, Scalar.asRead] using h₃

/-- **The items of a list**, one after the other. -/
theorem scan_items {items : List Doc} (hscans : ∀ d ∈ items, ScansItem d) (houter : ∀ m ∈ outer, m < k)
    (hlead : lead b ≤ k) (hstart : Start (body b)) (hne : items ≠ [])
    (h : s.At (body (itemLines k items ++ b)) k (k :: outer) ts true) :
    ∃ s', s'.At (body b) (lead b) (k :: outer) ((itemTokens items).reverse ++ ts) true ∧
      s.Reaches s' := by
  induction items generalizing s ts with
  | nil => exact absurd rfl hne
  | cons d ds ih =>
    rw [itemLines_cons, List.append_assoc] at h
    by_cases hds : ds = []
    · subst hds
      exact hscans _ (.head _) houter hlead hstart h
    · obtain ⟨s₁, h₁, hreaches₁⟩ := hscans _ (.head _) houter (lead_itemLines hds b).le
        (start_itemLines hds b) h
      rw [lead_itemLines hds] at h₁
      obtain ⟨s₂, h₂, hreaches₂⟩ := ih (fun d hd => hscans d (.tail _ hd)) hds h₁
      refine ⟨s₂, ?_, hreaches₁.trans hreaches₂⟩
      simpa [itemTokens] using h₂

/-- A table of its own, which ends where a line starts in front of it. -/
theorem scan_record {entries : List (String × Doc)} (hne : entries ≠ [])
    (hkeys : ∀ e ∈ entries, IsKey e.1) (hscans : ∀ e ∈ entries, ScansEntry e.2)
    (houter : ∀ m ∈ outer, m < k) (hlead : lead b < k) (hstart : Start (body b))
    (h : s.At (body (entryLines k (keyed entries) ++ b)) k outer ts true) :
    ∃ s', s'.At (body b) (lead b) outer ((tokens (.record entries)).reverse ++ ts) true ∧
      s.Reaches s' := by
  obtain ⟨s₁, h₁, hreaches₁⟩ := scan_entries hne hkeys hscans (.new houter) hlead.le hstart h
  rw [← List.singleton_append] at h₁
  obtain ⟨s₂, h₂, hreaches₂⟩ := Scan.At.close h₁ hstart (by simpa using hlead)
  refine ⟨s₂, ?_, hreaches₁.trans hreaches₂⟩
  simpa [tokens, Doc.record, keyed] using h₂

/-- A leaf behind its key or dash. -/
theorem scan_scalar {x : Scalar} (hx : Unquoted x) {margin : Nat} (hinside : ∀ m ∈ k :: outer, m < n)
    {admits : Bool} (hlead : lead b ≤ k) (hstart : Start (body b))
    (h : s.At ((writeScalar margin x).toList ++ '\n' :: (List.replicate (lead b) ' ' ++ body b)) n
      (k :: outer) ts admits) :
    ∃ s', s'.At (body b) (lead b) (k :: outer) (.scalar (x.asRead .yaml) :: ts) true ∧
      s.Reaches s' := by
  obtain ⟨w, hread, hplain, hwritten⟩ := hx.asRead
  rw [hwritten] at h
  rw [hread]
  simpa using Scan.At.scalar hplain h hinside hstart hlead

theorem forall_mem_lt (houter : ∀ m ∈ outer, m < k) (hn : k < n) : ∀ m ∈ k :: outer, m < n :=
  List.forall_mem_cons.2 ⟨hn, fun m hm => (houter m hm).trans hn⟩

/-- **Every document in blocks** is cut into its tokens, as the value of an entry and, if it is no list,
as an item. -/
theorem scans {d : Doc} (h : d.Blockwise) :
    ScansEntry d ∧ ((∀ ds, d ≠ .list ds) → ScansItem d) := by
  induction h with
  | @scalar x hx =>
    obtain ⟨w, -, hplain, hwritten⟩ := hx.asRead
    have hfirst (margin : Nat) (cs : List Char) : Start ((writeScalar margin x).toList ++ cs) :=
      hwritten margin ▸ start_of_isPlain hplain cs
    constructor
    · intro s k n outer ts b houter hn hlead hstart hs
      obtain ⟨s₁, h₁, hreaches₁⟩ := Scan.At.blank (by simpa [valueText, valueOf] using hs) (hfirst _ _)
      obtain ⟨s₂, h₂, hreaches₂⟩ := scan_scalar hx (forall_mem_lt houter (by omega)) hlead hstart h₁
      exact ⟨s₂, h₂, hreaches₁.trans hreaches₂⟩
    · intro _ s k outer ts b houter hlead hstart hs
      obtain ⟨s₁, h₁, hreaches₁⟩ := Scan.At.dash (by simpa [itemLines, valueOf, body] using hs)
        (fun m hm => (houter m hm).le) (hfirst _ _)
      obtain ⟨s₂, h₂, hreaches₂⟩ := scan_scalar hx (forall_mem_lt houter (by omega)) hlead hstart h₁
      exact ⟨s₂, h₂, hreaches₁.trans hreaches₂⟩
  | nothing =>
    refine ⟨?_, fun hlist => absurd rfl (hlist [])⟩
    intro s k n outer ts b houter hn hlead hstart hs
    obtain ⟨s₁, h₁, hreaches₁⟩ := Scan.At.blank (by simpa [valueText, valueOf] using hs)
      (by simp [Start, isBlank, isBreak, byteOrderMark])
    obtain ⟨s₂, h₂, hreaches₂⟩ := Scan.At.brackets h₁
      fun m hm => (forall_mem_lt houter (hn.trans (Nat.lt_succ_self n)) m hm).le
    obtain ⟨s₃, h₃, hreaches₃⟩ := Scan.At.line h₂ hstart
    exact ⟨s₃, h₃, hreaches₁.trans (hreaches₂.trans hreaches₃)⟩
  | @list items hne hitems _ ih =>
    refine ⟨?_, fun hlist => absurd rfl (hlist items)⟩
    intro s k n outer ts b houter hn hlead hstart hs
    simp only [valueText, valueOf_list hne] at hs
    obtain ⟨s₁, h₁, hreaches₁⟩ := Scan.At.line hs (start_itemLines hne b)
    rw [lead_itemLines hne] at h₁
    obtain ⟨s₂, h₂, hreaches₂⟩ := scan_items (fun d hd => (ih d hd).2 (hitems d hd)) houter hlead
      hstart hne h₁
    exact ⟨s₂, tokens_list hne ▸ h₂, hreaches₁.trans hreaches₂⟩
  | @record entries hne hkeys _ ih =>
    have hscans : ∀ e ∈ entries, ScansEntry e.2 := fun e he => (ih e he).1
    constructor
    · intro s k n outer ts b houter hn hlead hstart hs
      simp only [valueText, valueOf_record hne] at hs
      obtain ⟨s₁, h₁, hreaches₁⟩ := Scan.At.line hs (start_entryLines hne hkeys b)
      rw [lead_entryLines hne] at h₁
      obtain ⟨s₂, h₂, hreaches₂⟩ := scan_record hne hkeys hscans (forall_mem_lt houter (by omega))
        (by omega) hstart h₁
      exact ⟨s₂, h₂, hreaches₁.trans hreaches₂⟩
    · intro _ s k outer ts b houter hlead hstart hs
      have hbelow : entryLines (k + 2) (keyed entries) ≠ [] := by
        obtain ⟨e, es, rfl⟩ := List.exists_cons_of_ne_nil hne
        simp [keyed, entryLines]
      rw [itemLines] at hs
      simp only [valueOf_record hne, itemLines, List.append_nil] at hs
      obtain ⟨s₁, h₁, hreaches₁⟩ := Scan.At.dash (by simpa [body_dash hbelow] using hs)
        (fun m hm => (houter m hm).le) (start_entryLines hne hkeys b)
      obtain ⟨s₂, h₂, hreaches₂⟩ := scan_record hne hkeys hscans (forall_mem_lt houter (by omega))
        (by omega) hstart h₁
      refine ⟨s₂, ?_, hreaches₁.trans hreaches₂⟩
      simpa [itemTokens] using h₂

/-! ### Whole texts -/

/-- A character that may stand in a line. -/
def IsInline (c : Char) : Prop := isAllowed c ∧ isBreak c = false

instance : DecidablePred IsInline := fun _ => inferInstanceAs (Decidable (_ ∧ _))

theorem isInline_of_all {s : String} (h : s.toList.all (IsInline ·)) : ∀ c ∈ s.toList, IsInline c := by
  simpa using h

theorem IsPlain.isInline {w : List Char} (h : IsPlain w) {c : Char} (hc : c ∈ w) : IsInline c :=
  ⟨h.allowed c hc, h.phrase.isBreak_eq_false hc⟩

/-- All lines of a block are made of such characters. -/
def AreInline (b : Block) : Prop := ∀ line ∈ b, ∀ c ∈ line.2.toList, IsInline c

theorem AreInline.cons {line : String} (hline : ∀ c ∈ line.toList, IsInline c) (hb : AreInline b) :
    AreInline ((n, line) :: b) := List.forall_mem_cons.2 ⟨hline, hb⟩

theorem AreInline.append {b' : Block} (hb : AreInline b) (hb' : AreInline b') : AreInline (b ++ b') :=
  List.forall_mem_append.2 ⟨hb, hb'⟩

theorem AreInline.dash (hb : AreInline b) : AreInline (dash n b) := by
  cases b with
  | nil => exact .cons (isInline_of_all (by decide)) hb
  | cons line b =>
    obtain ⟨hline, hb⟩ := List.forall_mem_cons.1 hb
    refine .cons (fun c hc => ?_) hb
    rw [String.toList_append] at hc
    rcases List.mem_append.1 hc with hc | hc
    · exact isInline_of_all (s := "- ") (by decide) c hc
    · exact hline c hc

/-- What is written for a document has such lines. -/
def WritesInline (d : Doc) : Prop :=
  ∀ l c, (∀ a ∈ (valueOf l c d).1.toList, IsInline a) ∧ AreInline (valueOf l c d).2

theorem areInline_itemLines {items : List Doc} (h : ∀ d ∈ items, WritesInline d) :
    AreInline (itemLines n items) := by
  induction items with
  | nil => exact nofun
  | cons d ds ih =>
    obtain ⟨hhere, hbelow⟩ := h d (.head _) (n + 2) (n + 2)
    have hrest := ih fun d hd => h d (.tail _ hd)
    rw [itemLines]
    refine .append ?_ hrest
    split
    · exact hbelow.dash
    · refine .cons (fun c hc => ?_) hbelow
      rw [String.toList_append] at hc
      rcases List.mem_append.1 hc with hc | hc
      · exact isInline_of_all (s := "-") (by decide) c hc
      · exact hhere c hc

theorem areInline_entryLines {entries : List (String × Doc)} (hkeys : ∀ e ∈ entries, IsKey e.1)
    (h : ∀ e ∈ entries, WritesInline e.2) : AreInline (entryLines n (keyed entries)) := by
  induction entries with
  | nil => exact nofun
  | cons e es ih =>
    obtain ⟨hhere, hbelow⟩ := h e (.head _) n (n + 2)
    have hrest := ih (fun e he => hkeys e (.tail _ he)) fun e he => h e (.tail _ he)
    have hkey := hkeys e (.head _)
    rw [keyed, List.map_cons, entryLines, hkey.writeKey]
    refine .append (.cons (fun c hc => ?_) hbelow) hrest
    simp only [String.toList_append, List.mem_append] at hc
    rcases hc with (hc | hc) | hc
    · exact hkey.isPlain.isInline hc
    · exact isInline_of_all (s := ":") (by decide) c hc
    · exact hhere c hc

theorem writesInline {d : Doc} (h : d.Blockwise) : WritesInline d := by
  induction h with
  | @scalar x hx =>
    obtain ⟨w, -, hplain, hwritten⟩ := hx.asRead
    refine fun l c => ⟨fun a ha => ?_, nofun⟩
    rw [valueOf, hwritten, String.toList_append] at ha
    rcases List.mem_append.1 ha with ha | ha
    · exact isInline_of_all (s := " ") (by decide) a ha
    · exact hplain.isInline ha
  | nothing => exact fun l c => ⟨isInline_of_all (s := " []") (by decide), nofun⟩
  | list hne _ _ ih =>
    intro l c
    rw [valueOf_list hne]
    exact ⟨nofun, areInline_itemLines ih⟩
  | record hne hkeys _ ih =>
    intro l c
    rw [valueOf_record hne]
    exact ⟨nofun, areInline_entryLines hkeys ih⟩

theorem all_body (h : AreInline b) : (body b).all isAllowed := by
  induction b with
  | nil => rfl
  | cons line b ih =>
    obtain ⟨hline, hb⟩ := List.forall_mem_cons.1 h
    have hblanks : (List.replicate (lead b) ' ').all isAllowed :=
      List.all_eq_true.2 fun c hc => List.eq_of_mem_replicate hc ▸ by decide
    have hline' : line.2.toList.all isAllowed := List.all_eq_true.2 fun c hc => (hline c hc).1
    rw [body, List.all_append, List.all_cons, List.all_append, hline', hblanks, ih hb]
    decide

/-- The text of a table consists of the lines of its entries. -/
theorem toList_write {entries : List (String × Doc)} (hne : entries ≠ [])
    (hlines : AreInline (entryLines 0 (keyed entries))) :
    (write (.record entries)).toList = body (entryLines 0 (keyed entries)) := by
  have hlead : lead (entryLines 0 (keyed entries)) = 0 := by simpa using lead_entryLines hne []
  have hblock := toList_text fun line hline c hc => (hlines line hline c hc).2
  rw [hlead] at hblock
  rw [write, valueOf_record hne]
  simpa using hblock

/-- The text starts with the first key. -/
theorem exists_write_eq {key : String} {d : Doc} {es : List (String × Doc)}
    (hkeys : ∀ e ∈ (key, d) :: es, IsKey e.1) (hblocks : ∀ e ∈ (key, d) :: es, e.2.Blockwise) :
    ∃ cs, (write (.record ((key, d) :: es))).toList = key.toList ++ ':' :: cs := by
  have hlines := areInline_entryLines (n := 0) hkeys fun e he => writesInline (hblocks e he)
  have hbody := body_entryLines (k := 0) (hkeys _ (.head _)) d es []
  rw [List.append_nil] at hbody
  exact ⟨_, (toList_write (List.cons_ne_nil _ _) hlines).trans hbody⟩

/-- **The text of a table** is cut into the tokens of the table. -/
theorem ofText?_write {entries : List (String × Doc)} (hne : entries ≠ [])
    (hkeys : ∀ e ∈ entries, IsKey e.1) (hblocks : ∀ e ∈ entries, e.2.Blockwise) :
    Token.ofText? (write (.record entries)).toList = some (tokens (.record entries)) := by
  have hlines : AreInline (entryLines 0 (keyed entries)) :=
    areInline_entryLines hkeys fun e he => writesInline (hblocks e he)
  have htext := toList_write hne hlines
  obtain ⟨s, hs⟩ : ∃ s : Scan, s = { place := .start (body (entryLines 0 (keyed entries))) } := ⟨_, rfl⟩
  have hstart : s.At (body (entryLines 0 (keyed entries) ++ [])) 0 [] [] true := by
    rw [hs, List.append_nil]
    exact ⟨rfl, rfl, rfl, rfl, rfl, rfl, rfl, .inl rfl⟩
  obtain ⟨s', hend, hreaches⟩ := scan_entries (b := []) hne hkeys
    (fun e he => (scans (hblocks e he)).1) (.new (by simp)) (Nat.le_refl 0) (by simp [Start, body])
    hstart
  obtain ⟨fuel, hfuel, hrun⟩ := hreaches (body (entryLines 0 (keyed entries))).length.succ
    (by rw [hs]; exact Nat.lt_succ_self _)
  obtain ⟨fuel, rfl⟩ := Nat.exists_eq_succ_of_ne_zero (Nat.ne_of_gt (Nat.zero_lt_of_lt hfuel))
  rw [Token.ofText?, htext, if_pos (all_body hlines), ← hs, hrun,
    Scan.At.finish hend (by simp [lead])]
  simp [tokens, Doc.record, keyed]

end Yaml

end VmMonitor
