import Mathlib.Tactic.SplitIfs
import VmMonitor.AttributeValue.Text
import VmMonitor.Proofs.Document.Decode
import VmMonitor.Proofs.Document.Json

/-!
# Values that are spelled naturally

A document spells a value without naming its type, and the types are tried in a fixed order: numbers
before texts, a memory usage before a thread, and a thread before properties. So a value is read back
only if no type before its own fits the same document. A list with a text in it is no list of numbers.
A table of texts is neither a usage nor a thread, whatever its keys are called, since both want numbers
under their names. A thread is no usage as long as one of the sizes is missing. The order of the entries
and entries under other names change nothing.

One value has no spelling of its own. `[]` is an empty list of numbers before it is an empty list of
texts, and the reader of texts refuses it, although null is an empty list to the same reader.

## What is proved

* `Doc.Spells.settled`: settling the types of the leaves keeps the entries of a record.
* `MemoryUsage.read_of_spelledBy`, `ThreadInfo.read_of_spelledBy`: a usage and a thread are read field
  by field, in any order and among other entries.
* `AttributeValue.decode_of_spelling`: a value is read from its natural spelling, at every depth at
  which the document is readable.
* `AttributeValue.natural_spellings`: from JSON the accessor of its type gives the value; for the empty
  list the accessor of texts gives a mismatch.
-/

namespace VmMonitor

namespace Doc

/-! ### Settled documents -/

theorem settledItems_eq (items : List Doc) : settledItems items = items.map settled := by
  induction items with
  | nil => rfl
  | cons d items ih => rw [settledItems, ih, List.map_cons]

theorem settledEntries_eq (entries : List (Doc × Doc)) :
    settledEntries entries = entries.map fun e => (e.1.settled, e.2.settled) := by
  induction entries with
  | nil => rfl
  | cons e entries ih => rw [settledEntries, ih, List.map_cons]

/-- A list of settled leaves is settled. -/
theorem settled_list {α : Type} {leaf : α → Doc} (h : ∀ a, (leaf a).settled = leaf a)
    (as : List α) : (list (as.map leaf)).settled = .list (as.map leaf) := by
  rw [settled, settledItems_eq, List.map_map]
  exact congrArg list (List.map_congr_left fun a _ => h a)

/-- The keys of a record are settled. -/
theorem settled_record (entries : List (String × Doc)) :
    (record entries).settled = record (entries.map fun e => (e.1, e.2.settled)) := by
  simp only [record, settled, settledEntries_eq, List.map_map]
  rfl

theorem allReadable_iff {depth : Nat} {items : List Doc} :
    allReadable depth items ↔ ∀ d ∈ items, d.readable depth := by
  induction items with
  | nil => simp [allReadable]
  | cons d items ih => simp [allReadable, ih]

theorem entriesReadable_iff {depth : Nat} {entries : List (Doc × Doc)} :
    entriesReadable depth entries ↔ ∀ e ∈ entries, e.1.readable depth ∧ e.2.readable depth := by
  induction entries with
  | nil => simp [entriesReadable]
  | cons e entries ih => simp [entriesReadable, ih]

/-- A list of settled leaves is readable. -/
theorem readable_list {α : Type} {leaf : α → Doc} {depth : Nat}
    (h : ∀ a, (leaf a).settled = leaf a ∧ (leaf a).readable depth) (as : List α) :
    (list (as.map leaf)).settled.readable (depth + 1) := by
  rw [settled_list fun a => (h a).1, readable, allReadable_iff]
  intro d hd
  obtain ⟨a, -, rfl⟩ := List.mem_map.1 hd
  exact (h a).2

/-- Texts under texts are settled. -/
theorem settled_texts (pairs : List (String × String)) :
    (record (pairs.map fun e => (e.1, text e.2))).settled =
      record (pairs.map fun e => (e.1, text e.2)) := by
  rw [settled_record, List.map_map]
  rfl

/-- Texts under texts are readable. -/
theorem readable_texts {depth : Nat} (pairs : List (String × String)) :
    (record (pairs.map fun e => (e.1, text e.2))).settled.readable (depth + 1) := by
  rw [settled_texts, record, readable, entriesReadable_iff, List.map_map]
  intro e he
  obtain ⟨pair, -, rfl⟩ := List.mem_map.1 he
  exact ⟨rfl, rfl⟩

theorem get?_record (entries : List (String × Doc)) (key : String) :
    (record entries).get? key = Table.get? key entries := by
  simp only [record, get?, Table.get?, List.find?_map, Option.map_map]
  rfl

theorem get?_record_eq_none_iff {entries : List (String × Doc)} {key : String} :
    (record entries).get? key = none ↔ key ∉ Table.keys entries := by
  rw [get?_record, ← Table.has_iff_mem_keys, Table.has, Option.not_isSome_iff_eq_none]

/-- Entries with settled values are still there once the types of the other leaves are settled. -/
theorem Spells.settled {fields : List Decode.Field} {known : List (String × Doc)} {d : Doc}
    (h : d.Spells fields known) (hknown : ∀ e ∈ known, e.2.settled = e.2) :
    d.settled.Spells fields known := by
  obtain ⟨entries, extra, rfl, hperm, hextra⟩ := h
  let settle (e : String × Doc) : String × Doc := (e.1, e.2.settled)
  have hself : known.map settle = known := calc
    known.map settle = known.map id :=
      List.map_congr_left fun e he => congrArg (Prod.mk e.1) (hknown e he)
    _ = known := known.map_id
  refine ⟨entries.map settle, extra.map settle, settled_record entries, ?_, ?_⟩
  · rw [← hself, ← List.map_append]
    exact hperm.map settle
  · intro e he
    obtain ⟨e', he', rfl⟩ := List.mem_map.1 he
    exact hextra e' he'

theorem Spells.exists_record {fields : List Decode.Field} {known : List (String × Doc)} {d : Doc}
    (h : d.Spells fields known) : ∃ entries, d = .record entries := by
  obtain ⟨entries, -, rfl, -⟩ := h
  exact ⟨entries, rfl⟩

end Doc

/-! ### Memory usages -/

namespace MemoryUsage

/-- The sizes are numbers of sixty-four bits. -/
def Fits (u : MemoryUsage) : Prop :=
  isInt64 u.init ∧ isInt64 u.used ∧ isInt64 u.committed ∧ isInt64 u.max

/-- The sizes under their names, in any order and among other entries. -/
def SpelledBy (u : MemoryUsage) (d : Doc) : Prop :=
  u.Fits ∧ d.Spells fields [("init", .int u.init), ("used", .int u.used),
    ("committed", .int u.committed), ("max", .int u.max)]

theorem SpelledBy.settled {u : MemoryUsage} {d : Doc} (h : u.SpelledBy d) : u.SpelledBy d.settled :=
  ⟨h.1, h.2.settled (by simp [Doc.int, Doc.settled, Scalar.settled])⟩

theorem aliases_fields : ∀ f ∈ fields, f.aliases = [] := by decide

theorem read_of_spelledBy {u : MemoryUsage} {d : Doc} (h : u.SpelledBy d) :
    (Decode.record? true fields d >>= ofRecord) = some u := by
  obtain ⟨⟨hinit, hused, hcommitted, hmax⟩, hd⟩ := h
  obtain ⟨r, hr, hfind⟩ := Decode.exists_record?_of_spells aliases_fields true
    (by simp [fields]) (by simp [Table.keys]) hd
  have hread : ofRecord r = some u := by
    simp [ofRecord, Decode.Record.required, hfind, Table.get?_cons, Decode.int64_int, hinit, hused,
      hcommitted, hmax]
  rw [hr]
  exact hread

/-- Whoever reads a usage has read all of its fields. -/
theorem required_of_ofRecord {r : Decode.Record} {u : MemoryUsage} (h : ofRecord r = some u) :
    ∀ f ∈ fields, ∃ n, r.required f.name Decode.int64 = some n := by
  simp only [ofRecord, Option.bind_eq_bind, Option.bind_eq_some_iff] at h
  obtain ⟨init, hinit, used, hused, committed, hcommitted, max, hmax, -⟩ := h
  simp only [fields, List.forall_mem_cons]
  exact ⟨⟨_, hinit⟩, ⟨_, hused⟩, ⟨_, hcommitted⟩, ⟨_, hmax⟩, by simp⟩

end MemoryUsage

/-! ### Threads -/

namespace ThreadInfo

/-- The entries of a thread but for its lock owner. -/
def unlocked (t : ThreadInfo) : List (String × Doc) :=
  [("thread_id", .int t.id), ("thread_name", .text t.name), ("thread_state", .text t.state)]

/-- The entries that tell a thread; a lock owner of `-1` may be left out. -/
def ToldBy (t : ThreadInfo) (known : List (String × Doc)) : Prop :=
  known = ("lock_owner_id", .int t.lockOwner) :: t.unlocked ∨
    t.lockOwner = -1 ∧ known = t.unlocked

/-- The thread field by field, in any order and among other entries. -/
def SpelledBy (t : ThreadInfo) (d : Doc) : Prop :=
  isInt64 t.id ∧ isInt64 t.lockOwner ∧ ∃ known, t.ToldBy known ∧ d.Spells fields known

theorem SpelledBy.exists_record {t : ThreadInfo} {d : Doc} (h : t.SpelledBy d) :
    ∃ entries, d = .record entries := by
  obtain ⟨-, -, known, -, hd⟩ := h
  exact hd.exists_record

theorem SpelledBy.settled {t : ThreadInfo} {d : Doc} (h : t.SpelledBy d) : t.SpelledBy d.settled := by
  obtain ⟨hid, hlock, known, htold, hd⟩ := h
  have hsettled : ∀ e ∈ known, e.2.settled = e.2 := by
    rcases htold with rfl | ⟨-, rfl⟩ <;>
      simp [unlocked, Doc.int, Doc.text, Doc.settled, Scalar.settled]
  exact ⟨hid, hlock, known, htold, hd.settled hsettled⟩

theorem aliases_fields : ∀ f ∈ fields, f.aliases = [] := by decide

theorem read_of_spelledBy {t : ThreadInfo} {d : Doc} (h : t.SpelledBy d) :
    (Decode.record? true fields d >>= ofRecord) = some t := by
  obtain ⟨hid, hlock, known, htold, hd⟩ := h
  have hnames : (∀ e ∈ known, e.1 ∈ fields.map (·.name)) ∧ (Table.keys known).Nodup := by
    rcases htold with rfl | ⟨-, rfl⟩ <;> simp [unlocked, fields, Table.keys]
  obtain ⟨r, hr, hfind⟩ := Decode.exists_record?_of_spells aliases_fields true hnames.1 hnames.2 hd
  have hread : ofRecord r = some t := by
    obtain ⟨id, name, state, lockOwner⟩ := t
    rcases htold with rfl | ⟨rfl, rfl⟩ <;>
      simp [ofRecord, Decode.Record.required, Decode.Record.orElse, hfind, unlocked, Table.get?,
        Decode.int64_int hid, Decode.int64_int hlock, Decode.text_text]
  rw [hr]
  exact hread

theorem required_of_ofRecord {r : Decode.Record} {t : ThreadInfo} (h : ofRecord r = some t) :
    ∃ n, r.required "thread_id" Decode.int64 = some n := by
  simp only [ofRecord, Option.bind_eq_bind, Option.bind_eq_some_iff] at h
  obtain ⟨id, hid, -⟩ := h
  exact ⟨id, hid⟩

end ThreadInfo

namespace AttributeValue

/-- The natural spellings of a value, as far as they stand for it alone. -/
inductive Spelling : AttributeValue → Doc → Prop
  | bool (b : Bool) : Spelling (.bool b) (.bool b)
  | long {n : Int} : isInt64 n → Spelling (.long n) (.int n)
  | longs {ns : List Int} : (∀ n ∈ ns, isInt64 n) → Spelling (.longs ns) (.list (ns.map .int))
  | texts {ss : List String} : ss ≠ [] → Spelling (.texts ss) (.list (ss.map .text))
  | usage {u : MemoryUsage} {d : Doc} : u.SpelledBy d → Spelling (.usage u) d
  | thread {t : ThreadInfo} {d : Doc} {f : Decode.Field} : t.SpelledBy d → f ∈ MemoryUsage.fields →
      d.get? f.name = none → Spelling (.thread t) d
  | properties {p : Properties} {pairs : List (String × String)} : (Table.keys p).Pairwise (· < ·) →
      pairs.Perm p → Spelling (.properties p) (.record (pairs.map fun e => (e.1, .text e.2)))

theorem ofCompound_record (entries : List (String × Doc)) :
    ofCompound (.record entries) =
      (((Decode.record? true MemoryUsage.fields (.record entries) >>= MemoryUsage.ofRecord).map usage)
        <|> ((Decode.record? true ThreadInfo.fields (.record entries) >>= ThreadInfo.ofRecord).map
          thread)
        <|> ((Decode.textTable (.record entries)).map properties)) := rfl

theorem decode_of_settled_list {depth : Nat} {d : Doc} {items : List Doc} (h : d.settled = .list items)
    (hd : d.settled.readable depth) : decode depth d = ofCompound (.list items) := by
  rw [h] at hd
  simp [decode, h, hd]

theorem decode_of_settled_record {depth : Nat} {d : Doc} {entries : List (String × Doc)}
    (h : d.settled = .record entries) (hd : d.settled.readable depth) :
    decode depth d = ofCompound (.record entries) := by
  rw [h] at hd
  simp only [decode, h, hd, if_true]
  rfl

/-- A record with a text or nothing under a size is no usage. -/
theorem usage_eq_none {entries : List (String × Doc)} {f : Decode.Field} (hf : f ∈ MemoryUsage.fields)
    (hentries : ∀ d, (f.name, d) ∈ entries → Decode.int64 d = none) :
    (Decode.record? true MemoryUsage.fields (.record entries) >>= MemoryUsage.ofRecord) = none :=
  Decode.record?_bind_eq_none MemoryUsage.aliases_fields
    (fun _ _ h => MemoryUsage.required_of_ofRecord h f hf) hentries

/-- A record with a text or nothing under the number of a thread is no thread. -/
theorem thread_eq_none {entries : List (String × Doc)}
    (hentries : ∀ d, ("thread_id", d) ∈ entries → Decode.int64 d = none) :
    (Decode.record? true ThreadInfo.fields (.record entries) >>= ThreadInfo.ofRecord) = none :=
  Decode.record?_bind_eq_none ThreadInfo.aliases_fields
    (fun _ _ h => ThreadInfo.required_of_ofRecord h) hentries

/-- A value is read from its natural spelling, since no type that is tried before its own fits. -/
theorem decode_of_spelling {a : AttributeValue} {d : Doc} (h : Spelling a d) {depth : Nat}
    (hd : d.settled.readable depth) : decode depth d = some a := by
  -- One case per type; what has to be refuted in each are the types that are tried before it.
  cases h with
  | bool b => rfl
  | long hn => simp [decode, Doc.int, Doc.settled, Scalar.settled, Doc.readable, ofScalar, hn]
  | longs hns =>
    rw [decode_of_settled_list (Doc.settled_list (fun _ => rfl) _) hd, ofCompound,
      Decode.list_int64 hns]
    rfl
  | texts hss =>
    rw [decode_of_settled_list (Doc.settled_list (fun _ => rfl) _) hd, ofCompound,
      Decode.list_int64_text hss, Decode.list_text]
    rfl
  | usage hu =>
    obtain ⟨entries, heq⟩ := hu.settled.2.exists_record
    rw [decode_of_settled_record heq hd, ofCompound_record, ← heq,
      MemoryUsage.read_of_spelledBy hu.settled]
    rfl
  | @thread t _ f ht hf hmissing =>
    obtain ⟨entries, rfl⟩ := ht.exists_record
    have hread := ThreadInfo.read_of_spelledBy ht.settled
    rw [Doc.settled_record] at hread
    rw [decode_of_settled_record (Doc.settled_record entries) hd, ofCompound_record,
      usage_eq_none hf, hread]
    · rfl
    · intro d hmem
      obtain ⟨e, he, heq⟩ := List.mem_map.1 hmem
      have hkey : f.name ∈ Table.keys entries := List.mem_map.2 ⟨e, he, (Prod.mk.inj heq).1⟩
      exact absurd hkey (Doc.get?_record_eq_none_iff.1 hmissing)
  | @properties p pairs hp hperm =>
    have htext : ∀ name d, (name, d) ∈ pairs.map (fun e => (e.1, Doc.text e.2)) →
        Decode.int64 d = none := by
      intro name d hmem
      obtain ⟨e, -, he⟩ := List.mem_map.1 hmem
      rw [← (Prod.mk.inj he).2]
      rfl
    rw [decode_of_settled_record (Doc.settled_texts pairs) hd, ofCompound_record,
      usage_eq_none List.mem_cons_self (htext _), thread_eq_none (htext _),
      Decode.textTable_record, Table.ofList_eq_of_perm hperm hp]
    rfl

theorem ofJson?_of_spelling {content : String} {d : Doc} (hread : Json.read content = some d)
    {a : AttributeValue} (h : Spelling a d) (hd : d.settled.readable Json.depthLimit) :
    ofJson? content = some a := by
  rw [ofJson?, hread]
  exact decode_of_spelling h hd

/-- **Naturally spelled values read back.** What is written as JSON is read as the same document. In
whatever JSON text a value is spelled naturally, the accessor of its type gives that value, and for the
empty list the accessor of texts gives a mismatch. Further entries of a usage or a thread only have to be
readable. -/
theorem natural_spellings (what : String) :
    (∀ d : Doc, d.Writable → Json.read (Json.compact d) = some d) ∧
    ∀ content d, Json.read content = some d →
      (∀ b, d = .bool b → (ofJson? content).map (asBool what) = some (.ok b)) ∧
      (∀ n, isInt64 n → d = .int n → (ofJson? content).map (asLong what) = some (.ok n)) ∧
      (∀ ns : List Int, (∀ n ∈ ns, isInt64 n) → d = .list (ns.map .int) →
        (ofJson? content).map (asLongs? what) = some (.ok (some ns))) ∧
      (∀ ss : List String, ss ≠ [] → d = .list (ss.map .text) →
        (ofJson? content).map (asTexts what) = some (.ok ss)) ∧
      (d = .list [] → (ofJson? content).map (asTexts what) = some (.error (.typeMismatch what))) ∧
      (∀ u : MemoryUsage, u.SpelledBy d → d.settled.readable Json.depthLimit →
        (ofJson? content).map (asUsage what) = some (.ok u)) ∧
      (∀ t : ThreadInfo, t.SpelledBy d → (∃ f ∈ MemoryUsage.fields, d.get? f.name = none) →
        d.settled.readable Json.depthLimit →
        (ofJson? content).map (asThread? what) = some (.ok (some t))) ∧
      (∀ (p : Properties) (pairs : List (String × String)), (Table.keys p).Pairwise (· < ·) →
        pairs.Perm p → d = .record (pairs.map fun e => (e.1, .text e.2)) →
        (ofJson? content).map (asProperties what) = some (.ok p)) := by
  refine ⟨fun d hd => Json.read_compact hd, fun content d hread => ?_⟩
  refine ⟨?_, ?_, ?_, ?_, ?_, ?_, ?_, ?_⟩
  · rintro b rfl
    rw [ofJson?_of_spelling hread (.bool b) rfl]
    rfl
  · rintro n hn rfl
    rw [ofJson?_of_spelling hread (.long hn) rfl]
    rfl
  · rintro ns hns rfl
    rw [ofJson?_of_spelling hread (.longs hns) (Doc.readable_list (fun _ => ⟨rfl, rfl⟩) ns)]
    rfl
  · rintro ss hss rfl
    rw [ofJson?_of_spelling hread (.texts hss) (Doc.readable_list (fun _ => ⟨rfl, rfl⟩) ss)]
    rfl
  · rintro rfl
    have hlongs : Spelling (.longs []) (.list []) := @Spelling.longs [] (by simp)
    rw [ofJson?_of_spelling hread hlongs rfl]
    rfl
  · intro u hu hd
    rw [ofJson?_of_spelling hread (.usage hu) hd]
    rfl
  · rintro t ht ⟨f, hf, hmissing⟩ hd
    rw [ofJson?_of_spelling hread (.thread ht hf hmissing) hd]
    rfl
  · rintro p pairs hp hperm rfl
    rw [ofJson?_of_spelling hread (.properties hp hperm) (Doc.readable_texts pairs)]
    rfl

/-- A usage with its last field first and a further one behind that. -/
def turnedUsage : Doc :=
  .record [("max", .int (-1)), ("note", .list [.null]), ("init", .int 0), ("used", .int 10),
    ("committed", .int 20)]

/-- A thread that waits for nobody and does not say so. -/
def freeThread : Doc :=
  .record [("thread_state", .text "RUNNABLE"), ("thread_id", .int 1), ("thread_name", .text "main")]

/-- Properties under the names of sizes. -/
def sizeProperties : Doc := .record [("used", .text "10"), ("init", .text "0")]

/-- A usage, a thread, properties and a list with one text, from their compact texts. -/
theorem natural_spellings_of_turned :
    (ofJson? (Json.compact turnedUsage)).map (asUsage "HeapMemoryUsage") =
      some (.ok ⟨0, 10, 20, -1⟩) ∧
    (ofJson? (Json.compact freeThread)).map (asThread? "ThreadInfo") =
      some (.ok (some ⟨1, "main", "RUNNABLE", -1⟩)) ∧
    (ofJson? (Json.compact sizeProperties)).map (asProperties "SystemProperties") =
      some (.ok [("init", "0"), ("used", "10")]) ∧
    (ofJson? (Json.compact (.list [.text "1"]))).map (asTexts "InputArguments") =
      some (.ok ["1"]) := by
  refine ⟨?_, ?_, ?_, ?_⟩
  · have hwritable : turnedUsage.Writable := .record (by
      simp only [List.forall_mem_cons]
      exact ⟨.int (by decide) (by decide), .list (by simpa using .null), .int (by decide) (by decide),
        .int (by decide) (by decide), .int (by decide) (by decide), by simp⟩)
    have hspelled : (⟨0, 10, 20, -1⟩ : MemoryUsage).SpelledBy turnedUsage :=
      ⟨⟨rfl, rfl, rfl, rfl⟩, _, [("note", .list [.null])], rfl,
        @List.perm_append_comm _ [("max", Doc.int (-1)), ("note", .list [.null])] _, by decide⟩
    obtain ⟨hcompact, hread⟩ := natural_spellings "HeapMemoryUsage"
    obtain ⟨-, -, -, -, -, husage, -⟩ := hread _ _ (hcompact _ hwritable)
    exact husage _ hspelled rfl
  · have hwritable : freeThread.Writable := .record (by
      simp only [List.forall_mem_cons]
      exact ⟨.text _, .int (by decide) (by decide), .text _, by simp⟩)
    have hspelled : (⟨1, "main", "RUNNABLE", -1⟩ : ThreadInfo).SpelledBy freeThread :=
      ⟨rfl, rfl, _, .inr ⟨rfl, rfl⟩, _, [], rfl,
        @List.perm_append_comm _ [("thread_state", Doc.text "RUNNABLE")] _, by decide⟩
    obtain ⟨hcompact, hread⟩ := natural_spellings "ThreadInfo"
    obtain ⟨-, -, -, -, -, -, hthread, -⟩ := hread _ _ (hcompact _ hwritable)
    exact hthread _ hspelled ⟨⟨"init", []⟩, by simp [MemoryUsage.fields], rfl⟩ rfl
  · have hwritable : sizeProperties.Writable := .record (by
      simp only [List.forall_mem_cons]
      exact ⟨.text _, .text _, by simp⟩)
    obtain ⟨hcompact, hread⟩ := natural_spellings "SystemProperties"
    obtain ⟨-, -, -, -, -, -, -, hproperties⟩ := hread _ _ (hcompact _ hwritable)
    exact hproperties _ [("used", "10"), ("init", "0")] (by decide) (.swap _ _ _) rfl
  · obtain ⟨hcompact, hread⟩ := natural_spellings "InputArguments"
    have hwritable : (Doc.list [.text "1"]).Writable := .list (by simpa using .text "1")
    obtain ⟨-, -, -, htexts, -⟩ := hread _ _ (hcompact _ hwritable)
    exact htexts ["1"] (by simp) rfl

/-- The spelling of an empty list of texts is that of an empty list of numbers, which is tried first:
the reader of texts refuses it, though null would be an empty list to it. -/
theorem empty_texts_refused :
    Json.compact (encode (.texts [])) = "[]" ∧
    (ofJson? "[]").map (asTexts "InputArguments") =
      some (.error (.typeMismatch "InputArguments")) ∧
    (ofJson? "null").map (asTexts "InputArguments") = some (.ok []) := by
  refine ⟨rfl, ?_, ?_⟩
  · decide +kernel
  · decide +kernel

end AttributeValue

end VmMonitor
