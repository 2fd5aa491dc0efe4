import Mathlib.Tactic.SplitIfs
import VmMonitor.Document.Decode
import VmMonitor.Proofs.Table

/-!
# What is found in records

A record is taken apart by the names of its fields, so neither the order of its entries nor the
entries that name no field change what is found under a name. A field that has to be there is read from
an entry under its name, so a table without a readable one is no such record.

## What is proved

* `Decode.list_int64`, `Decode.list_text`, `Decode.textTable_record`: lists and tables of leaves are
  read member by member.
* `Decode.record?_record`: a table under texts is a record unless a field is in it twice.
* `Decode.exists_record?_of_spells`: the entries of a record are found whatever their order is and
  whatever else is there.
* `Decode.mem_of_required`, `Decode.record?_bind_eq_none`: what is read is there.
-/

namespace VmMonitor

/-- These entries in some order, and further ones under keys that name no field. -/
def Doc.Spells (fields : List Decode.Field) (known : List (String × Doc)) (d : Doc) : Prop :=
  ∃ entries extra, d = .record entries ∧ entries.Perm (known ++ extra) ∧
    ∀ e ∈ extra, e.1 ∉ fields.map (·.name)

/-- An optional function that has a result for every member of a mapped list. -/
theorem mapM_map_eq_some {α β γ : Type} {f : β → Option γ} {g : α → β} {h : α → γ} {as : List α}
    (hf : ∀ a ∈ as, f (g a) = some (h a)) : (as.map g).mapM f = some (as.map h) := by
  induction as with
  | nil => rfl
  | cons a as ih => simp [hf a (.head _), ih fun a' ha' => hf a' (.tail _ ha')]

namespace Decode

/-! ### Leaves, and lists of them -/

theorem int64_int {n : Int} (h : isInt64 n) : int64 (.int n) = some n := by
  have hrange : -(twoTo 63 : Int) ≤ n ∧ n ≤ (twoTo 63 : Int) - 1 := by
    simp only [isInt64, Bool.and_eq_true, decide_eq_true_eq] at h
    omega
  simp only [int64, Doc.int, intIn]
  exact if_pos hrange

theorem int64_text (s : String) : int64 (.text s) = none := rfl

theorem text_text (s : String) : text (.text s) = some s := rfl

theorem list_int64 {ns : List Int} (h : ∀ n ∈ ns, isInt64 n) :
    list int64 (.list (ns.map .int)) = some ns := by
  have hread := mapM_map_eq_some fun n hn => int64_int (h n hn)
  rwa [List.map_id''] at hread
  exact fun _ => rfl

theorem list_text (ss : List String) : list text (.list (ss.map .text)) = some ss := by
  have hread := mapM_map_eq_some fun s (_ : s ∈ ss) => text_text s
  rwa [List.map_id''] at hread
  exact fun _ => rfl

/-- A list of texts is no list of numbers, unless it is empty. -/
theorem list_int64_text {ss : List String} (h : ss ≠ []) :
    list int64 (.list (ss.map .text)) = none := by
  obtain ⟨s, ss, rfl⟩ := List.exists_cons_of_ne_nil h
  simp [list, Doc.untagged, int64_text]

theorem textTable_record (pairs : List (String × String)) :
    textTable (.record (pairs.map fun e => (e.1, .text e.2))) = some (Table.ofList pairs) := by
  have hread : (pairs.map fun e => (Doc.text e.1, Doc.text e.2)).mapM
      (fun e => do return (← text e.1, ← text e.2)) = some (pairs.map id) :=
    mapM_map_eq_some fun e _ => rfl
  simp only [textTable, Doc.record, Doc.untagged, List.map_map, Function.comp_def]
  rw [hread, List.map_id]
  rfl

/-! ### Records -/

variable {fields : List Field}

theorem fieldOf?_text (h : ∀ f ∈ fields, f.aliases = []) (key : String) :
    fieldOf? fields (.text key) = if key ∈ fields.map (·.name) then some key else none := by
  have hfind : fieldOf? fields (.text key) =
      (fields.find? fun f => f.name = key || f.aliases.contains key).map (·.name) :=
    Option.map_eq_bind.symm
  rw [hfind]
  split_ifs with hkey
  · obtain ⟨f, hf, rfl⟩ := List.mem_map.1 hkey
    cases hget : fields.find? fun g => g.name = f.name || g.aliases.contains f.name with
    | none => simpa using List.find?_eq_none.1 hget f hf
    | some g =>
      have hg := List.find?_some hget
      simpa [h g (List.mem_of_find?_eq_some hget)] using hg
  · simp only [Option.map_eq_none_iff, List.find?_eq_none]
    intro f hf hnamed
    rw [h f hf] at hnamed
    exact hkey (List.mem_map.2 ⟨f, hf, by simpa using hnamed⟩)

/-- The entries that name a field. -/
def knownOf (fields : List Field) (entries : List (String × Doc)) : List (String × Doc) :=
  entries.filter fun e => e.1 ∈ fields.map (·.name)

theorem knownOf_cons (key : String) (d : Doc) (entries : List (String × Doc)) :
    knownOf fields ((key, d) :: entries) =
      if key ∈ fields.map (·.name) then (key, d) :: knownOf fields entries
      else knownOf fields entries := by
  simp only [knownOf, List.filter_cons, decide_eq_true_eq]

theorem any_key_eq (key : String) (entries : List (String × Doc)) :
    entries.any (·.1 = key) = decide (key ∈ Table.keys entries) := by
  rw [Bool.eq_iff_iff, decide_eq_true_iff]
  simp [Table.keys]

/-- An entry that names a field is collected unless the field is there already. -/
theorem collect_record (h : ∀ f ∈ fields, f.aliases = []) (entries : List (String × Doc)) :
    collect fields (entries.map fun (k, d) => (.text k, d)) =
      if (Table.keys (knownOf fields entries)).Nodup then some (knownOf fields entries)
      else none := by
  induction entries with
  | nil => rfl
  | cons e entries ih =>
    obtain ⟨key, d⟩ := e
    have hkey : isFieldKey (.text key) := by
      simp [isFieldKey, Doc.text, text, Doc.untagged, Scalar.asText?]
    simp only [List.map_cons, collect, hkey, if_true, ih, fieldOf?_text h, knownOf_cons]
    by_cases hname : key ∈ fields.map (·.name)
    · have hnodup : (Table.keys ((key, d) :: knownOf fields entries)).Nodup ↔
          key ∉ Table.keys (knownOf fields entries) ∧ (Table.keys (knownOf fields entries)).Nodup :=
        List.nodup_cons
      simp only [hname, if_true, hnodup]
      by_cases hknown : (Table.keys (knownOf fields entries)).Nodup
      · by_cases hmem : key ∈ Table.keys (knownOf fields entries) <;>
          simp [hknown, hmem, any_key_eq]
      · simp [hknown]
    · simp only [hname, if_false]
      split_ifs <;> rfl

/-- A table under texts is a record unless a field is in it twice. -/
theorem record?_record (h : ∀ f ∈ fields, f.aliases = []) (positional : Bool)
    (entries : List (String × Doc)) :
    record? positional fields (.record entries) =
      if (Table.keys (knownOf fields entries)).Nodup then some ⟨false, knownOf fields entries⟩
      else none := by
  simp only [record?, Doc.record, Doc.untagged, collect_record h]
  split_ifs <;> rfl

theorem Record.find?_eq (r : Record) (name : String) : r.find? name = Table.get? name r.fields :=
  rfl

/-- What is found in a record depends neither on the order of its entries nor on further ones. -/
theorem exists_record?_of_spells (h : ∀ f ∈ fields, f.aliases = []) (positional : Bool)
    {known : List (String × Doc)} (hnames : ∀ e ∈ known, e.1 ∈ fields.map (·.name))
    (hnodup : (Table.keys known).Nodup) {d : Doc} (hd : d.Spells fields known) :
    ∃ r, record? positional fields d = some r ∧ ∀ name, r.find? name = Table.get? name known := by
  obtain ⟨entries, extra, rfl, hperm, hextra⟩ := hd
  have hknown : (knownOf fields entries).Perm known := by
    have hfilter := hperm.filter fun e => e.1 ∈ fields.map (·.name)
    have hself : known.filter (fun e => e.1 ∈ fields.map (·.name)) = known := by
      simpa [List.filter_eq_self] using hnames
    have hnil : extra.filter (fun e => e.1 ∈ fields.map (·.name)) = [] := by
      simpa [List.filter_eq_nil_iff] using hextra
    rwa [List.filter_append, hself, hnil, List.append_nil] at hfilter
  have hkeys : (Table.keys (knownOf fields entries)).Nodup :=
    (hknown.map Prod.fst).nodup_iff.2 hnodup
  refine ⟨⟨false, knownOf fields entries⟩, by rw [record?_record h, if_pos hkeys], fun name => ?_⟩
  rw [Record.find?_eq]
  exact Table.get?_eq_of_perm hknown hkeys name

/-- A field that has to be there is read from an entry under its name. -/
theorem mem_of_required {α : Type} (h : ∀ f ∈ fields, f.aliases = []) {positional : Bool}
    {entries : List (String × Doc)} {r : Record}
    (hr : record? positional fields (.record entries) = some r) {name : String}
    {decode : Decoder α} {a : α} (ha : r.required name decode = some a) :
    ∃ d, (name, d) ∈ entries ∧ decode d = some a := by
  rw [record?_record h] at hr
  split_ifs at hr
  obtain rfl := Option.some.inj hr
  obtain ⟨d, hfind, hd⟩ := Option.bind_eq_some_iff.1 ha
  exact ⟨d, (List.mem_filter.1 (Table.mem_of_get? hfind)).1, hd⟩

/-- Where a field has to be there, a table without a readable entry under its name is not read. -/
theorem record?_bind_eq_none {α β : Type} (h : ∀ f ∈ fields, f.aliases = []) {positional : Bool}
    {entries : List (String × Doc)} {name : String} {decode : Decoder α}
    {ofRecord : Record → Option β}
    (hrequired : ∀ r b, ofRecord r = some b → ∃ a, r.required name decode = some a)
    (hentries : ∀ d, (name, d) ∈ entries → decode d = none) :
    (record? positional fields (.record entries) >>= ofRecord) = none := by
  rw [Option.eq_none_iff_forall_ne_some]
  intro b hb
  obtain ⟨r, hr, hb⟩ := Option.bind_eq_some_iff.1 hb
  obtain ⟨a, ha⟩ := hrequired r b hb
  obtain ⟨d, hmem, hd⟩ := mem_of_required h hr ha
  rw [hentries d hmem] at hd
  cases hd

end Decode

end VmMonitor
