import VmMonitor.Proofs.Document.Decode
import VmMonitor.Proofs.Document.Json

/-!
# Documents as they are read

JSON gives back the leaves that were written. YAML gives back what is spelled in their place, and
leaves their types to whoever asks. Whoever asks for what was written gets it from either.

## The model

`Doc.asRead` is a document as the reader of a format finds it once it is written without quotes.

## What is proved

* `Doc.asRead_json` — JSON gives back what was written.
* `Decode.int64_asRead`, `Decode.list_asRead`, … — each decoder gets from it what was written.
* `Decode.record_asRead` — a record without further entries is taken apart into its entries.
-/

namespace VmMonitor

/-- The leaf that is found where a leaf was written without quotes. -/
def Scalar.asRead : Format → Scalar → Scalar
  | .yaml, .null => .plain "null"
  | .yaml, .bool b => .plain (if b then "true" else "false")
  | .yaml, .int n => .plain (toString n)
  | .yaml, .text s => .plain s
  | _, s => s

namespace Doc

mutual

/-- The document that is found where a document was written. -/
def asRead (format : Format) : Doc → Doc
  | .scalar s => .scalar (s.asRead format)
  | .list items => .list (itemsAsRead format items)
  | .table entries => .table (entriesAsRead format entries)
  | .tagged tag d => .tagged tag (asRead format d)

def itemsAsRead (format : Format) : List Doc → List Doc
  | [] => []
  | d :: ds => asRead format d :: itemsAsRead format ds

def entriesAsRead (format : Format) : List (Doc × Doc) → List (Doc × Doc)
  | [] => []
  | (k, d) :: es => (asRead format k, asRead format d) :: entriesAsRead format es

end

variable (format : Format)

theorem itemsAsRead_eq (items : List Doc) : itemsAsRead format items = items.map (asRead format) := by
  induction items with
  | nil => rfl
  | cons d items ih => rw [itemsAsRead, ih, List.map_cons]

theorem entriesAsRead_eq (entries : List (Doc × Doc)) :
    entriesAsRead format entries = entries.map fun e => (e.1.asRead format, e.2.asRead format) := by
  induction entries with
  | nil => rfl
  | cons e entries ih => rw [entriesAsRead, ih, List.map_cons]

mutual

/-- JSON gives back what was written. -/
theorem asRead_json : ∀ d : Doc, d.asRead .json = d
  | .scalar s => by cases s <;> rfl
  | .list items => by rw [asRead, itemsAsRead_json items]
  | .table entries => by rw [asRead, entriesAsRead_json entries]
  | .tagged tag d => by rw [asRead, asRead_json d]

theorem itemsAsRead_json : ∀ items : List Doc, itemsAsRead .json items = items
  | [] => rfl
  | d :: ds => by rw [itemsAsRead, asRead_json d, itemsAsRead_json ds]

theorem entriesAsRead_json : ∀ entries : List (Doc × Doc), entriesAsRead .json entries = entries
  | [] => rfl
  | (k, d) :: es => by rw [entriesAsRead, asRead_json k, asRead_json d, entriesAsRead_json es]

end

theorem asRead_list (items : List Doc) :
    (Doc.list items).asRead format = .list (items.map (asRead format)) := by
  rw [asRead, itemsAsRead_eq]

theorem asRead_record (entries : List (String × Doc)) : (Doc.record entries).asRead format =
    .table (entries.map fun e => ((Doc.text e.1).asRead format, e.2.asRead format)) := by
  rw [Doc.record, asRead, entriesAsRead_eq, List.map_map]
  rfl

end Doc

/-! ### Numerals -/

namespace Plain

/-- Digits that no zero pads name no base. -/
theorem numeral {c : Char} {cs : List Char} (hc : VmMonitor.isDigit c) (hzero : c = '0' → cs = []) :
    basePrefix (c :: cs) = none ∧ isPaddedDigits (c :: cs) = false ∧
      isPaddedDigits ('-' :: c :: cs) = false := by
  have hsign : c ≠ '-' ∧ c ≠ '+' := ⟨by rintro rfl; simp [VmMonitor.isDigit] at hc,
    by rintro rfl; simp [VmMonitor.isDigit] at hc⟩
  by_cases h : c = '0'
  · obtain rfl := h
    obtain rfl := hzero rfl
    decide
  · simp [basePrefix, isPaddedDigits, h, hsign]

/-- The digits of a number, of which only zero has a zero in front. -/
theorem exists_toDigits_eq_cons (n : Nat) : ∃ c cs, Nat.toDigits 10 n = c :: cs ∧
    VmMonitor.isDigit c ∧ (c = '0' → cs = []) := by
  obtain ⟨c, cs, hcons⟩ := List.exists_cons_of_ne_nil (Nat.toDigits_ne_nil (b := 10) (n := n))
  refine ⟨c, cs, hcons, Json.isDigit_of_mem_toDigits (n := n) (by simp [hcons]), ?_⟩
  rintro rfl
  obtain rfl := Json.eq_zero_of_head_toDigits (n := n) (by rw [hcons]; rfl)
  simpa using hcons.symm

theorem nat?_toDigits (n : Nat) : nat? (Nat.toDigits 10 n) = some n := by
  have hread := Json.readDigits?_toDigits n
  obtain ⟨c, cs, hcons, hc, hzero⟩ := exists_toDigits_eq_cons n
  obtain ⟨hbase, hpadded, -⟩ := numeral hc hzero
  have hplus : c ≠ '+' := by
    rintro rfl
    simp [VmMonitor.isDigit] at hc
  rw [hcons] at hread ⊢
  unfold nat?
  split <;> simp_all

theorem int?_toString (n : Int) : int? (toString n).toList = some n := by
  cases n with
  | ofNat k =>
    rw [Json.toList_toString_ofNat, int?, nat?_toDigits]
    rfl
  | negSucc k =>
    have hread := Json.readDigits?_toDigits (k + 1)
    obtain ⟨c, cs, hcons, hc, hzero⟩ := exists_toDigits_eq_cons (k + 1)
    obtain ⟨hbase, -, hpadded⟩ := numeral hc hzero
    rw [Json.toList_toString_negSucc]
    rw [hcons] at hread ⊢
    have hnat : nat? ('-' :: c :: cs) = none := by
      simp [nat?, basePrefix, hpadded, readDigits?, digitsOnto?, digitValue?]
    simp only [int?, hnat, negative?, hbase, hpadded, hread]
    rfl

end Plain

namespace Decode

variable (format : Format)

theorem text_asRead (s : String) : text ((Doc.text s).asRead format) = some s := by
  cases format <;> rfl

theorem bool_asRead (b : Bool) : bool ((Doc.bool b).asRead format) = some b := by
  cases format <;> cases b <;> decide

theorem intIn_asRead {low high n : Int} (hlow : low ≤ n) (hhigh : n ≤ high) :
    intIn low high ((Doc.int n).asRead format) = some n := by
  have hrange : low ≤ n ∧ n ≤ high := ⟨hlow, hhigh⟩
  cases format
  case yaml =>
    change (Plain.int? (toString n).toList >>= fun n => if low ≤ n ∧ n ≤ high then some n else none) =
      some n
    rw [Plain.int?_toString]
    exact if_pos hrange
  all_goals exact if_pos hrange

theorem int64_asRead {n : Int} (h : isInt64 n) : int64 ((Doc.int n).asRead format) = some n := by
  simp only [isInt64, Bool.and_eq_true, decide_eq_true_eq] at h
  exact intIn_asRead format (by omega) (by omega)

theorem natBelow_asRead {bound n : Nat} (h : n < bound) :
    natBelow bound ((Doc.nat n).asRead format) = some n := by
  have hrange : (0 : Int) ≤ n ∧ (n : Int) < bound := by omega
  cases format
  case yaml =>
    change (Plain.nat? (toString (Int.ofNat n)).toList >>= fun n =>
      if n < bound then some n else none) = some n
    rw [Json.toList_toString_ofNat, Plain.nat?_toDigits]
    exact if_pos h
  all_goals exact if_pos hrange

/-! ### Lists and values that may be missing -/

theorem list_asRead {α : Type} {decode : Decoder α} {encode : α → Doc} {as : List α}
    (h : ∀ a ∈ as, decode ((encode a).asRead format) = some a) :
    list decode ((Doc.list (as.map encode)).asRead format) = some as := by
  have hread := mapM_map_eq_some (f := decode) (g := fun a => (encode a).asRead format) (h := id) h
  rw [List.map_id] at hread
  simpa only [Doc.asRead_list, List.map_map, list, Doc.untagged, Function.comp_def] using hread

theorem optional_null_asRead {α : Type} (decode : Decoder α) :
    optional decode (Doc.null.asRead format) = some none := by
  cases format <;> rfl

/-- What is a list is no null. -/
theorem optional_list_asRead {α : Type} {decode : Decoder (List α)} {items : List Doc} {as : List α}
    (h : decode ((Doc.list items).asRead format) = some as) :
    optional decode ((Doc.list items).asRead format) = some (some as) := by
  rw [Doc.asRead_list] at h ⊢
  simp [optional, h]

/-- What is a number is no null. -/
theorem optional_int_asRead {α : Type} {decode : Decoder α} {n : Int} {a : α}
    (h : decode ((Doc.int n).asRead format) = some a) :
    optional decode ((Doc.int n).asRead format) = some (some a) := by
  have hnull : ((Scalar.int n).asRead format).isNull = false := by
    obtain ⟨c, cs, hcons, hc⟩ := Json.exists_toString_eq_cons n
    have hother (word : String) (h : word.toList.head?.all fun d => !VmMonitor.isDigit d && d ≠ '-') :
        toString n ≠ word := by
      rintro rfl
      rw [hcons] at h
      rcases hc with hc | rfl <;> simp_all
    cases format
    case yaml =>
      have hempty := hother "" (by decide)
      have hlower := hother "null" (by decide)
      have hupper := hother "Null" (by decide)
      have hcapital := hother "NULL" (by decide)
      have htilde := hother "~" (by decide)
      simp only [Scalar.asRead, Scalar.isNull, Plain.isNull, hlower, hupper, hcapital, htilde,
        decide_false, Bool.or_false]
      simpa using hempty
    all_goals rfl
  change (if ((Scalar.int n).asRead format).isNull then some none
    else (decode ((Doc.int n).asRead format)).map some) = _
  rw [hnull, h]
  rfl

/-- A table in order is read as it is. -/
theorem textTable_asRead {t : Table String String} (ht : (Table.keys t).Pairwise (· < ·)) :
    textTable ((Doc.record (t.map fun e => (e.1, .text e.2))).asRead format) = some t := by
  have hread : (t.map fun e => ((Doc.text e.1).asRead format, (Doc.text e.2).asRead format)).mapM
      (fun e => do return (← text e.1, ← text e.2)) = some (t.map id) :=
    mapM_map_eq_some fun e _ => by simp [text_asRead]
  simp only [Doc.asRead_record, textTable, Doc.untagged, List.map_map, Function.comp_def]
  rw [hread, List.map_id]
  exact congrArg some (Table.ofList_eq_of_perm (.refl t) ht)

/-! ### Records -/

variable {fields : List Field}

/-- Keys without quotes name the same fields. -/
theorem collect_asRead (entries : List (String × Doc)) :
    collect fields (entries.map fun e => ((Doc.text e.1).asRead format, e.2)) =
      collect fields (entries.map fun e => (.text e.1, e.2)) := by
  have hkey (key : String) : isFieldKey ((Doc.text key).asRead format) = isFieldKey (.text key) ∧
      fieldOf? fields ((Doc.text key).asRead format) = fieldOf? fields (.text key) := by
    cases format <;> exact ⟨rfl, rfl⟩
  induction entries with
  | nil => rfl
  | cons e entries ih => simp only [List.map_cons, collect, hkey, ih]

/-- A record whose entries are all fields, each in it once, is taken apart into its entries. -/
theorem record_asRead (h : ∀ f ∈ fields, f.aliases = []) {entries : List (String × Doc)}
    (hnames : ∀ e ∈ entries, e.1 ∈ fields.map (·.name)) (hnodup : (Table.keys entries).Nodup) :
    record format fields ((Doc.record entries).asRead format) =
      some ⟨false, entries.map fun e => (e.1, e.2.asRead format)⟩ := by
  have hrecord := record?_record h (format = .json) (entries.map fun e => (e.1, e.2.asRead format))
  have hknown : knownOf fields (entries.map fun e => (e.1, e.2.asRead format)) =
      entries.map fun e => (e.1, e.2.asRead format) := by
    refine List.filter_eq_self.2 fun e he => ?_
    obtain ⟨e', he', rfl⟩ := List.mem_map.1 he
    simpa using hnames e' he'
  have hkeys : Table.keys (entries.map fun e => (e.1, e.2.asRead format)) = Table.keys entries := by
    simp [Table.keys, Function.comp_def]
  rw [hknown, hkeys, if_pos hnodup] at hrecord
  rw [← hrecord, record, record?, record?, Doc.asRead_record, Doc.record]
  simp only [Doc.untagged]
  have hcollect : collect fields _ = _ :=
    collect_asRead format (entries.map fun e => (e.1, e.2.asRead format))
  simp only [List.map_map, Function.comp_def] at hcollect ⊢
  rw [hcollect]

end Decode

end VmMonitor
