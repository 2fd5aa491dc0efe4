import Mathlib.Tactic.SplitIfs
import VmMonitor.Document.Json

/-!
# What is written as JSON reads back

The reader decides by one character what comes next, and it stops at the first character that does not
belong. So what is written is read back in front of everything that may follow it: the end of the text,
a comma, or a closing bracket or brace. A number needs that most, for any digit behind it would be its
own. The rest is the reader's fuel, which no document uses up that is as long as its text.

Floating-point numbers are left out: reading one rounds at every step, so its shortest text need not
give it back.

## What is proved

* `Json.readNumber_toString`: a whole number that fits is read from its numeral.
* `Json.readString_escaped`: a text is read from its escaped characters.
* `Json.Spelled.readsBack`: a document is read from its tokens, whatever blanks are between them and
  whatever follows; by induction on the spelling, with one lemma for the members of a list and one for
  those of a table.
* `Json.read_compact`, `Json.read_pretty`: a document is what its text on one line and its text in lines
  are read as.
* `Json.read_eq_none`: what starts otherwise is no document.
-/

namespace VmMonitor

/-- A document that JSON text tells in full: leaves are null, truth values, whole numbers of at most
sixty-four bits and texts, keys are texts, and nothing has a tag. -/
inductive Doc.Writable : Doc → Prop
  | null : Writable .null
  | bool (b : Bool) : Writable (.bool b)
  | int {n : Int} : -(twoTo 63 : Int) ≤ n → n < (twoTo 64 : Int) → Writable (.int n)
  | text (s : String) : Writable (.text s)
  | list {items : List Doc} : (∀ d ∈ items, Writable d) → Writable (.list items)
  | record {entries : List (String × Doc)} : (∀ e ∈ entries, Writable e.2) →
      Writable (.record entries)

namespace Json

/-! ### Numbers -/

theorem isDigit_of_mem_toDigits {n : Nat} {c : Char} (h : c ∈ Nat.toDigits 10 n) :
    VmMonitor.isDigit c :=
  Nat.isDigit_of_mem_toDigits (by decide) (by decide) h

/-- Only zero starts with a zero. -/
theorem eq_zero_of_head_toDigits {n : Nat} (h : (Nat.toDigits 10 n).head? = some '0') : n = 0 := by
  induction n using Nat.strongRecOn with
  | ind n ih =>
    rw [Nat.toDigits_eq_if (by decide)] at h
    split_ifs at h with hn
    · have hdigit : ∀ k < 10, k.digitChar = '0' → k = 0 := by decide
      exact hdigit n hn (by simpa using h)
    · have hhead : (Nat.toDigits 10 (n / 10)).head? = some '0' := by
        cases hcons : Nat.toDigits 10 (n / 10) with
        | nil => exact absurd hcons Nat.toDigits_ne_nil
        | cons c cs => simpa [hcons] using h
      have htens := ih (n / 10) (by omega) hhead
      omega

theorem digitValue?_ten {c : Char} (h : VmMonitor.isDigit c) :
    digitValue? 10 c = some (c.toNat - '0'.toNat) := by
  obtain ⟨hlow, hhigh⟩ : '0' ≤ c ∧ c ≤ '9' := by simpa [VmMonitor.isDigit] using h
  have hvalue : c.toNat - '0'.toNat < 10 := by
    have hle : c.toNat ≤ '9'.toNat := hhigh
    have hnine : '9'.toNat = 57 := rfl
    have hzero : '0'.toNat = 48 := rfl
    omega
  simp only [digitValue?, hlow, hhigh, and_self, if_true, hvalue]

theorem digitsOnto?_ten {cs : List Char} (h : ∀ c ∈ cs, VmMonitor.isDigit c) (n : Nat) :
    digitsOnto? 10 n cs = some (Nat.ofDigitChars 10 cs n) := by
  induction cs generalizing n with
  | nil => rfl
  | cons c cs ih =>
    have hrest := ih (fun c' hc' => h c' (.tail _ hc')) (n * 10 + (c.toNat - '0'.toNat))
    simp only [digitsOnto?, digitValue?_ten (h c (.head _)), Option.bind_eq_bind, Option.bind_some,
      hrest]
    simp [Nat.ofDigitChars, Nat.mul_comm]

theorem readDigits?_toDigits (n : Nat) : readDigits? 10 (Nat.toDigits 10 n) = some n := by
  have hdigits : digitsOnto? 10 0 (Nat.toDigits 10 n) = _ :=
    digitsOnto?_ten (fun c hc => isDigit_of_mem_toDigits hc) 0
  rw [Nat.ofDigitChars_ten_toDigits] at hdigits
  obtain ⟨c, cs, hcons⟩ := List.exists_cons_of_ne_nil (Nat.toDigits_ne_nil (b := 10) (n := n))
  rw [hcons] at hdigits ⊢
  exact hdigits

/-- How the text goes on after a member of a list or table, or after the whole document: it ends, or a
mark or a blank comes. -/
def Ends (rest : List Char) : Prop :=
  rest = [] ∨ ∃ c tail, rest = c :: tail ∧ c ∈ [',', ']', '\x7d', ' ', '\n', '\t', '\r']

/-- A run of digits that no zero pads is read as a whole number. -/
theorem readNumber_digits {digits rest : List Char} (hdigits : ∀ c ∈ digits, VmMonitor.isDigit c)
    (hne : digits ≠ []) (hzero : digits.head? = some '0' → digits.length = 1) (hrest : Ends rest) :
    readNumber (digits ++ rest) = some (whole false digits, rest) ∧
      readNumber ('-' :: (digits ++ rest)) = some (whole true digits, rest) := by
  have hstop : rest.takeWhile VmMonitor.isDigit = [] ∧ rest.dropWhile VmMonitor.isDigit = rest := by
    rcases hrest with rfl | ⟨c, tail, rfl, hc⟩
    · exact ⟨rfl, rfl⟩
    · have hother : VmMonitor.isDigit c = false := by
        simp only [List.mem_cons, List.not_mem_nil, or_false] at hc
        rcases hc with rfl | rfl | rfl | rfl | rfl | rfl | rfl <;> rfl
      simp [hother]
  have htake : (digits ++ rest).takeWhile VmMonitor.isDigit = digits := by
    rw [List.takeWhile_append_of_pos hdigits, hstop.1, List.append_nil]
  have hdrop : (digits ++ rest).dropWhile VmMonitor.isDigit = rest := by
    rw [List.dropWhile_append_of_pos hdigits, hstop.2]
  have hunpadded : (digits.isEmpty || (digits.head? = some '0' && 1 < digits.length)) = false := by
    by_cases h : digits.head? = some '0'
    · simp [hne, hzero h]
    · simp [hne, h]
  obtain ⟨c, cs, rfl⟩ := List.exists_cons_of_ne_nil hne
  have hminus : ∀ r, c :: cs ++ rest = '-' :: r → False := by
    rintro r h
    obtain rfl : c = '-' := (List.cons.inj h).1
    exact absurd (hdigits '-' (.head _)) (by decide)
  constructor <;>
  · simp only [readNumber, htake, hdrop, hunpadded]
    rcases hrest with rfl | ⟨c, tail, rfl, hc⟩
    · rfl
    · simp only [List.mem_cons, List.not_mem_nil, or_false] at hc
      rcases hc with rfl | rfl | rfl | rfl | rfl | rfl | rfl <;> rfl

theorem whole_false {n : Nat} (h : n < twoTo 64) : whole false (Nat.toDigits 10 n) = .int n := by
  simp [whole, readDigits?_toDigits, h]

theorem whole_true {n : Nat} (hpos : 0 < n) (h : n ≤ twoTo 63) :
    whole true (Nat.toDigits 10 n) = .int (-n) := by
  simp [whole, readDigits?_toDigits, hpos, h]

theorem toList_toString_ofNat (k : Nat) : (toString (Int.ofNat k)).toList = Nat.toDigits 10 k := by
  simp [Int.toString_eq_repr, Int.repr_eq_if]

theorem toList_toString_negSucc (k : Nat) :
    (toString (Int.negSucc k)).toList = '-' :: Nat.toDigits 10 (k + 1) := by
  simp [Int.toString_eq_repr, Int.repr_eq_if]

/-- A numeral starts with a digit or a sign. -/
theorem exists_toString_eq_cons (n : Int) :
    ∃ c cs, (toString n).toList = c :: cs ∧ (VmMonitor.isDigit c ∨ c = '-') := by
  cases n with
  | ofNat k =>
    obtain ⟨c, cs, hcons⟩ := List.exists_cons_of_ne_nil (Nat.toDigits_ne_nil (b := 10) (n := k))
    refine ⟨c, cs, (toList_toString_ofNat k).trans hcons, .inl (isDigit_of_mem_toDigits (n := k) ?_)⟩
    simp [hcons]
  | negSucc k => exact ⟨'-', _, toList_toString_negSucc k, .inr rfl⟩

/-- A whole number in its range is read from its numeral. -/
theorem readNumber_toString {n : Int} {rest : List Char} (hlow : -(twoTo 63 : Int) ≤ n)
    (hhigh : n < (twoTo 64 : Int)) (hrest : Ends rest) :
    readNumber ((toString n).toList ++ rest) = some (.int n, rest) := by
  have hdigits (k : Nat) := readNumber_digits (fun c hc => isDigit_of_mem_toDigits (n := k) hc)
    Nat.toDigits_ne_nil (fun h => by rw [eq_zero_of_head_toDigits h]; rfl) hrest
  cases n with
  | ofNat k =>
    have hk : k < twoTo 64 := Int.ofNat_lt.1 hhigh
    rw [toList_toString_ofNat, (hdigits k).1, whole_false hk]
    rfl
  | negSucc k =>
    have hk : k + 1 ≤ twoTo 63 := by omega
    rw [toList_toString_negSucc, List.cons_append, (hdigits (k + 1)).2, whole_true (Nat.succ_pos k) hk]
    rfl

/-! ### Strings -/

/-- A control character is read from its four digits. -/
theorem readEscape_control {c : Char} (hc : c.toNat < 0x20) (rest : List Char) :
    readEscape ('u' :: '0' :: '0' :: Nat.digitChar (c.toNat / 16) :: Nat.digitChar (c.toNat % 16) ::
      rest) = some (some c, rest) := by
  have hdigits : ∀ n < 0x20, readDigits? 16 ['0', '0', Nat.digitChar (n / 16), Nat.digitChar (n % 16)] =
      some n := by decide
  have hsmall : c.toNat < 0xD800 := by omega
  simp [readEscape, readHex4, hdigits _ hc, hsmall]

/-- A character is read from its escape. -/
theorem readString_escape (c : Char) (fuel : Nat) (rest acc : List Char) (good : Bool) :
    readString (fuel + 1) (escape c ++ rest) acc good = readString fuel rest (c :: acc) good := by
  unfold escape
  split_ifs with hquote hbackslash hline hreturn htab hbackspace hfeed hcontrol
  · subst hquote; rfl
  · subst hbackslash; rfl
  · subst hline; rfl
  · subst hreturn; rfl
  · subst htab; rfl
  · subst hbackspace; rfl
  · subst hfeed; rfl
  · simp [readString, readEscape_control hcontrol]
  · rw [List.singleton_append, readString]
    · simp [hcontrol]
    · exact hquote
    · exact hbackslash

/-- A text is read from its characters and a quote. -/
theorem readString_escaped (cs : List Char) {fuel : Nat} (hfuel : cs.length < fuel)
    (rest acc : List Char) (good : Bool) :
    readString fuel (cs.flatMap escape ++ '\"' :: rest) acc good =
      some (if good then .text (String.ofList (acc.reverse ++ cs)) else .unreadable, rest) := by
  induction cs generalizing fuel acc with
  | nil =>
    obtain ⟨fuel, rfl⟩ := Nat.exists_eq_succ_of_ne_zero (Nat.ne_of_gt hfuel)
    simp [readString]
  | cons c cs ih =>
    obtain ⟨fuel, rfl⟩ := Nat.exists_eq_succ_of_ne_zero (Nat.ne_of_gt (Nat.zero_lt_of_lt hfuel))
    rw [List.flatMap_cons, List.append_assoc, readString_escape, ih (by simpa using hfuel)]
    simp

theorem toList_quote (s : String) : (quote s).toList = '\"' :: (s.toList.flatMap escape ++ ['\"']) := by
  simp [quote]

theorem le_length_flatMap_escape (cs : List Char) : cs.length ≤ (cs.flatMap escape).length := by
  induction cs with
  | nil => exact Nat.le_refl 0
  | cons c cs ih =>
    have hc : 1 ≤ (escape c).length := by
      unfold escape
      split_ifs <;> simp
    rw [List.flatMap_cons, List.length_append, List.length_cons]
    omega

/-! ### Values -/

theorem skipBlanks_cons {c : Char} (h : isBlank c = false) (cs : List Char) :
    skipBlanks (c :: cs) = c :: cs := by
  simp [skipBlanks, h]

theorem skipBlanks_append {gap : List Char} (h : ∀ c ∈ gap, isBlank c) (cs : List Char) :
    skipBlanks (gap ++ cs) = skipBlanks cs := List.dropWhile_append_of_pos h

/-- A number is told from all else by its first character. -/
theorem ne_of_number {c : Char} (h : VmMonitor.isDigit c ∨ c = '-') :
    ∀ x ∈ ['\"', '[', ']', '\x7b', '\x7d', 'n', 't', 'f', ' ', '\n', '\t', '\r'], c ≠ x := by
  have hother : ∀ x ∈ ['\"', '[', ']', '\x7b', '\x7d', 'n', 't', 'f', ' ', '\n', '\t', '\r'],
      ¬(VmMonitor.isDigit x ∨ x = '-') := by
    simp [VmMonitor.isDigit]
  rintro x hx rfl
  exact hother c hx h

theorem readValue_of_number {c : Char} (h : VmMonitor.isDigit c ∨ c = '-') (fuel : Nat)
    (cs : List Char) : readValue (fuel + 1) (c :: cs) =
      (readNumber (c :: cs)).map fun (s, rest) => (.scalar s, rest) := by
  have hother := ne_of_number h
  have hblank : isBlank c = false := by simp_all [isBlank]
  rw [readValue, skipBlanks_cons hblank]
  split <;> simp_all

/-! ### Texts of documents -/

/-- The characters of a key and its value, with blanks in front of the value. -/
def entryChars (space : List Char) (e : String × List Char) : List Char :=
  '\"' :: (e.1.toList.flatMap escape ++ '\"' :: ':' :: (space ++ e.2))

/-- Members between brackets: blanks stand in front of each and behind the last one. -/
def joined (gap gap' : List Char) : List (List Char) → List Char
  | [] => []
  | members => gap ++ (','  :: gap).intercalate members ++ gap'

/-- A text that spells a document, laid out with blanks around the members of lists and tables. -/
inductive Spelled : Doc → List Char → Prop
  | null : Spelled .null "null".toList
  | bool (b : Bool) : Spelled (.bool b) (if b then "true" else "false").toList
  | int {n : Int} : -(twoTo 63 : Int) ≤ n → n < (twoTo 64 : Int) →
    Spelled (.int n) (toString n).toList
  | text (s : String) : Spelled (.text s) ('\"' :: (s.toList.flatMap escape ++ ['\"']))
  | list (gap gap' : List Char) (members : List (Doc × List Char)) :
    (∀ c ∈ gap, isBlank c) → (∀ c ∈ gap', isBlank c) → (∀ m ∈ members, Spelled m.1 m.2) →
      Spelled (.list (members.map (·.1))) ('[' :: (joined gap gap' (members.map (·.2)) ++ [']']))
  | record (gap gap' space : List Char) (members : List (String × Doc × List Char)) :
    (∀ c ∈ gap, isBlank c) → (∀ c ∈ gap', isBlank c) → (∀ c ∈ space, isBlank c) →
      (∀ m ∈ members, Spelled m.2.1 m.2.2) →
        Spelled (.record (members.map fun m => (m.1, m.2.1)))
          ('\x7b' :: (joined gap gap' (members.map fun m => entryChars space (m.1, m.2.2)) ++
            ['\x7d']))

/-- What is spelled starts with no blank and closes nothing. -/
theorem Spelled.exists_eq_cons {d : Doc} {cs : List Char} (h : Spelled d cs) :
    ∃ c tail, cs = c :: tail ∧ isBlank c = false ∧ c ≠ ']' ∧ c ≠ '\x7d' := by
  cases h with
  | null => exact ⟨'n', _, rfl, rfl, by decide, by decide⟩
  | bool b => cases b <;> exact ⟨_, _, rfl, rfl, by decide, by decide⟩
  | @int n =>
    obtain ⟨c, cs, hcons, hc⟩ := exists_toString_eq_cons n
    have hother := ne_of_number hc
    exact ⟨c, cs, hcons, by simp_all [isBlank], hother _ (by simp), hother _ (by simp)⟩
  | text s => exact ⟨'\"', _, rfl, rfl, by decide, by decide⟩
  | list => exact ⟨'[', _, rfl, rfl, by decide, by decide⟩
  | record => exact ⟨'\x7b', _, rfl, rfl, by decide, by decide⟩

/-- The document is read from a text, whatever that stands in front of. -/
def ReadsBack (d : Doc) (cs : List Char) : Prop := ∀ fuel rest, cs.length ≤ fuel → Ends rest →
  readValue fuel (cs ++ rest) = some (d, rest)

theorem ends_cons {c : Char} (h : c ∈ [',', ']', '\x7d', ' ', '\n', '\t', '\r'])
    (tail : List Char) : Ends (c :: tail) := .inr ⟨c, tail, rfl, h⟩

theorem ends_append {gap rest : List Char} (hgap : ∀ c ∈ gap, isBlank c) (h : Ends rest) :
    Ends (gap ++ rest) := by
  cases gap with
  | nil => exact h
  | cons c gap =>
    refine ends_cons ?_ _
    have hc := hgap c (.head _)
    simp only [isBlank, Bool.or_eq_true, decide_eq_true_eq] at hc
    rcases hc with ((rfl | rfl) | rfl) | rfl <;> decide

theorem exists_eq_succ_of_length_le {cs : List Char} {fuel : Nat} (hne : cs ≠ [])
    (h : cs.length ≤ fuel) : ∃ f, fuel = f + 1 :=
  Nat.exists_eq_succ_of_ne_zero (Nat.ne_of_gt (Nat.lt_of_lt_of_le (List.length_pos_iff.2 hne) h))

/-- Blanks in front of a value are passed over. -/
theorem ReadsBack.behind {d : Doc} {cs gap : List Char} (h : ReadsBack d cs) (hne : cs ≠ [])
    (hgap : ∀ c ∈ gap, isBlank c) {fuel : Nat} (hfuel : cs.length ≤ fuel) {rest : List Char}
    (hrest : Ends rest) : readValue fuel (gap ++ (cs ++ rest)) = some (d, rest) := by
  have hread := h fuel rest hfuel hrest
  obtain ⟨fuel, rfl⟩ := exists_eq_succ_of_length_le hne hfuel
  rw [readValue] at hread ⊢
  rwa [skipBlanks_append hgap]

section

variable {gap gap' : List Char} (hgap : ∀ c ∈ gap, isBlank c) (hgap' : ∀ c ∈ gap', isBlank c)

include hgap'

/-- An item is followed by a comma and more items, or by the closing bracket. -/
theorem readItems_item {lead : List Char} (hlead : ∀ c ∈ lead, isBlank c) {d : Doc} {cs : List Char}
    (h : ReadsBack d cs) (hne : cs ≠ []) {fuel : Nat} (hfuel : cs.length ≤ fuel) (tail : List Char) :
    readItems (fuel + 1) (lead ++ (cs ++ ',' :: tail)) =
      ((readItems fuel tail).map fun (ds, rest) => (d :: ds, rest)) ∧
    readItems (fuel + 1) (lead ++ (cs ++ (gap' ++ ']' :: tail))) = some ([d], tail) := by
  have hcomma := h.behind hne hlead hfuel (ends_cons (.head _) tail)
  have hclose := h.behind hne hlead hfuel (ends_append hgap' (ends_cons (.tail _ (.head _)) tail))
  constructor
  · rw [readItems, hcomma]
    cases hmore : readItems fuel tail <;> simp [skipBlanks, isBlank, hmore]
  · rw [readItems, hclose]
    simp only [Option.bind_eq_bind, Option.bind_some, skipBlanks_append hgap']
    rfl

include hgap

theorem readItems_members (lead : List Char) (hlead : ∀ c ∈ lead, isBlank c)
    {members : List (Doc × List Char)} (hne : members ≠ [])
    (h : ∀ m ∈ members, ReadsBack m.1 m.2 ∧ m.2 ≠ []) (fuel : Nat)
    (hfuel : ((',' :: gap).intercalate (members.map (·.2))).length < fuel) (rest : List Char) :
    readItems fuel (lead ++ ((',' :: gap).intercalate (members.map (·.2)) ++ (gap' ++ ']' :: rest))) =
      some (members.map (·.1), rest) := by
  induction members generalizing fuel lead with
  | nil => exact absurd rfl hne
  | cons m members ih =>
    obtain ⟨fuel, rfl⟩ := Nat.exists_eq_succ_of_ne_zero (Nat.ne_of_gt (Nat.zero_lt_of_lt hfuel))
    obtain ⟨hm, hm'⟩ := h m (.head _)
    cases members with
    | nil =>
      have hlen : m.2.length ≤ fuel := by simpa [Nat.lt_succ_iff] using hfuel
      simpa using (readItems_item hgap' hlead hm hm' hlen rest).2
    | cons m' members =>
      simp only [List.map_cons, List.intercalate_cons_cons, List.length_append, List.append_assoc,
        List.length_cons, List.cons_append] at hfuel ih ⊢
      have hrest := ih _ hgap (by simp) (fun m'' hm'' => h m'' (.tail _ hm'')) fuel (by omega)
      rw [(readItems_item hgap' hlead hm hm' (by omega) _).1, hrest]
      rfl

omit hgap

/-- An entry is followed by a comma and more entries, or by the closing brace. -/
theorem readEntries_entry {lead space : List Char} (hlead : ∀ c ∈ lead, isBlank c)
    (hspace : ∀ c ∈ space, isBlank c) {key : String} {d : Doc} {cs : List Char} (h : ReadsBack d cs)
    (hne : cs ≠ []) {fuel : Nat} (hfuel : (entryChars space (key, cs)).length ≤ fuel)
    (tail : List Char) :
    readEntries (fuel + 1) (lead ++ (entryChars space (key, cs) ++ ',' :: tail)) =
      ((readEntries fuel tail).map fun (es, rest) => ((.text key, d) :: es, rest)) ∧
    readEntries (fuel + 1) (lead ++ (entryChars space (key, cs) ++ (gap' ++ '\x7d' :: tail))) =
      some ([(.text key, d)], tail) := by
  have hescape := le_length_flatMap_escape key.toList
  simp only [entryChars, List.length_cons, List.length_append] at hfuel
  have hkey (r : List Char) :
      readString fuel (key.toList.flatMap escape ++ '\"' :: r) [] true = some (.text key, r) := by
    simpa using readString_escaped key.toList (by omega) r [] true
  have hcomma := h.behind hne hspace (show cs.length ≤ fuel by omega) (ends_cons (.head _) tail)
  have hclose := h.behind hne hspace (show cs.length ≤ fuel by omega)
    (ends_append hgap' (ends_cons (c := '\x7d') (by simp) tail))
  constructor
  · rw [readEntries, skipBlanks_append hlead]
    cases hmore : readEntries fuel tail <;>
      simp [entryChars, skipBlanks, isBlank, hkey, hcomma, hmore, Doc.text]
  · rw [readEntries, skipBlanks_append hlead]
    simp only [entryChars, List.cons_append, List.append_assoc, skipBlanks_cons (c := '\"') (by decide),
      skipBlanks_cons (c := ':') (by decide), skipBlanks_cons (c := '\x7d') (by decide), hkey, hclose,
      Option.bind_eq_bind, Option.bind_some, skipBlanks_append hgap', Doc.text]

include hgap

theorem readEntries_members (lead : List Char) {space : List Char} (hlead : ∀ c ∈ lead, isBlank c)
    (hspace : ∀ c ∈ space, isBlank c) {members : List (String × Doc × List Char)} (hne : members ≠ [])
    (h : ∀ m ∈ members, ReadsBack m.2.1 m.2.2 ∧ m.2.2 ≠ []) (fuel : Nat)
    (hfuel : ((',' :: gap).intercalate
      (members.map fun m => entryChars space (m.1, m.2.2))).length < fuel) (rest : List Char) :
    readEntries fuel (lead ++ ((',' :: gap).intercalate
        (members.map fun m => entryChars space (m.1, m.2.2)) ++ (gap' ++ '\x7d' :: rest))) =
      some (members.map fun m => (.text m.1, m.2.1), rest) := by
  induction members generalizing fuel lead with
  | nil => exact absurd rfl hne
  | cons m members ih =>
    obtain ⟨fuel, rfl⟩ := Nat.exists_eq_succ_of_ne_zero (Nat.ne_of_gt (Nat.zero_lt_of_lt hfuel))
    obtain ⟨hm, hm'⟩ := h m (.head _)
    cases members with
    | nil =>
      have hlen : (entryChars space (m.1, m.2.2)).length ≤ fuel := by
        simpa [Nat.lt_succ_iff] using hfuel
      simpa using (readEntries_entry hgap' hlead hspace hm hm' hlen rest).2
    | cons m' members =>
      simp only [List.map_cons, List.intercalate_cons_cons, List.length_append, List.append_assoc,
        List.length_cons, List.cons_append] at hfuel ih ⊢
      have hrest := ih _ hgap (by simp) (fun m'' hm'' => h m'' (.tail _ hm'')) fuel (by omega)
      rw [(readEntries_entry hgap' hlead hspace hm hm' (by omega) _).1, hrest]
      rfl

end

/-- Joined members start as the first of them does. -/
theorem exists_intercalate_eq_cons (sep : List Char) (c : Char) (cs : List Char)
    (members : List (List Char)) : ∃ tail, sep.intercalate ((c :: cs) :: members) = c :: tail := by
  cases members with
  | nil => exact ⟨cs, by simp⟩
  | cons member members => exact ⟨_, by rw [List.intercalate_cons_cons, List.append_assoc]; rfl⟩

/-- A list or table with members is told from an empty one by the first character behind the blanks. -/
theorem readValue_open {gap : List Char} (hgap : ∀ c ∈ gap, isBlank c) {c : Char}
    (hblank : isBlank c = false) (fuel : Nat) (tail : List Char) :
    (c ≠ ']' → readValue (fuel + 1) ('[' :: (gap ++ c :: tail)) =
      (readItems fuel (c :: tail)).map fun (items, rest) => (.list items, rest)) ∧
    (c ≠ '\x7d' → readValue (fuel + 1) ('\x7b' :: (gap ++ c :: tail)) =
      (readEntries fuel (c :: tail)).map fun (entries, rest) => (.table entries, rest)) := by
  constructor <;>
  · intro hc
    rw [readValue, skipBlanks_cons (by decide)]
    simp only [skipBlanks_append hgap, skipBlanks_cons hblank]
    split <;> simp_all

theorem Spelled.ne_nil {d : Doc} {cs : List Char} (h : Spelled d cs) : cs ≠ [] := by
  obtain ⟨c, tail, rfl, -⟩ := h.exists_eq_cons
  exact List.cons_ne_nil c tail

section

variable {gap gap' : List Char} (hgap : ∀ c ∈ gap, isBlank c) (hgap' : ∀ c ∈ gap', isBlank c)
include hgap hgap'

/-- A list is read back if its items are. -/
theorem readsBack_list {members : List (Doc × List Char)} (hmembers : ∀ m ∈ members, Spelled m.1 m.2)
    (hitems : ∀ m ∈ members, ReadsBack m.1 m.2) : ReadsBack (.list (members.map (·.1)))
      ('[' :: (joined gap gap' (members.map (·.2)) ++ [']'])) := by
  intro fuel rest hfuel hrest
  obtain ⟨fuel, rfl⟩ := exists_eq_succ_of_length_le (by simp) hfuel
  cases members with
  | nil => simp [readValue, skipBlanks, isBlank, joined]
  | cons m members =>
    simp only [joined, List.map_cons, List.length_cons, List.length_append] at hfuel
    have hread := readItems_members hgap hgap' [] nofun (List.cons_ne_nil m members)
      (fun m' hm' => ⟨hitems m' hm', (hmembers m' hm').ne_nil⟩) fuel (by simp; omega) rest
    obtain ⟨c, cs, hm, hblank, hclose, -⟩ := (hmembers m (.head _)).exists_eq_cons
    obtain ⟨tail, htail⟩ := exists_intercalate_eq_cons (',' :: gap) c cs (members.map (·.2))
    simp only [joined, List.map_cons, hm, htail, List.nil_append, List.cons_append,
      List.append_assoc] at hread ⊢
    rw [(readValue_open hgap hblank fuel _).1 hclose, hread]
    rfl

/-- A table is read back if what its entries hold is. -/
theorem readsBack_record {space : List Char} (hspace : ∀ c ∈ space, isBlank c)
    {members : List (String × Doc × List Char)} (hmembers : ∀ m ∈ members, Spelled m.2.1 m.2.2)
    (hitems : ∀ m ∈ members, ReadsBack m.2.1 m.2.2) :
    ReadsBack (.record (members.map fun m => (m.1, m.2.1)))
      ('\x7b' :: (joined gap gap' (members.map fun m => entryChars space (m.1, m.2.2)) ++
        ['\x7d'])) := by
  intro fuel rest hfuel hrest
  obtain ⟨fuel, rfl⟩ := exists_eq_succ_of_length_le (by simp) hfuel
  cases members with
  | nil => simp [readValue, skipBlanks, isBlank, joined, Doc.record]
  | cons m members =>
    simp only [joined, List.map_cons, List.length_cons, List.length_append] at hfuel
    have hread := readEntries_members hgap hgap' [] nofun hspace (List.cons_ne_nil m members)
      (fun m' hm' => ⟨hitems m' hm', (hmembers m' hm').ne_nil⟩) fuel (by simp; omega) rest
    obtain ⟨tail, htail⟩ : ∃ tail, (',' :: gap).intercalate (entryChars space (m.1, m.2.2) ::
        members.map fun m => entryChars space (m.1, m.2.2)) = '\"' :: tail :=
      exists_intercalate_eq_cons (',' :: gap) '\"' _ _
    simp only [joined, List.map_cons] at hread ⊢
    rw [htail] at hread ⊢
    simp only [List.nil_append, List.cons_append, List.append_assoc] at hread ⊢
    rw [(readValue_open hgap (by decide) fuel _).2 (by decide), hread]
    simp [Doc.record]

end

/-- **What is spelled is read back**, whatever it stands in front of. -/
theorem Spelled.readsBack {d : Doc} {cs : List Char} (h : Spelled d cs) : ReadsBack d cs := by
  induction h with
  | null =>
    intro fuel rest hfuel hrest
    obtain ⟨fuel, rfl⟩ := exists_eq_succ_of_length_le (by decide) hfuel
    rfl
  | bool b =>
    intro fuel rest hfuel hrest
    cases b <;>
    · obtain ⟨fuel, rfl⟩ := exists_eq_succ_of_length_le (by decide) hfuel
      rfl
  | @int n hlow hhigh =>
    intro fuel rest hfuel hrest
    obtain ⟨c, cs, hcons, hc⟩ := exists_toString_eq_cons n
    have hnumber := readNumber_toString hlow hhigh hrest
    rw [hcons] at hfuel hnumber ⊢
    obtain ⟨fuel, rfl⟩ := exists_eq_succ_of_length_le (by simp) hfuel
    rw [List.cons_append] at hnumber ⊢
    rw [readValue_of_number hc, hnumber]
    rfl
  | text s =>
    intro fuel rest hfuel hrest
    obtain ⟨fuel, rfl⟩ := exists_eq_succ_of_length_le (by simp) hfuel
    have hescape := le_length_flatMap_escape s.toList
    simp only [List.length_cons, List.length_append] at hfuel
    have hstring : readString fuel (s.toList.flatMap escape ++ '\"' :: rest) [] true =
        some (.text s, rest) := by
      simpa using readString_escaped s.toList (by omega) rest [] true
    simp [readValue, skipBlanks, isBlank, hstring, Doc.text]
  | list gap gap' members hgap hgap' hmembers ih => exact readsBack_list hgap hgap' hmembers ih
  | record gap gap' space members hgap hgap' hspace hmembers ih =>
    exact readsBack_record hgap hgap' hspace hmembers ih

/-- A document is what its text is read as. -/
theorem Spelled.read {d : Doc} {s : String} (h : Spelled d s.toList) : read s = some d := by
  have hread := h.readsBack (2 * s.toList.length + 2) [] (by omega) (.inl rfl)
  rw [List.append_nil] at hread
  simp only [Json.read]
  rw [hread]
  rfl

/-! ### What is written -/

theorem compactItems_eq (items : List Doc) : compactItems items = items.map compact := by
  induction items with
  | nil => rfl
  | cons d items ih => rw [compactItems, ih, List.map_cons]

theorem compactEntries_eq (entries : List (Doc × Doc)) :
    compactEntries entries = entries.map fun e => writeKey e.1 ++ ":" ++ compact e.2 := by
  induction entries with
  | nil => rfl
  | cons e entries ih => rw [compactEntries, ih, List.map_cons]

theorem prettyItems_eq (level : Nat) (items : List Doc) :
    prettyItems level items = items.map (pretty level) := by
  induction items with
  | nil => rfl
  | cons d items ih => rw [prettyItems, ih, List.map_cons]

theorem prettyEntries_eq (level : Nat) (entries : List (Doc × Doc)) :
    prettyEntries level entries = entries.map fun e => writeKey e.1 ++ ": " ++ pretty level e.2 := by
  induction entries with
  | nil => rfl
  | cons e entries ih => rw [prettyEntries, ih, List.map_cons]

theorem toList_writeKey (key : String) :
    (writeKey (.text key)).toList = '\"' :: (key.toList.flatMap escape ++ ['\"']) := toList_quote key

/-- Members on one line. -/
theorem toList_compact (opening closing : String) (members : List String) :
    (opening ++ String.intercalate "," members ++ closing).toList =
      opening.toList ++ (joined [] [] (members.map String.toList) ++ closing.toList) := by
  cases members with
  | nil => simp [joined]
  | cons m members => simp [joined]

/-- What is written on one line is spelled without blanks. -/
theorem spelled_compact {d : Doc} (h : d.Writable) : Spelled d (compact d).toList := by
  induction h with
  | null => exact .null
  | bool b => cases b <;> exact .bool _
  | int hlow hhigh => exact .int hlow hhigh
  | text s => exact toList_quote s ▸ .text s
  | @list items _ ih =>
    have hspelled := Spelled.list [] [] (items.map fun d => (d, (compact d).toList)) nofun nofun
      (List.forall_mem_map.2 ih)
    rw [compact, toList_compact, compactItems_eq]
    simpa [Function.comp_def] using hspelled
  | @record entries _ ih =>
    have hspelled := Spelled.record [] [] []
      (entries.map fun e => (e.1, e.2, (compact e.2).toList)) nofun nofun nofun
      (List.forall_mem_map.2 ih)
    have hentry (e : String × Doc) : (writeKey (.text e.1) ++ ":" ++ compact e.2).toList =
        entryChars [] (e.1, (compact e.2).toList) := by
      simp [toList_writeKey, entryChars]
    have htext : (compact (.record entries)).toList = '\x7b' :: (joined [] []
        (entries.map fun e => entryChars [] (e.1, (compact e.2).toList)) ++ ['\x7d']) := by
      rw [Doc.record, compact, toList_compact, compactEntries_eq]
      simp only [List.map_map, Function.comp_def, hentry]
      rfl
    simpa [htext, Function.comp_def] using hspelled

/-- Lines that are indented, with a comma behind each but the last one. -/
theorem intercalate_indented (margin : List Char) (m : List Char) (members : List (List Char)) :
    '\n' :: [',', '\n'].intercalate ((m :: members).map (margin ++ ·)) =
      ('\n' :: margin) ++ (',' :: '\n' :: margin).intercalate (m :: members) := by
  induction members generalizing m with
  | nil => simp
  | cons m' members ih =>
    have hrest := ih m'
    simp only [List.map_cons, List.intercalate_cons_cons, List.cons_append, List.nil_append,
      List.append_assoc, List.cons.injEq, true_and] at hrest ⊢
    rw [hrest]

/-- Members on indented lines. -/
theorem toList_bracket (opening closing : String) (level : Nat) (members : List String) :
    (bracket opening closing level members).toList = opening.toList ++
      (joined ('\n' :: (indent (level + 1)).toList) ('\n' :: (indent level).toList)
        (members.map String.toList) ++ closing.toList) := by
  cases members with
  | nil => simp [bracket, joined]
  | cons m members =>
    have hlines := intercalate_indented (indent (level + 1)).toList m.toList
      (members.map String.toList)
    simp only [List.map_cons, List.map_map, Function.comp_def, List.cons_append, List.cons.injEq,
      true_and] at hlines
    have hcomma : ",\n".toList = [',', '\n'] := rfl
    have hline : "\n".toList = ['\n'] := rfl
    simp only [bracket, joined, String.toList_append, String.toList_intercalate, List.map_cons,
      List.map_map, Function.comp_def, List.append_assoc, List.cons_append, hcomma, hline, hlines,
      List.nil_append]

theorem isBlank_of_mem_indent (level : Nat) {c : Char} (h : c ∈ '\n' :: (indent level).toList) :
    isBlank c := by
  simp only [indent, String.toList_ofList, List.mem_cons, List.mem_replicate] at h
  rcases h with rfl | ⟨-, rfl⟩ <;> rfl

/-- What is written on indented lines is spelled with blanks. -/
theorem spelled_pretty {d : Doc} (h : d.Writable) (level : Nat) :
    Spelled d (pretty level d).toList := by
  induction h generalizing level with
  | null => exact .null
  | bool b => cases b <;> exact .bool _
  | int hlow hhigh => exact .int hlow hhigh
  | text s => exact toList_quote s ▸ .text s
  | @list items _ ih =>
    have hspelled := Spelled.list _ _ (items.map fun d => (d, (pretty (level + 1) d).toList))
      (fun _ => isBlank_of_mem_indent (level + 1)) (fun _ => isBlank_of_mem_indent level)
      (List.forall_mem_map.2 fun d hd => ih d hd (level + 1))
    rw [pretty, toList_bracket, prettyItems_eq]
    simpa [Function.comp_def] using hspelled
  | @record entries _ ih =>
    have hspelled := Spelled.record _ _ [' ']
      (entries.map fun e => (e.1, e.2, (pretty (level + 1) e.2).toList))
      (fun _ => isBlank_of_mem_indent (level + 1)) (fun _ => isBlank_of_mem_indent level)
      (by simp [isBlank]) (List.forall_mem_map.2 fun e he => ih e he (level + 1))
    have hentry (e : String × Doc) : (writeKey (.text e.1) ++ ": " ++ pretty (level + 1) e.2).toList =
        entryChars [' '] (e.1, (pretty (level + 1) e.2).toList) := by
      simp [toList_writeKey, entryChars]
    have htext : (pretty level (.record entries)).toList = '\x7b' ::
        (joined ('\n' :: (indent (level + 1)).toList) ('\n' :: (indent level).toList)
          (entries.map fun e => entryChars [' '] (e.1, (pretty (level + 1) e.2).toList)) ++
            ['\x7d']) := by
      rw [Doc.record, pretty, toList_bracket, prettyEntries_eq]
      simp only [List.map_map, Function.comp_def, hentry]
      rfl
    simpa [htext, Function.comp_def] using hspelled

/-- A document that can be written is what its compact text is read as. -/
theorem read_compact {d : Doc} (h : d.Writable) : read (compact d) = some d :=
  (spelled_compact h).read

/-- A document that can be written is what its text in lines is read as. -/
theorem read_pretty {d : Doc} (h : d.Writable) (level : Nat) : read (pretty level d) = some d :=
  (spelled_pretty h level).read

/-! ### Other texts -/

/-- A character that a document may start with, or a blank. -/
def startsValue (c : Char) : Bool :=
  isBlank c || VmMonitor.isDigit c || ['\"', '[', '\x7b', 'n', 't', 'f', '-'].contains c

/-- A text that starts with any other character is no document. -/
theorem read_eq_none {s : String} {c : Char} {cs : List Char} (hs : s.toList = c :: cs)
    (h : startsValue c = false) : read s = none := by
  simp only [startsValue, Bool.or_eq_false_iff, List.contains_cons, List.contains_nil,
    beq_eq_false_iff_ne] at h
  obtain ⟨⟨hblank, hdigit⟩, hquote, hlist, htable, hnull, htrue, hfalse, hminus, -⟩ := h
  have hnumber : readNumber (c :: cs) = none := by
    simp [readNumber, hminus, hdigit]
  have hvalue (fuel : Nat) : readValue (fuel + 1) (c :: cs) = none := by
    rw [readValue, skipBlanks_cons hblank]
    simp [hquote, hlist, htable, hnull, htrue, hfalse, hnumber]
  simp only [read, hs]
  rw [hvalue]
  rfl

end Json

end VmMonitor
