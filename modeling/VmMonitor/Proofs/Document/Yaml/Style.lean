import Mathlib.Tactic.SplitIfs
import VmMonitor.Document.Yaml.Block
import VmMonitor.Proofs.Document.AsRead
import VmMonitor.Proofs.Document.Yaml.Scan

/-!
# What is written without quotes

A text is written without quotes if nothing in it would be read otherwise: not as the end of a scalar,
and not as another type. The writer tests a text for both, and the reader has its own idea of either.
Here the tests are enough for the reader.

## What is proved

* `Yaml.isPlain_of_canBePlain` — **a text that passes the first test** is a scalar without quotes
  wherever it stands.
* `Yaml.Unquoted.asRead` — what is written for a leaf without quotes is what is found there.
* `Yaml.style_of_letter` — a text that starts with a letter passes the second test, unless it is a
  letter that words of other types start with.
* `Yaml.style_of_numeral` — names pass both tests, whatever numbers are in them.
-/

namespace VmMonitor.Yaml

/-! ### Texts without indicators -/

theorem exists_hasIndicator_suffix {b : Bool} {u v : List Char} (h : hasIndicator b (u ++ v) = false) :
    ∃ b', hasIndicator b' v = false := by
  induction u generalizing b with
  | nil => exact ⟨b, h⟩
  | cons c u ih =>
    rw [List.cons_append, hasIndicator, Bool.or_eq_false_iff] at h
    exact ih h.2

/-- No colon has a blank behind it. -/
theorem blankNext_of_hasIndicator {b : Bool} {u v : List Char}
    (h : hasIndicator b (u ++ ':' :: v) = false) : blankNext v = false := by
  obtain ⟨b', h'⟩ := exists_hasIndicator_suffix h
  simpa [hasIndicator] using (Bool.or_eq_false_iff.1 (Bool.or_eq_false_iff.1 h').1).1

/-- What follows a blank starts no comment. -/
theorem hasIndicator_behind_blank {b : Bool} {u v : List Char}
    (h : hasIndicator b (u ++ ' ' :: v) = false) : hasIndicator true v = false := by
  obtain ⟨b', h'⟩ := exists_hasIndicator_suffix h
  exact (Bool.or_eq_false_iff.1 h').2

/-- A text with blanks only between its words. -/
structure IsTrim (cs : List Char) : Prop where
  ne_nil : cs ≠ []
  solid : ∀ c ∈ cs, c ≠ ' ' → isBlank c = false ∧ isBreak c = false
  head : cs.head? ≠ some ' '
  last : cs.getLast? ≠ some ' '

/-- The first word, and what stands behind it and its blanks. -/
theorem IsTrim.split {cs : List Char} (h : IsTrim cs) : ∃ w r, cs = w ++ r ∧ w ≠ [] ∧
    (∀ c ∈ w, isBlank c = false ∧ isBreak c = false) ∧
    (r = [] ∨ ∃ n rest, r = List.replicate (n + 1) ' ' ++ rest ∧ IsTrim rest) := by
  have hsplit := (List.takeWhile_append_dropWhile (p := (· ≠ ' ')) (l := cs)).symm
  obtain ⟨w, hw⟩ : ∃ w, w = cs.takeWhile (· ≠ ' ') := ⟨_, rfl⟩
  obtain ⟨r, hr⟩ : ∃ r, r = cs.dropWhile (· ≠ ' ') := ⟨_, rfl⟩
  rw [← hw, ← hr] at hsplit
  refine ⟨w, r, hsplit, ?_, fun c hc => ?_, ?_⟩
  · obtain ⟨c, tail, rfl⟩ := List.exists_cons_of_ne_nil h.ne_nil
    have hc : c ≠ ' ' := by simpa using h.head
    simp [hw, hc]
  · refine h.solid c (hsplit ▸ List.mem_append_left _ hc) ?_
    have hc' := List.mem_takeWhile_imp (hw ▸ hc)
    simpa using hc'
  · cases r with
    | nil => exact .inl rfl
    | cons c t =>
      have hfirst := List.head?_dropWhile_not (· ≠ ' ') cs
      rw [← hr] at hfirst
      obtain rfl : c = ' ' := by simpa using hfirst
      obtain ⟨n, rest, ht, hhead⟩ : ∃ n rest, t = List.replicate n ' ' ++ rest ∧
          rest.head? ≠ some ' ' := by
        refine ⟨(t.takeWhile (· = ' ')).length, t.dropWhile (· = ' '), ?_, fun hhead => ?_⟩
        · rw [← List.eq_replicate_of_mem fun b hb => by simpa using List.mem_takeWhile_imp hb,
            List.takeWhile_append_dropWhile]
        · have hnot := List.head?_dropWhile_not (· = ' ') t
          simp [hhead] at hnot
      have hcs : cs = (w ++ List.replicate (n + 1) ' ') ++ rest := by
        rw [hsplit, ht, List.append_assoc]
        rfl
      have hrest : rest ≠ [] := by
        rintro rfl
        refine h.last ?_
        simp [hcs, List.replicate_succ']
      refine .inr ⟨n, rest, congrArg (' ' :: ·) ht, hrest, fun c hc => h.solid c ?_, hhead, ?_⟩
      · exact hcs ▸ List.mem_append_right _ hc
      · rw [← List.getLast?_append_of_ne_nil _ hrest, ← hcs]
        exact h.last

theorem IsTrim.phrase {cs : List Char} (h : IsTrim cs) (hplain : hasIndicator true cs = false) :
    Bare.Phrase cs := by
  induction hn : cs.length using Nat.strongRecOn generalizing cs with
  | ind n ih =>
    obtain ⟨w, r, rfl, hne, hsolid, hr⟩ := h.split
    have hword : Bare.IsWord w := by
      refine ⟨hne, hsolid, ?_, ?_⟩
      · rintro u v rfl rfl
        have hblank := blankNext_of_hasIndicator (u := u) (v := r) (by simpa using hplain)
        rcases hr with rfl | ⟨n, rest, rfl, -⟩
        · simp [blankNext] at hblank
        · simp [blankNext, List.replicate_succ, isBlank] at hblank
      · intro hcomment
        obtain ⟨c, w, rfl⟩ := List.exists_cons_of_ne_nil hne
        obtain rfl : c = '#' := by simpa using hcomment
        simp [hasIndicator] at hplain
    rcases hr with rfl | ⟨m, rest, rfl, hrest⟩
    · simpa using Bare.Phrase.word hword
    · refine .more m hword (ih rest.length ?_ hrest ?_ rfl)
      · simp only [← hn, List.length_append, List.length_replicate]
        omega
      · refine hasIndicator_behind_blank (b := true) (u := w ++ List.replicate m ' ') ?_
        simpa [List.replicate_succ'] using hplain

/-! ### Texts that may be written without quotes -/

theorem isAllowed_of_isShown {c : Char} (h : isShown c) : isAllowed c := by
  simp only [isShown, isAllowed, Bool.or_eq_true, Bool.and_eq_true, decide_eq_true_eq] at h ⊢
  omega

/-- What no text without quotes starts with. -/
theorem start_of_startsWithIndicator {c : Char} {cs : List Char}
    (h : startsWithIndicator (c :: cs) = false) : isIndicator c = false ∧
      (c = '-' ∨ c = '?' ∨ c = ':' → blankNext cs = false) ∧
      ¬['-', '-', '-'] <+: c :: cs ∧ ¬['.', '.', '.'] <+: c :: cs := by
  unfold startsWithIndicator at h
  split at h
  · cases h
  · cases h
  · rename_i c' cs' hdashes hdots heq
    obtain ⟨rfl, rfl⟩ := List.cons.inj heq
    rw [Bool.or_eq_false_iff] at h
    refine ⟨h.1, fun hc => ?_, ?_, ?_⟩
    · rcases hc with rfl | rfl | rfl <;> simpa using h.2
    · rintro ⟨tail, htail⟩
      obtain ⟨hc, hcs⟩ := List.cons.inj htail.symm
      exact hdashes tail hc hcs
    · rintro ⟨tail, htail⟩
      obtain ⟨hc, hcs⟩ := List.cons.inj htail.symm
      exact hdots tail hc hcs
  · rename_i heq
    cases heq

/-- **A text that may be written without quotes** is a scalar without quotes wherever it stands. -/
theorem isPlain_of_canBePlain {cs : List Char} (h : canBePlain cs) : IsPlain cs := by
  simp only [canBePlain, isPlainText, Bool.and_eq_true, Bool.not_eq_true', decide_eq_true_eq,
    List.all_eq_true, List.any_eq_false] at h
  obtain ⟨⟨⟨⟨⟨⟨⟨hshown, -⟩, hne⟩, hbreak⟩, hhead⟩, hlast⟩, hstart⟩, hindicator⟩ := h
  have htab (c : Char) (hc : c ∈ cs) : c ≠ '\t' := by
    rintro rfl
    exact absurd (hshown _ hc) (by decide)
  have hmark (c : Char) (hc : c ∈ cs) : c ≠ byteOrderMark := by
    rintro rfl
    exact absurd (hshown _ hc) (by decide)
  have htrim : IsTrim cs := by
    refine ⟨by simpa using hne, fun c hc hblank => ⟨?_, by simpa using hbreak c hc⟩, hhead, hlast⟩
    simp [isBlank, hblank, htab c hc]
  obtain ⟨c, tail, rfl⟩ := List.exists_cons_of_ne_nil htrim.ne_nil
  obtain ⟨hfirst, hsign, hmarker⟩ := start_of_startsWithIndicator hstart
  refine ⟨htrim.phrase hindicator, ?_, hmarker, fun c hc => isAllowed_of_isShown (hshown c hc)⟩
  rintro c' tail' heq
  obtain ⟨rfl, rfl⟩ := List.cons.inj heq
  exact ⟨hfirst, hmark _ (.head _), hsign⟩

/-! ### Leaves that are written without quotes -/

/-- What holds of all characters of a range. -/
theorem of_mem_range {p : Char → Prop} {low count : Nat}
    (hall : ∀ n ∈ List.range' low count, p (.ofNat n)) {c : Char} (hlow : low ≤ c.toNat)
    (hhigh : c.toNat < low + count) : p c := by
  have hc := hall c.toNat (List.mem_range'_1.2 ⟨hlow, hhigh⟩)
  rwa [c.ofNat_toNat] at hc

theorem of_all_digits {p : Char → Prop} (hall : ∀ n ∈ List.range' 48 10, p (.ofNat n)) {c : Char}
    (h : isDigit c) : p c := by
  have hbounds : 48 ≤ c.toNat ∧ c.toNat ≤ 57 := by
    simpa [isDigit, Char.le_def, UInt32.le_iff_toNat_le] using h
  exact of_mem_range hall hbounds.1 (by omega)

/-- No digit has a meaning of its own in a block. -/
theorem of_isDigit {c : Char} (h : isDigit c) : (isBlank c = false ∧ isBreak c = false) ∧
    isIndicator c = false ∧ isAllowed c ∧ ∀ d ∈ ['-', '?', ':', '#', '.', byteOrderMark], c ≠ d := by
  obtain ⟨hblank, hindicator, hallowed, hother⟩ := of_all_digits
    (p := fun c => (isBlank c = false ∧ isBreak c = false) ∧ isIndicator c = false ∧ isAllowed c ∧
      c ∉ ['-', '?', ':', '#', '.', byteOrderMark]) (by decide) h
  exact ⟨hblank, hindicator, hallowed, fun d hd => (ne_of_mem_of_not_mem hd hother).symm⟩

/-- Digits behind at most one sign. -/
theorem isPlain_digits {sign digits : List Char} (hsign : sign = [] ∨ sign = ['-'])
    (hdigits : ∀ c ∈ digits, isDigit c) (hne : digits ≠ []) : IsPlain (sign ++ digits) := by
  obtain ⟨d, ds, rfl⟩ := List.exists_cons_of_ne_nil hne
  obtain ⟨hblank, hindicator, -, hother⟩ := of_isDigit (hdigits d (.head _))
  have hsolid (c : Char) (hc : c ∈ sign ++ d :: ds) :
      (isBlank c = false ∧ isBreak c = false) ∧ isAllowed c ∧ c ≠ ':' ∧ c ≠ '#' := by
    rcases List.mem_append.1 hc with hc | hc
    · rcases hsign with rfl | rfl
      · cases hc
      · obtain rfl := List.mem_singleton.1 hc
        decide
    · obtain ⟨hblank, -, hallowed, hother⟩ := of_isDigit (hdigits c hc)
      exact ⟨hblank, hallowed, hother _ (by simp), hother _ (by simp)⟩
  have hword : Bare.IsWord (sign ++ d :: ds) := by
    refine ⟨by simp, fun c hc => (hsolid c hc).1, ?_, ?_⟩
    · rintro u v heq -
      exact (hsolid ':' (by simp [heq])).2.2.1 rfl
    · intro hhead
      exact (hsolid '#' (List.mem_of_mem_head? hhead)).2.2.2 rfl
  refine ⟨.word hword, ?_, ?_, fun c hc => (hsolid c hc).2.1⟩
  · intro c rest heq
    rcases hsign with rfl | rfl
    · obtain ⟨rfl, rfl⟩ := List.cons.inj heq
      refine ⟨hindicator, hother _ (by simp), fun hc => ?_⟩
      rcases hc with hc | hc | hc <;> exact absurd hc (hother _ (by simp))
    · obtain ⟨rfl, rfl⟩ := List.cons.inj heq
      exact ⟨by decide, by decide, fun _ => by simp [blankNext, hblank]⟩
  · have hfirst : '-' ≠ d ∧ '.' ≠ d := ⟨(hother _ (by simp)).symm, (hother _ (by simp)).symm⟩
    rcases hsign with rfl | rfl <;> simp [hfirst]

theorem isPlain_toString (n : Int) : IsPlain (toString n).toList := by
  cases n with
  | ofNat k =>
    rw [Json.toList_toString_ofNat]
    exact isPlain_digits (.inl rfl) (fun _ => Json.isDigit_of_mem_toDigits) Nat.toDigits_ne_nil
  | negSucc k =>
    rw [Json.toList_toString_negSucc]
    exact isPlain_digits (.inr rfl) (fun _ => Json.isDigit_of_mem_toDigits) Nat.toDigits_ne_nil

/-- A leaf that is written without quotes. -/
inductive Unquoted : Scalar → Prop
  | null : Unquoted .null
  | bool (b : Bool) : Unquoted (.bool b)
  | int (n : Int) : Unquoted (.int n)
  | text {s : String} : style s = .plain → Unquoted (.text s)

theorem canBePlain_of_style {s : String} (h : style s = .plain) : canBePlain s.toList := by
  simp only [style] at h
  split_ifs at h with _ _ hplain
  simpa using (Bool.and_eq_true_iff.1 hplain).2

/-- What is written for a leaf without quotes is found there when it is read. -/
theorem Unquoted.asRead {x : Scalar} (h : Unquoted x) : ∃ w, x.asRead .yaml = .plain w ∧
    IsPlain w.toList ∧ ∀ margin, writeScalar margin x = w := by
  cases h with
  | null => exact ⟨_, rfl, isPlain_of_canBePlain (by decide), fun _ => rfl⟩
  | bool b => cases b <;> exact ⟨_, rfl, isPlain_of_canBePlain (by decide), fun _ => rfl⟩
  | int n => exact ⟨_, rfl, isPlain_toString n, fun _ => rfl⟩
  | text hs =>
    refine ⟨_, rfl, isPlain_of_canBePlain (canBePlain_of_style hs), fun margin => ?_⟩
    rw [writeScalar, hs]
    rfl

/-- A key that is written without quotes and may wait for its colon. -/
def IsKey (key : String) : Prop := lineStyle key = .plain ∧ key.length ≤ 256

instance : DecidablePred IsKey := fun _ => inferInstanceAs (Decidable (_ ∧ _))

theorem IsKey.writeKey {key : String} (h : IsKey key) : writeKey (.text key) = key := by
  simp [Yaml.writeKey, Doc.text, Doc.untagged, h.1, writeText]

theorem IsKey.isPlain {key : String} (h : IsKey key) : IsPlain key.toList := by
  have hstyle := h.1
  simp only [lineStyle] at hstyle
  split_ifs at hstyle with _ hplain
  exact isPlain_of_canBePlain (by simpa using (Bool.and_eq_true_iff.1 hplain).2)

/-! ### Words that look like nothing else -/

theorem digitValue?_eq_none {c : Char} (h : isDigit c = false) : digitValue? 10 c = none := by
  unfold digitValue?
  unfold isDigit at h
  split_ifs <;> simp_all

/-- A letter that starts no word for null, a truth value, an infinity or NaN. -/
def IsLetter (c : Char) : Prop := c.isAlpha ∧ c ∉ ['n', 'N', 't', 'T', 'f', 'F', 'i', 'I']

instance : DecidablePred IsLetter := fun _ => inferInstanceAs (Decidable (_ ∧ _))

variable {s : String} {cs : List Char} {c : Char}

theorem IsLetter.ne (h : IsLetter c) {d : Char} (hd : ¬IsLetter d) : c ≠ d := by
  rintro rfl
  exact hd h

theorem IsLetter.solid (h : IsLetter c) : isDigit c = false ∧ isIndicator c = false := by
  have hbounds : 65 ≤ c.toNat ∧ c.toNat ≤ 122 := by
    have halpha : (decide (65 ≤ c.val ∧ c.val ≤ 90) ||
      decide (97 ≤ c.val) && decide (c.val ≤ 122)) = true := h.1
    simp only [Bool.or_eq_true, Bool.and_eq_true, decide_eq_true_eq, UInt32.le_iff_toNat_le]
      at halpha
    change 65 ≤ c.toNat ∧ c.toNat ≤ 90 ∨ 97 ≤ c.toNat ∧ c.toNat ≤ 122 at halpha
    omega
  exact of_mem_range (p := fun c => c.isAlpha → isDigit c = false ∧ isIndicator c = false)
    (by decide : ∀ n ∈ List.range' 65 58, _) hbounds.1 (by omega) h.1

theorem IsLetter.readDigits?_eq_none (h : IsLetter c) : readDigits? 10 (c :: cs) = none := by
  simp [readDigits?, digitsOnto?, digitValue?_eq_none h.solid.1]

theorem IsLetter.int?_eq_none (h : IsLetter c) :
    Plain.int? (c :: cs) = none ∧ Plain.int? ('-' :: c :: cs) = none := by
  have hplus : c ≠ '+' := h.ne (by decide)
  have hminus : c ≠ '-' := h.ne (by decide)
  have hzero : c ≠ '0' := h.ne (by decide)
  have hbase : Plain.basePrefix (c :: cs) = none := by
    unfold Plain.basePrefix
    split <;> simp_all
  have hdash : readDigits? 10 ('-' :: c :: cs) = none := rfl
  have hnone : readDigits? 10 (c :: cs) = none := h.readDigits?_eq_none
  have hnat : Plain.nat? (c :: cs) = none := by
    simp [Plain.nat?, hplus, hbase, hnone]
  have hnegative : Plain.nat? ('-' :: c :: cs) = none := by
    simp [Plain.nat?, Plain.basePrefix, hdash]
  simp [Plain.int?, hnat, hnegative, Plain.negative?, hbase, hnone, hminus]

theorem IsLetter.isPaddedDigits_eq_false (h : IsLetter c) :
    Plain.isPaddedDigits (c :: cs) = false ∧ Plain.isPaddedDigits ('-' :: c :: cs) = false := by
  have hplus : c ≠ '+' := h.ne (by decide)
  have hminus : c ≠ '-' := h.ne (by decide)
  have hzero : c ≠ '0' := h.ne (by decide)
  simp [Plain.isPaddedDigits, hplus, hminus, hzero]

theorem IsLetter.readDecimal?_eq_none (h : IsLetter c) : readDecimal? (c :: cs) = none := by
  have hpoint : c ≠ '.' := h.ne (by decide)
  simp [readDecimal?, h.solid.1, readDigits?, hpoint]

/-- A letter is the lowercase one itself or its capital. -/
theorem eq_or_eq_of_toLower {c lower : Char} (h : c.toLower = lower) (upper : Char)
    (hupper : upper.toNat + 32 = lower.toNat) : c = lower ∨ c = upper := by
  unfold Char.toLower at h
  split at h
  · rename_i hcapital
    have hlow := UInt32.le_iff_toNat_le.1 hcapital.1
    have hhigh := UInt32.le_iff_toNat_le.1 hcapital.2
    subst h
    refine .inr (Char.toNat_inj.1 ?_)
    simp at hlow hhigh hupper
    omega
  · exact .inl h

/-- A text that starts like neither is no number and no such word. -/
theorem IsLetter.readFloat_eq_error (h : IsLetter c)
    (hs : s.toList = c :: cs ∨ s.toList = '-' :: c :: cs) : readFloat s = .error .malformed := by
  have hplus : c ≠ '+' := h.ne (by decide)
  have hminus : c ≠ '-' := h.ne (by decide)
  have hletter : c.toLower ≠ 'i' ∧ c.toLower ≠ 'n' := by
    refine ⟨fun hc => ?_, fun hc => ?_⟩
    · rcases eq_or_eq_of_toLower hc 'I' rfl with rfl | rfl <;> exact absurd h (by decide)
    · rcases eq_or_eq_of_toLower hc 'N' rfl with rfl | rfl <;> exact absurd h (by decide)
  have hword (word : String) (hhead : word.toList.head? = some 'i' ∨ word.toList.head? = some 'n') :
      String.singleton c.toLower ++ String.ofList (cs.map Char.toLower) ≠ word := by
    rintro rfl
    simp [hletter] at hhead
  rcases hs with hs | hs <;>
    simp [readFloat, hs, hplus, hminus, h.readDecimal?_eq_none, hword "inf" (.inl rfl),
      hword "infinity" (.inl rfl), hword "nan" (.inr rfl)]

/-- Nothing that starts with such a letter, perhaps behind a dash, looks like another type. -/
theorem isAmbiguous_of_letter (h : IsLetter c) (hs : s.toList = c :: cs ∨ s.toList = '-' :: c :: cs) :
    isAmbiguous s = false := by
  have hne (word : String) (hword : word.toList.head?.any fun d => d ≠ '-' && ¬IsLetter d) :
      s ≠ word := by
    rintro rfl
    rcases hs with hs | hs
    · simp [hs, h] at hword
    · simp [hs] at hword
  have hempty : s.isEmpty = false := by
    rw [String.isEmpty_eq_false_iff]
    rintro rfl
    rcases hs with hs | hs <;> cases hs
  have hnull : Plain.isNull s = false := by
    simp [Plain.isNull, hne "null" (by decide), hne "Null" (by decide), hne "NULL" (by decide),
      hne "~" (by decide)]
  have hbool : Plain.bool? s = none := by
    simp [Plain.bool?, hne "true" (by decide), hne "True" (by decide), hne "TRUE" (by decide),
      hne "false" (by decide), hne "False" (by decide), hne "FALSE" (by decide)]
  have hwhole : Plain.whole? s = none := by
    rcases hs with hs | hs <;> simp [Plain.whole?, hs, h.int?_eq_none]
  have hpadded : Plain.isPaddedDigits s.toList = false := by
    rcases hs with hs | hs <;> simp [hs, h.isPaddedDigits_eq_false]
  have hfloat : Plain.float? s = none := by
    have hplus : c ≠ '+' := h.ne (by decide)
    have hminus (word : String) (hword : ['-', '.'].isPrefixOf word.toList) : s ≠ word := by
      have hpoint : '.' ≠ c := (h.ne (by decide)).symm
      have hdash : '-' ≠ c := (h.ne (by decide)).symm
      rintro rfl
      rcases hs with hs | hs <;> simp [hs, hpoint, hdash, List.isPrefixOf] at hword
    have hread := h.readFloat_eq_error hs
    have hself (cs : List Char) (hcs : s.toList = cs) : String.ofList cs = s := by
      rw [← hcs, String.ofList_toList]
    rcases hs with hs | hs
    all_goals
      simp [Plain.float?, hs, hself _ hs, hplus, hread, -String.ofList_cons, hne ".inf" (by decide),
        hne ".Inf" (by decide), hne ".INF" (by decide), hminus "-.inf" (by decide),
        hminus "-.Inf" (by decide), hminus "-.INF" (by decide), hne ".nan" (by decide),
        hne ".NaN" (by decide), hne ".NAN" (by decide)]
  simp [isAmbiguous, Plain.resolve, hempty, hnull, hbool, hwhole, hpadded, hfloat]

/-- A character that has no meaning of its own inside a text. -/
def isInner (c : Char) : Bool :=
  isShown c && !isBlank c && !isBreak c && !isIndicator c && c ≠ ':'

theorem of_isInner (h : isInner c) : isShown c ∧ c ≠ ' ' ∧ isBreak c = false ∧ c ≠ ':' ∧ c ≠ '#' := by
  simp only [isInner, Bool.and_eq_true, Bool.not_eq_true', decide_eq_true_eq] at h
  obtain ⟨⟨⟨⟨hshown, hblank⟩, hbreak⟩, hindicator⟩, hcolon⟩ := h
  refine ⟨hshown, ?_, hbreak, hcolon, ?_⟩
  · rintro rfl
    exact absurd hblank (by decide)
  · rintro rfl
    exact absurd hindicator (by decide)

theorem canBePlain_of_inner (hstart : startsWithIndicator cs = false) (hne : cs ≠ [])
    (hinner : ∀ d ∈ cs, isInner d) : canBePlain cs := by
  have hof (d : Char) (hd : d ∈ cs) := of_isInner (hinner d hd)
  have hblank : hasBlankBeforeBreak cs = false := by
    clear hstart hne hinner
    induction cs with
    | nil => rfl
    | cons d cs ih =>
      have hd := (hof d (.head _)).2.1
      cases cs with
      | nil => rfl
      | cons e cs => simp [hasBlankBeforeBreak, hd, ih fun d hd => hof d (.tail _ hd)]
  have hindicator (b : Bool) : hasIndicator b cs = false := by
    clear hstart hne hinner hblank
    induction cs generalizing b with
    | nil => rfl
    | cons d cs ih =>
      obtain ⟨-, -, -, hcolon, hhash⟩ := hof d (.head _)
      simp [hasIndicator, hcolon, hhash, ih fun d hd => hof d (.tail _ hd)]
  have hhead : cs.head? ≠ some ' ' := fun hd => (hof _ (List.mem_of_mem_head? hd)).2.1 rfl
  have hlast : cs.getLast? ≠ some ' ' := fun hd => (hof _ (List.mem_of_getLast? hd)).2.1 rfl
  have hshown : cs.all isShown := List.all_eq_true.2 fun d hd => (hof d hd).1
  have hbreak : cs.any isBreak = false :=
    List.any_eq_false.2 fun d hd => by simp [(hof d hd).2.2.1]
  simp [canBePlain, isPlainText, hshown, hblank, hne, hbreak, hhead, hlast, hstart, hindicator]

/-- **A text that starts with such a letter**, perhaps behind a dash, is written without quotes if it
passes the first test. -/
theorem style_of_letter (h : IsLetter c) (hs : s.toList = c :: cs ∨ s.toList = '-' :: c :: cs)
    (hplain : canBePlain s.toList) : style s = .plain := by
  have hbreak : ∀ d ∈ s.toList, isBreak d = false := by
    simp only [canBePlain, Bool.and_eq_true, Bool.not_eq_true', List.any_eq_false] at hplain
    simpa using hplain.1.1.1.1.2
  have hline : s.toList.contains '\n' = false := by
    rw [List.contains_eq_mem, decide_eq_false_iff_not]
    exact fun hmem => absurd (hbreak _ hmem) (by decide)
  simp only [style, hline, isAmbiguous_of_letter h hs, hplain, Bool.false_eq_true, if_false,
    Bool.not_false, Bool.true_and, if_true]

theorem style_ofList (h : IsLetter c) (hplain : canBePlain (c :: cs)) :
    style (.ofList (c :: cs)) = .plain :=
  style_of_letter h (.inl String.toList_ofList) (by rwa [String.toList_ofList])

/-- A name passes the first test, as no character in it means anything. -/
theorem style_of_name (h : IsLetter c) (hs : s.toList = c :: cs ∨ s.toList = '-' :: c :: cs)
    (hinner : ∀ d ∈ s.toList, isInner d) : style s = .plain := by
  have hstart : startsWithIndicator s.toList = false := by
    have hdash : '-' ≠ c := (h.ne (by decide)).symm
    have hpoint : c ≠ '.' := h.ne (by decide)
    have hsign : c ≠ '-' ∧ c ≠ '?' ∧ c ≠ ':' := ⟨hdash.symm, h.ne (by decide), h.ne (by decide)⟩
    rcases hs with hs | hs
    · simp [hs, startsWithIndicator, h.solid, hsign, hpoint]
    · have hc := hinner c (by simp [hs])
      simp only [isInner, Bool.and_eq_true, Bool.not_eq_true'] at hc
      simp [hs, startsWithIndicator, hdash.symm, blankNext, hc]
      decide
  have hne : s.toList ≠ [] := by rcases hs with hs | hs <;> simp [hs]
  exact style_of_letter h hs (canBePlain_of_inner hstart hne hinner)

/-! ### Names with numerals -/

theorem isInner_of_isDigit (h : isDigit c) : isInner c :=
  of_all_digits (p := fun c => isInner c) (by decide) h

theorem isInner_numeral (n : Int) : ∀ c ∈ (toString n).toList, isInner c := by
  cases n with
  | ofNat k =>
    rw [Json.toList_toString_ofNat]
    exact fun c hc => isInner_of_isDigit (Json.isDigit_of_mem_toDigits hc)
  | negSucc k =>
    rw [Json.toList_toString_negSucc]
    refine List.forall_mem_cons.2 ⟨by decide, fun c hc => ?_⟩
    exact isInner_of_isDigit (Json.isDigit_of_mem_toDigits hc)

/-- **A name with a numeral** in or behind it is written without quotes. -/
theorem style_of_numeral {front back : String} (h : IsLetter c)
    (hfront : front.toList = c :: cs ∨ front.toList = '-' :: c :: cs)
    (hinner : (front.toList ++ back.toList).all isInner) (n : Int) :
    style (front ++ toString n ++ back) = .plain := by
  obtain ⟨hinner, hinner'⟩ := List.forall_mem_append.1 (List.all_eq_true.1 hinner)
  have htext : (front ++ toString n ++ back).toList =
      front.toList ++ ((toString n).toList ++ back.toList) := by
    simp
  have hwhole : ∀ d ∈ (front ++ toString n ++ back).toList, isInner d := by
    rw [htext]
    exact List.forall_mem_append.2
      ⟨hinner, List.forall_mem_append.2 ⟨isInner_numeral n, hinner'⟩⟩
  rcases hfront with hfront | hfront
  · exact style_of_name h (.inl (by rw [htext, hfront, List.cons_append])) hwhole
  · exact style_of_name h (.inr (by rw [htext, hfront, List.cons_append, List.cons_append])) hwhole

end VmMonitor.Yaml
