import Mathlib.Data.List.Basic
import VmMonitor.Document.Yaml.Bare

/-!
# Scalars without quotes

A scalar without quotes is read word by word, and between two words it may go on to further lines. It
goes no further where a line follows that is indented less, or where a colon says that it was a key. So
a text on one line whose words neither start a comment nor end with a colon is read whole from either.

## What is proved

* `Yaml.Gap.read_blanks`, `Yaml.Gap.read_line` — the blanks of a line, and the way to the next one.
* `Yaml.Bare.wordLength?_word` — where a word ends.
* `Yaml.Bare.readOnto_phrase` — the words of a text, one after the other, are read as the text.
* `Yaml.Bare.read?_key`, `Yaml.Bare.read?_line` — a text in front of a colon, and one at the end of its
  line.
-/

namespace VmMonitor.Yaml

/-! ### Places -/

namespace Place

variable (p : Place)

@[simp] theorem skip_zero : p.skip 0 = p := rfl

theorem skip_skip (m n : Nat) : (p.skip m).skip n = p.skip (m + n) := by
  simp only [skip, indexAfter, List.drop_drop, Place.mk.injEq, List.take_add, List.foldl_append,
    true_and]
  omega

/-- Places whose size is that of the text that is left. -/
def Sized : Prop := p.size = p.rest.length

/-- The place at a column of the next line. -/
def below (column : Nat) : Place := (p.descend 1).skip column

variable {p}

theorem Sized.skip (h : p.Sized) (n : Nat) : (p.skip n).Sized := by
  simp [Sized, Place.skip, List.length_drop, show p.size = _ from h]

theorem Sized.descend (h : p.Sized) (n : Nat) : (p.descend n).Sized := by
  simp [Sized, Place.descend, List.length_drop, show p.size = _ from h]

end Place

/-- Neither a blank nor a line end comes next. -/
def Content (cs : List Char) : Prop := ∀ c ∈ cs.head?, isBlank c = false ∧ isBreak c = false

theorem Content.lineBreak?_eq_none {p : Place} (h : Content p.rest) : p.lineBreak? = none := by
  unfold Place.lineBreak?
  split
  · rename_i heq
    simp [heq, Content, isBreak] at h
  · rename_i c tail _ heq
    have hc := (h c (by simp [heq])).2
    simp [hc]
  · rfl

namespace Gap

/-- The gap with blanks behind it. -/
def addBlanks (g : Gap) (n : Nat) : Gap :=
  if g.isBroken then g else { g with blanks := List.replicate n ' ' ++ g.blanks }

theorem read_blanks {least fuel n : Nat} {g : Gap} {p : Place} {rest : List Char}
    (hrest : p.rest = List.replicate n ' ' ++ rest) (hcontent : Content rest) (hfuel : n < fuel) :
    g.read least fuel p = some (g.addBlanks n, p.skip n) := by
  induction n generalizing fuel g p with
  | zero =>
    obtain ⟨fuel, rfl⟩ := Nat.exists_eq_succ_of_ne_zero (Nat.ne_of_gt hfuel)
    obtain rfl : p.rest = rest := hrest
    have hg : g.addBlanks 0 = g := by simp [addBlanks]
    rw [Gap.read, hg, Place.skip_zero]
    cases hcons : p.rest with
    | nil => rfl
    | cons c tail =>
      have hc := (hcontent c (by simp [hcons])).1
      simp [hc, hcontent.lineBreak?_eq_none]
  | succ n ih =>
    obtain ⟨fuel, rfl⟩ := Nat.exists_eq_succ_of_ne_zero (Nat.ne_of_gt (Nat.zero_lt_of_lt hfuel))
    rw [List.replicate_succ, List.cons_append] at hrest
    have hg : (g.addBlank ' ').addBlanks n = g.addBlanks (n + 1) := by
      unfold addBlanks addBlank
      cases h : g.isBroken
      · simp [List.replicate_succ']
      · simp [h]
    have hnext := ih (g := g.addBlank ' ') (p := p.skip 1) (by simp [Place.skip, hrest])
      (show n < fuel by omega)
    rw [hg, Place.skip_skip, Nat.add_comm 1 n] at hnext
    rw [Gap.read, hrest]
    simpa [isBlank] using hnext

/-- At the end of a line, the gap goes on to what stands on the next one. -/
theorem read_line (least : Nat) {n : Nat} {p : Place} {rest : List Char} (hsize : p.Sized)
    (hrest : p.rest = '\n' :: (List.replicate n ' ' ++ rest)) (hcontent : Content rest) :
    ∃ g, Gap.none.read least (p.size + 1) p = some (g, p.below n) ∧ g.isBroken = true := by
  have hfuel : n < p.size := by
    rw [show p.size = _ from hsize, hrest]
    simp only [List.length_cons, List.length_append, List.length_replicate]
    omega
  have hbreak : p.lineBreak? = some ('\n', p.descend 1) := by
    simp [Place.lineBreak?, hrest, isBreak]
  refine ⟨(Gap.none.addBreak '\n').addBlanks n, ?_, rfl⟩
  have hblanks : Gap.read least p.size _ _ = _ :=
    read_blanks (g := Gap.none.addBreak '\n') (p := p.descend 1) (by simp [Place.descend, hrest])
      hcontent hfuel
  rw [Gap.read, hrest]
  simpa [isBlank, hbreak, Place.below] using hblanks

end Gap

namespace Bare

/-! ### Words -/

/-- Characters without a blank, a comment or a colon at their end. -/
structure IsWord (w : List Char) : Prop where
  ne_nil : w ≠ []
  solid : ∀ c ∈ w, isBlank c = false ∧ isBreak c = false
  colon : ∀ u v, w = u ++ ':' :: v → v ≠ []
  comment : w.head? ≠ some '#'

/-- Words with blanks between them. -/
inductive Phrase : List Char → Prop
  | word {w : List Char} : IsWord w → Phrase w
  | more {w rest : List Char} (n : Nat) : IsWord w → Phrase rest →
    Phrase (w ++ (List.replicate (n + 1) ' ' ++ rest))

/-- What ends a word. -/
def Stops (cs : List Char) : Prop :=
  ∀ c tail, cs = c :: tail → isBlank c ∨ isBreak c ∨ c = ':' ∧ blankNext tail

theorem wordLength?_word {w cs : List Char} (hsolid : ∀ c ∈ w, isBlank c = false ∧ isBreak c = false)
    (hcolon : ∀ u v, w = u ++ ':' :: v → v ≠ []) (hstops : Stops cs) (n : Nat) :
    wordLength? false n (w ++ cs) = some (n + w.length) := by
  induction w generalizing n with
  | nil =>
    cases cs with
    | nil => rfl
    | cons c tail =>
      rcases hstops c tail rfl with h | h | ⟨rfl, h⟩ <;> simp [wordLength?, h]
  | cons c w ih =>
    have hc := hsolid c (.head _)
    have hnext : c = ':' → blankNext (w ++ cs) = false := by
      rintro rfl
      obtain ⟨d, w, rfl⟩ := List.exists_cons_of_ne_nil (hcolon [] w rfl)
      simp [blankNext, hsolid d (by simp)]
    have hrest := ih (fun d hd => hsolid d (.tail _ hd))
      (fun u v h => hcolon (c :: u) v (by rw [h]; rfl)) (n + 1)
    rw [List.cons_append, wordLength?]
    simp only [hc, Bool.or_self, Bool.false_eq_true, if_false, Bool.false_and, Bool.and_eq_true,
      decide_eq_true_eq]
    rw [if_neg fun h => by simp [hnext h.1] at h, hrest, List.length_cons]
    congr 1
    omega

theorem Phrase.ne_nil {w : List Char} (h : Phrase w) : w ≠ [] := by
  cases h with
  | word h => exact h.ne_nil
  | more n h _ => simp [h.ne_nil]

theorem Phrase.isBreak_eq_false {w : List Char} (h : Phrase w) {c : Char} (hc : c ∈ w) :
    isBreak c = false := by
  induction h with
  | word h => exact (h.solid c hc).2
  | more n h _ ih =>
    rcases List.mem_append.1 hc with hc | hc
    · exact (h.solid c hc).2
    · rcases List.mem_append.1 hc with hc | hc
      · rw [List.eq_of_mem_replicate hc]
        decide
      · exact ih hc

/-! ### Texts -/

/-- How a scalar ends that was read up to a place: a colon stands there, or the end of a line with a
line below that is indented less. -/
inductive Ends (least : Nat) (p : Place) (text : List Char) : Reading → Prop
  | colon {tail : List Char} : p.rest = ':' :: tail → blankNext tail →
    Ends least p text ⟨String.ofList text, false, p⟩
  | line {tail : List Char} {g : Gap} {q : Place} : p.rest = '\n' :: tail →
    Gap.none.read least (p.size + 1) p = some (g, q) → g.isBroken → q.column < least →
      Ends least p text ⟨String.ofList text, true, q⟩

theorem Ends.stops {least : Nat} {p : Place} {text : List Char} {r : Reading}
    (h : Ends least p text r) : Stops p.rest := by
  intro c tail heq
  cases h with
  | colon hrest hblank =>
    obtain ⟨rfl, rfl⟩ := List.cons.inj (heq.symm.trans hrest)
    exact .inr (.inr ⟨rfl, hblank⟩)
  | line hrest _ _ _ =>
    obtain ⟨rfl, rfl⟩ := List.cons.inj (heq.symm.trans hrest)
    exact .inr (.inl (by decide))

/-- Where a word stands, the reader takes it for one. -/
theorem IsWord.taken {w cs : List Char} (hw : IsWord w) {p : Place} (hrest : p.rest = w ++ cs)
    (hstops : Stops cs) : p.rest.head? ≠ some '#' ∧ wordLength? false 0 p.rest = some w.length ∧
      w.length ≠ 0 ∧ p.rest.take w.length = w := by
  refine ⟨?_, ?_, by simp [hw.ne_nil], by simp [hrest]⟩
  · rw [hrest, List.head?_append_of_ne_nil _ hw.ne_nil]
    exact hw.comment
  · rw [hrest, wordLength?_word hw.solid hw.colon hstops, Nat.zero_add]

/-- The last word of a text. -/
theorem readOnto_word {w cs : List Char} (hw : IsWord w) {least fuel : Nat} {acc : List Char} {g : Gap}
    {p : Place} (hrest : p.rest = w ++ cs) (hdocument : p.isAtDocument = false) {r : Reading}
    (hends : Ends least (p.skip w.length) (acc.reverse ++ (g.reversed.reverse ++ w)) r) :
    readOnto false least (fuel + 1) acc g p = some r := by
  have hskip : (p.skip w.length).rest = cs := by simp [Place.skip, hrest]
  obtain ⟨hcomment, hlength, hpositive, htake⟩ := hw.taken hrest (hskip ▸ hends.stops)
  rw [readOnto]
  simp only [hdocument, hcomment, decide_false, Bool.or_self, Bool.false_eq_true, if_false, hlength,
    Option.bind_eq_bind, Option.bind_some, hpositive, htake]
  cases hends with
  | colon h hblank => simp [h, isBlank, isBreak, Gap.none]
  | line h hread hbroken hcolumn => simp [h, isBlank, isBreak, hread, hcolumn, hbroken]

/-- A word and the blanks behind it take one turn. -/
theorem readOnto_blanks {w cs : List Char} (hw : IsWord w) {least fuel n : Nat} {acc : List Char}
    {g : Gap} {p : Place} (hsize : p.Sized) (hrest : p.rest = w ++ (List.replicate (n + 1) ' ' ++ cs))
    (hcontent : Content cs) (hdocument : p.isAtDocument = false) (hcolumn : least ≤ p.column + 1) :
    readOnto false least (fuel + 1) acc g p = readOnto false least fuel
      (w.reverse ++ (g.reversed ++ acc)) (Gap.none.addBlanks (n + 1))
      (p.skip (w.length + (n + 1))) := by
  have hskip : (p.skip w.length).rest = List.replicate (n + 1) ' ' ++ cs := by
    simp [Place.skip, hrest]
  have hstops : Stops (List.replicate (n + 1) ' ' ++ cs) := by
    rintro c tail heq
    obtain ⟨rfl, -⟩ := List.cons.inj heq
    exact .inl (by decide)
  obtain ⟨hcomment, hlength, hpositive, htake⟩ := hw.taken hrest hstops
  have hblank : (p.skip w.length).rest.head?.any (fun c => isBlank c || isBreak c) = true := by
    rw [hskip]
    rfl
  have hread : Gap.none.read least ((p.skip w.length).size + 1) (p.skip w.length) =
      some (Gap.none.addBlanks (n + 1), p.skip (w.length + (n + 1))) := by
    rw [← Place.skip_skip]
    refine Gap.read_blanks hskip hcontent ?_
    rw [show (p.skip w.length).size = _ from hsize.skip _, hskip]
    simp only [List.length_append, List.length_replicate]
    omega
  have hinside : ¬(p.skip (w.length + (n + 1))).column < least := by
    simp [Place.skip]
    omega
  rw [readOnto]
  simp only [hdocument, hcomment, decide_false, Bool.or_self, Bool.false_eq_true, if_false, hlength,
    Option.bind_eq_bind, Option.bind_some, htake, hpositive, hblank, if_true, hread, hinside,
    Bool.not_false, Bool.true_and]

theorem content_of_phrase {w cs : List Char} (h : Phrase w) : Content (w ++ cs) := by
  obtain ⟨v, hv, hhead⟩ : ∃ v, IsWord v ∧ w.head? = v.head? := by
    cases h with
    | word hw => exact ⟨w, hw, rfl⟩
    | more n hw _ => exact ⟨_, hw, List.head?_append_of_ne_nil _ hw.ne_nil⟩
  intro c hc
  rw [List.head?_append_of_ne_nil _ h.ne_nil, hhead] at hc
  exact hv.solid c (List.mem_of_mem_head? hc)

/-- **The words of a text**, one after the other, are read as the text. -/
theorem readOnto_phrase {w cs : List Char} (hw : Phrase w) {least fuel : Nat} {acc : List Char}
    {g : Gap} {p : Place} (hsize : p.Sized) (hrest : p.rest = w ++ cs)
    (hdocument : p.isAtDocument = false) (hcolumn : least ≤ p.column + 1) {r : Reading}
    (hends : Ends least (p.skip w.length) (acc.reverse ++ (g.reversed.reverse ++ w)) r)
    (hfuel : w.length ≤ fuel) : readOnto false least fuel acc g p = some r := by
  induction hw generalizing fuel acc g p with
  | @word w hw =>
    obtain ⟨fuel, rfl⟩ := Nat.exists_eq_succ_of_ne_zero (Nat.ne_of_gt
      (Nat.lt_of_lt_of_le (List.length_pos_iff.2 hw.ne_nil) hfuel))
    exact readOnto_word hw hrest hdocument hends
  | @more w rest n hw hphrase ih =>
    obtain ⟨fuel, rfl⟩ := Nat.exists_eq_succ_of_ne_zero (Nat.ne_of_gt
      (Nat.lt_of_lt_of_le (List.length_pos_iff.2 (Phrase.more n hw hphrase).ne_nil) hfuel))
    rw [readOnto_blanks hw hsize (by simpa using hrest) (content_of_phrase hphrase) hdocument hcolumn]
    have hrest' : (p.skip (w.length + (n + 1))).rest = rest ++ cs := by
      rw [← Place.skip_skip]
      simp [Place.skip, hrest]
    have hreversed : (Gap.none.addBlanks (n + 1)).reversed = List.replicate (n + 1) ' ' := by
      simp [Gap.addBlanks, Gap.none, Gap.reversed]
    have hends' : Ends least ((p.skip (w.length + (n + 1))).skip rest.length)
        ((w.reverse ++ (g.reversed ++ acc)).reverse ++
          ((Gap.none.addBlanks (n + 1)).reversed.reverse ++ rest)) r := by
      simpa [hreversed, Place.skip_skip, Nat.add_assoc] using hends
    exact ih (hsize.skip _) hrest' (by simp [Place.isAtDocument, Place.isAtMarker, Place.skip])
      (by simp [Place.skip]; omega) hends' (show rest.length ≤ fuel by simp at hfuel; omega)

/-- A text in front of a colon. -/
theorem read?_key {w tail : List Char} (hw : Phrase w) {least : Nat} {p : Place} (hsize : p.Sized)
    (hrest : p.rest = w ++ ':' :: tail) (hblank : blankNext tail) (hdocument : p.isAtDocument = false)
    (hcolumn : least ≤ p.column + 1) :
    read? false least p = some ⟨String.ofList w, false, p.skip w.length⟩ := by
  have hlength : p.size = (w ++ ':' :: tail).length := hrest ▸ hsize
  have hends : Ends least (p.skip w.length) w ⟨String.ofList w, false, p.skip w.length⟩ :=
    .colon (by simp [Place.skip, hrest]) hblank
  refine readOnto_phrase hw hsize hrest hdocument hcolumn ?_ (by simp at hlength; omega)
  simpa [Gap.none, Gap.reversed] using hends

/-- A text at the end of its line, with a line below that is indented less. -/
theorem read?_line {w rest : List Char} (hw : Phrase w) {least column : Nat} {p : Place}
    (hsize : p.Sized) (hrest : p.rest = w ++ '\n' :: (List.replicate column ' ' ++ rest))
    (hcontent : Content rest) (hdocument : p.isAtDocument = false) (hcolumn : least ≤ p.column + 1)
    (hless : column < least) :
    read? false least p = some ⟨String.ofList w, true, (p.skip w.length).below column⟩ := by
  have hlength : p.size = (w ++ '\n' :: (List.replicate column ' ' ++ rest)).length := hrest ▸ hsize
  have hskip : (p.skip w.length).rest = '\n' :: (List.replicate column ' ' ++ rest) := by
    simp [Place.skip, hrest]
  obtain ⟨g, hread, hbroken⟩ := Gap.read_line least (hsize.skip w.length) hskip hcontent
  have hends : Ends least (p.skip w.length) w
      ⟨String.ofList w, true, (p.skip w.length).below column⟩ :=
    .line hskip hread hbroken (by simpa [Place.below, Place.skip, Place.descend] using hless)
  refine readOnto_phrase hw hsize hrest hdocument hcolumn ?_ (by simp at hlength; omega)
  simpa [Gap.none, Gap.reversed] using hends

end Bare

end VmMonitor.Yaml
