import Mathlib.Data.List.TakeWhile
import Mathlib.Tactic.SplitIfs
import VmMonitor.Document.Yaml.Token
import VmMonitor.Proofs.Document.Yaml.Bare

/-!
# Tokens of block lines

A round of a scan passes over a gap, gives up candidates, closes block nodes and takes one token. On
block lines without quotes a gap and a token are all there is to a piece of text: blanks, a line end, a
dash, a key with its colon, a scalar, brackets with nothing inside. What each piece makes of a scan
depends on the column and the open block nodes alone, so pieces are read one after the other in any
order.

## The model

`Scan.At` says where a scan stands outside of brackets, and `Scan.Reaches` that one scan leads to
another. `IsPlain` is a text that is a scalar without quotes wherever it stands.

## What is proved

* `Scan.At.blank`, `Scan.At.line`, `Scan.At.close` — gaps, and the block nodes that end at a place.
* `Scan.At.dash`, `Scan.At.key`, `Scan.At.scalar`, `Scan.At.brackets` — one lemma for each kind of
  piece.
* `Scan.At.finish` — the end of the text.
-/

namespace VmMonitor.Yaml

namespace Scan

/-- Something starts here that is neither a gap nor a comment, or the text is at its end. -/
def Start (cs : List Char) : Prop :=
  ∀ c ∈ cs.head?, (isBlank c = false ∧ isBreak c = false) ∧ c ≠ '#' ∧ c ≠ byteOrderMark

theorem Start.content {cs : List Char} (h : Start cs) : Content cs := fun c hc => (h c hc).1

variable {s s' : Scan} {fuel n : Nat} {rest : List Char}

theorem Start.skipComment {p : Place} (h : Start p.rest) : p.skipComment = p := by
  unfold Place.skipComment
  split
  · rename_i heq
    simp [heq, Start] at h
  · rfl

/-- Blanks are passed over, up to where something starts. -/
theorem skipGap_blanks (hrest : s.place.rest = List.replicate n ' ' ++ rest) (hstart : Start rest) :
    s.skipGap (fuel + 1) = { s with place := s.place.skip n } := by
  have hmark : (s.place.index = 0 && s.place.rest.head? = some byteOrderMark) = false := by
    rw [hrest]
    cases n with
    | zero =>
      have hne : rest.head? ≠ some byteOrderMark := fun h => (hstart _ h).2.2 rfl
      simp [hne]
    | succ n => simp [List.replicate_succ, byteOrderMark]
  have hblank (a : Bool) :
      s.place.skipWhile (fun c => c = ' ' || (c = '\t' && a)) = s.place.skip n := by
    have hstop : rest.takeWhile (fun c => c = ' ' || (c = '\t' && a)) = [] := by
      cases rest with
      | nil => rfl
      | cons c rest =>
        have hc := (hstart c rfl).1.1
        simp only [isBlank, Bool.or_eq_false_iff, decide_eq_false_iff_not] at hc
        simp [hc]
    have htake : s.place.rest.takeWhile (fun c => c = ' ' || (c = '\t' && a)) =
        List.replicate n ' ' := by
      rw [hrest, List.takeWhile_append_of_pos (by simp), hstop, List.append_nil]
    simp only [Place.skipWhile, Place.span, htake, List.length_replicate]
  have hskip : (s.place.skip n).rest = rest := by simp [Place.skip, hrest]
  have hcomment : (s.place.skip n).skipComment = s.place.skip n := Start.skipComment (hskip ▸ hstart)
  rw [skipGap]
  simp only [hmark, Bool.false_eq_true, if_false, hblank, hcomment,
    (hskip ▸ hstart.content : Content (s.place.skip n).rest).lineBreak?_eq_none]

theorem skipGap_start (hstart : Start s.place.rest) : s.skipGap (fuel + 1) = s := by
  rw [skipGap_blanks (n := 0) rfl hstart, Place.skip_zero]

/-- At the end of a line, the line is left, and a key may follow. -/
theorem skipGap_line (hrest : s.place.rest = '\n' :: (List.replicate n ' ' ++ rest))
    (hstart : Start rest) (hflow : s.inFlow = false) :
    s.skipGap (fuel + 2) = { s with place := s.place.below n, admitsKey := true } := by
  have hmark : (s.place.index = 0 && s.place.rest.head? = some byteOrderMark) = false := by
    simp [hrest, byteOrderMark]
  have hblank (a : Bool) : s.place.skipWhile (fun c => c = ' ' || (c = '\t' && a)) = s.place := by
    simp [Place.skipWhile, Place.span, hrest]
  have hcomment : s.place.skipComment = s.place := by simp [Place.skipComment, hrest]
  have hbreak : s.place.lineBreak? = some ('\n', s.place.descend 1) := by
    simp [Place.lineBreak?, hrest, isBreak]
  rw [skipGap]
  simp only [hmark, Bool.false_eq_true, if_false, hblank, hcomment, hbreak]
  rw [skipGap_blanks (n := n) (by simp [Place.descend, hrest]) hstart]
  simp [hflow, Place.below]

/-! ### Steps -/

/-- A scan outside of brackets: what is left of the text, the column, the open block nodes and the
tokens so far. A node on an earlier line may still be remembered as a candidate; no key is needed of
it. -/
structure At (s : Scan) (cs : List Char) (n : Nat) (ns : List Nat) (ts : List Token) (a : Bool) :
    Prop where
  rest : s.place.rest = cs
  sized : s.place.Sized
  column : s.place.column = n
  indents : s.indents = ns
  tokens : s.tokens = ts
  count : s.count = ts.length
  admits : s.admitsKey = a
  candidate : s.candidates = [none] ∨
    ∃ c, s.candidates = [some c] ∧ c.isRequired = false ∧ c.line < s.place.line

/-- Whoever scans on from the first one with fuel enough for its text scans on from the second one. -/
def Reaches (s s' : Scan) : Prop :=
  ∀ fuel, s.place.rest.length < fuel →
    ∃ fuel', s'.place.rest.length < fuel' ∧ run fuel s = run fuel' s'

theorem Reaches.trans {s'' : Scan} (h : Reaches s s') (h' : Reaches s' s'') : Reaches s s'' := by
  intro fuel hfuel
  obtain ⟨fuel', hfuel', heq⟩ := h fuel hfuel
  obtain ⟨fuel'', hfuel'', heq'⟩ := h' fuel' hfuel'
  exact ⟨fuel'', hfuel'', heq.trans heq'⟩

/-- Gaps are passed over anyway. -/
theorem reaches_of_skipGap (hlength : s'.place.rest.length ≤ s.place.rest.length)
    (h : s.skipGap (s.place.size + 1) = s'.skipGap (s'.place.size + 1)) : Reaches s s' := by
  intro fuel hfuel
  refine ⟨fuel, by omega, ?_⟩
  cases fuel with
  | zero => rfl
  | succ fuel => rw [run, run, h]

variable {column : Nat} {indents : List Nat} {tokens : List Token} {admits : Bool}

theorem At.inFlow (h : s.At rest column indents tokens admits) : s.inFlow = false := by
  rcases h.candidate with hnone | ⟨c, hsome, -⟩
  · simp [Scan.inFlow, hnone]
  · simp [Scan.inFlow, hsome]

/-- A blank in front of something. -/
theorem At.blank (h : s.At (' ' :: rest) column indents tokens admits) (hstart : Start rest) :
    ∃ s', s'.At rest (column + 1) indents tokens admits ∧ Reaches s s' := by
  refine ⟨{ s with place := s.place.skip 1 }, ⟨by simp [Place.skip, h.rest], h.sized.skip 1,
    by simp [Place.skip, h.column], h.indents, h.tokens, h.count, h.admits, h.candidate⟩, ?_⟩
  refine reaches_of_skipGap (by simp [Place.skip]) ?_
  rw [skipGap_blanks (n := 1) h.rest hstart,
    skipGap_start (by simpa [Place.skip, h.rest] using hstart)]

/-- The end of a line in front of something. -/
theorem At.line (h : s.At ('\n' :: (List.replicate n ' ' ++ rest)) column indents tokens admits)
    (hstart : Start rest) : ∃ s', s'.At rest n indents tokens true ∧ Reaches s s' := by
  have hbelow : (s.place.below n).rest = rest := by
    simp [Place.below, Place.skip, Place.descend, h.rest]
  refine ⟨{ s with place := s.place.below n, admitsKey := true }, ⟨hbelow, (h.sized.descend 1).skip n,
    by simp [Place.below, Place.skip, Place.descend], h.indents, h.tokens, h.count, rfl, ?_⟩, ?_⟩
  · rcases h.candidate with hnone | ⟨c, hsome, hrequired, hline⟩
    · exact .inl hnone
    · exact .inr ⟨c, hsome, hrequired, Nat.lt_succ_of_lt hline⟩
  · refine reaches_of_skipGap (by simp [hbelow, h.rest]; omega) ?_
    obtain ⟨size, hsize⟩ : ∃ size, s.place.size = size + 1 :=
      ⟨_, (show s.place.size = _ from h.sized).trans (by rw [h.rest]; rfl)⟩
    rw [hsize, skipGap_line h.rest hstart h.inFlow, skipGap_start (by simpa [hbelow] using hstart)]

/-! ### What a round of the scan does first -/

/-- The scan where nothing waits for a colon. -/
def settled (s : Scan) : Scan := { s with candidates := [none] }

theorem At.expire (h : s.At rest column indents tokens admits) : s.expire = some s.settled := by
  rcases h.candidate with hnone | ⟨c, hsome, hrequired, hline⟩
  · simp [Scan.expire, hnone, settled]
  · simp [Scan.expire, hsome, settled, hrequired, Nat.not_le.2 hline]

/-- What a round does where something starts. -/
def round (fuel : Nat) (s : Scan) : Option (List Token) :=
  match s.place.rest with
  | [] => s.leave.map fun s => s.tokens.reverse
  | c :: rest => s.next c rest >>= Scan.run fuel

/-- A round closes the block nodes that are indented more, and goes on from there. -/
theorem At.run (h : s.At rest column indents tokens admits) (hstart : Start rest) :
    run (fuel + 1) s = (s.settled.dedent (column + 1)).round fuel := by
  have hgap : s.skipGap (s.place.size + 1) = s := skipGap_start (h.rest ▸ hstart)
  rw [Scan.run, hgap, h.expire, ← h.column]
  rfl

theorem At.settled (h : s.At rest column indents tokens admits) :
    s.settled.At rest column indents tokens admits :=
  ⟨h.rest, h.sized, h.column, h.indents, h.tokens, h.count, h.admits, .inl rfl⟩

/-- Block nodes that do not start behind a place stay open there. -/
theorem dedent_of_le (hflow : s.inFlow = false) (hopen : ∀ n ∈ s.indents, n ≤ column) :
    s.dedent (column + 1) = s := by
  have hclosed : s.indents.takeWhile (column + 1 ≤ ·) = [] := by
    cases hindents : s.indents with
    | nil => rfl
    | cons n ns =>
      have hn : ¬column + 1 ≤ n := Nat.not_le.2 (Nat.lt_succ_of_le (hopen n (hindents ▸ .head _)))
      exact List.takeWhile_cons_of_neg (by simpa using hn)
  simp only [Scan.dedent, hflow, hclosed, Bool.false_eq_true, if_false, List.length_nil,
    List.drop_zero, List.replicate_zero, List.nil_append, Nat.add_zero]

theorem At.dedent (h : s.At rest column indents tokens admits) (hopen : ∀ n ∈ indents, n ≤ column) :
    s.dedent (column + 1) = s := dedent_of_le h.inFlow (h.indents ▸ hopen)

/-- Block nodes that start behind a place are closed before anything else. -/
theorem At.close {inner outer : List Nat} (h : s.At rest column (inner ++ outer) tokens admits)
    (hstart : Start rest) (hinner : ∀ n ∈ inner, column < n) :
    ∃ s', s'.At rest column outer (List.replicate inner.length .blockEnd ++ tokens) admits ∧
      Reaches s s' := by
  obtain ⟨s', hs'⟩ : ∃ s' : Scan, s' = { s with
      indents := outer
      tokens := List.replicate inner.length .blockEnd ++ tokens
      count := s.count + inner.length } := ⟨_, rfl⟩
  have h' : s'.At rest column outer (List.replicate inner.length .blockEnd ++ tokens) admits := by
    subst hs'
    exact ⟨h.rest, h.sized, h.column, rfl, rfl, by simp [h.count, Nat.add_comm], h.admits, h.candidate⟩
  refine ⟨s', h', fun fuel hfuel => ⟨fuel, by simpa [hs'] using hfuel, ?_⟩⟩
  cases fuel with
  | zero => rfl
  | succ fuel =>
    have htake : (inner ++ outer).takeWhile (column + 1 ≤ ·) =
        inner ++ outer.takeWhile (column + 1 ≤ ·) :=
      List.takeWhile_append_of_pos fun n hn => decide_eq_true (hinner n hn)
    have hdedent : s.settled.dedent (column + 1) = s'.settled.dedent (column + 1) := by
      rw [Scan.dedent, Scan.dedent, h.settled.inFlow, h'.settled.inFlow]
      subst hs'
      have hdrop (n : Nat) : (inner ++ outer).drop (n + inner.length) = outer.drop n := by
        rw [Nat.add_comm, ← List.drop_drop, List.drop_left]
      simp only [Scan.settled, h.indents, h.tokens, htake, List.length_append, Bool.false_eq_true,
        if_false, Nat.add_comm inner.length, Nat.add_assoc, hdrop, ← List.append_assoc,
        List.replicate_append_replicate]
    rw [h.run hstart, h'.run hstart, hdedent]

/-- A round that finds a token goes on behind it. -/
theorem reaches_of_next {s₀ : Scan} {c : Char} (hstart : Start s.place.rest)
    (hexpire : s.expire = some s₀) (hopen : s₀.dedent (s₀.place.column + 1) = s₀)
    (hrest : s₀.place.rest = c :: rest) (hnext : s₀.next c rest = some s')
    (hlength : s'.place.rest.length < s.place.rest.length) : Reaches s s' := by
  intro fuel hfuel
  obtain ⟨fuel, rfl⟩ := Nat.exists_eq_succ_of_ne_zero (Nat.ne_of_gt (Nat.zero_lt_of_lt hfuel))
  refine ⟨fuel, by omega, ?_⟩
  rw [Scan.run, skipGap_start hstart, hexpire]
  simp only [Option.bind_eq_bind, Option.bind_some, hopen, hrest, hnext]

theorem At.reaches_of_next {c : Char} (h : s.At (c :: rest) column indents tokens admits)
    (hopen : ∀ n ∈ indents, n ≤ column) (hstart : Start (c :: rest))
    (hnext : s.settled.next c rest = some s') (hlength : s'.place.rest.length ≤ rest.length) :
    Reaches s s' := by
  refine Scan.reaches_of_next (h.rest ▸ hstart) h.expire ?_ h.settled.rest hnext ?_
  · rw [h.settled.column]
    exact h.settled.dedent hopen
  · rw [h.rest]
    exact Nat.lt_succ_of_le hlength

theorem dropCandidate_settled (s : Scan) : s.settled.dropCandidate = some s.settled := rfl

/-- A dash in the column of the innermost table, with something behind it. -/
theorem At.dash {outer : List Nat}
    (h : s.At ('-' :: ' ' :: rest) column (column :: outer) tokens true)
    (hopen : ∀ n ∈ outer, n ≤ column) (hstart : Start rest) :
    ∃ s', s'.At rest (column + 2) (column :: outer) (.dash :: tokens) true ∧ Reaches s s' := by
  have hdash : Start ('-' :: ' ' :: rest) := by
    simp [Start, isBlank, isBreak, byteOrderMark]
  have hmarker : s.settled.place.isAtMarker '-' = false ∧ s.settled.place.isAtMarker '.' = false := by
    simp [Place.isAtMarker, Scan.settled, h.rest, List.isPrefixOf]
  have hleast : ¬s.settled.least ≤ s.settled.place.column := by
    simp [Scan.least, Scan.settled, h.indents, h.column]
  obtain ⟨s₁, hs₁⟩ : ∃ s₁ : Scan,
      s₁ = { s.settled with admitsKey := true }.moved (s.place.skip 1) .dash := ⟨_, rfl⟩
  have hnext : s.settled.next '-' (' ' :: rest) = some s₁ := by
    have hadmits : s.settled.admitsKey = true := h.admits
    have hbegin : s.settled.next '-' (' ' :: rest) = s.settled.begin .blockList .dash true := by
      simp [Scan.next, hmarker, blankNext, isBlank]
    subst hs₁
    simp only [hbegin, Scan.begin, hadmits, Scan.indent, hleast, dropCandidate_settled, decide_false,
      Bool.and_false, Bool.not_true, Bool.false_eq_true, if_false]
    rfl
  have h₁ : s₁.At (' ' :: rest) (column + 1) (column :: outer) (.dash :: tokens) true := by
    subst hs₁
    exact ⟨by simp [Scan.moved, Scan.add, Place.skip, h.rest], h.sized.skip 1,
      congrArg (· + 1) h.column, h.indents, congrArg (_ :: ·) h.tokens, congrArg (· + 1) h.count,
      rfl, .inl rfl⟩
  obtain ⟨s₂, h₂, hreaches⟩ := h₁.blank hstart
  have hinside : ∀ m ∈ column :: outer, m ≤ column :=
    List.forall_mem_cons.2 ⟨Nat.le_refl column, hopen⟩
  refine ⟨s₂, h₂, (h.reaches_of_next hinside hdash hnext ?_).trans hreaches⟩
  exact Nat.le_of_eq (congrArg List.length h₁.rest)

/-! ### Scalars without quotes -/

end Scan

/-- A text that is a scalar without quotes wherever it stands: it neither starts with an indicator nor
looks like the start or the end of a document. -/
structure IsPlain (w : List Char) : Prop where
  phrase : Bare.Phrase w
  start : ∀ c rest, w = c :: rest → isIndicator c = false ∧ c ≠ byteOrderMark ∧
    (c = '-' ∨ c = '?' ∨ c = ':' → blankNext rest = false)
  marker : ¬['-', '-', '-'] <+: w ∧ ¬['.', '.', '.'] <+: w
  allowed : ∀ c ∈ w, isAllowed c

theorem Place.isAtMarker_eq_false {p : Place} {c : Char} {w cs : List Char} (hrest : p.rest = w ++ cs)
    (hmarker : ¬[c, c, c] <+: w) (hcs : ∀ d ∈ cs.head?, d ≠ c) : p.isAtMarker c = false := by
  have hprefix : [c, c, c].isPrefixOf (w ++ cs) = false := by
    cases cs with
    | nil => simpa [Bool.eq_false_iff] using hmarker
    | cons d tail =>
      have hd : c ≠ d := Ne.symm (hcs d rfl)
      match w with
      | [] => simp [List.isPrefixOf, hd]
      | [a] => simp [List.isPrefixOf, hd]
      | [a, b] => simp [List.isPrefixOf, hd]
      | a :: b :: d :: w => simpa [List.isPrefixOf, List.cons_prefix_cons] using hmarker
  simp [Place.isAtMarker, hrest, hprefix]

/-- No character takes more than four bytes. -/
theorem Place.index_skip_le (p : Place) (n : Nat) : (p.skip n).index ≤ p.index + 4 * n := by
  have hbytes (cs : List Char) (index : Nat) :
      cs.foldl (fun index c => index + c.utf8Size) index ≤ index + 4 * cs.length := by
    induction cs generalizing index with
    | nil => exact Nat.le_refl _
    | cons c cs ih =>
      have hc := c.utf8Size_le_four
      have := ih (index + c.utf8Size)
      rw [List.foldl_cons, List.length_cons]
      omega
  have htake := hbytes (p.rest.take n) p.index
  rw [List.length_take] at htake
  exact Nat.le_trans htake (by omega)

theorem IsPlain.notAtDocument {w rest : List Char} (hw : IsPlain w) {p : Place}
    (hrest : p.rest = w ++ rest)
    (hrest' : ∀ d ∈ rest.head?, d ≠ '-' ∧ d ≠ '.') :
    p.isAtMarker '-' = false ∧ p.isAtMarker '.' = false :=
  ⟨Place.isAtMarker_eq_false hrest hw.marker.1 fun d hd => (hrest' d hd).1,
    Place.isAtMarker_eq_false hrest hw.marker.2 fun d hd => (hrest' d hd).2⟩

namespace Scan

variable {s s' : Scan} {rest w : List Char} {column : Nat} {indents : List Nat} {tokens : List Token}
  {admits : Bool}

/-- What starts like a scalar without quotes is read as one. -/
theorem next_bare (hflow : s.inFlow = false) {c : Char} (hrest : s.place.rest = c :: rest)
    (hmarker : s.place.isAtMarker '-' = false ∧ s.place.isAtMarker '.' = false)
    (hindicator : isIndicator c = false) (hsolid : isBlank c = false ∧ isBreak c = false)
    (hsign : c = '-' ∨ c = '?' ∨ c = ':' → blankNext rest = false) : s.next c rest = s.bare := by
  have hblank : rest.head?.any isBlank = true → blankNext rest = true := by
    cases rest <;> simp +contextual [blankNext]
  have hstarts : Bare.startsWith false (c :: rest) = true := by
    unfold Bare.startsWith
    split
    · simp_all
    · simp_all
    · simp_all
    · simp_all
    · simp_all
  have hother : ∀ d, isIndicator d = true → c ≠ d := by
    rintro d hd rfl
    simp [hd] at hindicator
  have hne (d : Char) (hd : isIndicator d = true) : (c = d) = False := eq_false (hother d hd)
  have hdash : ¬(c = '-' ∧ blankNext rest = true) := fun h => by simp [hsign (.inl h.1)] at h
  have hquestion : ¬(c = '?' ∧ blankNext rest = true) := fun h => by simp [hsign (.inr (.inl h.1))] at h
  have hcolon : ¬(c = ':' ∧ blankNext rest = true) := fun h => by simp [hsign (.inr (.inr h.1))] at h
  simp [Scan.next, hmarker, hflow, hstarts, hdash, hquestion, hcolon, hne '%' (by decide),
    hne '[' (by decide), hne '\x7b' (by decide), hne ']' (by decide), hne '\x7d' (by decide),
    hne ',' (by decide), hne '*' (by decide), hne '&' (by decide), hne '!' (by decide),
    hne '|' (by decide), hne '>' (by decide), hne '\'' (by decide), hne '\"' (by decide)]

/-- The node that starts here, if it may become a key. -/
def candidate (s : Scan) : Option Candidate :=
  if s.admitsKey then
    some { number := s.count, index := s.place.index, line := s.place.line, column := s.place.column
           isRequired := s.indents.head? = some s.place.column }
  else none

/-- What is known where a plain text starts, whatever comes behind it. -/
theorem exists_of_isPlain (hw : IsPlain w) (rest : List Char) : ∃ c w', w = c :: w' ∧
    Start (w ++ rest) ∧ isIndicator c = false ∧ (isBlank c = false ∧ isBreak c = false) ∧
      (c = '-' ∨ c = '?' ∨ c = ':' → blankNext (w' ++ rest) = false) := by
  obtain ⟨c, w', rfl⟩ := List.exists_cons_of_ne_nil hw.phrase.ne_nil
  obtain ⟨hindicator, hmark, hsign⟩ := hw.start c w' rfl
  have hcontent : Content (c :: w' ++ rest) := Bare.content_of_phrase hw.phrase
  have hsolid := hcontent c rfl
  refine ⟨c, w', rfl, fun d hd => ?_, hindicator, hsolid, fun hc => ?_⟩
  · obtain rfl : c = d := Option.some.inj hd
    refine ⟨hsolid, ?_, hmark⟩
    rintro rfl
    exact absurd hindicator (by decide)
  · have hblank := hsign hc
    cases w' <;> simp_all [blankNext]

theorem start_of_isPlain (hw : IsPlain w) (rest : List Char) : Start (w ++ rest) :=
  let ⟨_, _, _, hstart, _⟩ := exists_of_isPlain hw rest
  hstart

/-- A scalar without quotes, as a token. -/
theorem bare_settled {r : Bare.Reading} (hread : Bare.read? false s.least s.place = some r) :
    s.settled.bare = some ({ s with candidates := [s.candidate], admitsKey := r.endsLine }.moved r.place
      (.scalar (.plain r.text))) := by
  have hadd : s.settled.addCandidate = some { s with candidates := [s.candidate] } := by
    unfold addCandidate candidate
    cases hadmits : s.admitsKey
    · simp [Scan.settled, hadmits]
    · simp [Scan.settled, hadmits, dropCandidate, Scan.inFlow]
  have hflow : Scan.inFlow { s with candidates := [s.candidate] } = false := rfl
  have hleast : Scan.least { s with candidates := [s.candidate] } = s.least := rfl
  simp only [Scan.bare, hadd, Option.bind_eq_bind, Option.bind_some, hflow, hleast, hread]

variable {k n : Nat} {outer : List Nat}

/-- A scalar at the end of its line, with something on a line below that is no part of it. -/
theorem At.scalar (hw : IsPlain w)
    (h : s.At (w ++ '\n' :: (List.replicate n ' ' ++ rest)) column (k :: outer) tokens admits)
    (hinside : ∀ m ∈ k :: outer, m < column) (hstart : Start rest) (hn : n ≤ k) :
    ∃ s', s'.At rest n (k :: outer) (.scalar (.plain (String.ofList w)) :: tokens) true ∧
      Reaches s s' := by
  have hmarker := hw.notAtDocument h.rest (by simp)
  have hread : Bare.read? false s.least s.place =
      some ⟨String.ofList w, true, (s.place.skip w.length).below n⟩ := by
    have hleast : s.least = k + 1 := by simp [Scan.least, h.indents]
    have hk := hinside k (.head _)
    refine Bare.read?_line hw.phrase h.sized h.rest hstart.content
      (by simp [Place.isAtDocument, hmarker]) ?_ ?_
    · rw [hleast, h.column]
      omega
    · omega
  have hrest : ((s.place.skip w.length).below n).rest = rest := by
    simp [Place.below, Place.skip, Place.descend, h.rest]
  obtain ⟨c, w', rfl, hstart', hindicator, hsolid, hsign⟩ := exists_of_isPlain hw
    ('\n' :: (List.replicate n ' ' ++ rest))
  have hnext := (next_bare (s := s.settled) rfl h.rest hmarker hindicator hsolid hsign).trans
    (bare_settled hread)
  obtain ⟨s₁, hs₁⟩ : ∃ s₁ : Scan, s₁ = { s with
      candidates := [s.candidate], admitsKey := true }.moved ((s.place.skip (c :: w').length).below n)
        (.scalar (.plain (String.ofList (c :: w')))) := ⟨_, rfl⟩
  have h₁ : s₁.At rest n (k :: outer) (.scalar (.plain (String.ofList (c :: w'))) :: tokens) true := by
    subst hs₁
    refine ⟨hrest, ((h.sized.skip _).descend 1).skip n, Nat.zero_add n, h.indents,
      congrArg (_ :: ·) h.tokens, congrArg (· + 1) h.count, rfl, ?_⟩
    cases hadmits : s.admitsKey
    · exact .inl (by simp [Scan.moved, Scan.add, Scan.candidate, hadmits])
    · refine .inr ⟨_, by simp [Scan.moved, Scan.add, Scan.candidate, hadmits]; rfl, ?_, ?_⟩
      · simp [h.indents, h.column, Nat.ne_of_lt (hinside k (.head _))]
      · simp [Scan.moved, Scan.add, Place.below, Place.skip, Place.descend]
  refine ⟨s₁, h₁, h.reaches_of_next (fun m hm => Nat.le_of_lt (hinside m hm)) hstart'
    (hs₁ ▸ hnext) ?_⟩
  rw [h₁.rest]
  simp
  omega

/-! ### Keys -/

/-- The block nodes that are open behind a key in a column, and the token that opens one: a table in
that column is opened unless the innermost one stands there. -/
inductive Opens (column : Nat) : List Nat → List Nat → List Token → Prop
  | new {ns : List Nat} : (∀ n ∈ ns, n < column) → Opens column ns (column :: ns) [.blockTable]
  | old {ns : List Nat} : (∀ n ∈ ns, n < column) → Opens column (column :: ns) (column :: ns) []

theorem Opens.le {indents indents' : List Nat} {opened : List Token}
    (h : Opens column indents indents' opened) : ∀ n ∈ indents, n ≤ column := by
  cases h with
  | new hopen => exact fun n hn => Nat.le_of_lt (hopen n hn)
  | old hopen => exact List.forall_mem_cons.2 ⟨Nat.le_refl _, fun n hn => Nat.le_of_lt (hopen n hn)⟩

theorem indent_of_lt (hflow : s.inFlow = false) (hopen : ∀ n ∈ s.indents, n < column) (number : Nat)
    (t : Token) :
    s.indent column number t = { s with indents := column :: s.indents }.insert number t := by
  have hleast : s.least ≤ column := by
    unfold least
    cases hindents : s.indents with
    | nil => exact Nat.zero_le _
    | cons n ns => exact hopen n (hindents ▸ .head _)
  simp [indent, hflow, hleast]

theorem indent_head {ns : List Nat} (hindents : s.indents = column :: ns) (number : Nat) (t : Token) :
    s.indent column number t = s := by
  have hleast : ¬s.least ≤ column := by simp [least, hindents]
  simp [indent, hleast]

/-- A colon makes a key of the scalar in front of it. -/
theorem colon_scalar {c : Candidate} {t : Token} {indents' : List Nat} {opened : List Token}
    (hcandidates : s.candidates = [some c]) (htokens : s.tokens = t :: tokens)
    (hcount : s.count = tokens.length + 1) (hnumber : c.number = tokens.length)
    (hopens : Opens c.column s.indents indents' opened) :
    s.colon = some ({ s with
      tokens := t :: .key :: (opened ++ tokens), count := (opened ++ tokens).length + 2
      indents := indents', candidates := [none], admitsKey := false }.moved (s.place.skip 1) .value) := by
  have hinsert : s.insert c.number .key =
      { s with tokens := t :: .key :: tokens, count := tokens.length + 2 } := by
    simp [Scan.insert, htokens, hcount, hnumber]
  have hindent : (s.insert c.number .key).indent c.column c.number .blockTable = { s with
      tokens := t :: .key :: (opened ++ tokens), count := (opened ++ tokens).length + 2
      indents := indents' } := by
    rw [hinsert]
    obtain ⟨ns, hns⟩ : ∃ ns, s.indents = ns := ⟨_, rfl⟩
    rw [hns] at hopens
    cases hopens with
    | new hopen =>
      have hbehind : tokens.length + 2 - c.number = 2 := by omega
      rw [indent_of_lt (by simp [Scan.inFlow, hcandidates]) (by simpa [hns] using hopen)]
      simp [Scan.insert, hbehind, hns]
    | old hopen =>
      refine (indent_head (by exact hns) _ _).trans ?_
      simp [hns]
  simp only [Scan.colon, hcandidates, hindent]

/-- The scan behind a text that waits for its colon. -/
def behind (s : Scan) (w : List Char) : Scan :=
  { s with candidates := [s.candidate], admitsKey := false }.moved (s.place.skip w.length)
    (.scalar (.plain (String.ofList w)))

theorem behind_rest (hrest : s.place.rest = w ++ rest) : (s.behind w).place.rest = rest := by
  simp [behind, moved, add, Place.skip, hrest]

theorem start_colon (rest : List Char) : Start (':' :: rest) := by
  simp [Start, isBlank, isBreak, byteOrderMark]

/-- Up to its colon, a text is read as any scalar. -/
theorem At.reaches_behind {indents' : List Nat} {opened : List Token} (hw : IsPlain w)
    (h : s.At (w ++ ':' :: rest) column indents tokens true)
    (hopens : Opens column indents indents' opened) (hblank : blankNext rest) :
    Reaches s (s.behind w) := by
  have hmarker := hw.notAtDocument h.rest (by simp)
  have hleast : s.least ≤ s.place.column + 1 := by
    unfold least
    rw [h.column]
    cases hindents : s.indents with
    | nil => exact Nat.zero_le _
    | cons n ns => exact Nat.succ_le_succ (hopens.le n (by rw [← h.indents, hindents]; exact .head _))
  have hread := Bare.read?_key hw.phrase h.sized h.rest hblank (by simp [Place.isAtDocument, hmarker])
    hleast
  have hrest := behind_rest h.rest
  obtain ⟨c, w', rfl, hstart, hindicator, hsolid, hsign⟩ := exists_of_isPlain hw (':' :: rest)
  have hnext : s.settled.next c (w' ++ ':' :: rest) = some (s.behind (c :: w')) :=
    (next_bare (s := s.settled) rfl h.rest hmarker hindicator hsolid hsign).trans (bare_settled hread)
  exact h.reaches_of_next hopens.le hstart hnext (by simp [hrest])

/-- A candidate on the line is kept as long as no more than 1024 bytes are passed. -/
theorem expire_eq {c : Candidate} (hcandidates : s.candidates = [some c])
    (hline : s.place.line ≤ c.line) (hindex : s.place.index ≤ c.index + 1024) :
    s.expire = some s := by
  have hkept : (decide (c.line < s.place.line) || decide (c.index + 1024 < s.place.index)) = false := by
    simp only [Bool.or_eq_false_iff, decide_eq_false_iff_not]
    omega
  simp only [Scan.expire, hcandidates, List.mapM_cons, List.mapM_nil, hkept, Bool.not_false, if_true]
  change some { s with candidates := [some c] } = _
  rw [← hcandidates]

theorem next_colon (hrest : s.place.rest = ':' :: rest) (hblank : blankNext rest) :
    s.next ':' rest = s.colon := by
  have hmarker : s.place.isAtMarker '-' = false ∧ s.place.isAtMarker '.' = false := by
    simp [Place.isAtMarker, hrest, List.isPrefixOf]
  simp [Scan.next, hmarker, hblank]

/-- A key with its colon. Up to the colon no more than 1024 bytes are passed. -/
theorem At.key {indents' : List Nat} {opened : List Token} (hw : IsPlain w) (hlength : w.length ≤ 256)
    (h : s.At (w ++ ':' :: rest) column indents tokens true)
    (hopens : Opens column indents indents' opened) (hblank : blankNext rest) :
    ∃ s', s'.At rest (column + w.length + 1) indents'
      (.value :: .scalar (.plain (String.ofList w)) :: .key :: (opened ++ tokens)) false ∧
      Reaches s s' := by
  have hrest := behind_rest h.rest
  have hcandidate : (s.behind w).candidates = [some {
      number := s.count, index := s.place.index, line := s.place.line, column := s.place.column
      isRequired := s.indents.head? = some s.place.column }] := by
    simp [behind, moved, add, Scan.candidate, h.admits]
  have hindex := s.place.index_skip_le w.length
  have hexpire : (s.behind w).expire = some (s.behind w) :=
    expire_eq hcandidate (Nat.le_refl _) (Nat.le_trans hindex (Nat.add_le_add_left (by omega) _))
  have hdedent : (s.behind w).dedent ((s.behind w).place.column + 1) = s.behind w := by
    refine dedent_of_le (by simp [Scan.inFlow, hcandidate]) fun n hn => ?_
    exact Nat.le_trans (hopens.le n (h.indents ▸ hn)) (h.column ▸ Nat.le_add_right _ _)
  have hopens' : Opens s.place.column (s.behind w).indents indents' opened := by
    rw [h.column, show (s.behind w).indents = indents from h.indents]
    exact hopens
  have hcolon := (next_colon hrest hblank).trans (colon_scalar hcandidate
    (congrArg (_ :: ·) h.tokens) (congrArg (· + 1) h.count) h.count hopens')
  refine ⟨_, ?_, (h.reaches_behind hw hopens hblank).trans (Scan.reaches_of_next
    (hrest ▸ start_colon rest) hexpire hdedent hrest hcolon ?_)⟩
  · refine ⟨by simp [moved, add, Place.skip, hrest], (h.sized.skip w.length).skip 1, ?_, rfl, rfl, ?_,
      rfl, .inl rfl⟩
    · simp [behind, moved, add, Place.skip, h.column]
    · simp [moved, add]
  · simp [moved, add, Place.skip, hrest]

/-! ### Empty lists, and the end -/

/-- Brackets with nothing inside. -/
theorem At.brackets (h : s.At ('[' :: ']' :: rest) column indents tokens false)
    (hopen : ∀ n ∈ indents, n ≤ column) :
    ∃ s', s'.At rest (column + 2) indents (.closeList :: .openList :: tokens) false ∧ Reaches s s' := by
  have hmarker (p : Place) (c : Char) (cs : List Char) (hc : c ≠ '-' ∧ c ≠ '.')
      (hrest : p.rest = c :: cs) : p.isAtMarker '-' = false ∧ p.isAtMarker '.' = false := by
    simp [Place.isAtMarker, hrest, List.isPrefixOf, hc.1.symm, hc.2.symm]
  obtain ⟨s₁, hs₁⟩ : ∃ s₁ : Scan, s₁ = { s.settled with
      candidates := [none, none], admitsKey := true }.moved (s.place.skip 1) .openList := ⟨_, rfl⟩
  have hrest₁ : s₁.place.rest = ']' :: rest := by simp [hs₁, moved, add, Place.skip, h.rest]
  have hopened : s.settled.next '[' (']' :: rest) = some s₁ := by
    have hadmits : s.settled.admitsKey = false := h.admits
    rw [hs₁]
    simp [Scan.next, hmarker s.settled.place '[' _ (by decide) h.rest, enter, addCandidate, hadmits]
    rfl
  have hexpire : s₁.expire = some s₁ := by simp [Scan.expire, hs₁, moved, add]
  have hdedent : s₁.dedent (s₁.place.column + 1) = s₁ := by
    simp [Scan.dedent, Scan.inFlow, hs₁, moved, add]
  obtain ⟨s₂, hs₂⟩ : ∃ s₂ : Scan, s₂ = { s₁ with
      candidates := [none], admitsKey := false }.moved (s₁.place.skip 1) .closeList := ⟨_, rfl⟩
  have hclosed : s₁.next ']' rest = some s₂ := by
    have hcandidates : s₁.candidates = [none, none] := by rw [hs₁]; rfl
    rw [hs₂]
    simp [Scan.next, hmarker s₁.place ']' _ (by decide) hrest₁, Scan.exit, dropCandidate,
      Scan.inFlow, hcandidates]
  have hstart (c : Char) (cs : List Char) (hc : c = '[' ∨ c = ']') : Start (c :: cs) := by
    rcases hc with rfl | rfl <;> simp [Start, isBlank, isBreak, byteOrderMark]
  refine ⟨s₂, ⟨?_, ?_, ?_, ?_, ?_, ?_, ?_, ?_⟩, (h.reaches_of_next hopen (hstart _ _ (.inl rfl)) hopened
    ?_).trans (Scan.reaches_of_next (hrest₁ ▸ hstart _ _ (.inr rfl)) hexpire hdedent hrest₁ hclosed ?_)⟩
  · simp [hs₂, moved, add, Place.skip, hrest₁]
  · rw [hs₂, hs₁]
    exact (h.sized.skip 1).skip 1
  · rw [hs₂, hs₁]
    exact congrArg (· + 1 + 1) h.column
  · rw [hs₂, hs₁]
    exact h.indents
  · rw [hs₂, hs₁]
    exact congrArg (_ :: _ :: ·) h.tokens
  · rw [hs₂, hs₁]
    exact congrArg (· + 1 + 1) h.count
  · rw [hs₂]
    rfl
  · rw [hs₂]
    exact .inl rfl
  · rw [hrest₁]
  · rw [hs₂]
    simp [moved, add, Place.skip, hrest₁]

/-- At the end all block nodes are closed. -/
theorem At.finish (h : s.At [] column indents tokens admits) (hopen : ∀ n ∈ indents, n ≤ column)
    (fuel : Nat) : Scan.run (fuel + 1) s =
      some (tokens.reverse ++ List.replicate indents.length .blockEnd) := by
  have hround : s.settled.round fuel = s.settled.leave.map fun s => s.tokens.reverse := by
    rw [round, show s.settled.place.rest = [] from h.rest]
  have hdedent : s.settled.dedent 0 = { s.settled with
      indents := []
      tokens := List.replicate indents.length .blockEnd ++ tokens
      count := s.count + indents.length } := by
    have hall : indents.takeWhile (0 ≤ ·) = indents := List.takeWhile_eq_self_iff.2 (by simp)
    rw [Scan.dedent, h.settled.inFlow, h.settled.indents, h.settled.tokens, hall]
    simp [Scan.settled]
  rw [h.run (by simp [Start]), h.settled.dedent hopen, hround, leave, hdedent]
  simp [dropCandidate, Scan.settled]

end Scan

end VmMonitor.Yaml
