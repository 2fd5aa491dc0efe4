import Mathlib.Data.List.Basic
import VmMonitor.CommandLine.Grammar

/-!
# What a command line says

Which options and operands a command line mentions, and with which texts, depends on the words, letters
and dashes in it only, and not on what the texts mean. Reading a command line is to take in what it
mentions, in its order and each option at most once. So an option that sets one part of the result
determines this part alone, whatever else is mentioned before it or after it.

## What is proved

* `CommandLine.taken_walk` — **any command line** that is read is taken in mention by mention.
* `CommandLine.Taken.readings_eq` — a part of the result is what the mentions of its option say, of
  which there is one at most.
-/

namespace VmMonitor.CommandLine

/-- An option or an operand that is mentioned, with the text of its value. -/
structure Mention where
  word : String
  value : Option String
  deriving DecidableEq, Repr

/-- What stands for the word of an operand, which has none. -/
def operandWord : String := ""

/-! ### Mentions -/

/-- What an argument mentions, and the option whose value it leaves to the next one. -/
structure Said where
  mentions : List Mention := []
  waiting : Option String := none

section

variable {α : Type} (g : Grammar α)

/-- What is said by an option, perhaps with a value in the same argument. -/
def Opt.said (o : Opt α) (attached : Option String) : Said :=
  match o.effect, attached with
  | .value _, none => { waiting := some o.word }
  | .value _, some v => { mentions := [⟨o.word, some v⟩] }
  | _, _ => { mentions := [⟨o.word, none⟩] }

/-- The value behind a letter in the same argument. -/
def behindLetter : List Char → Option String
  | [] => none
  | '=' :: v => some (String.ofList v)
  | v => some (String.ofList v)

/-- What is said by letters behind one dash. -/
def saidByLetters : List Char → Said
  | [] => {}
  | c :: cs =>
    match g.byLetter? c with
    | none => {}
    | some o =>
      match o.effect with
      | .value _ => o.said (behindLetter cs)
      | _ =>
        let said := o.said none
        let further := saidByLetters cs
        ⟨said.mentions ++ further.mentions, further.waiting⟩

/-- What is said by a word behind two dashes. -/
def saidByWord (cs : List Char) : Said :=
  let attached := match cs.dropWhile (· ≠ '=') with
    | _ :: v => some (String.ofList v)
    | [] => none
  match g.byWord? (String.ofList (cs.takeWhile (· ≠ '='))) with
  | some o => o.said attached
  | none => {}

/-- What an argument looks like. -/
inductive Look
  /-- Two dashes, behind which all arguments are operands. -/
  | lastDashes
  | word (cs : List Char)
  | letters (c : Char) (cs : List Char)
  | plain

def lookOf (a : String) : Look :=
  match a.toList with
  | ['-', '-'] => .lastDashes
  | '-' :: '-' :: cs => .word cs
  | '-' :: c :: cs => .letters c cs
  | _ => .plain

/-- What arguments mention in front of a command, where an option may wait for its value, or all of
them may be operands. -/
def mentions : Option String → Bool → List String → List Mention
  | _, _, [] => []
  | waiting, literal, a :: rest =>
    if literal then ⟨operandWord, some a⟩ :: mentions none true rest
    else if waiting.isNone && g.commands.contains a then []
    else match lookOf a with
      | .lastDashes => mentions waiting true rest
      | .word cs =>
        let said := saidByWord g cs
        said.mentions ++ mentions said.waiting false rest
      | .letters c cs =>
        let said := saidByLetters g (c :: cs)
        said.mentions ++ mentions said.waiting false rest
      | .plain => ⟨waiting.getD operandWord, some a⟩ :: mentions none false rest

/-! ### Taking mentions in -/

theorem bind_eq_ok {ε β γ : Type} {x : Except ε β} {f : β → Except ε γ} {c : γ} :
    (x >>= f) = .ok c ↔ ∃ b, x = .ok b ∧ f b = .ok c := by
  cases x <;> simp [bind, Except.bind]

/-- A mention changes a result as the grammar says. -/
inductive Mention.Turns (a : α) : Mention → α → Prop
  | switch {o : Opt α} {turnOn : α → α} : o ∈ g.options → o.effect = .switch turnOn →
      Turns a ⟨o.word, none⟩ (turnOn a)
  | value {o : Opt α} {take : Taking α} {v : String} {b : α} : o ∈ g.options →
      o.effect = .value take → take v a = .ok b → Turns a ⟨o.word, some v⟩ b
  | operand {take : Taking α} {v : String} {b : α} : g.operand = some take → take v a = .ok b →
      Turns a ⟨operandWord, some v⟩ b

/-- Mentions are taken into a result one by one, none of a word that was given before. -/
inductive Taken : List Mention → α × List String → α × List String → Prop
  | nil (s : α × List String) : Taken [] s s
  | cons {m : Mention} {ms : List Mention} {a b : α} {given : List String} {s : α × List String} :
      m.word ∉ given → m.Turns g a b → Taken ms (b, m.word :: given) s → Taken (m :: ms) (a, given) s

variable {g}

theorem Taken.append {ms ms' : List Mention} {s s' s'' : α × List String} (h : Taken g ms s s')
    (h' : Taken g ms' s' s'') : Taken g (ms ++ ms') s s'' := by
  induction h with
  | nil s => exact h'
  | cons hnew hturns _ ih => exact .cons hnew hturns (ih h')

/-- What is pending is the value of an option or of the operand. -/
def Pending.Sound (g : Grammar α) (q : Pending α) : Prop :=
  (∃ o ∈ g.options, o.word = q.name ∧ o.effect = .value q.take) ∨
    q.name = operandWord ∧ g.operand = some q.take

namespace Progress

/-- The result so far, with what was given for it. -/
def account (p : Progress α) : α × List String := (p.result, p.given)

/-- The option that waits for its value. -/
def waiting? (p : Progress α) : Option String :=
  p.pending.bind fun q => if q.value.isNone then some q.name else none

/-- What was mentioned but not taken in. -/
def owed (p : Progress α) : List Mention :=
  match p.pending with
  | some ⟨name, _, some v⟩ => [⟨name, some v⟩]
  | _ => []

theorem isWaiting_eq (p : Progress α) : p.isWaiting = p.waiting?.isSome := by
  rcases p with ⟨_, _, _ | ⟨_, _, _ | _⟩, _, _⟩ <;> rfl

/-- What is pending will be taken in as the grammar says. -/
def Sound (g : Grammar α) (p : Progress α) : Prop := ∀ q ∈ p.pending, q.Sound g

/-- One step of reading, in which this is said: what was mentioned is taken in up to what is still
pending behind it. -/
structure Goes (g : Grammar α) (said : Said) (p p' : Progress α) : Prop where
  taken : ∃ ms, p.owed ++ said.mentions = ms ++ p'.owed ∧ Taken g ms p.account p'.account
  waiting : p'.waiting? = said.waiting
  sound : p'.Sound g
  literal : p'.literal = p.literal

variable {p p' p'' : Progress α} {o : Opt α} {v : String} {attached : Option String}

theorem takeOnce_eq_ok {name : String} {change : α → Except UsageFault α}
    (h : takeOnce name change p = .ok p') : name ∉ p.given ∧
      ∃ b, change p.result = .ok b ∧ p' = { p with result := b, given := name :: p.given } := by
  unfold takeOnce at h
  split_ifs at h with hgiven
  refine ⟨by simpa using hgiven, ?_⟩
  cases hchange : change p.result with
  | error e => rw [hchange] at h; cases h
  | ok b =>
    rw [hchange] at h
    cases h
    exact ⟨b, rfl, rfl⟩

/-- What is pending is taken in, unless it waits for its value. -/
theorem taken_settle (hp : p.Sound g) (h : p.settle = .ok p') :
    Taken g p.owed p.account p'.account ∧ p.waiting? = none ∧ p'.pending = none ∧
      p'.literal = p.literal := by
  rcases hpending : p.pending with _ | ⟨name, take, _ | v⟩
  · simp only [settle, hpending, Except.ok.injEq] at h
    subst h
    exact ⟨by simpa [owed, hpending] using .nil _, by simp [waiting?, hpending], hpending, rfl⟩
  · simp [settle, hpending] at h
  · simp only [settle, hpending] at h
    obtain ⟨hnew, b, htake, rfl⟩ := takeOnce_eq_ok h
    refine ⟨?_, by simp [waiting?, hpending], rfl, rfl⟩
    have hturns : Mention.Turns g p.result ⟨name, some v⟩ b := by
      rcases hp _ hpending with ⟨o, ho, rfl, heffect⟩ | ⟨hname, hoperand⟩
      · exact .value ho heffect htake
      · obtain rfl : name = operandWord := hname
        exact .operand hoperand htake
    simpa [owed, hpending, account] using Taken.cons hnew hturns (.nil _)

/-- After what was pending, a mention is taken in at once. -/
theorem goes_takeOnce (hp : p.Sound g) {change : α → Except UsageFault α} {m : Mention}
    (h : p.settle = .ok p') (htake : takeOnce m.word change p' = .ok p'')
    (hturns : ∀ b, change p'.result = .ok b → m.Turns g p'.result b) :
    Goes g { mentions := [m] } p p'' := by
  obtain ⟨htaken, -, hnone, hliteral⟩ := taken_settle hp h
  obtain ⟨hnew, b, hchange, rfl⟩ := takeOnce_eq_ok htake
  refine ⟨⟨p.owed ++ [m], by simp [owed, hnone], ?_⟩, by simp [waiting?, hnone],
    by simp [Sound, hnone], hliteral⟩
  exact htaken.append (.cons hnew (hturns b hchange) (.nil _))

/-- After what was pending, something else is pending. -/
theorem goes_pend (hp : p.Sound g) (h : p.settle = .ok p') {q : Pending α} (hq : q.Sound g)
    (met : Bool) :
    Goes g ⟨(q.value.map fun v => ⟨q.name, some v⟩).toList,
      if q.value.isNone then some q.name else none⟩ p
      { p' with pending := some q, operandMet := met } := by
  obtain ⟨htaken, -, -, hliteral⟩ := taken_settle hp h
  refine ⟨⟨p.owed, ?_, htaken⟩, rfl, by simpa [Sound] using hq, hliteral⟩
  rcases q with ⟨name, take, _ | v⟩ <;> simp [owed]

/-- An option that is not among those which every command has. -/
theorem mem_options (ho : o ∈ g.options ++ Grammar.common) (hhelp : o.effect ≠ .help)
    (hversion : o.effect ≠ .version) : o ∈ g.options := by
  rcases List.mem_append.1 ho with h | h
  · exact h
  · simp only [Grammar.common, List.mem_cons, List.not_mem_nil, or_false] at h
    rcases h with rfl | rfl
    · exact absurd rfl hhelp
    · exact absurd rfl hversion

theorem goes_meet (hp : p.Sound g) (ho : o ∈ g.options ++ Grammar.common)
    (h : p.meet g o attached = .ok p') : Goes g (o.said attached) p p' := by
  unfold meet at h
  split at h
  next take v heffect =>
    have ho := mem_options ho (by simp [heffect]) (by simp [heffect])
    obtain ⟨p₁, hsettle, h⟩ := bind_eq_ok.1 h
    simp only [Opt.said, heffect]
    exact goes_takeOnce hp hsettle h fun b hb => .value ho heffect hb
  next take heffect =>
    have ho := mem_options ho (by simp [heffect]) (by simp [heffect])
    obtain ⟨p₁, hsettle, h⟩ := bind_eq_ok.1 h
    cases h
    simp only [Opt.said, heffect]
    exact goes_pend hp hsettle (q := ⟨o.word, take, none⟩) (.inl ⟨o, ho, rfl, heffect⟩) _
  next => cases h
  next turnOn heffect =>
    have ho := mem_options ho (by simp [heffect]) (by simp [heffect])
    obtain ⟨p₁, hsettle, h⟩ := bind_eq_ok.1 h
    simp only [Opt.said, heffect]
    refine goes_takeOnce hp hsettle h fun b hb => ?_
    cases hb
    exact .switch ho heffect
  next =>
    obtain ⟨_, _, h⟩ := bind_eq_ok.1 h
    cases h
  next =>
    obtain ⟨_, _, h⟩ := bind_eq_ok.1 h
    cases h

/-- Two steps are one. -/
theorem Goes.trans {said said' : Said} (h : Goes g said p p') (h' : Goes g said' p' p'') :
    Goes g ⟨said.mentions ++ said'.mentions, said'.waiting⟩ p p'' := by
  obtain ⟨ms, hsplit, htaken⟩ := h.taken
  obtain ⟨ms', hsplit', htaken'⟩ := h'.taken
  refine ⟨⟨ms ++ ms', ?_, htaken.append htaken'⟩, h'.waiting, h'.sound, h'.literal.trans h.literal⟩
  rw [← List.append_assoc, hsplit, List.append_assoc, hsplit', List.append_assoc]

theorem meetLetters_of_value {take : Taking α} {c : Char} (hfind : g.byLetter? c = some o)
    (heffect : o.effect = .value take) (cs : List Char) :
    meetLetters g (c :: cs) p = p.meet g o (behindLetter cs) := by
  simp only [meetLetters, hfind, heffect]
  split <;> simp_all [behindLetter]

theorem meetLetters_of_not_value {c : Char} (hfind : g.byLetter? c = some o)
    (hnone : ∀ take, o.effect ≠ .value take) (cs : List Char) :
    meetLetters g (c :: cs) p = (do meetLetters g cs (← p.meet g o none)) := by
  simp only [meetLetters, hfind]
  cases heffect : o.effect with
  | value take => exact absurd heffect (hnone take)
  | switch | help | version => rfl

theorem waiting_said_of_not_value (hnone : ∀ take, o.effect ≠ .value take) :
    (o.said none).waiting = none := by
  cases heffect : o.effect with
  | value take => exact absurd heffect (hnone take)
  | switch | help | version => simp only [Opt.said, heffect]

theorem saidByLetters_of_not_value {c : Char} (hfind : g.byLetter? c = some o)
    (hnone : ∀ take, o.effect ≠ .value take) (cs : List Char) :
    saidByLetters g (c :: cs) = ⟨(o.said none).mentions ++ (saidByLetters g cs).mentions,
      (saidByLetters g cs).waiting⟩ := by
  simp only [saidByLetters, hfind]

/-- The letters behind one dash. Nobody waits where there are none; where there is one, this is met
first. -/
theorem goes_meetLetters {cs : List Char} (hp : p.Sound g) (h : meetLetters g cs p = .ok p')
    (hfree : cs = [] → p.waiting? = none) : Goes g (saidByLetters g cs) p p' := by
  induction cs generalizing p with
  | nil =>
    cases h
    exact ⟨⟨[], by simp [saidByLetters], .nil _⟩, hfree rfl, hp, rfl⟩
  | cons c cs ih =>
    cases hfind : g.byLetter? c with
    | none =>
      simp only [meetLetters, hfind] at h
      cases h
    | some o =>
      have ho : o ∈ g.options ++ Grammar.common := List.mem_of_find?_eq_some hfind
      by_cases hvalue : ∃ take, o.effect = .value take
      · obtain ⟨take, heffect⟩ := hvalue
        rw [meetLetters_of_value hfind heffect] at h
        simpa only [saidByLetters, hfind, heffect] using goes_meet hp ho h
      · have hnone (take : Taking α) : o.effect ≠ .value take := fun h => hvalue ⟨take, h⟩
        rw [meetLetters_of_not_value hfind hnone] at h
        obtain ⟨p₁, hmeet, hrest⟩ := bind_eq_ok.1 h
        have hgoes := goes_meet hp ho hmeet
        rw [saidByLetters_of_not_value hfind hnone]
        exact hgoes.trans (ih hgoes.sound hrest fun _ =>
          hgoes.waiting.trans (waiting_said_of_not_value hnone))

theorem goes_meetWord {cs : List Char} (hp : p.Sound g) (h : meetWord g cs p = .ok p') :
    Goes g (saidByWord g cs) p p' := by
  cases hfind : g.byWord? (String.ofList (cs.takeWhile (· ≠ '='))) with
  | none =>
    simp only [meetWord, hfind] at h
    cases h
  | some o =>
    simp only [meetWord, hfind] at h
    simp only [saidByWord, hfind]
    exact goes_meet hp (List.mem_of_find?_eq_some hfind) h

/-- An operand, for which nobody waits. -/
theorem goes_meetOperand (hp : p.Sound g) (h : meetOperand g v p = .ok p') : p.waiting? = none ∧
    Goes g { mentions := [⟨operandWord, some v⟩] } p p' := by
  unfold meetOperand at h
  split at h
  · cases h
  next take hoperand =>
    split_ifs at h
    obtain ⟨p₁, hsettle, h⟩ := bind_eq_ok.1 h
    cases h
    exact ⟨(taken_settle hp hsettle).2.1,
      goes_pend hp hsettle (q := ⟨operandWord, take, some v⟩) (.inr ⟨rfl, hoperand⟩) true⟩

/-- A plain argument: the value for which an option waits, or an operand. -/
def meetPlain (g : Grammar α) (v : String) (p : Progress α) : Except UsageFault (Progress α) :=
  match p.pending with
  | some ⟨name, take, none⟩ => .ok { p with pending := some ⟨name, take, some v⟩ }
  | _ => p.meetOperand g v

theorem goes_meetPlain (hp : p.Sound g) (h : meetPlain g v p = .ok p') :
    Goes g { mentions := [⟨p.waiting?.getD operandWord, some v⟩] } p p' := by
  unfold meetPlain at h
  split at h
  next name take hpending =>
    cases h
    have hsound : Pending.Sound g ⟨name, take, some v⟩ := hp ⟨name, take, none⟩ hpending
    exact ⟨⟨[], by simp [owed, waiting?, hpending], .nil _⟩, rfl, by simpa [Sound] using hsound, rfl⟩
  next =>
    obtain ⟨hfree, hgoes⟩ := goes_meetOperand hp h
    rwa [hfree]

/-- A step, and then the rest of the way. -/
theorem Goes.then {said : Said} {ms : List Mention} {s : α × List String} (h : Goes g said p p')
    (hrest : Taken g (p'.owed ++ ms) p'.account s) :
    Taken g (p.owed ++ (said.mentions ++ ms)) p.account s := by
  obtain ⟨ms', hsplit, htaken⟩ := h.taken
  rw [← List.append_assoc, hsplit, List.append_assoc]
  exact htaken.append hrest

end Progress

/-- An argument that is no command is read by what it looks like. -/
theorem walk_cons {a : String} {args : List String} {p : Progress α} (hliteral : p.literal = false)
    (hhelp : (p.waiting?.isNone && !g.commands.isEmpty && decide (a = "help")) = false)
    (hcommand : (p.waiting?.isNone && g.commands.contains a) = false) :
    walk g (a :: args) p =
      match lookOf a with
      | .lastDashes => walk g args { p with literal := true }
      | .word cs => p.meetWord g cs >>= walk g args
      | .letters c cs => p.meetLetters g (c :: cs) >>= walk g args
      | .plain => p.meetPlain g a >>= walk g args := by
  rw [← Option.not_isSome, ← p.isWaiting_eq] at hhelp hcommand
  simp only [walk, hliteral, hhelp, hcommand, lookOf, Bool.false_eq_true, if_false]
  generalize a.toList = cs
  -- With what is pending in sight, both sides are the same program for every first two characters.
  rcases p with ⟨result, given, _ | ⟨name, take, _ | v⟩, met, literal⟩
  all_goals
    obtain rfl : literal = false := hliteral
    rcases cs with _ | ⟨c, cs⟩
    · rfl
    by_cases hc : c = '-'
    · subst hc
      rcases cs with _ | ⟨c', cs⟩
      · rfl
      by_cases hc' : c' = '-'
      · subst hc'
        cases cs <;> rfl
      · simp only [hc', imp_false, IsEmpty.forall_iff]
    · simp only [List.cons.injEq, hc, false_and, imp_self, implies_true]
      rfl

/-- **Any command line** that is read is taken in mention by mention. -/
theorem taken_walk {args : List String} {p p' q : Progress α}
    {command : Option (String × List String)} (hp : p.Sound g)
    (hwalk : walk g args p = .ok (p', command)) (hsettle : p'.settle = .ok q) :
    Taken g (p.owed ++ mentions g p.waiting? p.literal args) p.account q.account := by
  -- The arguments that follow have to know who waits, and what is owed is in front of what they say.
  induction args generalizing p with
  | nil =>
    cases hwalk
    simpa [mentions] using (Progress.taken_settle hp hsettle).1
  | cons a rest ih =>
    have hstep {said : Said} {p₁ : Progress α} (hgoes : Progress.Goes g said p p₁)
        (hrest : walk g rest p₁ = .ok (p', command)) :
        Taken g (p.owed ++ (said.mentions ++ mentions g said.waiting p.literal rest)) p.account
          q.account := by
      have htaken := ih hgoes.sound hrest
      rw [hgoes.waiting, hgoes.literal] at htaken
      exact hgoes.then htaken
    have hcons := hwalk
    unfold walk at hwalk
    unfold mentions
    rw [p.isWaiting_eq, Option.not_isSome] at hwalk
    split_ifs at hwalk with hliteral hhelp hcommand
    · obtain ⟨p₁, hmeet, hrest⟩ := bind_eq_ok.1 hwalk
      simpa [hliteral] using hstep (Progress.goes_meetOperand hp hmeet).2 hrest
    · cases hwalk
      rw [if_neg hliteral, if_pos hcommand, List.append_nil]
      exact (Progress.taken_settle hp hsettle).1
    · clear hwalk
      rw [if_neg hliteral, if_neg hcommand]
      rw [Bool.not_eq_true] at hliteral hhelp hcommand
      rw [walk_cons hliteral hhelp hcommand] at hcons
      rw [hliteral] at hstep
      cases hlook : lookOf a with
      | lastDashes =>
        simp only [hlook] at hcons ⊢
        exact ih (p := { p with literal := true }) hp hcons
      | word cs =>
        simp only [hlook] at hcons ⊢
        obtain ⟨p₁, hmeet, hrest⟩ := bind_eq_ok.1 hcons
        exact hstep (Progress.goes_meetWord hp hmeet) hrest
      | letters c cs =>
        simp only [hlook] at hcons ⊢
        obtain ⟨p₁, hmeet, hrest⟩ := bind_eq_ok.1 hcons
        exact hstep (Progress.goes_meetLetters hp hmeet nofun) hrest
      | plain =>
        simp only [hlook] at hcons ⊢
        obtain ⟨p₁, hmeet, hrest⟩ := bind_eq_ok.1 hcons
        exact hstep (Progress.goes_meetPlain hp hmeet) hrest

/-! ### Parts of a result -/

/-- What the mentions of an option say. -/
def readings {β : Type} (ms : List Mention) (word : String) (read : Option String → Option β) :
    List (Option β) :=
  (ms.filter fun m => m.word = word).map fun m => read m.value

/-- A mention sets a part of a result to what it says if it has this word, and leaves it otherwise. -/
def Mention.Sets {β : Type} (word : String) (read : Option String → Option β) (part : α → Option β)
    (m : Mention) (a b : α) : Prop :=
  if m.word = word then ∃ x, read m.value = some x ∧ part b = some x else part b = part a

/-- A word that was given before is not mentioned again. -/
theorem Taken.not_mem_given {ms : List Mention} {s s' : α × List String} (h : Taken g ms s s')
    {m : Mention} (hm : m ∈ ms) : m.word ∉ s.2 := by
  induction h with
  | nil => cases hm
  | cons hnew _ _ ih =>
    rcases List.mem_cons.1 hm with rfl | hm
    · exact hnew
    · exact fun hgiven => ih hm (.tail _ hgiven)

section

variable {β : Type} {word : String} {read : Option String → Option β} {part : α → Option β}
  {ms : List Mention} {s s' : α × List String}

/-- What nobody mentions stays as it was. -/
theorem Taken.part_eq (hsets : ∀ m a b, Mention.Turns g a m b → m.Sets word read part a b)
    (h : Taken g ms s s') (hms : ∀ m ∈ ms, m.word ≠ word) : part s'.1 = part s.1 := by
  induction h with
  | nil => rfl
  | @cons m _ a b _ _ _ hturns _ ih =>
    have hset := hsets m a b hturns
    rw [Mention.Sets, if_neg (hms m (.head _))] at hset
    exact (ih fun m' hm' => hms m' (.tail _ hm')).trans hset

/-- A part of a result is what the mentions of its option say, of which there is one at most. -/
theorem Taken.readings_eq (hsets : ∀ m a b, Mention.Turns g a m b → m.Sets word read part a b)
    (h : Taken g ms s s') (hnone : part s.1 = none) :
    readings ms word read = (part s'.1).toList.map some := by
  induction h with
  | nil s => simp [readings, hnone]
  | @cons m ms a b given s' hnew hturns hrest ih =>
    have hset := hsets m a b hturns
    by_cases hword : m.word = word
    · subst hword
      rw [Mention.Sets, if_pos rfl] at hset
      obtain ⟨x, hread, hpart⟩ := hset
      have hothers (m' : Mention) (hm' : m' ∈ ms) : m'.word ≠ m.word :=
        fun heq => hrest.not_mem_given hm' (heq ▸ .head _)
      have hkept : part s'.1 = some x := (hrest.part_eq hsets hothers).trans hpart
      have hnil : ms.filter (fun m' => m'.word = m.word) = [] := by
        simpa [List.filter_eq_nil_iff] using hothers
      simp [readings, hnil, hread, hkept]
    · rw [Mention.Sets, if_neg hword] at hset
      have hrest := ih (hset.trans hnone)
      rwa [readings, List.filter_cons_of_neg (by simpa using hword)]

end

end

end VmMonitor.CommandLine
