import VmMonitor.Text.Similarity

/-!
# Command lines

A grammar says which options, operands and commands there are; reading goes through the arguments
once. An option is a word behind two dashes or a letter behind one, and its value stands in the same
argument or in the next one, where it must not look like an option. Every option is given at most
once. Behind a lone `--` all arguments are operands.

A value is read when the next option or operand is met, so an unknown option is reported before the
malformed value in front of it.
-/

namespace VmMonitor.CommandLine

/-- Why arguments are no command line; two of the reasons only ask for a text. -/
inductive UsageFault
  | unknownArgument
  | valueValidation
  | invalidValue
  | argumentConflict
  | tooManyValues
  | invalidCommand
  | helpWanted
  | versionWanted (command : Option String)
  deriving DecidableEq, Repr

/-- The wording of a fault. -/
def UsageFault.message : UsageFault → String
  | unknownArgument => "There is no such argument"
  | valueValidation => "A value is malformed or out of range"
  | invalidValue => "A value is missing or not among the possible ones"
  | argumentConflict => "An argument was given twice, or together with one that excludes it"
  | tooManyValues => "An option has no value but one was given"
  | invalidCommand => "There is no such command"
  | helpWanted => "Help was asked for"
  | versionWanted _ => "The version was asked for"

/-- How a text is taken into a result. -/
abbrev Taking (α : Type) := String → α → Except UsageFault α

/-- What an option does. -/
inductive Effect (α : Type)
  | switch (turnOn : α → α)
  | value (take : Taking α)
  | help
  | version

/-- An option with its words and its letter. -/
structure Opt (α : Type) where
  word : String
  otherWord : Option String := none
  letter : Option Char := none
  effect : Effect α

/-- Options, the one operand and the commands. -/
structure Grammar (α : Type) where
  /-- The command whose arguments these are. -/
  command : Option String := none
  options : List (Opt α)
  operand : Option (Taking α) := none
  commands : List String := []

namespace Grammar

variable {α : Type}

/-- The options that every command has. -/
def common : List (Opt α) :=
  [{ word := "help", letter := some 'h', effect := .help },
    { word := "version", letter := some 'V', effect := .version }]

def byWord? (g : Grammar α) (word : String) : Option (Opt α) :=
  (g.options ++ common).find? fun o => o.word = word || o.otherWord = some word

def byLetter? (g : Grammar α) (letter : Char) : Option (Opt α) :=
  (g.options ++ common).find? fun o => o.letter = some letter

/-- All commands; where there is one, there is also one for help. -/
def allCommands (g : Grammar α) : List String :=
  if g.commands.isEmpty then [] else "help" :: g.commands

/-- Whether a word is no command but similar to one. -/
def resemblesCommand (g : Grammar α) (word : String) : Bool :=
  !g.allCommands.contains word
    && g.allCommands.any fun c => 0.7 < similarity word.toList c.toList

end Grammar

/-- What was met but not taken in: an option or an operand, with its value if that was met too. -/
structure Pending (α : Type) where
  name : String
  take : Taking α
  value : Option String

/-- How far reading went. -/
structure Progress (α : Type) where
  result : α
  /-- The options and operands that were taken in. -/
  given : List String := []
  pending : Option (Pending α) := none
  operandMet : Bool := false
  /-- Whether all further arguments are operands. -/
  literal : Bool := false

namespace Progress

variable {α : Type}

/-- Whether an option waits for its value. -/
def isWaiting (p : Progress α) : Bool := p.pending.any fun q => q.value.isNone

/-- Takes a change in under a name, once. -/
def takeOnce (name : String) (change : α → Except UsageFault α) (p : Progress α) :
    Except UsageFault (Progress α) :=
  if p.given.contains name then .error .argumentConflict
  else do
    let result ← change p.result
    return { p with result, given := name :: p.given }

/-- Takes in what is pending. -/
def settle (p : Progress α) : Except UsageFault (Progress α) :=
  match p.pending with
  | none => .ok p
  | some q =>
    match q.value with
    | none => .error .invalidValue
    | some v => takeOnce q.name (q.take v) { p with pending := none }

/-- An option, perhaps with a value in the same argument. -/
def meet (g : Grammar α) (o : Opt α) (attached : Option String) (p : Progress α) :
    Except UsageFault (Progress α) :=
  match o.effect, attached with
  | .value take, some v => do takeOnce o.word (take v) (← p.settle)
  | .value take, none => do
    return { ← p.settle with pending := some ⟨o.word, take, none⟩ }
  | _, some _ => .error .tooManyValues
  | .switch turnOn, none => do takeOnce o.word (fun a => .ok (turnOn a)) (← p.settle)
  | .help, none => do
    let _ ← p.settle
    throw .helpWanted
  | .version, none => do
    let _ ← p.settle
    throw (.versionWanted g.command)

/-- Letters behind one dash. A letter whose option has a value takes all that follows it. -/
def meetLetters (g : Grammar α) : List Char → Progress α → Except UsageFault (Progress α)
  | [], p => .ok p
  | c :: cs, p =>
    match g.byLetter? c with
    | none => .error .unknownArgument
    | some o =>
      match o.effect, cs with
      | .value _, [] => p.meet g o none
      | .value _, '=' :: v => p.meet g o (some (String.ofList v))
      | .value _, v => p.meet g o (some (String.ofList v))
      | _, cs => do meetLetters g cs (← p.meet g o none)

/-- A word behind two dashes, with what follows an equals sign in it. -/
def meetWord (g : Grammar α) (cs : List Char) (p : Progress α) : Except UsageFault (Progress α) :=
  let word := cs.takeWhile (· ≠ '=')
  let attached := match cs.dropWhile (· ≠ '=') with
    | _ :: v => some (String.ofList v)
    | [] => none
  match g.byWord? (String.ofList word) with
  | some o => p.meet g o attached
  | none => .error .unknownArgument

/-- An operand; there is room for one. Another one may be meant as a command. -/
def meetOperand (g : Grammar α) (v : String) (p : Progress α) : Except UsageFault (Progress α) :=
  match g.operand with
  | none => .error .unknownArgument
  | some take =>
    if p.operandMet then .error (if g.resemblesCommand v then .invalidCommand else .unknownArgument)
    else do
      return { ← p.settle with pending := some ⟨"", take, some v⟩, operandMet := true }

end Progress

/-- A request for help on a command. -/
def helpOn (commands : List String) : List String → UsageFault
  | [] => .helpWanted
  | [c] => if commands.contains c then .helpWanted else .invalidCommand
  | _ => .invalidCommand

/-- Goes through the arguments, up to a command if there is one. -/
def walk {α : Type} (g : Grammar α) :
    List String → Progress α → Except UsageFault (Progress α × Option (String × List String))
  | [], p => .ok (p, none)
  | a :: rest, p =>
    if p.literal then do walk g rest (← p.meetOperand g a)
    else if !p.isWaiting && !g.commands.isEmpty && a = "help" then
      .error (helpOn g.allCommands rest)
    else if !p.isWaiting && g.commands.contains a then .ok (p, some (a, rest))
    else match a.toList with
      | ['-', '-'] => walk g rest { p with literal := true }
      | '-' :: '-' :: word => do walk g rest (← p.meetWord g word)
      | '-' :: c :: cs => do walk g rest (← p.meetLetters g (c :: cs))
      | _ =>
        match p.pending with
        | some ⟨name, take, none⟩ => walk g rest { p with pending := some ⟨name, take, some a⟩ }
        | _ => do walk g rest (← p.meetOperand g a)

end VmMonitor.CommandLine
