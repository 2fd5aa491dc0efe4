import VmMonitor.CommandLine
import VmMonitor.Proofs.CommandLine.Mentions

/-!
# What the options say

Every option sets its own part of the arguments and no other, so each part is what the mentions of its
option say. That holds of the options of a command too, which end what is said to the program itself.

## What is proved

* `Arguments.parts_of_turns` — one mention.
* `Arguments.readings_of_read` — **any arguments** that are read.
-/

namespace VmMonitor

namespace Arguments

open CommandLine

/-! ### One mention -/

/-- A delay in seconds. -/
def readDelay (s : String) : Option Binary64 := (readFloat s).toOption.map Binary64.ofFloat

/-- A number of frames. -/
def readIterations : String → Option Int :=
  readBetween (-(twoTo 63 : Int)) ((twoTo 63 : Int) - 1)

/-- What a switch says, once it is turned on. -/
def saidBySwitch (meaning isOn : Bool) : Option Bool := if isOn then some meaning else none

theorem taking_eq_ok {α β : Type} {read : String → Option β} {fault : UsageFault} {set : β → α → α}
    {v : String} {a b : α} :
    taking read fault set v a = .ok b ↔ ∃ x, read v = some x ∧ set x a = b := by
  unfold taking
  cases read v <;> simp

/-- A mention sets the part of the arguments that is its own. -/
structure Parts (m : Mention) (a b : Arguments) : Prop where
  pidOperand : m.Sets operandWord (·.bind readNat32) Arguments.pidOperand a b
  pidOption : m.Sets "pid" (·.bind readNat32) Arguments.pidOption a b
  delay : m.Sets "delay" (·.bind readDelay) Arguments.delay a b
  iterations : m.Sets "iterations" (·.bind readIterations) Arguments.iterations a b
  stat : m.Sets "stat" (fun _ => some true) (fun a => saidBySwitch true a.stat) a b
  threadLimit : m.Sets "threadlimit" (·.bind readNat64) Arguments.threadLimit a b
  disableThreadLimit : m.Sets "disable-threadlimit" (fun _ => some false)
    (fun a => saidBySwitch false a.disableThreadLimit) a b
  threadNameWidth : m.Sets "threadnamewidth" (·.bind readNat64) Arguments.threadNameWidth a b
  scanInterval : m.Sets "scan-interval" (·.bind readNat32) Arguments.scanInterval a b
  sortBy : m.Sets "sort-by" (·.bind readOrder) Arguments.sortBy a b
  scenario : m.Sets "scenario" (·.bind readPath) Arguments.scenario a b
  logLevel : m.Sets "log-level" (·.bind LogLevel.ofName?) Arguments.logLevel a b
  verbose : m.Sets "verbose" (fun _ => some true) (fun a => saidBySwitch true a.verbose) a b
  config : m.Sets "config" (·.bind readPath) Arguments.config a b
  noConfig : m.Sets "no-config" (fun _ => some true) (fun a => saidBySwitch true a.noConfig) a b

/-- **One mention**: an option sets its own part and no other. -/
theorem parts_of_turns {m : Mention} {a b : Arguments} (h : Mention.Turns grammar a m b) :
    Parts m a b := by
  cases h with
  | operand hoperand htake =>
    simp only [grammar, Option.some.injEq] at hoperand
    subst hoperand
    obtain ⟨x, hread, rfl⟩ := taking_eq_ok.1 htake
    constructor <;> simp [Mention.Sets, operandWord, hread]
  | switch ho heffect =>
    simp only [grammar, options, List.mem_cons, List.not_mem_nil, or_false] at ho
    rcases ho with rfl | rfl | rfl | rfl | rfl | rfl | rfl | rfl | rfl | rfl | rfl | rfl | rfl | rfl |
      rfl | rfl | rfl <;> cases heffect <;> constructor <;>
      simp [Mention.Sets, operandWord, saidBySwitch]
  | value ho heffect htake =>
    simp only [grammar, options, List.mem_cons, List.not_mem_nil, or_false] at ho
    rcases ho with rfl | rfl | rfl | rfl | rfl | rfl | rfl | rfl | rfl | rfl | rfl | rfl | rfl | rfl |
      rfl | rfl | rfl <;> cases heffect <;> obtain ⟨x, hread, rfl⟩ := taking_eq_ok.1 htake <;>
      constructor <;> simp_all [Mention.Sets, operandWord, readDelay, readIterations]

/-! ### All arguments -/

variable {args : List String} {a : Arguments}

/-- What is mentioned to the program itself. -/
def said (args : List String) : List Mention := mentions grammar none false args

/-- Arguments are what was mentioned, taken in one by one, and a command. The instance is not given in
both ways. -/
theorem exists_taken_of_read (h : read args = .ok a) : ∃ a' given,
    Taken grammar (said args) ({}, []) (a', given) ∧ a = { a' with command := a.command } ∧
      (a'.pidOperand = none ∨ a'.pidOption = none) := by
  unfold read at h
  obtain ⟨⟨p, rest⟩, hwalk, h⟩ := bind_eq_ok.1 h
  have hfinish {command : Option Command} (h : (do
      let a := (← p.settle).result
      if a.pidOperand.isSome && a.pidOption.isSome then throw UsageFault.argumentConflict
      return { a with command }) = .ok a) : ∃ q, p.settle = .ok q ∧
        a = { q.result with command } ∧ (q.result.pidOperand = none ∨ q.result.pidOption = none) := by
    obtain ⟨q, hsettle, h⟩ := bind_eq_ok.1 h
    by_cases hboth : q.result.pidOperand.isSome && q.result.pidOption.isSome
    · simp only [hboth, if_true] at h
      cases h
    · simp only [hboth] at h
      cases h
      refine ⟨q, hsettle, rfl, ?_⟩
      cases hoperand : q.result.pidOperand <;> simp_all
  obtain ⟨command, q, hsettle, heq, hpid⟩ : ∃ command q, p.settle = .ok q ∧
      a = { q.result with command } ∧ (q.result.pidOperand = none ∨ q.result.pidOption = none) := by
    cases rest with
    | none => exact ⟨none, hfinish h⟩
    | some rest =>
      obtain ⟨command, -, h⟩ := bind_eq_ok.1 h
      exact ⟨command, hfinish h⟩
  have htaken := taken_walk (by simp [Progress.Sound]) hwalk hsettle
  exact ⟨q.result, q.given, htaken, by rw [heq], hpid⟩

/-- **Any arguments** are what is said by the options that they belong to, each of which is mentioned
once at most. -/
theorem readings_of_read {β : Type} {word : String} {read : Option String → Option β}
    {part : Arguments → Option β} (hread : Arguments.read args = .ok a)
    (hsets : ∀ m a b, Parts m a b → m.Sets word read part a b) (hstart : part {} = none)
    (hcommand : ∀ a command, part { a with command } = part a) :
    readings (said args) word read = (part a).toList.map some := by
  obtain ⟨a', given, htaken, heq, -⟩ := exists_taken_of_read hread
  rw [heq, hcommand]
  exact htaken.readings_eq (fun m a b hturns => hsets m a b (parts_of_turns hturns)) hstart

example : said ["-n3", "--sort-by=heap", "-s", "a.yaml", "7", "sysinfo", "--stat"] =
    [⟨"iterations", some "3"⟩, ⟨"sort-by", some "heap"⟩, ⟨"scenario", some "a.yaml"⟩,
      ⟨operandWord, some "7"⟩] := by decide +kernel

/-- The instance is mentioned once at most, as an option or as an operand. -/
theorem readings_pid (hread : Arguments.read args = .ok a) :
    readings (said args) "pid" (·.bind readNat32) ++ readings (said args) operandWord (·.bind readNat32) =
      a.pid.toList.map some := by
  rw [readings_of_read hread (fun _ _ _ h => h.pidOption) rfl fun _ _ => rfl,
    readings_of_read hread (fun _ _ _ h => h.pidOperand) rfl fun _ _ => rfl]
  obtain ⟨a', -, -, heq, hpid⟩ := exists_taken_of_read hread
  rw [heq, pid]
  rcases hpid with hnone | hnone <;> simp [hnone]

end Arguments

end VmMonitor
