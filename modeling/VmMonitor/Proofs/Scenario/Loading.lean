import VmMonitor.Program
import VmMonitor.Proofs.Number.Counter
import VmMonitor.Proofs.Scenario.Generator
import VmMonitor.Proofs.Scenario.Text
import VmMonitor.Proofs.Table

/-!
# Generated scenarios in files

A scenario that was generated is written to a file in a format that the writer takes from the extension
of the path, and it is loaded in a format that the reader takes from the extension, too. The two agree
but for an extension that is `json` in other letters: the writer goes by small letters only, so that
file holds YAML, which is no JSON.

The numbers of a scenario are taken to fit the types that they are kept in.

## What is proved

* `Scenario.ofJson_pretty`, `Scenario.ofYaml_write` — either format gives back a valid scenario.
* `Scenario.ofJson_write` — what is written as YAML is no JSON.
* `Generator.Made.bare`, `Generator.Generated.fits` — the texts of a generated scenario need no quotes,
  and the scenario fits if its numbers do, as they do if it is not too large
  (`Generator.Generated.numbersFit`).
* `Scenario.load_generated` — **what is loaded** from a file that a generated scenario was written to,
  whatever the path is.
-/

namespace VmMonitor

/-! ### Round trips -/

namespace Scenario

variable {s : Scenario}

theorem ofJson_pretty (hfits : s.Fits) (hvalid : s.validate = .ok s) :
    ofJson (Json.pretty 0 s.encode) = .ok s := by
  have hread := Json.read_pretty (writable hfits) 0
  have hdecode := decode_asRead .json hfits
  rw [Doc.asRead_json] at hdecode
  simp only [ofJson, hread, Option.bind_eq_bind, Option.bind_some, hdecode, hvalid]

/-- The keys of a scenario need no quotes, and neither do its instances if their texts need none. -/
theorem encode_entries (hbare : ∀ i ∈ s.instances, i.Bare) : ∃ key d es,
    s.encode = .record ((key, d) :: es) ∧ (key = "discovery_fails_at" ∨ key = "instances") ∧
      (∀ e ∈ (key, d) :: es, Yaml.IsKey e.1) ∧ ∀ e ∈ (key, d) :: es, e.2.Blockwise := by
  have hinstances : (Doc.list (s.instances.map ScenarioInstance.encode)).Blockwise :=
    blockwise_list (fun i hi => ScenarioInstance.blockwise (hbare i hi)) fun _ => Doc.record_ne_list _
  have hkeys : Yaml.IsKey "discovery_fails_at" ∧ Yaml.IsKey "instances" := by decide
  obtain ⟨failsAt, instances⟩ := s
  cases failsAt with
  | none => exact ⟨_, _, _, rfl, .inr rfl, by simpa using hkeys.2, by simpa using hinstances⟩
  | some n =>
    exact ⟨_, _, _, rfl, .inl rfl, by simpa using hkeys, by simpa [Doc.Blockwise.nat] using hinstances⟩

theorem ofYaml_write (hfits : s.Fits) (hbare : ∀ i ∈ s.instances, i.Bare)
    (hvalid : s.validate = .ok s) : ofYaml (Yaml.write s.encode) = .ok s := by
  obtain ⟨key, d, es, hencode, -, hkeys, hblocks⟩ := encode_entries hbare
  have hread := Yaml.read_write (List.cons_ne_nil _ _) hkeys hblocks
  rw [← hencode] at hread
  simp only [ofYaml, hread, Option.bind_eq_bind, Option.bind_some, decode_asRead .yaml hfits, hvalid]

/-- What is written as YAML starts with a key, as no JSON does. -/
theorem ofJson_write (hbare : ∀ i ∈ s.instances, i.Bare) :
    ofJson (Yaml.write s.encode) = .error .json := by
  obtain ⟨key, d, es, hencode, hkey, hkeys, hblocks⟩ := encode_entries hbare
  obtain ⟨cs, hcs⟩ := Yaml.exists_write_eq hkeys hblocks
  rw [← hencode] at hcs
  have hread : Json.read (Yaml.write s.encode) = none := by
    rcases hkey with rfl | rfl
    · exact Json.read_eq_none hcs (by decide)
    · exact Json.read_eq_none hcs (by decide)
  rw [ofJson, hread]
  rfl

theorem isJsonPath_of_extension {path : String} (h : Path.extension? path = some "json") :
    isJsonPath path := by
  rw [isJsonPath, h]
  decide

/-- What is read from a file that a scenario was written to: the scenario, unless the extension is
`json` in other than small letters. -/
theorem ofFile_scenarioText (hfits : s.Fits) (hbare : ∀ i ∈ s.instances, i.Bare)
    (hvalid : s.validate = .ok s) (path : String) : ofFile path (Program.scenarioText path s) =
      if isJsonPath path ∧ Path.extension? path ≠ some "json" then .error .json else .ok s := by
  by_cases hjson : Path.extension? path = some "json"
  · have hpath := isJsonPath_of_extension hjson
    simp [ofFile, Program.scenarioText, hjson, hpath, ofJson_pretty hfits hvalid]
  · by_cases hpath : isJsonPath path
    · simp [ofFile, Program.scenarioText, hjson, hpath, ofJson_write hbare]
    · simp [ofFile, Program.scenarioText, hjson, hpath, ofYaml_write hfits hbare hvalid]

end Scenario

/-! ### What is generated needs no quotes -/

namespace Generator

theorem style_mainClass : ∀ name ∈ mainClasses, Yaml.style name = .plain := by
  simp only [mainClasses, List.forall_mem_cons]
  refine ⟨?_, ?_, ?_, ?_, ?_, ?_, nofun⟩ <;> exact Yaml.style_ofList (by decide) (by decide)

theorem style_flavour : ∀ f ∈ flavours,
    Yaml.style f.1 = .plain ∧ Yaml.style f.2.1 = .plain ∧ Yaml.style f.2.2 = .plain := by
  have hversions : ∀ f ∈ flavours, Yaml.style f.2.2 = .plain := by decide
  have hnames : ∀ f ∈ flavours, Yaml.style f.1 = .plain ∧ Yaml.style f.2.1 = .plain := by
    simp only [flavours, List.forall_mem_cons]
    refine ⟨⟨?_, ?_⟩, ⟨?_, ?_⟩, ⟨?_, ?_⟩, nofun⟩ <;>
      exact Yaml.style_ofList (by decide) (by decide)
  exact fun f hf => ⟨(hnames f hf).1, (hnames f hf).2, hversions f hf⟩

theorem style_threadState : ∀ state ∈ threadStates, Yaml.style state = .plain := by decide

theorem style_arguments (pid : Nat) (heapMax : Int) :
    ∀ s ∈ arguments pid heapMax, Yaml.style s = .plain := by
  have hheap : Yaml.style ("-Xmx" ++ toString (heapMax.tdiv megabyte) ++ "m") = .plain :=
    Yaml.style_of_numeral (by decide) (.inr rfl) (by decide) _
  have hpid : Yaml.style ("-Dapp.instance=" ++ toString (Int.ofNat pid) ++ "") = .plain :=
    Yaml.style_of_numeral (by decide) (.inr rfl) (by decide) _
  have hcollector : Yaml.style "-XX:+UseG1GC" = .plain := by decide
  rw [String.append_empty] at hpid
  simp only [arguments, List.forall_mem_cons]
  exact ⟨hheap, hcollector, hpid, List.forall_mem_nil _⟩

/-- The properties of an instance are there, under keys and with values that need no quotes. -/
theorem properties_bare {name : String} (hname : name ∈ mainClasses)
    {flavour : String × String × String} (hflavour : flavour ∈ flavours) :
    properties name flavour ≠ [] ∧
      ∀ e ∈ properties name flavour, Yaml.IsKey e.1 ∧ Yaml.style e.2 = .plain := by
  obtain ⟨hvendor, hruntime, hversion⟩ := style_flavour flavour hflavour
  constructor
  · intro hnil
    have hvendor : Table.has "java.vendor" (properties name flavour) :=
      (Table.has_ofList _ _).2 ⟨_, .head _⟩
    rw [hnil] at hvendor
    cases hvendor
  · intro e he
    have hkeys : ∀ key ∈ ["java.vendor", "java.vm.name", "java.runtime.version", "java.version",
        "user.name", "sun.java.command"], Yaml.IsKey key := by
      decide
    have huser : Yaml.style "app" = .plain := by decide
    have hmem := Table.mem_of_mem_ofList he
    simp only [List.mem_cons, List.not_mem_nil, or_false] at hmem
    rcases hmem with rfl | rfl | rfl | rfl | rfl | rfl
    · exact ⟨hkeys _ (by simp), hvendor⟩
    · exact ⟨hkeys _ (by simp), hruntime⟩
    · exact ⟨hkeys _ (by simp), hversion⟩
    · exact ⟨hkeys _ (by simp), hversion⟩
    · exact ⟨hkeys _ (by simp), huser⟩
    · exact ⟨hkeys _ (by simp), style_mainClass name hname⟩

variable {heapMax processors : Int} {c : Counters} {x : Sample}

theorem Shows.bare (h : Shows heapMax c x) : x.Bare := by
  obtain ⟨heapUsed, nonHeapUsed, states, rfl, -, -, -, hstates⟩ := h
  refine ⟨?_, fun t ht => ?_, nofun⟩
  · simpa [sample] using (by decide : Yaml.style collector = .plain)
  · obtain ⟨n, row, -, hrow, rfl⟩ := mem_numbered ht
    have hname : Yaml.style ("worker-" ++ toString (Int.ofNat n) ++ "") = .plain :=
      Yaml.style_of_numeral (by decide) (.inl rfl) (by decide) _
    rw [String.append_empty] at hname
    exact ⟨hname, style_threadState _ (hstates _ (List.of_mem_zip hrow).2)⟩

variable {instances sampleCount threads : Nat} {i : ScenarioInstance} {s : Scenario}

theorem Made.bare (h : Made sampleCount threads i) : i.Bare := by
  obtain ⟨heapMax, c, -, -, -, hrun, flavour, hflavour, hi⟩ := h.run
  have hname := h.displayName
  have hendpoint := congrArg ScenarioInstance.endpoint hi
  have hproperties := congrArg ScenarioInstance.systemProperties hi
  have harguments := congrArg ScenarioInstance.inputArguments hi
  dsimp only at hendpoint hproperties harguments
  obtain ⟨hne, hbare⟩ := properties_bare hname hflavour
  refine ⟨style_mainClass _ hname, hendpoint, hproperties ▸ hne, hproperties ▸ hbare,
    harguments ▸ style_arguments _ _, fun x hx => ?_⟩
  obtain ⟨c', hshows, -⟩ := hrun.shows hx
  exact hshows.bare

/-! ### What is generated fits -/

/-- The process ids of a scenario fit in 32 bits, and what its samples show fits in 64, as those of
every scenario do that the program can hold. -/
def NumbersFit (s : Scenario) : Prop :=
  ∀ i ∈ s.instances, i.pid < twoTo 32 ∧ ∀ x ∈ i.samples, x.Fits

theorem Shows.fits {n : Nat} (h : Shows heapMax c x) (hheap : heapMax < 4096 * megabyte)
    (hc : c.Within n) (hn : n ≤ 1000000000) (hthreads : c.threadTimes.length < 2 ^ 62) : x.Fits := by
  obtain ⟨heapUsed, nonHeapUsed, states, rfl, hused, hnon, hstates, -⟩ := h
  have hlimit := limit_lt hn
  have hmegabyte : megabyte = 1048576 := rfl
  have hcounter {k : Int} (hk : 0 ≤ k ∧ k ≤ limit n) : isInt64 k :=
    isInt64_of_nonneg ⟨hk.1, Int.lt_of_le_of_lt hk.2 hlimit⟩
  have hsize {k : Int} (hk : 0 ≤ k) (hk' : k ≤ heapMax ∨ k ≤ 200 * megabyte) : isInt64 k :=
    isInt64_of_nonneg (by omega)
  have hpart (k : Int) : 0 ≤ k → isInt64 (heapMax.tdiv k) := fun hk =>
    hsize (Int.tdiv_nonneg (by omega) hk) (.inl (Int.tdiv_le_self _ (by omega)))
  have hconstants : isInt64 (2 * megabyte) ∧ isInt64 (256 * megabyte) ∧ isInt64 (-1) := by decide
  constructor
  case uptime => exact hcounter hc.uptime
  case cpuTime => exact hcounter hc.cpuTime
  case gc => exact List.forall_mem_singleton.2 ⟨hcounter hc.gcTime, hcounter hc.gcCount⟩
  case heap =>
    exact ⟨hpart 16 (by decide), hsize (k := heapUsed) (by omega) (by omega), hpart 2 (by decide),
      hsize (k := heapMax) (by omega) (by omega)⟩
  case nonHeap =>
    exact ⟨hconstants.1, hsize (k := nonHeapUsed) (by omega) (by omega), hconstants.2.1,
      hconstants.2.2⟩
  case loadedClasses => exact hcounter hc.loadedClasses
  case threads =>
    intro t ht
    obtain ⟨k, row, hk, hrow, rfl⟩ := mem_numbered ht
    rw [List.length_zip] at hk
    have hid : isInt64 k := isInt64_of_nonneg (by omega)
    exact ⟨hid, hcounter (hc.threadTime _ (List.of_mem_zip hrow).1), hconstants.2.2⟩
  all_goals exact nofun

/-- The numbers of a generated scenario fit if there are not too many of them. -/
theorem Generated.numbersFit (h : Generated instances sampleCount threads s)
    (hinstances : firstPid + 499 * instances < 2 ^ 32) (hsamples : sampleCount ≤ 1000000000)
    (hthreads : threads < 2 ^ 62) : NumbersFit s := by
  intro i hi
  have hpid := le_of_rise h.pids (List.mem_map_of_mem hi)
  rw [List.length_map, h.length] at hpid
  obtain ⟨heapMax, c, -, hheap, hc, hrun, -⟩ := (h.made i hi).run
  have hlength := (h.made i hi).length
  have height : i.processors ≤ 8 :=
    (by decide : ∀ n ∈ processorCounts, n ≤ 8) _ (h.made i hi).processors
  refine ⟨Nat.lt_of_le_of_lt hpid hinstances, fun x hx => ?_⟩
  obtain ⟨c', hshows, hwithin, hcount⟩ := hrun.within height hc.within hx
  exact hshows.fits hheap hwithin (by omega) (by rw [hcount, hc.threadTimes]; exact hthreads)

theorem Generated.fits (h : Generated instances sampleCount threads s) (hfit : NumbersFit s) :
    s.Fits := by
  refine ⟨by simp [h.discoveryFailsAt], fun i hi => ?_⟩
  obtain ⟨heapMax, c, -, -, -, -, flavour, -, hmade⟩ := (h.made i hi).run
  obtain ⟨hpid, hsamples⟩ := hfit i hi
  have hendpoint := congrArg ScenarioInstance.endpoint hmade
  have happears := congrArg ScenarioInstance.appearsAt hmade
  have hvanishes := congrArg ScenarioInstance.vanishesAt hmade
  have hproperties := congrArg ScenarioInstance.systemProperties hmade
  dsimp only at hendpoint happears hvanishes hproperties
  exact {
    pid := hpid
    endpoint := hendpoint
    appearsAt := happears ▸ by decide
    vanishesAt := by simp [hvanishes]
    processors := (by decide : ∀ n ∈ processorCounts, isInt64 n) _ (h.made i hi).processors
    systemProperties := hproperties ▸ Table.pairwise_keys_ofList _
    samples := hsamples }

/-- What is read from the text of a generated scenario. -/
theorem Generated.ofFile_scenarioText (h : Generated instances sampleCount threads s)
    (hfit : NumbersFit s) (path : String) : Scenario.ofFile path (Program.scenarioText path s) =
      if Scenario.isJsonPath path ∧ Path.extension? path ≠ some "json" then .error .json
      else .ok s := by
  have hvalid := Scenario.validate_eq_ok_iff.2 (h.pairwise.imp fun hlt => Nat.ne_of_lt hlt)
  exact Scenario.ofFile_scenarioText (h.fits hfit) (fun i hi => (h.made i hi).bare) hvalid path

end Generator

/-! ### Loading -/

open Generator

/-- A directory with one file in it. -/
theorem Files.content_directory {name : String} (h : nameHere? name = some name) (content : String) :
    (directory [(name, content)]).content name = some content := by
  simp [directory, h]

namespace Scenario

/-- **What is loaded** from a file that a generated scenario was written to is that scenario, unless the
extension of the path is `json` in other than small letters: that file is refused. -/
theorem load_generated {ρ : Type} (src : NumberSource ρ) (instances samples threads : Nat) {r r' : ρ}
    {s : Scenario} (hs : generate src instances samples threads r = some (s, r'))
    (hfit : NumbersFit s) (files : Files) (path : String)
    (hfile : files.content path = some (Program.scenarioText path s)) :
    load files path =
      if isJsonPath path ∧ Path.extension? path ≠ some "json" then .error .json else .ok s := by
  obtain ⟨s', r'', hs', hgenerated⟩ := generate_always src instances samples threads r
  obtain ⟨rfl, rfl⟩ := Prod.mk.inj (Option.some.inj (hs'.symm.trans hs))
  rw [load, hfile]
  exact hgenerated.ofFile_scenarioText hfit path

/-- Two instances with three samples each, in a YAML file and in a JSON file. -/
theorem load_generated_of_two : ∃ s r', generate .congruential 2 3 2 7 = some (s, r') ∧
    ∀ path ∈ ["g.yaml", "g.json"],
      load (.directory [(path, Program.scenarioText path s)]) path = .ok s := by
  obtain ⟨s, r', hs, hgenerated⟩ := generate_always .congruential 2 3 2 7
  refine ⟨s, r', hs, fun path hpath => ?_⟩
  have hfit := hgenerated.numbersFit (by decide) (by decide) (by decide)
  have hname : ∀ path ∈ ["g.yaml", "g.json"], Files.nameHere? path = some path := by decide
  have hformat : ∀ path ∈ ["g.yaml", "g.json"],
      ¬(isJsonPath path ∧ Path.extension? path ≠ some "json") := by decide
  rw [load_generated .congruential 2 3 2 hs hfit _ path (Files.content_directory (hname path hpath) _),
    if_neg (hformat path hpath)]

/-- One instance with one sample, in a file that is taken for JSON. -/
theorem load_generated_upper_case : ∃ s r', generate .congruential 1 1 1 7 = some (s, r') ∧
    load (.directory [("g.JSON", Program.scenarioText "g.JSON" s)]) "g.JSON" = .error .json := by
  obtain ⟨s, r', hs, hgenerated⟩ := generate_always .congruential 1 1 1 7
  have hfit := hgenerated.numbersFit (by decide) (by decide) (by decide)
  have hname : Files.nameHere? "g.JSON" = some "g.JSON" := by decide
  have hformat : isJsonPath "g.JSON" ∧ Path.extension? "g.JSON" ≠ some "json" := by decide
  refine ⟨s, r', hs, ?_⟩
  rw [load, Files.content_directory hname]
  exact (hgenerated.ofFile_scenarioText hfit "g.JSON").trans (if_pos hformat)

end Scenario

end VmMonitor
