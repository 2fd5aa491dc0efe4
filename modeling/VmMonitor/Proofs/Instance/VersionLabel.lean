import VmMonitor.Instance.VersionLabel
import VmMonitor.Proofs.ObjectName.Matching
import VmMonitor.Proofs.Text.Pattern

/-!
# What a version is labelled by

Two schemes of versions are recognised, and a version may fit both, or fit the second one in several
ways, for it has room for anything around a dash and an underscore. The label is settled by saying
which of them count: the last underscore, and the last dash before it. That is what a search for the
patterns of the schemes comes to, since a repetition takes what it can from the front.

## What is proved

* `VersionLabel.legacy?_eq_some_iff`, `VersionLabel.vendorBuild?_eq_some_iff` — what fits the schemes.
* `VersionLabel.search_legacyPattern`, `VersionLabel.search_vendorBuildPattern` — the patterns of the
  schemes find the same.
* `VersionLabel.short_label` — **the label** of any version by any vendor, and that searching for the
  patterns comes to it.
-/

namespace VmMonitor.VersionLabel

/-! ### The schemes -/

/-- A version of the legacy scheme, such as `1.8.0_292-b10`. -/
def IsLegacy (version : List Char) (minor : Char) (build : List Char) : Prop :=
  ∃ major rest,
    version = major :: '.' :: minor :: '.' :: '0' :: '_' :: (build ++ '-' :: rest) ∧
      isDigit major ∧ isDigit minor ∧ build ≠ [] ∧ (∀ c ∈ build, isDigit c) ∧ '\n' ∉ rest

/-- A vendor build: a line in which `build` stands between the last underscore and the last dash
before it, as `20140419` does in `pxa6470sr4fp2-20140419_01`. -/
def IsVendorBuild (version build : List Char) : Prop :=
  '\n' ∉ version ∧ ∃ before after, version = before ++ '-' :: (build ++ '_' :: after) ∧
    '-' ∉ build ∧ '_' ∉ after

theorem legacy?_eq_some_iff {cs : List Char} {minor : Char} {build : List Char} :
    legacy? cs = some (minor, build) ↔ IsLegacy cs minor build := by
  constructor
  · intro h
    unfold legacy? at h
    split at h
    · rename_i a minor' rest
      split at h
      · rename_i tail htail
        dsimp only at h
        split_ifs at h with hdigits
        obtain ⟨rfl, rfl⟩ := Prod.mk.inj (Option.some.inj h)
        simp only [Bool.and_eq_true, Bool.not_eq_true', List.isEmpty_eq_false_iff,
          List.contains_eq_mem, decide_eq_false_iff_not] at hdigits
        obtain ⟨⟨⟨ha, hminor⟩, hbuild⟩, hline⟩ := hdigits
        refine ⟨a, tail, ?_, ha, hminor, hbuild, fun c hc => ?_, hline⟩
        · rw [← htail, List.takeWhile_append_dropWhile]
        · exact List.all_eq_true.1 List.all_takeWhile c hc
      · cases h
    · cases h
  · rintro ⟨major, rest, rfl, hmajor, hminor, hne, hbuild, hline⟩
    have htake : (build ++ '-' :: rest).takeWhile isDigit = build := by
      rw [List.takeWhile_append_of_pos hbuild]
      simp [isDigit]
    have hdrop : (build ++ '-' :: rest).dropWhile isDigit = '-' :: rest := by
      rw [List.dropWhile_append_of_pos hbuild]
      simp [isDigit]
    simp [legacy?, htake, hdrop, hmajor, hminor, hne, hline]

theorem splitLast?_eq_some_iff {sep : Char} {cs before after : List Char} :
    splitLast? sep cs = some (before, after) ↔ cs = before ++ sep :: after ∧ sep ∉ after := by
  have hreverse : cs = before ++ sep :: after ↔
      cs.reverse = after.reverse ++ sep :: before.reverse := by
    rw [← List.reverse_inj]
    simp
  rw [hreverse, ← List.mem_reverse, ← splitFirst?_eq_some_iff, splitLast?, Option.map_eq_some_iff]
  constructor
  · rintro ⟨⟨a, b⟩, h, heq⟩
    obtain ⟨rfl, rfl⟩ := Prod.mk.inj heq
    simpa using h
  · exact fun h => ⟨_, h, by simp⟩

theorem vendorBuild?_eq_some_iff {cs build : List Char} :
    vendorBuild? cs = some build ↔ IsVendorBuild cs build := by
  rw [vendorBuild?, IsVendorBuild]
  by_cases hline : '\n' ∈ cs
  · simp [hline]
  · simp only [List.contains_eq_mem, hline, decide_false, Bool.false_eq_true, if_false,
      not_false_eq_true, true_and, Option.bind_eq_bind, Option.bind_eq_some_iff, Prod.exists,
      splitLast?_eq_some_iff, Option.pure_def,
      Option.some.injEq]
    constructor
    · rintro ⟨head, after, ⟨rfl, hafter⟩, before, build', ⟨rfl, hbuild⟩, rfl⟩
      exact ⟨before, after, by simp, hbuild, hafter⟩
    · rintro ⟨before, after, rfl, hbuild, hafter⟩
      exact ⟨before ++ '-' :: build, after, ⟨by simp, hafter⟩, before, build, ⟨rfl, hbuild⟩, rfl⟩

/-- There is a vendor build where a dash stands somewhere before the last underscore of a line. -/
theorem exists_isVendorBuild_iff {cs : List Char} : (∃ build, IsVendorBuild cs build) ↔
    '\n' ∉ cs ∧ ∃ head after, cs = head ++ '_' :: after ∧ '_' ∉ after ∧ '-' ∈ head := by
  constructor
  · rintro ⟨build, hline, before, after, rfl, -, hafter⟩
    exact ⟨hline, before ++ '-' :: build, after, by simp, hafter, by simp⟩
  · rintro ⟨hline, head, after, rfl, hafter, hdash⟩
    obtain ⟨build, before, hhead, hbuild⟩ := List.eq_append_cons_of_mem (List.mem_reverse.2 hdash)
    obtain rfl : head = before.reverse ++ '-' :: build.reverse := by
      rw [← List.reverse_inj, hhead]
      simp
    exact ⟨build.reverse, hline, before.reverse, after, by simp, by simpa using hbuild, hafter⟩

/-! ### The patterns of the schemes -/

/-- The pattern of the legacy scheme: `^[0-9]\.([0-9])\.0_([0-9]+)-.*$`. -/
def legacyPattern : Pattern := .chain .start
  [.one isDigit, .one (· = '.'), .group (.one isDigit), .one (· = '.'), .one (· = '0'),
    .one (· = '_'), .group (.seq (.one isDigit) (.many isDigit)), .one (· = '-'), .many (· ≠ '\n'),
    .finish]

/-- The pattern of vendor builds: `^.*-(.*)_.*$`. -/
def vendorBuildPattern : Pattern := .chain .start
  [.many (· ≠ '\n'), .one (· = '-'), .group (.many (· ≠ '\n')), .one (· = '_'), .many (· ≠ '\n'),
    .finish]

section

open Pattern

variable {n : Nat} {cs : List Char} {w : Way}

theorem onLine_iff : (∀ c ∈ cs, decide (c ≠ '\n') = true) ↔ '\n' ∉ cs := by
  simp only [decide_eq_true_eq]
  exact ⟨fun h hmem => h '\n' hmem rfl, fun h c hc heq => h (heq ▸ hc)⟩

/-- The rest of a line is taken where there is no further line. -/
theorem first_line_iff : (seq (many (· ≠ '\n')) finish).first n cs = some w ↔
    '\n' ∉ cs ∧ w = ⟨cs, [], []⟩ := by
  have hfinish (m : Nat) (rest : List Char) (v : Way) :
      finish.first m rest = some v ↔ rest = [] ∧ v = ⟨[], [], []⟩ := by
    cases rest <;> simp [first, ways, eq_comm]
  rw [first_seq, ways, findSome?_runs_eq_some_iff]
  simp only [Option.map_eq_some_iff, hfinish]
  constructor
  · rintro ⟨taken, _, rfl, htaken, ⟨_, ⟨rfl, rfl⟩, rfl⟩, -⟩
    exact ⟨by simpa using onLine_iff.1 htaken, by simp [Way.then]⟩
  · rintro ⟨hcs, rfl⟩
    exact ⟨cs, [], by simp, onLine_iff.2 hcs, ⟨_, ⟨rfl, rfl⟩, by simp [Way.then]⟩, by simp⟩

/-- A certain character is taken. -/
theorem first_char_iff {c : Char} {q : Pattern} : (seq (one (· = c)) q).first n cs = some w ↔
    ∃ rest v, cs = c :: rest ∧ q.first (n + 1) rest = some v ∧
      ⟨c :: v.taken, v.groups, v.rest⟩ = w := by
  rw [first_seq, findSome?_one_eq_some_iff]
  constructor
  · rintro ⟨c', rest, rfl, hc, hw⟩
    obtain rfl : c' = c := by simpa using hc
    obtain ⟨v, hv, rfl⟩ := Option.map_eq_some_iff.1 hw
    exact ⟨rest, v, rfl, hv, rfl⟩
  · rintro ⟨rest, v, rfl, hv, rfl⟩
    exact ⟨c, rest, rfl, by simp, Option.map_eq_some_iff.2 ⟨v, hv, rfl⟩⟩

/-- The last underscore of a line and what it is behind of. -/
def buildPattern : Pattern := .chain (.group (.many (· ≠ '\n')))
  [.one (· = '_'), .many (· ≠ '\n'), .finish]

/-- What is told goes up to the last underscore of a line. -/
theorem first_build_iff : buildPattern.first n cs = some w ↔ ∃ build after,
    cs = build ++ '_' :: after ∧ '\n' ∉ cs ∧ '_' ∉ after ∧ w = ⟨cs, [build], []⟩ := by
  have hserves (taken rest : List Char) (v : Way) :
      (((seq (one (· = '_')) (seq (many (· ≠ '\n')) finish)).first (n + taken.length) rest).map
        (Way.then ⟨taken, [taken], rest⟩) = some v) ↔ ∃ after, rest = '_' :: after ∧
          ('\n' ∉ after ∧ v = ⟨taken ++ '_' :: after, [taken], []⟩) := by
    simp only [Option.map_eq_some_iff, first_char_iff, first_line_iff]
    constructor
    · rintro ⟨_, ⟨after, _, rfl, ⟨hafter, rfl⟩, rfl⟩, rfl⟩
      exact ⟨after, rfl, hafter, rfl⟩
    · rintro ⟨after, rfl, hafter, rfl⟩
      exact ⟨_, ⟨after, _, rfl, ⟨hafter, rfl⟩, rfl⟩, rfl⟩
  rw [buildPattern, chain, first_group_seq, ways]
  refine (findSome?_runs_before rfl hserves).trans ?_
  constructor
  · rintro ⟨build, after, rfl, hbuild, ⟨hafter, rfl⟩, hlast⟩
    refine ⟨build, after, rfl, ?_, fun hmem => ?_, rfl⟩
    · simpa [hafter] using onLine_iff.1 hbuild
    · obtain ⟨more, after', rfl⟩ := List.append_of_mem hmem
      refine hlast more after' rfl (onLine_iff.2 ?_) _ ⟨?_, rfl⟩ <;> simp_all
  · rintro ⟨build, after, rfl, hline, hafter, rfl⟩
    refine ⟨build, after, rfl, onLine_iff.2 (by simp_all), ⟨by simp_all, rfl⟩, ?_⟩
    rintro more after' rfl
    simp at hafter

/-- In front of it, everything up to a dash is passed over, as far as there is one to go to. -/
theorem first_vendorBuild_iff :
    (seq (many (· ≠ '\n')) (seq (one (· = '-')) buildPattern)).first n cs = some w ↔
      ∃ build, IsVendorBuild cs build ∧ w = ⟨cs, [build], []⟩ := by
  have hserves (taken rest : List Char) (v : Way) :
      (((seq (one (· = '-')) buildPattern).first (n + taken.length) rest).map
        (Way.then ⟨taken, [], rest⟩) = some v) ↔ ∃ behind, rest = '-' :: behind ∧
          ∃ build after, behind = build ++ '_' :: after ∧ '\n' ∉ behind ∧ '_' ∉ after ∧
            v = ⟨taken ++ '-' :: behind, [build], []⟩ := by
    simp only [Option.map_eq_some_iff, first_char_iff, first_build_iff]
    constructor
    · rintro ⟨_, ⟨behind, _, rfl, ⟨build, after, rfl, hline, hafter, rfl⟩, rfl⟩, rfl⟩
      exact ⟨_, rfl, build, after, rfl, hline, hafter, rfl⟩
    · rintro ⟨behind, rfl, build, after, rfl, hline, hafter, rfl⟩
      exact ⟨_, ⟨_, _, rfl, ⟨build, after, rfl, hline, hafter, rfl⟩, rfl⟩, rfl⟩
  rw [first_seq, ways]
  refine (findSome?_runs_before rfl hserves).trans ?_
  constructor
  · rintro ⟨before, _, rfl, hbefore, ⟨build, after, rfl, hline, hafter, rfl⟩, hlast⟩
    refine ⟨build, ⟨?_, before, after, rfl, fun hmem => ?_, hafter⟩, rfl⟩
    · simpa [hline] using onLine_iff.1 hbefore
    · obtain ⟨more, build', rfl⟩ := List.append_of_mem hmem
      refine hlast more (build' ++ '_' :: after) (by simp) (onLine_iff.2 ?_) _
        ⟨build', after, rfl, ?_, hafter, rfl⟩ <;> simp_all
  · rintro ⟨build, ⟨hline, before, after, rfl, hbuild, hafter⟩, rfl⟩
    refine ⟨before, _, rfl, onLine_iff.2 (by simp_all),
      ⟨build, after, rfl, by simp_all, hafter, rfl⟩, ?_⟩
    -- With a dash further on there would be another last underscore, or a dash in the build.
    rintro more _ hmore - _ ⟨build', after', rfl, -, hafter', -⟩
    have hbuild' : splitLast? '_' (build ++ '_' :: after) = some (more ++ '-' :: build', after') :=
      splitLast?_eq_some_iff.2 ⟨by simp [hmore], hafter'⟩
    rw [splitLast?_eq_some_iff.2 ⟨rfl, hafter⟩] at hbuild'
    obtain ⟨rfl, rfl⟩ := Prod.mk.inj (Option.some.inj hbuild')
    simp at hbuild

/-- The pattern of vendor builds is met by what stands between the last underscore of a line and the
last dash before it. -/
theorem search_vendorBuildPattern {groups : List (List Char)} :
    vendorBuildPattern.search cs = some groups ↔
      ∃ build, IsVendorBuild cs build ∧ groups = [build] := by
  rw [vendorBuildPattern, chain, search_start_seq, Option.map_eq_some_iff]
  constructor
  · rintro ⟨w, hw, rfl⟩
    obtain ⟨build, hbuild, rfl⟩ := first_vendorBuild_iff.1 hw
    exact ⟨build, hbuild, rfl⟩
  · rintro ⟨build, hbuild, rfl⟩
    exact ⟨_, first_vendorBuild_iff.2 ⟨build, hbuild, rfl⟩, rfl⟩

/-- Digits are told up to the first dash. -/
theorem first_digits_iff : (seq (group (seq (one isDigit) (many isDigit)))
      (seq (one (· = '-')) (seq (many (· ≠ '\n')) finish))).first n cs = some w ↔
    ∃ build rest, cs = build ++ '-' :: rest ∧ build ≠ [] ∧ (∀ c ∈ build, isDigit c) ∧
      '\n' ∉ rest ∧ w = ⟨cs, [build], []⟩ := by
  rw [first_group_seq, findSome?_seq, findSome?_one_eq_some_iff]
  constructor
  · rintro ⟨c, behind, rfl, hc, hw⟩
    obtain ⟨taken, _, rfl, htaken, hw, -⟩ := findSome?_runs_eq_some_iff.1 hw
    simp only [Option.map_eq_some_iff, first_char_iff, first_line_iff, Way.then] at hw
    obtain ⟨_, ⟨rest, _, rfl, ⟨hrest, rfl⟩, rfl⟩, rfl⟩ := hw
    exact ⟨c :: taken, rest, rfl, by simp, by simpa [hc] using htaken, hrest, by simp⟩
  · rintro ⟨build, rest, rfl, hne, hbuild, hrest, rfl⟩
    obtain ⟨c, taken, rfl⟩ := List.exists_cons_of_ne_nil hne
    refine ⟨c, _, rfl, hbuild c (.head _), findSome?_runs_eq_some_iff.2 ⟨taken, _, rfl,
      fun c' hc' => hbuild c' (.tail _ hc'), ?_, ?_⟩⟩
    · simp only [Option.map_eq_some_iff, first_char_iff, first_line_iff, Way.then]
      exact ⟨_, ⟨rest, _, rfl, ⟨hrest, rfl⟩, rfl⟩, by simp⟩
    · -- No digit is a dash.
      intro c' more rest' heq hmore
      obtain ⟨rfl, -⟩ := List.cons.inj heq
      exact absurd (hmore '-' (.head _)) (by decide)

/-- The pattern of the legacy scheme is met by what is spelled by it. -/
theorem search_legacyPattern {groups : List (List Char)} :
    legacyPattern.search cs = some groups ↔
      ∃ minor build, IsLegacy cs minor build ∧ groups = [[minor], build] := by
  have hdigit (q : Pattern) (m : Nat) (ds : List Char) (v : Way) :
      (seq (one isDigit) q).first m ds = some v ↔ ∃ c rest u, ds = c :: rest ∧ isDigit c ∧
        q.first (m + 1) rest = some u ∧ ⟨c :: u.taken, u.groups, u.rest⟩ = v := by
    rw [first_seq, findSome?_one_eq_some_iff]
    simp [Option.map_eq_some_iff, Way.then]
  have hgroup (q : Pattern) (m : Nat) (ds : List Char) (v : Way) :
      (seq (group (one isDigit)) q).first m ds = some v ↔ ∃ c rest u, ds = c :: rest ∧ isDigit c ∧
        q.first (m + 1) rest = some u ∧ ⟨c :: u.taken, [c] :: u.groups, u.rest⟩ = v := by
    rw [first_group_seq, findSome?_one_eq_some_iff]
    simp [Option.map_eq_some_iff, Way.then]
  simp only [legacyPattern, chain, search_start_seq, Option.map_eq_some_iff, hdigit, hgroup,
    first_char_iff, first_digits_iff]
  constructor
  · rintro ⟨_, ⟨major, _, _, rfl, hmajor, ⟨_, _, rfl, ⟨minor, _, _, rfl, hminor, ⟨_, _, rfl, ⟨_, _, rfl,
      ⟨_, _, rfl, ⟨build, rest, rfl, hne, hbuild, hrest, rfl⟩, rfl⟩, rfl⟩, rfl⟩, rfl⟩, rfl⟩, rfl⟩, rfl⟩
    exact ⟨minor, build, ⟨major, rest, rfl, hmajor, hminor, hne, hbuild, hrest⟩, rfl⟩
  · rintro ⟨minor, build, ⟨major, rest, rfl, hmajor, hminor, hne, hbuild, hrest⟩, rfl⟩
    exact ⟨_, ⟨major, _, _, rfl, hmajor, ⟨_, _, rfl, ⟨minor, _, _, rfl, hminor, ⟨_, _, rfl, ⟨_, _, rfl,
      ⟨_, _, rfl, ⟨build, rest, rfl, hne, hbuild, hrest, rfl⟩, rfl⟩, rfl⟩, rfl⟩, rfl⟩, rfl⟩, rfl⟩, rfl⟩

end

/-! ### The label -/

/-- The label that comes of a search for the two patterns, one after the other. -/
def labelBySearch (version vendor : String) : String :=
  let initial := vendor.toList.take 1
  match legacyPattern.search version.toList with
  | some [minor, build] => String.ofList (initial ++ minor ++ 'U' :: build)
  | _ =>
    match vendorBuildPattern.search version.toList with
    | some [build] => String.ofList (initial ++ (build.drop 2).take 4)
    | _ => version

theorem search_legacyPattern_eq (cs : List Char) :
    legacyPattern.search cs = (legacy? cs).map fun (minor, build) => [[minor], build] := by
  ext groups
  rw [search_legacyPattern]
  simp only [Option.map_eq_some_iff, Prod.exists, legacy?_eq_some_iff, eq_comm (a := groups)]

theorem search_vendorBuildPattern_eq (cs : List Char) :
    vendorBuildPattern.search cs = (vendorBuild? cs).map fun build => [build] := by
  ext groups
  rw [search_vendorBuildPattern]
  simp only [Option.map_eq_some_iff, vendorBuild?_eq_some_iff, eq_comm (a := groups)]

theorem short_eq_labelBySearch (version vendor : String) :
    short version vendor = labelBySearch version vendor := by
  rw [short, labelBySearch, search_legacyPattern_eq, search_vendorBuildPattern_eq]
  cases legacy? version.toList with
  | some found => simp
  | none => cases vendorBuild? version.toList <;> rfl

/-- **The label.** A version of the legacy scheme is labelled by the second digit, `U` and the build; any
other version on one line, with a dash before its last underscore, by the third to sixth character, as
far as there are any, of what stands between the last such dash and that underscore; the vendor's
initial goes in front, if the vendor has one. Every further version is its own label. This is what comes
of searching for the patterns of the two schemes. -/
theorem short_label (version vendor : String) :
    (∀ minor build, IsLegacy version.toList minor build → short version vendor =
      String.ofList (vendor.toList.take 1 ++ minor :: 'U' :: build)) ∧
    ((¬∃ minor build, IsLegacy version.toList minor build) →
      (∀ build, IsVendorBuild version.toList build → short version vendor =
        String.ofList (vendor.toList.take 1 ++ (build.drop 2).take 4)) ∧
      (¬('\n' ∉ version.toList ∧ ∃ head after, version.toList = head ++ '_' :: after ∧
        '_' ∉ after ∧ '-' ∈ head) → short version vendor = version)) ∧
    short version vendor = labelBySearch version vendor := by
  refine ⟨fun minor build h => ?_, fun hlegacy => ?_, short_eq_labelBySearch version vendor⟩
  · rw [short, legacy?_eq_some_iff.2 h]
  · have hnone : legacy? version.toList = none :=
      Option.eq_none_iff_forall_ne_some.2 fun (minor, build) h =>
        hlegacy ⟨minor, build, legacy?_eq_some_iff.1 h⟩
    refine ⟨fun build h => ?_, fun h => ?_⟩
    · simp only [short, hnone, vendorBuild?_eq_some_iff.2 h]
    · have hnone' : vendorBuild? version.toList = none :=
        Option.eq_none_iff_forall_ne_some.2 fun build hbuild =>
          h (exists_isVendorBuild_iff.1 ⟨build, vendorBuild?_eq_some_iff.1 hbuild⟩)
      simp only [short, hnone, hnone']

/-- A version that fits both schemes, one that has several dashes and underscores, and one that has its
dash too late. -/
theorem short_label_of_versions :
    short "1.8.0_292-b10_x" "Azul" = "A8U292" ∧ short "a-b_c-defghijk_l_m" "IBM" = "Ifghi" ∧
      short "a_b-c" "IBM" = "a_b-c" := by
  have hvendor : ¬∃ minor build, IsLegacy "a-b_c-defghijk_l_m".toList minor build := by
    rintro ⟨minor, build, major, rest, h, -⟩
    simp at h
  have hneither : ¬∃ minor build, IsLegacy "a_b-c".toList minor build := by
    rintro ⟨minor, build, major, rest, h, -⟩
    simp at h
  refine ⟨?_, ?_, ?_⟩
  · exact (short_label "1.8.0_292-b10_x" "Azul").1 '8' ['2', '9', '2']
      ⟨'1', "b10_x".toList, by decide, by decide, by decide, by decide, by simp [isDigit], by decide⟩
  · exact ((short_label "a-b_c-defghijk_l_m" "IBM").2.1 hvendor).1 "defghijk_l".toList
      ⟨by decide, "a-b_c".toList, "m".toList, by decide, by decide, by decide⟩
  · refine ((short_label "a_b-c" "IBM").2.1 hneither).2 ?_
    rintro ⟨-, head, after, hversion, hafter, hdash⟩
    have hlast : splitLast? '_' "a_b-c".toList = some (head, after) :=
      splitLast?_eq_some_iff.2 ⟨hversion, hafter⟩
    obtain ⟨rfl, -⟩ : ['a'] = head ∧ "b-c".toList = after := by
      simpa [splitLast?, splitFirst?] using hlast
    simp at hdash

end VmMonitor.VersionLabel
