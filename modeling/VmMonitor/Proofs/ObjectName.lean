import VmMonitor.ObjectName

/-!
# Names of collectors

A collector is asked for by the name that the list of collectors has for it, and the other side finds
out of that name which collector is meant. A key list is cut into pieces at its commas, so of the name
of the collector is found what stands before its first comma; nothing is lost just if there is none.

## What is proved

* `exists_splitAll_eq`, `splitAll_append`, `splitFirst?_append` — texts that are cut at the first
  occurrence of a character.
* `ObjectName.isMatch_garbageCollectors`, `ObjectName.keyProperty?_name` — a collector is listed, and
  what is found of its name.
-/

namespace VmMonitor

/-! ### Cutting texts -/

section

variable {sep : Char} {cs : List Char}

/-- The first piece is what stands before the first occurrence. -/
theorem exists_splitAll_eq (sep : Char) (cs : List Char) :
    ∃ pieces, splitAll sep cs = cs.takeWhile (· ≠ sep) :: pieces := by
  induction cs with
  | nil => exact ⟨[], rfl⟩
  | cons c cs ih =>
    obtain ⟨pieces, hpieces⟩ := ih
    by_cases hc : c = sep
    · exact ⟨splitAll sep cs, by simp [splitAll, hc]⟩
    · exact ⟨pieces, by simp [splitAll, hc, hpieces]⟩

theorem splitAll_append (h : sep ∉ cs) (ds : List Char) :
    splitAll sep (cs ++ sep :: ds) = cs :: splitAll sep ds := by
  induction cs with
  | nil => simp [splitAll]
  | cons c cs ih =>
    obtain ⟨hc, hcs⟩ : sep ≠ c ∧ sep ∉ cs := by simpa using h
    simp [splitAll, Ne.symm hc, ih hcs]

theorem splitFirst?_append (h : sep ∉ cs) (ds : List Char) :
    splitFirst? sep (cs ++ sep :: ds) = some (cs, ds) := by
  induction cs with
  | nil => simp [splitFirst?]
  | cons c cs ih =>
    obtain ⟨hc, hcs⟩ : sep ≠ c ∧ sep ∉ cs := by simpa using h
    simp [splitFirst?, Ne.symm hc, ih hcs]

end

/-! ### Collectors -/

namespace ObjectName

theorem bindings_garbageCollector (name : String) :
    (garbageCollector name).bindings = ("type".toList, "GarbageCollector".toList) ::
      (splitAll ',' ("name".toList ++ '=' :: name.toList)).filterMap (splitFirst? '=') := by
  have hkeys : (garbageCollector name).keys =
      "type=GarbageCollector".toList ++ ',' :: ("name".toList ++ '=' :: name.toList) := by
    simp [garbageCollector, platform]
  rw [bindings, hkeys, splitAll_append (by decide)]
  rfl

/-- Every collector is listed. -/
theorem isMatch_garbageCollectors (name : String) :
    garbageCollectors.isMatch (garbageCollector name) = true := by
  have hbindings : garbageCollectors.bindings = [("type".toList, "GarbageCollector".toList)] := by
    decide
  have hpattern : garbageCollectors.isPattern = true := by decide
  simp [isMatch, hpattern, hbindings, binding?, bindings_garbageCollector]
  rfl

theorem keyProperty?_type (name : String) :
    (garbageCollector name).keyProperty? "type" = some "GarbageCollector" := by
  simp [keyProperty?, binding?, bindings_garbageCollector]

/-- Of a name is found what stands before its first comma. -/
theorem keyProperty?_name (name : String) : (garbageCollector name).keyProperty? "name" =
    some (String.ofList (name.toList.takeWhile (· ≠ ','))) := by
  obtain ⟨pieces, hpieces⟩ := exists_splitAll_eq ',' ("name".toList ++ '=' :: name.toList)
  have hfirst : ("name".toList ++ '=' :: name.toList).takeWhile (· ≠ ',') =
      "name".toList ++ '=' :: name.toList.takeWhile (· ≠ ',') := by
    rw [List.takeWhile_append_of_pos (by simp), List.takeWhile_cons_of_pos (by decide)]
  have hname : splitFirst? '=' ("name".toList ++ '=' :: name.toList.takeWhile (· ≠ ',')) =
      some ("name".toList, name.toList.takeWhile (· ≠ ',')) := splitFirst?_append (by decide) _
  rw [keyProperty?, binding?, bindings_garbageCollector, hpieces, hfirst]
  simp only [List.filterMap_cons, hname]
  simp

/-- A collector is none of the platform's own objects, all of which have another type. -/
theorem garbageCollector_ne (name : String) : garbageCollector name ≠ runtime ∧
    garbageCollector name ≠ operatingSystem ∧ garbageCollector name ≠ memory ∧
    garbageCollector name ≠ classLoading ∧ garbageCollector name ≠ threading := by
  refine ⟨?_, ?_, ?_, ?_, ?_⟩ <;>
  · intro h
    have hkeys := congrArg ObjectName.keys h
    simp [garbageCollector, runtime, operatingSystem, memory, classLoading, threading, platform]
      at hkeys

end ObjectName

end VmMonitor
