import HardenAudit.Proofs.Overriding

/-!
# Saved settings are loaded as they were

The written form of settings names every field once, with a value that denotes what the field holds.  So it
is a record over any defaults, and reading it gives the settings back, whatever characters their texts are
made of and whatever the limits are.

    the written form of the settings is a record of them               (recordText_pretty)
    reading the written form gives the settings                        (parse_pretty)
-/

namespace HardenAudit.Settings

open Json (Overrides RecordText isWord_number lists_strings prettyAt recordText_object spells_string)

/-- The written form of the settings is a record of them. -/
theorem recordText_pretty (s : Settings) : RecordText slots {} (prettyAt 0 s.json) s := by
  unfold json
  refine recordText_object 0 (by simp) ?_
  simp only [Overrides, slots, List.forall_mem_cons]
  refine ⟨?tools, ?paths, ?limits, fun _ h => absurd h List.not_mem_nil⟩
  case tools =>
    refine recordText_object 1 (by simp) ?_
    simp only [Overrides, ToolSettings.slots, List.forall_mem_cons]
    exact ⟨spells_string 2 _, lists_strings 2 _, spells_string 2 _, lists_strings 2 _,
      spells_string 2 _, spells_string 2 _, fun _ h => absurd h List.not_mem_nil⟩
  case paths =>
    refine recordText_object 1 (by simp) ?_
    simp only [Overrides, PathSettings.slots, List.forall_mem_cons]
    exact ⟨spells_string 2 _, spells_string 2 _, fun _ h => absurd h List.not_mem_nil⟩
  case limits =>
    refine recordText_object 1 (by simp) ?_
    simp only [Overrides, TimeLimits.slots, List.forall_mem_cons]
    exact ⟨isWord_number 2 _, isWord_number 2 _, fun _ h => absurd h List.not_mem_nil⟩

/-- Reading the written form gives the settings. -/
theorem parse_pretty (s : Settings) : parse s.pretty = .ok s := by
  have htext : s.pretty.toList = Json.Blanks.none.chars ++ (prettyAt 0 s.json ++ Json.Blanks.none.chars) := by
    show (String.ofList (prettyAt 0 s.json)).toList = [] ++ (prettyAt 0 s.json ++ [])
    rw [String.toList_ofList, List.append_nil, List.nil_append]
  exact ((describes.reads_record "HarnessConfig" {}).readWhole_iff (Json.isValue_prettyAt s.json 0)
    htext).mpr (recordText_pretty s)

/-! ## Top theorem -/

/-- **Saved settings are loaded as they were.**  From a file that holds the written form of settings just
these settings are loaded, and so different settings are written differently. -/
theorem load_pretty (s : Settings) :
    (∀ fs path, fs.read path = .ok (Text.Utf8.encode s.pretty) → (load fs path).1 = .ok s) ∧
    ∀ s' : Settings, s'.pretty = s.pretty → s' = s := by
  refine ⟨fun fs path hfile => (load_ok_iff hfile s).mpr (parse_pretty s), fun s' h => ?_⟩
  have hparse := parse_pretty s'
  rw [h, parse_pretty s] at hparse
  exact (Except.ok.inj hparse).symm

/-- Quotes, backslashes, control characters and characters beyond the basic plane, with the largest
limit. -/
theorem load_pretty_odd :
    let s : Settings :=
      { tools := { compiler := "\"c\\\n\x00", compilerArgs := ["", "\x1f😀", "é"] }
        limits := { analyze := 0xFFFFFFFFFFFFFFFF } }
    let fs := ({} : FileSystem).put ["c.json"]
      { matter := .file (Text.Utf8.encode s.pretty), mode := 0o644 }
    fs.read ⟨"/c.json"⟩ = .ok (Text.Utf8.encode s.pretty) ∧ (load fs ⟨"/c.json"⟩).1 = .ok s := by
  intro s fs
  have hfile : fs.read ⟨"/c.json"⟩ = .ok (Text.Utf8.encode s.pretty) := FileSystem.read_put _
  exact ⟨hfile, (load_pretty s).1 fs ⟨"/c.json"⟩ hfile⟩

end HardenAudit.Settings
