import HardenAudit.Proofs.Decoding
import HardenAudit.Proofs.Printing
import HardenAudit.Proofs.Writing
import HardenAudit.Settings.Reader

/-!
# A file overrides the settings that it names

The fields of the settings and of their sections read the slots that are written down here, independently
of how they are read: a text is a string that spells it, a list of arguments an array of such strings, a
limit a whole number of 64 bits, and a section a record of its own, over its own defaults.  So a file that
holds an object is loaded just if the object gives settings, and then it gives what is loaded.

    fields and slots describe the same record                          (ToolSettings.describes, …, Settings.describes)
    an object is loaded just if it gives settings                      (load_objectText_iff)
-/

namespace HardenAudit

open Json (Blanks Cursor Describes FieldReads Gives IsValue IsWord Lists Member Overrides RecordForms
  RecordText Slot Spells WellNamed WellTyped named objectText)

/-! ## Algorithm -/

/-- The slots of the tool settings in their order. -/
def ToolSettings.slots : List (Slot ToolSettings) :=
  [⟨"compiler", String, Spells, (·.compiler)⟩,
   ⟨"compiler_args", List String, Lists, (·.compilerArgs)⟩,
   ⟨"analyzer", String, Spells, (·.analyzer)⟩,
   ⟨"analyzer_args", List String, Lists, (·.analyzerArgs)⟩,
   ⟨"plugin_path", String, Spells, (·.pluginPath.text)⟩,
   ⟨"pass_name", String, Spells, (·.passName)⟩]

/-- The slots of the path settings in their order. -/
def PathSettings.slots : List (Slot PathSettings) :=
  [⟨"fixture_root", String, Spells, (·.fixtureRoot.text)⟩,
   ⟨"output_dir", String, Spells, (·.outputDir.text)⟩]

/-- The slots of the time limits in their order. -/
def TimeLimits.slots : List (Slot TimeLimits) :=
  [⟨"compile_ms", UInt64, IsWord, (·.compile)⟩,
   ⟨"analyze_ms", UInt64, IsWord, (·.analyze)⟩]

/-- The sections of the settings in their order, each a record over its own defaults. -/
def Settings.slots : List (Slot Settings) :=
  [⟨"toolchain", ToolSettings, RecordText ToolSettings.slots {}, (·.tools)⟩,
   ⟨"paths", PathSettings, RecordText PathSettings.slots {}, (·.paths)⟩,
   ⟨"timeouts", TimeLimits, RecordText TimeLimits.slots {}, (·.limits)⟩]

namespace Settings

/-- How a file is loaded that holds an object, with these members and a text behind it. -/
structure LoadsObject (fs : FileSystem) (path : Path) (members : List Member) (after : List Char) :
    Prop where
  gives : ∀ s, (load fs path).1 = .ok s ↔
    Gives slots {} members s ∧ ∀ x ∈ after, Cursor.isSpace x = true
  succeeds : WellNamed slots members → WellTyped slots (named members) →
    (∀ x ∈ after, Cursor.isSpace x = true) → ∃ s, (load fs path).1 = .ok s
  repeated : ∀ f ∈ slots, 1 < members.countP (fun m => m.key? = some f.name) →
    ∃ e, (load fs path).1 = .error e
  mistyped : ∀ f ∈ slots, ∀ m ∈ members, m.key? = some f.name → (∀ a, ¬ f.Denotes m.item.value a) →
    ∃ e, (load fs path).1 = .error e
  trailing : ∀ x ∈ after, Cursor.isSpace x = false → ∃ e, (load fs path).1 = .error e

end Settings

/-! ## Fields read their slots -/

theorem ToolSettings.describes : Describes ToolSettings.fields ToolSettings.slots where
  reads := by
    refine .cons (.of (Json.reads_string _) (fun _ _ => rfl) ?_) <|
      .cons (.of Json.reads_strings (fun _ _ => rfl) ?_) <|
      .cons (.of (Json.reads_string _) (fun _ _ => rfl) ?_) <|
      .cons (.of Json.reads_strings (fun _ _ => rfl) ?_) <|
      .cons (.of (Json.reads_string _) (fun _ _ => rfl) ?_) <|
      .cons (.of (Json.reads_string _) (fun _ _ => rfl) ?_) .nil
    all_goals simp [slots]
  distinct := by decide
  ext := by
    rintro ⟨_, _, _, _, ⟨_⟩, _⟩ ⟨_, _, _, _, ⟨_⟩, _⟩ h
    simp only [slots, List.forall_mem_cons] at h
    obtain ⟨rfl, rfl, rfl, rfl, rfl, rfl, -⟩ := h
    rfl

theorem PathSettings.describes : Describes PathSettings.fields PathSettings.slots where
  reads := by
    refine .cons (.of (Json.reads_string _) (fun _ _ => rfl) ?_) <|
      .cons (.of (Json.reads_string _) (fun _ _ => rfl) ?_) .nil
    all_goals simp [slots]
  distinct := by decide
  ext := by
    rintro ⟨⟨_⟩, ⟨_⟩⟩ ⟨⟨_⟩, ⟨_⟩⟩ h
    simp only [slots, List.forall_mem_cons] at h
    obtain ⟨rfl, rfl, -⟩ := h
    rfl

theorem TimeLimits.describes : Describes TimeLimits.fields TimeLimits.slots where
  reads := by
    refine .cons (.of Json.reads_word (fun _ _ => rfl) ?_) <|
      .cons (.of Json.reads_word (fun _ _ => rfl) ?_) .nil
    all_goals simp [slots]
  distinct := by decide
  ext := by
    rintro ⟨_, _⟩ ⟨_, _⟩ h
    simp only [slots, List.forall_mem_cons] at h
    obtain ⟨rfl, rfl, -⟩ := h
    rfl

theorem Settings.describes : Describes Settings.fields Settings.slots where
  reads := by
    refine .cons (.of (Describes.reads_record ToolSettings.describes _ _) (fun _ _ => rfl) ?_) <|
      .cons (.of (Describes.reads_record PathSettings.describes _ _) (fun _ _ => rfl) ?_) <|
      .cons (.of (Describes.reads_record TimeLimits.describes _ _) (fun _ _ => rfl) ?_) .nil
    all_goals simp [slots]
  distinct := by decide
  ext := by
    rintro ⟨_, _, _⟩ ⟨_, _, _⟩ h
    simp only [slots, List.forall_mem_cons] at h
    obtain ⟨rfl, rfl, rfl, -⟩ := h
    rfl

/-! ## Null is given for nothing -/

theorem ToolSettings.recordForms : RecordForms ToolSettings.slots {} :=
  Describes.recordForms describes _ <| by
    simp only [slots, List.forall_mem_cons]
    exact ⟨fun _ h => (by cases h.head?), fun _ h => (by cases h.head?), fun _ h => (by cases h.head?),
      fun _ h => (by cases h.head?), fun _ h => (by cases h.head?), fun _ h => (by cases h.head?),
      fun _ h => absurd h List.not_mem_nil⟩

theorem PathSettings.recordForms : RecordForms PathSettings.slots {} :=
  Describes.recordForms describes _ <| by
    simp only [slots, List.forall_mem_cons]
    exact ⟨fun _ h => (by cases h.head?), fun _ h => (by cases h.head?),
      fun _ h => absurd h List.not_mem_nil⟩

theorem TimeLimits.recordForms : RecordForms TimeLimits.slots {} :=
  Describes.recordForms describes _ <| by
    have hnull : ∀ n, ¬ IsWord ['n', 'u', 'l', 'l'] n := by
      intro n h
      obtain ⟨d, hd, hdigit⟩ := h.head?
      cases hd
      cases hdigit
    simp only [slots, List.forall_mem_cons]
    exact ⟨hnull, hnull, fun _ h => absurd h List.not_mem_nil⟩

theorem Settings.recordForms : RecordForms Settings.slots {} :=
  Describes.recordForms describes _ <| by
    simp only [slots, List.forall_mem_cons]
    exact ⟨fun _ h => (by rcases h.head? with h | h <;> cases h),
      fun _ h => (by rcases h.head? with h | h <;> cases h),
      fun _ h => (by rcases h.head? with h | h <;> cases h), fun _ h => absurd h List.not_mem_nil⟩

/-! ## Loading -/

namespace Settings

variable {fs : FileSystem} {path : Path} {text : String}

/-- What is loaded from a file that holds a text. -/
theorem load_of_text (h : fs.read path = .ok (Text.Utf8.encode text)) :
    (load fs path).1 = (parse text).mapError (.malformed path) := by
  have htext : fs.readText path = .ok text := by
    unfold FileSystem.readText
    rw [h]
    dsimp only [bind, Except.bind]
    rw [Text.Utf8.decode?_encode]
  unfold load
  rw [htext]
  dsimp only
  cases parse text <;> rfl

theorem load_ok_iff (h : fs.read path = .ok (Text.Utf8.encode text)) (s : Settings) :
    (load fs path).1 = .ok s ↔ parse text = .ok s := by
  rw [load_of_text h]
  cases parse text with
  | error e => exact iff_of_false (fun h => by cases h) (fun h => by cases h)
  | ok s' => exact ⟨fun h => congrArg _ (Except.ok.inj h), fun h => congrArg _ (Except.ok.inj h)⟩

/-- Loading gives settings, or it fails. -/
theorem load_fails_of_ne (h : ∀ s, (load fs path).1 ≠ .ok s) : ∃ e, (load fs path).1 = .error e := by
  cases hload : (load fs path).1 with
  | error e => exact ⟨e, rfl⟩
  | ok s => exact absurd hload (h s)

variable {before lead : Blanks} {members : List Member} {after : List Char}
  (hvalues : ∀ m ∈ members, IsValue m.item.value)
  (hfile : fs.read path = .ok (Text.Utf8.encode
    (String.ofList (before.chars ++ (objectText lead members ++ after)))))

include hvalues hfile

/-- An object is loaded just if it gives settings and only blanks follow. -/
theorem load_objectText_iff (s : Settings) : (load fs path).1 = .ok s ↔
    Gives slots {} members s ∧ ∀ x ∈ after, Cursor.isSpace x = true :=
  (load_ok_iff hfile s).trans (Describes.readWhole_object_iff describes _ _ hvalues String.toList_ofList)

/-- How a file is loaded that holds an object. -/
theorem loadsObject : LoadsObject fs path members after where
  gives := load_objectText_iff hvalues hfile
  succeeds hnamed htyped hafter := by
    obtain ⟨s, hgives⟩ := Describes.exists_gives describes {} hvalues hnamed htyped
    exact ⟨s, (load_objectText_iff hvalues hfile s).mpr ⟨hgives, hafter⟩⟩
  repeated f hf htwice := load_fails_of_ne fun s hload => by
    have hgives := ((load_objectText_iff hvalues hfile s).mp hload).1
    exact absurd (hgives.wellNamed.countP_le_one hf) (Nat.not_le.mpr htwice)
  mistyped f hf m hm hkey hno := load_fails_of_ne fun s hload => by
    have hgives := ((load_objectText_iff hvalues hfile s).mp hload).1
    have hholds := hgives.overrides f hf
    rw [hgives.wellNamed.lookup_named hf hm hkey] at hholds
    exact hno _ hholds
  trailing x hx hspace := load_fails_of_ne fun s hload => by
    have hafter := ((load_objectText_iff hvalues hfile s).mp hload).2 x hx
    rw [hspace] at hafter
    cases hafter

end Settings

/-! ## Reading a file -/

namespace FileSystem

variable {fs : FileSystem} {loc next : Location} {piece : String}

theorem walk_nil (through : Bool) (links : Nat) : fs.walk through links loc [] = .ok loc := by
  cases links <;> rfl

/-- A step that ends at no link is followed by the rest of the way. -/
theorem walk_cons (hstep : fs.step loc piece = .ok next) (hlink : fs.link? next = none) (through : Bool)
    (links : Nat) (rest : List String) :
    fs.walk through links loc (piece :: rest) = fs.walk through links next rest := by
  cases links <;> simp only [walk, walkWith, hstep, hlink]

/-- A file that is put below the root is read as it stands. -/
theorem read_put (content : Text.Bytes) :
    (({} : FileSystem).put ["c.json"] { matter := .file content, mode := 0o644 }).read ⟨"/c.json"⟩ =
      .ok content := by
  have hroute : Path.route ⟨"/c.json"⟩ = .ok ⟨true, ["", "c.json"]⟩ := by decide +kernel
  have hnode := node?_put {} ["c.json"] ["c.json"] { matter := .file content, mode := 0o644 } (by simp)
  generalize hfs : ({} : FileSystem).put ["c.json"] { matter := .file content, mode := 0o644 } = fs at *
  rw [if_pos rfl] at hnode
  have hlink : fs.link? ["c.json"] = none := by
    unfold link?
    rw [hnode]
  have hlocate : fs.locate ⟨true, ["", "c.json"]⟩ = .ok ["c.json"] := by
    unfold locate
    dsimp only [origin, if_true]
    rw [walk_cons (by subst hfs; rfl) rfl, walk_cons _ hlink, walk_nil]
    subst hfs
    rfl
  have hstat : fs.stat ⟨"/c.json"⟩ = .ok { matter := .file content, mode := 0o644 } := by
    unfold stat
    rw [hroute]
    dsimp only [bind, Except.bind]
    rw [hlocate]
    dsimp only
    unfold found
    rw [hnode]
  have hgrants : Node.grants { matter := .file content, mode := 0o644 } .read = true := by
    simp [Node.grants, Right.bit]
  unfold read
  rw [hstat]
  dsimp only [bind, Except.bind]
  rw [hgrants]
  rfl

end FileSystem

/-! ## Top theorem -/

/-- **A file overrides the settings that it names.**  A file that holds an object is loaded just if each
name of a section stands at most once, each value of a section gives it, and nothing but blanks follows.
What is loaded is the defaults but for the sections that are given; a section is given by an object or an
array, and is its own defaults but for the fields that are given there. -/
theorem Settings.load_overrides_named (fs : FileSystem) (path : Path) (before lead : Blanks)
    (members : List Member) (after : List Char) (hvalues : ∀ m ∈ members, IsValue m.item.value)
    (hfile : fs.read path = .ok (Text.Utf8.encode
      (String.ofList (before.chars ++ (objectText lead members ++ after))))) :
    LoadsObject fs path members after ∧ RecordForms Settings.slots {} ∧
      RecordForms ToolSettings.slots {} ∧ RecordForms PathSettings.slots {} ∧
      RecordForms TimeLimits.slots {} :=
  ⟨loadsObject hvalues hfile, Settings.recordForms, ToolSettings.recordForms, PathSettings.recordForms,
    TimeLimits.recordForms⟩

/-- A file with an unknown member that holds an array, a section with one field, and an empty section. -/
theorem Settings.load_overrides_named_partly :
    let members := [Json.memberAt 0 .none ("note", .array [.null, .object [("a\n", .number 7)]]),
      Json.memberAt 2 (Json.lineBreak 1) ("timeouts", .object [("compile_ms", .number 5)]),
      Json.memberAt 0 .none ("paths", .object [])]
    let text := String.ofList ((Json.lineBreak 0).chars ++ (objectText .none members ++ ['\n']))
    let fs := ({} : FileSystem).put ["c.json"] { matter := .file (Text.Utf8.encode text), mode := 0o644 }
    fs.read ⟨"/c.json"⟩ = .ok (Text.Utf8.encode text) ∧ (∀ m ∈ members, IsValue m.item.value) ∧
    Gives Settings.slots {} members { limits := { compile := 5 } } := by
  intro members text fs
  have hfile : fs.read ⟨"/c.json"⟩ = .ok (Text.Utf8.encode text) := FileSystem.read_put _
  have hvalues : ∀ m ∈ members, IsValue m.item.value := by
    intro m hm
    simp only [members, List.mem_cons, List.not_mem_nil, or_false] at hm
    rcases hm with rfl | rfl | rfl <;> exact Json.isValue_prettyAt _ _
  have hload : (load fs ⟨"/c.json"⟩).1 = .ok { limits := { compile := 5 } } :=
    (load_ok_iff hfile _).mpr (by decide +kernel)
  exact ⟨hfile, hvalues, (((load_overrides_named fs ⟨"/c.json"⟩ (Json.lineBreak 0) .none members ['\n']
    hvalues hfile).1.gives _).mp hload).1⟩

end HardenAudit
