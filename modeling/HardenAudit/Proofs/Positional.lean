import HardenAudit.Proofs.Overriding

/-!
# Lists give what objects give

A record may be written as a list, which gives its first slots in their order, and as an object, which
gives slots by their names.  A list and the object that names the first slots, with values that denote the
same, override the defaults alike, whether the values are written alike or not.  So both are read as one
record, and a section may be written in one form where the other has the other.

    lists and objects that give the same override alike                (GiveAlike.overrides)
    a list and such an object are read as the same record              (Describes.formsAgree)
    so it is for the settings and for each of their sections           (Settings.forms_agree)
-/

namespace HardenAudit

open Json (Describes)

namespace Json

variable {σ : Type}

/-! ## Algorithm -/

/-- Items and members that give the same: the members have the names of the first slots in their order, and
what is given for a slot denotes the same in either form. -/
inductive GiveAlike : List (Slot σ) → List Item → List Member → Prop where
  | nil (slots : List (Slot σ)) : GiveAlike slots [] []
  | cons {f : Slot σ} {slots : List (Slot σ)} {i : Item} {m : Member} {items : List Item}
    {members : List Member} (a : f.Value) (key : m.key? = some f.name) (item : f.Denotes i.value a)
    (member : f.Denotes m.item.value a) (more : GiveAlike slots items members) :
    GiveAlike (f :: slots) (i :: items) (m :: members)

/-- A record is read alike in both of its forms: the texts of a list and of an object that give the same are
read as the same record, which is the defaults but for what is given; as parts of a text they are the same
record as well; and a list with more items than there are slots is refused. -/
structure FormsAgree (read : String → Except ReadError σ) (slots : List (Slot σ)) (defaults : σ) :
    Prop where
  agree : ∀ {items members}, GiveAlike slots items members →
    ∃ s, Overrides slots defaults (placed slots items) s ∧ ∀ before lead lead' after : Blanks,
      read (String.ofList (before.chars ++ (arrayText lead items ++ after.chars))) = .ok s ∧
      read (String.ofList (before.chars ++ (objectText lead' members ++ after.chars))) = .ok s
  parts : ∀ {items members}, GiveAlike slots items members → ∀ lead lead' s,
    RecordText slots defaults (arrayText lead items) s ↔
      RecordText slots defaults (objectText lead' members) s
  tooMany : ∀ {items : List Item}, (∀ i ∈ items, IsValue i.value) → slots.length < items.length →
    (∀ before lead after : Blanks, ∃ e,
      read (String.ofList (before.chars ++ (arrayText lead items ++ after.chars))) = .error e) ∧
    ∀ lead s, ¬ RecordText slots defaults (arrayText lead items) s

/-! ## What is given -/

namespace GiveAlike

variable {slots more : List (Slot σ)} {fields : List (FieldReader σ)} {items : List Item}
  {members : List Member}

theorem length_le (h : GiveAlike more items members) : items.length ≤ more.length := by
  induction h with
  | nil slots => exact Nat.zero_le _
  | cons a key item member more ih => exact Nat.succ_le_succ ih

/-- The members are named like the first slots. -/
theorem keys (h : GiveAlike more items members) :
    members.map Member.key? <+: more.map fun f => some f.name := by
  induction h with
  | nil slots => exact List.nil_prefix
  | cons a key item member more ih =>
    rw [List.map_cons, List.map_cons, key]
    exact List.cons_prefix_cons.mpr ⟨rfl, ih⟩

/-- What is given for slots is made of values. -/
theorem isValue (hvalue : ∀ f ∈ more, ∀ v a, f.Denotes v a → IsValue v)
    (h : GiveAlike more items members) :
    (∀ i ∈ items, IsValue i.value) ∧ ∀ m ∈ members, IsValue m.item.value := by
  induction h with
  | nil slots => exact ⟨fun i hi => absurd hi List.not_mem_nil, fun m hm => absurd hm List.not_mem_nil⟩
  | cons a key item member more ih =>
    obtain ⟨hfirst, hvalue⟩ := List.forall_mem_cons.mp hvalue
    obtain ⟨hitems, hmembers⟩ := ih hvalue
    exact ⟨List.forall_mem_cons.mpr ⟨hfirst _ a item, hitems⟩,
      List.forall_mem_cons.mpr ⟨hfirst _ a member, hmembers⟩⟩

/-- For a slot nothing is given in either form, or what denotes the same. -/
theorem lookup (hdistinct : (more.map (·.name)).Nodup) (h : GiveAlike more items members) :
    ∀ f ∈ more, ((placed more items).lookup f.name = none ∧ (named members).lookup f.name = none) ∨
      ∃ v w a, (placed more items).lookup f.name = some v ∧ (named members).lookup f.name = some w ∧
        f.Denotes v a ∧ f.Denotes w a := by
  induction h with
  | nil slots =>
    intro f _
    refine .inl ⟨?_, rfl⟩
    rw [placed, List.map_nil, List.zip_nil_right, List.lookup_nil]
  | @cons f slots i m items members a key item member more ih =>
    obtain ⟨hnew, hdistinct⟩ := List.nodup_cons.mp hdistinct
    rw [placed_cons, named_cons key]
    intro g hg
    rcases List.mem_cons.mp hg with rfl | hg
    · exact .inr ⟨_, _, a, lookup_cons_self _ _ _, lookup_cons_self _ _ _, item, member⟩
    · have hne : g.name ≠ f.name := fun heq => hnew (List.mem_map.mpr ⟨g, hg, heq⟩)
      rw [lookup_cons_ne hne, lookup_cons_ne hne]
      exact ih hdistinct g hg

variable (hdescribes : Describes fields slots) (h : GiveAlike slots items members)

include hdescribes h

theorem wellTyped : WellTyped slots (placed slots items) := by
  intro f hf v hv
  rcases h.lookup hdescribes.distinct f hf with ⟨hnone, -⟩ | ⟨v', w, a, hv', -, hdenotes, -⟩
  · rw [hnone] at hv
    cases hv
  · rw [hv'] at hv
    cases hv
    exact ⟨a, hdenotes⟩

theorem wellNamed : WellNamed slots members := by
  refine .of_nodup (fun m hm => ?_) (h.keys.sublist.nodup ?_)
  · obtain ⟨f, -, hkey⟩ := List.mem_map.mp (h.keys.subset (List.mem_map_of_mem hm))
    exact ⟨f.name, hkey.symm⟩
  · have hnames := hdescribes.distinct.map fun _ _ => Option.some.inj
    rwa [List.map_map] at hnames

/-- Lists and objects that give the same override the defaults alike. -/
theorem overrides {defaults s : σ} (hs : Overrides slots defaults (placed slots items) s) :
    Overrides slots defaults (named members) s := by
  intro f hf
  have hholds := hs f hf
  rcases h.lookup hdescribes.distinct f hf with ⟨hv, hw⟩ | ⟨v, w, a, hv, hw, hdenotes, hdenotes'⟩
  · rw [hv] at hholds
    rw [hw]
    exact hholds
  · obtain ⟨field, hfield⟩ := exists_field hdescribes.reads hf
    rw [hv] at hholds
    rw [hw]
    obtain rfl := hfield.unique hholds hdenotes
    exact hdenotes'

end GiveAlike

/-! ## Both forms are read alike -/

/-- A record is read alike in both of its forms. -/
theorem Describes.formsAgree {fields : List (FieldReader σ)} {slots : List (Slot σ)}
    (hdescribes : Describes fields slots) (title : String) (defaults : σ) :
    FormsAgree (readWhole (readRecord title fields defaults)) slots defaults := by
  have hvalue : ∀ f ∈ slots, ∀ v a, f.Denotes v a → IsValue v := by
    intro f hf v a hdenotes
    obtain ⟨field, hfield⟩ := exists_field hdescribes.reads hf
    exact hfield.isValue hdenotes
  have hread : ∀ {v : List Char} {s : σ} (before after : Blanks), IsValue v →
      (readWhole (readRecord title fields defaults)
        (String.ofList (before.chars ++ (v ++ after.chars))) = .ok s ↔ RecordText slots defaults v s) :=
    fun before after hv =>
      (hdescribes.reads_record title defaults).readWhole_iff hv String.toList_ofList
  have hboth : ∀ {items members}, GiveAlike slots items members →
      ∃ s, Overrides slots defaults (placed slots items) s ∧ ∀ lead lead' : Blanks,
        RecordText slots defaults (arrayText lead items) s ∧
        RecordText slots defaults (objectText lead' members) s := by
    intro items members h
    obtain ⟨hitems, hmembers⟩ := h.isValue hvalue
    obtain ⟨s, hs⟩ := hdescribes.exists_overrides defaults hitems h.length_le (h.wellTyped hdescribes)
    exact ⟨s, hs, fun lead lead' => ⟨.list lead items s hitems h.length_le hs,
      .object lead' members s hmembers ⟨h.wellNamed hdescribes, h.overrides hdescribes hs⟩⟩⟩
  refine ⟨?agree, ?parts, ?tooMany⟩
  case agree =>
    intro items members h
    obtain ⟨hitems, hmembers⟩ := h.isValue hvalue
    obtain ⟨s, hs, htexts⟩ := hboth h
    exact ⟨s, hs, fun before lead lead' after =>
      ⟨(hread before after (.array lead items hitems)).mpr (htexts lead lead').1,
        (hread before after (.object lead' members hmembers)).mpr (htexts lead lead').2⟩⟩
  case parts =>
    intro items members h lead lead' s
    obtain ⟨s', -, htexts⟩ := hboth h
    obtain ⟨hlist, hobject⟩ := htexts lead lead'
    have hunique := hdescribes.reads_record title defaults
    constructor
    · intro hs
      rwa [hunique.unique hs hlist]
    · intro hs
      rwa [hunique.unique hs hobject]
  case tooMany =>
    intro items hitems hmany
    have hnone : ∀ lead s, ¬ RecordText slots defaults (arrayText lead items) s := fun lead s hs =>
      Nat.not_lt.mpr ((hdescribes.recordText_arrayText_iff defaults hitems).mp hs).1 hmany
    refine ⟨fun before lead after => ?_, hnone⟩
    cases hok : readWhole (readRecord title fields defaults)
        (String.ofList (before.chars ++ (arrayText lead items ++ after.chars))) with
    | error e => exact ⟨e, rfl⟩
    | ok s => exact absurd ((hread before after (.array lead items hitems)).mp hok) (hnone lead s)

end Json

/-! ## Top theorem -/

namespace Settings

open Json (FormsAgree GiveAlike Overrides arrayText itemAt lists_strings memberAt objectText prettyAt
  readRecord readWhole recordText_array recordText_object spells_string)

/-- **Lists give what objects give.**  The settings and each of their sections are read alike from a list
and from an object that gives its values by the names of the first slots, whichever forms the sections in
them have: what is read is the defaults but for these slots.  A list with more items than there are slots
is refused.  A file is loaded as its text is read. -/
theorem forms_agree :
    FormsAgree parse slots {} ∧
    FormsAgree (readWhole (readRecord "ToolchainConfig" ToolSettings.fields {})) ToolSettings.slots {} ∧
    FormsAgree (readWhole (readRecord "PathsConfig" PathSettings.fields {})) PathSettings.slots {} ∧
    FormsAgree (readWhole (readRecord "TimeoutConfig" TimeLimits.fields {})) TimeLimits.slots {} ∧
    ∀ fs path text, fs.read path = .ok (Text.Utf8.encode text) →
      (load fs path).1 = (parse text).mapError (.malformed path) :=
  ⟨Describes.formsAgree describes _ _, Describes.formsAgree ToolSettings.describes _ _,
    Describes.formsAgree PathSettings.describes _ _, Describes.formsAgree TimeLimits.describes _ _,
    fun _ _ _ => load_of_text⟩

/-- A list of a list and an object, and an object of an object and a list, that give the same; and a list of
four lists. -/
theorem forms_agree_mixed :
    let items := [itemAt 0 .none (.array [.string "gcc", .array [.string "-c"]]),
      itemAt 0 .none (.object [("output_dir", .string "o")])]
    let members := [memberAt 0 .none ("toolchain",
        .object [("compiler_args", .array [.string "-c"]), ("compiler", .string "gcc")]),
      memberAt 0 .none ("paths", .array [.string ".", .string "o"])]
    let text := String.ofList (arrayText .none items)
    let fs := ({} : FileSystem).put ["c.json"] { matter := .file (Text.Utf8.encode text), mode := 0o644 }
    let s : Settings :=
      { tools := { compiler := "gcc", compilerArgs := ["-c"] }, paths := { outputDir := ⟨"o"⟩ } }
    GiveAlike slots items members ∧ fs.read ⟨"/c.json"⟩ = .ok (Text.Utf8.encode text) ∧
    (load fs ⟨"/c.json"⟩).1 = .ok s ∧ parse (String.ofList (objectText .none members)) = .ok s ∧
    ∃ e, parse (String.ofList (prettyAt 0 (.array (List.replicate 4 (.array []))))) = .error e := by
  intro items members text fs s
  have hfile : fs.read ⟨"/c.json"⟩ = .ok (Text.Utf8.encode text) := FileSystem.read_put _
  have halike : GiveAlike slots items members := by
    refine .cons s.tools (Json.key?_memberAt ..) ?toolList ?toolObject <|
      .cons s.paths (Json.key?_memberAt ..) ?pathObject ?pathList (.nil _)
    case toolList =>
      refine recordText_array 1 (by decide) ?_
      simp only [Overrides, ToolSettings.slots, List.forall_mem_cons]
      exact ⟨spells_string 2 _, lists_strings 2 ["-c"], rfl, rfl, rfl, rfl,
        fun _ h => absurd h List.not_mem_nil⟩
    case toolObject =>
      refine recordText_object 1 (by decide) ?_
      simp only [Overrides, ToolSettings.slots, List.forall_mem_cons]
      exact ⟨spells_string 2 _, lists_strings 2 ["-c"], rfl, rfl, rfl, rfl,
        fun _ h => absurd h List.not_mem_nil⟩
    case pathObject =>
      refine recordText_object 1 (by decide) ?_
      simp only [Overrides, PathSettings.slots, List.forall_mem_cons]
      exact ⟨rfl, spells_string 2 _, fun _ h => absurd h List.not_mem_nil⟩
    case pathList =>
      refine recordText_array 1 (by decide) ?_
      simp only [Overrides, PathSettings.slots, List.forall_mem_cons]
      exact ⟨spells_string 2 _, spells_string 2 _, fun _ h => absurd h List.not_mem_nil⟩
  have htext : ∀ v : List Char, Json.Blanks.none.chars ++ (v ++ Json.Blanks.none.chars) = v :=
    fun v => List.append_nil v
  obtain ⟨⟨hagree, -, hmany⟩, -, -, -, hload⟩ := forms_agree
  obtain ⟨s', -, hread⟩ := hagree halike
  obtain ⟨hlist, hobject⟩ := hread .none .none .none .none
  rw [htext] at hlist hobject
  have hparse : parse text = .ok s := by decide +kernel
  obtain rfl : s' = s := Except.ok.inj (hlist.symm.trans hparse)
  refine ⟨halike, hfile, ?_, hobject, ?_⟩
  · rw [hload _ _ _ hfile, hparse]
    rfl
  · have hvalues := Json.isValue_itemsAt 0 (List.replicate 4 (.array []))
    have hlong := (hmany hvalues (by decide)).1 .none .none .none
    rwa [htext, ← Json.prettyAt_array] at hlong

end Settings
end HardenAudit
