import HardenAudit.Proofs.Launching
import HardenAudit.Proofs.Overriding
import HardenAudit.Toolchain.External

/-!
# Time limits are exact from the file to the report

A time limit is a number in the section of the limits, in whatever form the section and the settings around
it are written.  What stands around the place of a value is read alike whatever the value is; so the number
alone decides whether the file is loaded, and it is loaded just for a whole number of 64 bits without a sign,
a fraction and an exponent.  The limit is then this number, its span and its deadline are exact, and a tool
that is given up is reported with it.

    the value in a place decides what a record holds there             (Place.recordText_fill_iff)
    a literal denotes a word just if it is plain and small enough      (isWord_text_iff)
    a file with a literal for a limit                                  (LimitPlace.readsLimit)
    an answer of a tool tells the limit that has passed                (tellsLimit_compile, tellsLimit_analyze)
-/

namespace HardenAudit

open Json (Blanks Describes IsValue IsWord Item Member NumberLiteral Overrides RecordText Slot arrayText
  objectText)
open Launch (Command Machine killTime spawning)

/-! ## Algorithm -/

namespace Json

variable {σ : Type}

/-- An item with another value. -/
def Item.withValue (i : Item) (v : List Char) : Item := { i with value := v }

/-- A member with another value. -/
def Member.withValue (m : Member) (v : List Char) : Member := { m with item := m.item.withValue v }

/-- A place for a value in an object or in a list, with the values around it. -/
inductive Place where
  | member (lead : Blanks) (before : List Member) (m : Member) (after : List Member)
    (values : ∀ m ∈ before ++ after, IsValue m.item.value)
  | item (lead : Blanks) (before : List Item) (i : Item) (after : List Item)
    (values : ∀ i ∈ before ++ after, IsValue i.value)

/-- The object or list with a value in the place. -/
def Place.fill : Place → List Char → List Char
  | member lead before m after _, v => objectText lead (before ++ m.withValue v :: after)
  | item lead before i after _, v => arrayText lead (before ++ i.withValue v :: after)

/-- The place is that of a slot: by its name in an object, and by its position in a list. -/
def Place.IsOf (slots : List (Slot σ)) (name : String) : Place → Prop
  | member _ _ m _ _ => m.key? = some name
  | item _ before _ _ _ => (slots.map (·.name))[before.length]? = some name

/-- A record is changed in a slot and in no other. -/
structure Slot.Sets (slots : List (Slot σ)) (f : Slot σ) (set : σ → f.Value → σ) : Prop where
  own : ∀ s a, f.get (set s a) = a
  others : ∀ g ∈ slots, g.name ≠ f.name → ∀ s a, g.get (set s a) = g.get s

end Json

/-- One of the two time limits. -/
inductive Limit where
  | compile
  | analyze
  deriving DecidableEq, Repr

namespace Limit

def key : Limit → String
  | compile => "compile_ms"
  | analyze => "analyze_ms"

def get : Limit → TimeLimits → UInt64
  | compile => (·.compile)
  | analyze => (·.analyze)

def set : Limit → TimeLimits → UInt64 → TimeLimits
  | compile => fun limits n => { limits with compile := n }
  | analyze => fun limits n => { limits with analyze := n }

end Limit

/-- A place for a time limit in a text: a place for the limits in the settings, and in it one for the
limit. -/
structure LimitPlace (limit : Limit) where
  before : Blanks
  outer : Json.Place
  inner : Json.Place
  after : Blanks
  isLimits : outer.IsOf Settings.slots "timeouts"
  isLimit : inner.IsOf TimeLimits.slots limit.key

/-- The text with a value in the place. -/
def LimitPlace.text {limit : Limit} (p : LimitPlace limit) (v : List Char) : String :=
  String.ofList (p.before.chars ++ (p.outer.fill (p.inner.fill v) ++ p.after.chars))

/-- How a file is loaded that holds a literal for a limit.  Whether what stands around it is loaded is told
with a zero in its place. -/
structure ReadsLimit {limit : Limit} (p : LimitPlace limit) (literal : NumberLiteral) (fs : FileSystem)
    (path : Path) : Prop where
  loads : ∀ s₀, Settings.parse (p.text ['0']) = .ok s₀ →
    ((∃ s, (Settings.load fs path).1 = .ok s) ↔
      literal.IsPlain ∧ literal.whole.value ≤ 0xFFFFFFFFFFFFFFFF)
  value : ∀ s, (Settings.load fs path).1 = .ok s →
    literal.IsPlain ∧ (limit.get s.limits).toNat = literal.whole.value ∧
    toString (limit.get s.limits).toNat = String.ofList literal.text
  others : ∀ s, (Settings.load fs path).1 = .ok s →
    Settings.parse (p.text ['0']) = .ok { s with limits := limit.set s.limits 0 }

/-- A limit in milliseconds is exact as a span, as a deadline and back. -/
structure KeepsTime (n : UInt64) : Prop where
  seconds : (Span.ofMilliseconds n).seconds.toNat = n.toNat / 1000
  nanoseconds : (Span.ofMilliseconds n).nanoseconds.toNat = n.toNat % 1000 * 1000000
  deadline : ∀ m : Moment, m.seconds.toInt < 0x4000000000000000 → m.nanoseconds.toNat < 1000000000 →
    ∃ d, m.add? (.ofMilliseconds n) = some d ∧ d.total = m.total + n.toNat * 1000000 ∧
      d.nanoseconds.toNat < 1000000000
  back : (Span.ofMilliseconds n).toMilliseconds = n

/-- An answer tells that a limit has passed just if the command was launched and did not end by itself up to
the first round that is not before the limit; and it tells this limit, in the failure and in the log. -/
structure TellsLimit {ρ α : Type} (machine : Machine ρ) (command : Command) (n : UInt64) (w : World ρ)
    (answer : Answer ρ α) : Prop where
  late : ∀ program n', answer.result = .error (.toolTimeout program n') ↔
    program = Command.shown command.program ∧ n' = n ∧
    (command.program :: command.args).any Command.hasNul = false ∧
    ∃ b, machine.launch w command (killTime (.ofMilliseconds n)) = .ok b ∧
      ¬ b.EndsBy (killTime (.ofMilliseconds n))
  message : ∀ e, answer.result = .error e → (∃ program n', e = .toolTimeout program n') →
    e.message = Command.shown command.program ++ " did not finish within " ++ toString n.toNat ++ " ms"
  log : (∃ program n', answer.result = .error (.toolTimeout program n')) →
    answer.log = [spawning command, ⟨.warn, Command.shown command.program ++ " exceeded "
      ++ toString n.toNat ++ " ms; killed", none⟩]

/-! ## Places -/

namespace Json

variable {σ : Type} {slots : List (Slot σ)} {fields : List (FieldReader σ)} {defaults s s₀ : σ}
  {name : String} {front behind : List (String × List Char)} {v v₀ : List Char}

theorem lookup_place (h : front.lookup name = none) :
    (front ++ (name, v) :: behind).lookup name = some v := by
  rw [List.lookup_append, h, Option.none_or, lookup_cons_self]

theorem lookup_place_ne {key : String} (h : key ≠ name) :
    (front ++ (name, v) :: behind).lookup key = (front ++ behind).lookup key := by
  rw [List.lookup_append, List.lookup_append, lookup_cons_ne h]

/-- Members that are named alike are named well alike. -/
theorem WellNamed.of_keys {members members' : List Member} (h : WellNamed slots members)
    (hkeys : members'.map Member.key? = members.map Member.key?) : WellNamed slots members' := by
  constructor
  · intro m hm
    obtain ⟨n, hn, hkey⟩ := List.mem_map.mp (hkeys ▸ List.mem_map_of_mem hm)
    obtain ⟨key, hname⟩ := h.names n hn
    exact ⟨key, hkey.symm.trans hname⟩
  · have honce : (members.map Member.key?).Pairwise
        fun j k => ∀ f ∈ slots, ¬ (j = some f.name ∧ k = some f.name) := List.pairwise_map.mpr h.once
    rw [← hkeys] at honce
    exact List.pairwise_map.mp honce

/-- What members give, one of whose values is open. -/
theorem exists_named {before after : List Member} {m : Member} {f : Slot σ} (hf : f ∈ slots)
    (hkey : m.key? = some f.name) (h : WellNamed slots (before ++ m :: after)) :
    ∃ front behind : List (String × List Char), front.lookup f.name = none ∧ ∀ v,
      named (before ++ m.withValue v :: after) = front ++ (f.name, v) :: behind := by
  refine ⟨named before, named after, lookup_named fun n hn hsame => ?_, fun v => ?_⟩
  · have honce := (List.pairwise_append.mp h.once).2.2 n hn m List.mem_cons_self
    exact honce f hf ⟨hsame, hkey⟩
  · have hsame : (m.withValue v).key? = some f.name := hkey
    rw [show (f.name, v) :: named after = named (m.withValue v :: after) from (named_cons hsame after).symm]
    exact List.filterMap_append

/-- What items give, one of whose values is open. -/
theorem exists_placed (hdistinct : (slots.map (·.name)).Nodup) {before after : List Item} {i : Item}
    (hname : (slots.map (·.name))[before.length]? = some name) :
    ∃ front behind : List (String × List Char), front.lookup name = none ∧ ∀ v,
      placed slots (before ++ i.withValue v :: after) = front ++ (name, v) :: behind := by
  obtain ⟨hlt, hget⟩ := List.getElem?_eq_some_iff.mp hname
  unfold placed
  generalize slots.map (·.name) = names at *
  have hsplit : names = names.take before.length ++ name :: names.drop (before.length + 1) := by
    rw [← hget, ← List.drop_eq_getElem_cons hlt, List.take_append_drop]
  have hlength : (names.take before.length).length = (before.map (·.value)).length := by
    rw [List.length_take_of_le (Nat.le_of_lt hlt), List.length_map]
  refine ⟨(names.take before.length).zip (before.map (·.value)),
    (names.drop (before.length + 1)).zip (after.map (·.value)), ?_, fun v => ?_⟩
  · rw [List.lookup_eq_none_iff]
    intro entry hentry
    refine bne_iff_ne.mpr fun heq => ?_
    rw [hsplit] at hdistinct
    exact (List.nodup_append.mp hdistinct).2.2 name (heq ▸ (List.of_mem_zip hentry).1) name
      List.mem_cons_self rfl
  · rw [List.map_append, List.map_cons]
    conv => lhs; rw [hsplit]
    rw [List.zip_append hlength]
    rfl

namespace Place

variable {p : Place}

/-- What holds around a place and of the entry in it holds of all entries. -/
theorem forall_mem_entries {α : Type} {P : α → Prop} {before after : List α} {entry : α}
    (h : ∀ x ∈ before ++ after, P x) (hentry : P entry) : ∀ x ∈ before ++ entry :: after, P x := by
  obtain ⟨hbefore, hafter⟩ := List.forall_mem_append.mp h
  exact List.forall_mem_append.mpr ⟨hbefore, List.forall_mem_cons.mpr ⟨hentry, hafter⟩⟩

theorem isValue_fill (hv : IsValue v) : IsValue (p.fill v) := by
  cases p with
  | member lead before m after values => exact .object lead _ (forall_mem_entries values hv)
  | item lead before i after values => exact .array lead _ (forall_mem_entries values hv)

/-- If a place can be filled in some way, then filling it gives what is around it and the value. -/
theorem exists_given (hdescribes : Describes fields slots) {f : Slot σ} (hf : f ∈ slots)
    (hp : p.IsOf slots f.name) (hv₀ : IsValue v₀) (h₀ : RecordText slots defaults (p.fill v₀) s₀) :
    ∃ front behind : List (String × List Char), front.lookup f.name = none ∧ ∀ v s, IsValue v →
      (RecordText slots defaults (p.fill v) s ↔
        Overrides slots defaults (front ++ (f.name, v) :: behind) s) := by
  cases p with
  | member lead before m after values =>
    have hgives : ∀ v s, IsValue v →
        (RecordText slots defaults (objectText lead (before ++ m.withValue v :: after)) s ↔
          Gives slots defaults (before ++ m.withValue v :: after) s) := fun v s hv =>
      hdescribes.recordText_objectText_iff defaults (forall_mem_entries values hv)
    have hnamed := ((hgives v₀ s₀ hv₀).mp h₀).wellNamed
    have hkeys : ∀ v, (before ++ m.withValue v :: after).map Member.key? =
        (before ++ m :: after).map Member.key? := fun v => by
      rw [List.map_append, List.map_append]
      rfl
    obtain ⟨front, behind, hnone, hgiven⟩ := exists_named hf hp (hnamed.of_keys (hkeys v₀).symm)
    refine ⟨front, behind, hnone, fun v s hv => (hgives v s hv).trans ⟨fun h => ?_, fun h => ?_⟩⟩
    · exact hgiven v ▸ h.overrides
    · exact ⟨hnamed.of_keys ((hkeys v).trans (hkeys v₀).symm), (hgiven v).symm ▸ h⟩
  | item lead before i after values =>
    have hlists : ∀ v s, IsValue v →
        (RecordText slots defaults (arrayText lead (before ++ i.withValue v :: after)) s ↔
          (before ++ i.withValue v :: after).length ≤ slots.length ∧
          Overrides slots defaults (placed slots (before ++ i.withValue v :: after)) s) := fun v s hv =>
      hdescribes.recordText_arrayText_iff defaults (forall_mem_entries values hv)
    obtain ⟨front, behind, hnone, hgiven⟩ := exists_placed hdescribes.distinct hp
    have hfew := ((hlists v₀ s₀ hv₀).mp h₀).1
    refine ⟨front, behind, hnone, fun v s hv => (hlists v s hv).trans ⟨fun h => ?_, fun h => ?_⟩⟩
    · exact hgiven v ▸ h.2
    · refine ⟨?_, (hgiven v).symm ▸ h⟩
      rw [List.length_append] at hfew ⊢
      exact hfew

/-- The value in a place decides what a record holds in its slot, and nothing else. -/
theorem recordText_fill_iff (hdescribes : Describes fields slots) {f : Slot σ} (hf : f ∈ slots)
    {set : σ → f.Value → σ} (hset : f.Sets slots set) (hp : p.IsOf slots f.name) (hv₀ : IsValue v₀)
    (h₀ : RecordText slots defaults (p.fill v₀) s₀) (hv : IsValue v) (s : σ) :
    RecordText slots defaults (p.fill v) s ↔ ∃ a, f.Denotes v a ∧ s = set s₀ a := by
  obtain ⟨front, behind, hnone, hgiven⟩ := exists_given hdescribes hf hp hv₀ h₀
  have hs₀ := (hgiven v₀ s₀ hv₀).mp h₀
  -- the other slots do not see which value is in the place
  have hothers : ∀ g ∈ slots, g.name ≠ f.name →
      g.Holds defaults s₀ ((front ++ (f.name, v) :: behind).lookup g.name) := by
    intro g hg hne
    have hholds := hs₀ g hg
    rwa [lookup_place_ne hne] at hholds ⊢
  rw [hgiven v s hv]
  constructor
  · intro hs
    have hown := hs f hf
    rw [lookup_place hnone] at hown
    refine ⟨f.get s, hown, hdescribes.ext fun g hg => ?_⟩
    by_cases hname : g.name = f.name
    · obtain rfl := List.inj_on_of_nodup_map hdescribes.distinct hg hf hname
      exact (hset.own s₀ _).symm
    · rw [hset.others g hg hname]
      exact hdescribes.get_eq hg (hs g hg) (hothers g hg hname)
  · rintro ⟨a, ha, rfl⟩ g hg
    by_cases hname : g.name = f.name
    · obtain rfl := List.inj_on_of_nodup_map hdescribes.distinct hg hf hname
      rw [lookup_place hnone]
      show g.Denotes v (g.get (set s₀ a))
      rwa [hset.own]
    · exact Slot.Holds.congr (hothers g hg hname) (hset.others g hg hname s₀ a)

end Place

/-! ## Literals -/

/-- A literal denotes a word just if it is a whole number without a sign, a fraction and an exponent, and
the word is its value. -/
theorem isWord_text_iff (literal : NumberLiteral) (n : UInt64) :
    IsWord literal.text n ↔ literal.IsPlain ∧ literal.whole.value = n.toNat := by
  constructor
  · rintro ⟨w, htext, hvalue⟩
    have hmax : n.toNat ≤ wordMax := Nat.le_of_lt_succ n.toNat_lt
    have hrest : (⟨{}, literal.text⟩ : Cursor).rest = literal.text ++ [] := (List.append_nil _).symm
    have hrest' : (⟨{}, literal.text⟩ : Cursor).rest = w.literal.text ++ [] := by
      rw [w.text_literal, ← htext]
      exact hrest
    have hread := (readNumber_natural_iff w.literal .nil hrest').mpr ⟨⟨rfl, rfl, rfl⟩, hvalue, hmax, rfl⟩
    obtain ⟨hplain, hsame, -⟩ := (readNumber_natural_iff literal .nil hrest).mp hread
    exact ⟨hplain, hsame⟩
  · rintro ⟨hplain, hvalue⟩
    exact ⟨literal.whole, hplain.text_eq, hvalue⟩

end Json

/-! ## Limits in a text -/

open Json (Place isWord_text_iff)

/-- The slot of a limit. -/
def Limit.slot (limit : Limit) : Slot TimeLimits := ⟨limit.key, UInt64, IsWord, limit.get⟩

theorem Limit.slot_mem (limit : Limit) : limit.slot ∈ TimeLimits.slots := by
  cases limit with
  | compile => exact List.mem_cons_self
  | analyze => exact List.mem_cons_of_mem _ List.mem_cons_self

theorem Limit.get_set (limit : Limit) (limits : TimeLimits) (n : UInt64) :
    limit.get (limit.set limits n) = n := by
  cases limit <;> rfl

theorem Limit.sets (limit : Limit) : limit.slot.Sets TimeLimits.slots limit.set where
  own := limit.get_set
  others := by
    cases limit with
    | compile => simp [TimeLimits.slots, slot, key, set]
    | analyze => simp [TimeLimits.slots, slot, key, set]

/-- In a place for a limit the value decides the limit. -/
theorem Limit.recordText_fill_iff (limit : Limit) {p : Place} (hp : p.IsOf TimeLimits.slots limit.key)
    {v v₀ : List Char} {t₀ : TimeLimits} (hv₀ : IsValue v₀)
    (h₀ : RecordText TimeLimits.slots {} (p.fill v₀) t₀) (hv : IsValue v) (t : TimeLimits) :
    RecordText TimeLimits.slots {} (p.fill v) t ↔ ∃ n, IsWord v n ∧ t = limit.set t₀ n :=
  p.recordText_fill_iff TimeLimits.describes limit.slot_mem limit.sets hp hv₀ h₀ hv t

/-- The slot of the limits in the settings. -/
def Settings.limitsSlot : Slot Settings :=
  ⟨"timeouts", TimeLimits, RecordText TimeLimits.slots {}, (·.limits)⟩

theorem Settings.limitsSlot_mem : limitsSlot ∈ slots :=
  List.mem_cons_of_mem _ (List.mem_cons_of_mem _ List.mem_cons_self)

theorem Settings.limitsSlot_sets :
    limitsSlot.Sets slots fun s limits => { s with limits := limits } where
  own _ _ := rfl
  others := by simp [slots, limitsSlot]

/-- In a place for the limits the value decides the limits. -/
theorem Settings.recordText_fill_iff {p : Place} (hp : p.IsOf slots "timeouts") {v v₀ : List Char}
    {s₀ : Settings} (hv₀ : IsValue v₀) (h₀ : RecordText slots {} (p.fill v₀) s₀) (hv : IsValue v)
    (s : Settings) : RecordText slots {} (p.fill v) s ↔
      ∃ limits, RecordText TimeLimits.slots {} v limits ∧ s = { s₀ with limits := limits } :=
  p.recordText_fill_iff describes limitsSlot_mem limitsSlot_sets hp hv₀ h₀ hv s

namespace LimitPlace

variable {limit : Limit} {p : LimitPlace limit} {v v₀ : List Char} {s₀ : Settings}

/-- A text with a value in the place gives settings just if its value gives them. -/
theorem parse_text_iff (hv : IsValue v) (s : Settings) : Settings.parse (p.text v) = .ok s ↔
    RecordText Settings.slots {} (p.outer.fill (p.inner.fill v)) s :=
  (Describes.reads_record Settings.describes _ _).readWhole_iff
    (Place.isValue_fill (Place.isValue_fill hv)) String.toList_ofList

/-- If a text with some value in the place gives settings, then with another value it gives the same but for
the limit. -/
theorem parse_text_iff_of_ok (hv₀ : IsValue v₀) (h₀ : Settings.parse (p.text v₀) = .ok s₀) (hv : IsValue v)
    (s : Settings) : Settings.parse (p.text v) = .ok s ↔
      ∃ n, IsWord v n ∧ s = { s₀ with limits := limit.set s₀.limits n } := by
  have houter₀ := (parse_text_iff hv₀ s₀).mp h₀
  have houter := fun v hv => Settings.recordText_fill_iff p.isLimits (Place.isValue_fill hv₀) houter₀
    (v := p.inner.fill v) (Place.isValue_fill hv)
  have hinner₀ : RecordText TimeLimits.slots {} (p.inner.fill v₀) s₀.limits := by
    obtain ⟨limits, hlimits, hs₀⟩ := (houter v₀ hv₀ s₀).mp houter₀
    rw [hs₀]
    exact hlimits
  rw [parse_text_iff hv, houter v hv]
  constructor
  · rintro ⟨limits, hlimits, rfl⟩
    obtain ⟨n, hn, rfl⟩ := (limit.recordText_fill_iff p.isLimit hv₀ hinner₀ hv limits).mp hlimits
    exact ⟨n, hn, rfl⟩
  · rintro ⟨n, hn, rfl⟩
    exact ⟨_, (limit.recordText_fill_iff p.isLimit hv₀ hinner₀ hv _).mpr ⟨n, hn, rfl⟩, rfl⟩

/-- How a file is loaded that holds a literal for a limit. -/
theorem readsLimit (p : LimitPlace limit) (literal : NumberLiteral) {fs : FileSystem} {path : Path}
    (hfile : fs.read path = .ok (Text.Utf8.encode (p.text literal.text))) :
    ReadsLimit p literal fs path := by
  have hliteral : IsValue literal.text := .number literal
  have hzero : IsWord ['0'] 0 := ⟨Json.wholeOf 0, rfl, rfl⟩
  have hvalue : IsValue ['0'] := Json.reads_word.isValue hzero
  have hload := Settings.load_ok_iff hfile
  have hword : ∀ s, (Settings.load fs path).1 = .ok s → IsWord literal.text (limit.get s.limits) := by
    intro s hs
    have hparse := (hload s).mp hs
    obtain ⟨n, hn, hsame⟩ := (parse_text_iff_of_ok hliteral hparse hliteral s).mp hparse
    rwa [hsame, limit.get_set]
  refine ⟨fun s₀ h₀ => ⟨?sound, ?complete⟩, fun s hs => ?value, fun s hs => ?others⟩
  case sound =>
    rintro ⟨s, hs⟩
    obtain ⟨hplain, hn⟩ := (isWord_text_iff literal _).mp (hword s hs)
    exact ⟨hplain, hn ▸ Nat.le_of_lt_succ (UInt64.toNat_lt _)⟩
  case complete =>
    rintro ⟨hplain, hmax⟩
    have hn : (UInt64.ofNat literal.whole.value).toNat = literal.whole.value :=
      UInt64.toNat_ofNat_of_lt' (Nat.lt_succ_of_le hmax)
    exact ⟨_, (hload _).mpr ((parse_text_iff_of_ok hvalue h₀ hliteral _).mpr
      ⟨_, (isWord_text_iff literal _).mpr ⟨hplain, hn.symm⟩, rfl⟩)⟩
  case value =>
    obtain ⟨hplain, hn⟩ := (isWord_text_iff literal _).mp (hword s hs)
    refine ⟨hplain, hn.symm, ?_⟩
    rw [hplain.text_eq, Json.Whole.chars_eq_toDigits, hn, Nat.toString_eq_ofList_toDigits]
  case others => exact (parse_text_iff_of_ok hliteral ((hload s).mp hs) hvalue _).mpr ⟨0, hzero, rfl⟩

end LimitPlace

/-! ## Answers of the tools -/

namespace External

variable {ρ α : Type} {machine : Machine ρ} {w : World ρ}

/-- An answer tells the limit of its run if it passes on how the run failed, and else tells no limit. -/
theorem tellsLimit_of_run {command : Command} {n : UInt64} {answer : Answer ρ α}
    (hfailed : ∀ e, (Launch.run machine command (.ofMilliseconds n) w).result = .error e →
      answer.result = .error e ∧ answer.log = (Launch.run machine command (.ofMilliseconds n) w).log)
    (hended : ∀ capture, (Launch.run machine command (.ofMilliseconds n) w).result = .ok capture →
      ∀ program n', answer.result ≠ .error (.toolTimeout program n')) :
    TellsLimit machine command n w answer := by
  have hlate : ∀ program n', answer.result = .error (.toolTimeout program n') ↔
      (Launch.run machine command (.ofMilliseconds n) w).result = .error (.toolTimeout program n') := by
    intro program n'
    refine ⟨fun h => ?_, fun h => (hfailed _ h).1⟩
    cases hrun : (Launch.run machine command (.ofMilliseconds n) w).result with
    | error e =>
      obtain rfl := Except.error.inj ((hfailed e hrun).1.symm.trans h)
      rfl
    | ok capture => exact absurd h (hended capture hrun program n')
  refine ⟨fun program n' => (hlate program n').trans Launch.run_toolTimeout_iff, ?message, ?log⟩
  case message =>
    rintro e he ⟨program, n', rfl⟩
    obtain ⟨rfl, rfl, -⟩ := Launch.run_toolTimeout_iff.mp ((hlate program n').mp he)
    rfl
  case log =>
    rintro ⟨program, n', h⟩
    have hrun := (hlate program n').mp h
    obtain ⟨-, -, hnul, b, hlaunch, hpast⟩ := Launch.run_toolTimeout_iff.mp hrun
    rw [(hfailed _ hrun).2, Launch.run_late hnul hlaunch hpast]

theorem tellsLimit_compile (machine : Machine ρ) (s : ToolSettings) (limit : UInt64)
    (source output : Path) (w : World ρ) : TellsLimit machine (compileCommand s source output) limit w
      (compile machine s limit source output w) := by
  refine tellsLimit_of_run (fun e he => ?failed) fun capture hcapture program n' => ?ended
  case failed =>
    unfold compile
    dsimp only
    rw [he]
    exact ⟨rfl, rfl⟩
  case ended =>
    unfold compile
    dsimp only
    rw [hcapture]
    dsimp only
    split <;> exact fun h => by cases h

theorem tellsLimit_analyze (machine : Machine ρ) (s : ToolSettings) (limit : UInt64) (artifact : Path)
    (w : World ρ) : TellsLimit machine (analyzeCommand s artifact) limit w
      (analyze machine s limit artifact w) := by
  refine tellsLimit_of_run (fun e he => ?failed) fun capture hcapture program n' => ?ended
  case failed =>
    unfold analyze
    dsimp only
    rw [he]
    exact ⟨rfl, rfl⟩
  case ended =>
    unfold analyze
    dsimp only
    rw [hcapture]
    exact fun h => by cases h

end External

/-! ## Top theorem -/

/-- **Time limits are exact from the file to the report.**  A file with a number for a limit is loaded, if it
is loaded with a zero there, just for a whole number of 64 bits without a sign, a fraction and an exponent;
the limit is then this number, and it is printed as it is written.  Every limit is exact as a span, as a
deadline and back.  Each tool tells that its limit has passed just if it does not end in time, and then its
failure, the message of it and the log tell this limit. -/
theorem time_limits_exact :
    (∀ (limit : Limit) (p : LimitPlace limit) (literal : NumberLiteral) (fs : FileSystem) (path : Path),
      fs.read path = .ok (Text.Utf8.encode (p.text literal.text)) → ReadsLimit p literal fs path) ∧
    (∀ n, KeepsTime n) ∧
    ∀ (ρ : Type) (machine : Machine ρ) (s : Settings) (w : World ρ),
      (∀ source output, TellsLimit machine (External.compileCommand s.tools source output)
        s.limits.compile w ((External.toolchain machine s).compile source output w)) ∧
      ∀ artifact, TellsLimit machine (External.analyzeCommand s.tools artifact)
        s.limits.analyze w ((External.toolchain machine s).analyze artifact w) := by
  refine ⟨fun limit p literal fs path hfile => p.readsLimit literal hfile, fun n => ?_, ?_⟩
  · exact ⟨Span.seconds_ofMilliseconds n, Span.nanoseconds_ofMilliseconds n,
      fun _ => Moment.add?_ofMilliseconds n, Span.toMilliseconds_ofMilliseconds n⟩
  · exact fun ρ machine s w => ⟨fun source output =>
      External.tellsLimit_compile machine s.tools s.limits.compile source output w, fun artifact =>
      External.tellsLimit_analyze machine s.tools s.limits.analyze artifact w⟩

/-- The largest limit in a list of limits: it is loaded, and a compiler that never ends is reported with it.
The next number, a zero with a sign, and numbers with a fraction or an exponent are not loaded. -/
theorem time_limits_exact_at_bounds :
    let p : LimitPlace .compile :=
      { before := .none
        outer := .member .none [] (Json.memberAt 0 .none ("timeouts", .null)) []
          fun _ h => absurd h List.not_mem_nil
        inner := .item .none [] (Json.itemAt 1 .none .null) [] fun _ h => absurd h List.not_mem_nil
        after := .none
        isLimits := Json.key?_memberAt ..
        isLimit := rfl }
    let file (literal : NumberLiteral) : FileSystem := ({} : FileSystem).put ["c.json"]
      { matter := .file (Text.Utf8.encode (p.text literal.text)), mode := 0o644 }
    let machine : Machine Unit := ⟨fun w _ _ =>
      .ok { exit := none, stdout := [], stderr := [], closed := none, after := fun _ => w }⟩
    let refused : List NumberLiteral :=
      [(Json.wholeOf 0x10000000000000000).literal, ⟨true, Json.wholeOf 0, none, none⟩,
        ⟨false, Json.wholeOf 1, some (Json.wholeOf 0).toDigits, none⟩,
        ⟨false, Json.wholeOf 1, none,
          some ⟨'e', .inl rfl, none, fun _ h => (by cases h), (Json.wholeOf 3).toDigits⟩⟩]
    (∃ s e, (Settings.load (file (Json.wholeOf 0xFFFFFFFFFFFFFFFF).literal) ⟨"/c.json"⟩).1 = .ok s ∧
      s.limits.compile.toNat = 0xFFFFFFFFFFFFFFFF ∧
      ((External.toolchain machine s).compile ⟨"/a.c"⟩ ⟨"/a.ll"⟩ ⟨{}, ()⟩).result = .error e ∧
      e.message = "clang did not finish within 18446744073709551615 ms") ∧
    ∀ literal ∈ refused, ∀ s, (Settings.load (file literal) ⟨"/c.json"⟩).1 ≠ .ok s := by
  intro p file machine refused
  obtain ⟨hreads, -, htells⟩ := time_limits_exact
  have hread : ∀ literal, ReadsLimit p literal (file literal) ⟨"/c.json"⟩ := fun literal =>
    hreads _ p literal _ _ (FileSystem.read_put _)
  have hzero : Settings.parse (p.text ['0']) = .ok { limits := { compile := 0 } } := by decide +kernel
  constructor
  · have hlargest := hread (Json.wholeOf 0xFFFFFFFFFFFFFFFF).literal
    have hvalue := Json.value_wholeOf 0xFFFFFFFFFFFFFFFF
    obtain ⟨s, hs⟩ := (hlargest.loads _ hzero).mpr ⟨⟨rfl, rfl, rfl⟩, Nat.le_of_eq hvalue⟩
    have hexact : s.limits.compile.toNat = 0xFFFFFFFFFFFFFFFF := (hlargest.value s hs).2.1.trans hvalue
    have htools : s.tools = {} :=
      (congrArg Settings.tools (Except.ok.inj (hzero.symm.trans (hlargest.others s hs)))).symm
    have htimeout := (htells Unit machine s ⟨{}, ()⟩).1 ⟨"/a.c"⟩ ⟨"/a.ll"⟩
    have hresult := (htimeout.late "clang" s.limits.compile).mpr
      ⟨by rw [htools]; decide, rfl, by rw [htools]; decide, _, rfl, fun ⟨_, _, hexit, _⟩ => by cases hexit⟩
    refine ⟨s, _, hs, hexact, hresult, ?_⟩
    rw [htimeout.message _ hresult ⟨_, _, rfl⟩, hexact, htools]
    decide
  · intro literal hliteral s hs
    obtain ⟨hplain, hmax⟩ := ((hread literal).loads _ hzero).mp ⟨s, hs⟩
    simp only [refused, List.mem_cons, List.not_mem_nil, or_false] at hliteral
    rcases hliteral with rfl | rfl | rfl | rfl
    · rw [show (Json.wholeOf 0x10000000000000000).literal.whole.value = 0x10000000000000000 from
        Json.value_wholeOf _] at hmax
      exact absurd hmax (by decide)
    · cases hplain.sign
    · cases hplain.fraction
    · cases hplain.exponent

end HardenAudit
