import HardenAudit.Proofs.Scalars
import Mathlib.Data.List.Nodup

/-!
# Reading records

A slot tells of a field what its values denote and where a record keeps it.  A record that is read over
defaults holds, in each slot, what the text gives for its name, and else what the defaults hold
(`Overrides`).  In an object each name that is known may stand once, and others are passed over; a list
gives the first slots.

Both loops keep one invariant: read from a record `s` on, the rest of the text overrides `s`.

    the members of an object override a record                         (readMembers_sound)
    … and are read if they are named, once, and of the right types     (readMembers_complete)
    the items of a list override a record                              (readPositions_sound, readPositions_complete)
    a record is read in either form                                    (Describes.reads_record)
-/

namespace HardenAudit.Json

variable {σ : Type} {c : Cursor} {b : Blanks} {first : Bool} {rest : List Char}

/-! ## Algorithm -/

/-- A field of a record: its name, what the values denote that can be written for it, and where a record
keeps what they denote. -/
structure Slot (σ : Type) where
  name : String
  Value : Type
  Denotes : List Char → Value → Prop
  get : σ → Value

/-- A record holds in a slot what the value denotes that is given or, if none is, what the defaults hold. -/
def Slot.Holds (f : Slot σ) (defaults s : σ) : Option (List Char) → Prop
  | some v => f.Denotes v (f.get s)
  | none => f.get s = f.get defaults

/-- A record is the defaults, overridden where values are given for names. -/
def Overrides (slots : List (Slot σ)) (defaults : σ) (given : List (String × List Char)) (s : σ) : Prop :=
  ∀ f ∈ slots, f.Holds defaults s (given.lookup f.name)

/-- Values that are given for names of slots denote something. -/
def WellTyped (slots : List (Slot σ)) (given : List (String × List Char)) : Prop :=
  ∀ f ∈ slots, ∀ v, given.lookup f.name = some v → ∃ a, f.Denotes v a

/-- The members whose names can be spelled, with their values. -/
def named (members : List Member) : List (String × List Char) :=
  members.filterMap fun m => m.key?.map fun key => (key, m.item.value)

/-- Each member has a name that can be spelled, and names of slots stand once at most. -/
structure WellNamed (slots : List (Slot σ)) (members : List Member) : Prop where
  names : ∀ m ∈ members, ∃ key, m.key? = some key
  once : members.Pairwise fun m n => ∀ f ∈ slots, ¬ (m.key? = some f.name ∧ n.key? = some f.name)

/-- Members give a record: they are well named, and their values override the defaults. -/
structure Gives (slots : List (Slot σ)) (defaults : σ) (members : List Member) (s : σ) : Prop where
  wellNamed : WellNamed slots members
  overrides : Overrides slots defaults (named members) s

/-- The values of items by the names of the slots that they are for. -/
def placed (slots : List (Slot σ)) (items : List Item) : List (String × List Char) :=
  (slots.map (·.name)).zip (items.map (·.value))

/-- The texts of a record over defaults, and the record. -/
inductive RecordText (slots : List (Slot σ)) (defaults : σ) : List Char → σ → Prop where
  | object (b : Blanks) (members : List Member) (s : σ) (values : ∀ m ∈ members, IsValue m.item.value)
    (gives : Gives slots defaults members s) : RecordText slots defaults (objectText b members) s
  | list (b : Blanks) (items : List Item) (s : σ) (values : ∀ i ∈ items, IsValue i.value)
    (few : items.length ≤ slots.length) (overrides : Overrides slots defaults (placed slots items) s) :
    RecordText slots defaults (arrayText b items) s

/-- The forms of a record: an object gives it by its members, an empty one gives the defaults, nothing but
an object or an array is a record, and null is given for no field. -/
structure RecordForms (slots : List (Slot σ)) (defaults : σ) : Prop where
  object : ∀ {lead members s}, (∀ m ∈ members, IsValue m.item.value) →
    (RecordText slots defaults (objectText lead members) s ↔ Gives slots defaults members s)
  empty : ∀ lead, RecordText slots defaults (objectText lead []) defaults
  kinds : ∀ {v s}, RecordText slots defaults v s → v.head? = some '\x7b' ∨ v.head? = some '['
  null : ∀ f ∈ slots, ∀ a, ¬ f.Denotes ['n', 'u', 'l', 'l'] a

/-- A field reads the values of its slot, and leaves the other slots as they are. -/
structure FieldReads (slots : List (Slot σ)) (f : Slot σ) (field : FieldReader σ) : Prop where
  name : field.name = f.name
  isValue : ∀ {v a}, f.Denotes v a → IsValue v
  unique : ∀ {v a a'}, f.Denotes v a → f.Denotes v a' → a = a'
  complete : ∀ {v a} {b : Blanks} {rest} {s c}, f.Denotes v a → Ends rest →
    c.rest = b.chars ++ (v ++ rest) → ∃ r, field.read s c = .ok r
  sound : ∀ {v} {b : Blanks} {rest} {s s' c c'}, IsValue v → Ends rest →
    c.rest = b.chars ++ (v ++ rest) → field.read s c = .ok (s', c') →
    f.Denotes v (f.get s') ∧ (∀ g ∈ slots, g.name ≠ f.name → g.get s' = g.get s) ∧ c'.rest = rest

/-- Fields and slots that describe the same record. -/
structure Describes (fields : List (FieldReader σ)) (slots : List (Slot σ)) : Prop where
  reads : List.Forall₂ (FieldReads slots) slots fields
  distinct : (slots.map (·.name)).Nodup
  /-- Nothing is in a record but what the slots show. -/
  ext : ∀ {s s'}, (∀ f ∈ slots, f.get s = f.get s') → s = s'

/-! ## Slots -/

/-- A field that stores what it reads, in its slot and in no other. -/
theorem FieldReads.of {slots : List (Slot σ)} {f : Slot σ}
    {read : Cursor → Except ReadError (f.Value × Cursor)} {store : σ → f.Value → σ}
    (hread : Reads read f.Denotes) (hown : ∀ s a, f.get (store s a) = a)
    (hothers : ∀ g ∈ slots, g.name ≠ f.name → ∀ s a, g.get (store s a) = g.get s) :
    FieldReads slots f (.of f.name read store) where
  name := rfl
  isValue := hread.isValue
  unique := hread.unique
  complete hv hrest h := by
    obtain ⟨c', hok, -⟩ := hread.complete hv hrest h
    exact ⟨_, by rw [FieldReader.of]; dsimp only; rw [hok]; rfl⟩
  sound := by
    intro v b rest s s' c c' hv hrest h hok
    unfold FieldReader.of at hok
    dsimp only at hok
    cases hr : read c with
    | error e =>
      rw [hr] at hok
      cases hok
    | ok r =>
      rw [hr] at hok
      cases hok
      obtain ⟨hdenotes, hc'⟩ := hread.sound hv hrest h hr
      exact ⟨(hown s r.1).symm ▸ hdenotes, fun g hg hne => hothers g hg hne s r.1, hc'⟩

variable {slots more : List (Slot σ)} {fields : List (FieldReader σ)}

theorem exists_field (h : List.Forall₂ (FieldReads slots) more fields) {f : Slot σ} (hf : f ∈ more) :
    ∃ field, FieldReads slots f field := by
  induction h with
  | nil => exact absurd hf List.not_mem_nil
  | cons hfield _ ih =>
    rcases List.mem_cons.mp hf with rfl | hf
    · exact ⟨_, hfield⟩
    · exact ih hf

/-- The field of a name is that of the slot of this name, if there is one. -/
theorem find?_field (h : List.Forall₂ (FieldReads slots) more fields) (key : String) :
    match fields.find? (·.name == key) with
    | some field => ∃ f ∈ more, f.name = key ∧ FieldReads slots f field
    | none => ∀ f ∈ more, f.name ≠ key := by
  induction h with
  | nil => exact fun f hf => absurd hf List.not_mem_nil
  | @cons f field more fields hfield _ ih =>
    rw [List.find?_cons]
    by_cases hkey : f.name = key
    · have heq : (field.name == key) = true := by rw [hfield.name, hkey, beq_self_eq_true]
      rw [heq]
      exact ⟨f, List.mem_cons_self, hkey, hfield⟩
    · have hne : (field.name == key) = false := by rw [hfield.name]; exact beq_false_of_ne hkey
      rw [hne]
      dsimp only
      generalize fields.find? (·.name == key) = found at ih ⊢
      cases found with
      | some field =>
        obtain ⟨g, hg, hname⟩ := ih
        exact ⟨g, List.mem_cons_of_mem f hg, hname⟩
      | none => exact List.forall_mem_cons.mpr ⟨hkey, ih⟩

/-- What a slot holds is told by the value that is given for it, or by the defaults. -/
theorem Describes.get_eq (h : Describes fields slots) {f : Slot σ} (hf : f ∈ slots) {defaults s s' : σ}
    {v? : Option (List Char)} (hs : f.Holds defaults s v?) (hs' : f.Holds defaults s' v?) :
    f.get s = f.get s' := by
  obtain ⟨field, hfield⟩ := exists_field h.reads hf
  cases v? with
  | some v => exact hfield.unique hs hs'
  | none => exact hs.trans hs'.symm

theorem Slot.Holds.congr {f : Slot σ} {defaults s s' : σ} {v? : Option (List Char)}
    (hs : f.Holds defaults s v?) (h : f.get s' = f.get s) : f.Holds defaults s' v? := by
  cases v? with
  | some v => exact (congrArg (f.Denotes v) h).mpr hs
  | none => exact h.trans hs

theorem Overrides.unique (h : Describes fields slots) {defaults s s' : σ}
    {given : List (String × List Char)} (hs : Overrides slots defaults given s)
    (hs' : Overrides slots defaults given s') : s = s' :=
  h.ext fun f hf => h.get_eq hf (hs f hf) (hs' f hf)

/-! ## One value more -/

theorem lookup_cons_self (key : String) (v : List Char) (given : List (String × List Char)) :
    ((key, v) :: given).lookup key = some v := by
  rw [List.lookup_cons, beq_self_eq_true]

theorem lookup_cons_ne {key name : String} (h : name ≠ key) (v : List Char)
    (given : List (String × List Char)) : ((key, v) :: given).lookup name = given.lookup name := by
  rw [List.lookup_cons, beq_false_of_ne h]

/-- A value that no slot asks for changes nothing. -/
theorem Overrides.cons_unknown {s s' : σ} {given : List (String × List Char)} {key : String}
    (hkey : ∀ f ∈ slots, f.name ≠ key) (v : List Char) :
    Overrides slots s ((key, v) :: given) s' ↔ Overrides slots s given s' := by
  unfold Overrides
  refine forall₂_congr fun f hf => ?_
  rw [lookup_cons_ne (hkey f hf)]

/-- A value that was read into its slot stays there, if no other one is given for this slot. -/
theorem Overrides.cons (h : (slots.map (·.name)).Nodup) {f : Slot σ} (hf : f ∈ slots) {s s₁ s' : σ}
    {given : List (String × List Char)} {v : List Char} (hread : f.Denotes v (f.get s₁))
    (hothers : ∀ g ∈ slots, g.name ≠ f.name → g.get s₁ = g.get s) (hnone : given.lookup f.name = none)
    (hs' : Overrides slots s₁ given s') : Overrides slots s ((f.name, v) :: given) s' := by
  intro g hg
  have hholds := hs' g hg
  by_cases hname : g.name = f.name
  · obtain rfl := List.inj_on_of_nodup_map h hg hf hname
    rw [hnone] at hholds
    rw [lookup_cons_self]
    have hkept : g.get s' = g.get s₁ := hholds
    show g.Denotes v (g.get s')
    rw [hkept]
    exact hread
  · rw [lookup_cons_ne hname]
    cases hgiven : given.lookup g.name with
    | some w =>
      rw [hgiven] at hholds
      exact hholds
    | none =>
      rw [hgiven] at hholds
      exact hholds.trans (hothers g hg hname)

/-! ## Objects -/

/-- At the end of an object there is no next key. -/
theorem nextKey_done (h : c.rest = b.chars ++ (entries '\x7d' first [] ++ rest)) :
    ∃ c', nextKey first c = .ok (.done c') ∧ c'.rest = rest := by
  have hskip : c.skip.rest = '\x7d' :: rest := Cursor.rest_skip h (by decide)
  refine ⟨c.skip.advance 1, ?_, Cursor.rest_advance_one hskip⟩
  unfold nextKey
  simp only [hskip, if_true]

/-- In front of a member, going on leads to the quote of its name. -/
theorem nextKey_key {m : Member} {es : List (List Char)}
    (h : c.rest = b.chars ++ (entries '\x7d' first (m.text :: es) ++ rest)) :
    ∃ c', nextKey first c = .ok (.key c') ∧ c'.rest = '"' :: closed m.name (m.between.chars ++ ':' ::
      (m.item.text ++ (entries '\x7d' false es ++ rest))) := by
  rw [entries, Member.text] at h
  unfold nextKey
  cases first with
  | true =>
    have hskip : c.skip.rest = '"' :: closed m.name (m.between.chars ++ ':' ::
        (m.item.text ++ (entries '\x7d' false es ++ rest))) := by
      refine Cursor.rest_skip (b := b.append m.before) ?_ (by decide)
      rw [h]
      simp [Blanks.append, closed]
    refine ⟨c.skip, ?_, hskip⟩
    simp only [hskip]
    rfl
  | false =>
    have hcomma : c.skip.rest = ',' :: (m.before.chars ++ '"' :: closed m.name (m.between.chars ++ ':' ::
        (m.item.text ++ (entries '\x7d' false es ++ rest)))) := by
      refine Cursor.rest_skip (b := b) ?_ (by decide)
      rw [h]
      simp [closed]
    have hskip := Cursor.rest_skip (Cursor.rest_advance_one hcomma) (by decide)
    refine ⟨(c.skip.advance 1).skip, ?_, hskip⟩
    simp only [hcomma, hskip]
    rfl

/-- A name that spells no text is not read. -/
theorem readMembers_unnamed (fields : List (FieldReader σ)) (fuel : Nat) (seen : List String) (s : σ)
    {m : Member} {es : List (List Char)} (hkey : m.key? = none)
    (h : c.rest = b.chars ++ (entries '\x7d' first (m.text :: es) ++ rest)) :
    ∃ e, readMembers fields (fuel + 1) first seen s c = .error e := by
  obtain ⟨c₁, hnext, hc₁⟩ := nextKey_key h
  have hread := readString_closed m.name hc₁
  rw [show (spell? m.name).map String.ofList = none from hkey] at hread
  obtain ⟨e, he⟩ := hread
  exact ⟨e, by rw [readMembers, hnext]; dsimp only; rw [he]⟩

/-- A member is passed over if its name is unknown, and else read if its name is new. -/
theorem readMembers_named (fields : List (FieldReader σ)) (fuel : Nat) (seen : List String) (s : σ)
    {m : Member} {es : List (List Char)} {key : String} (hkey : m.key? = some key)
    (hm : IsValue m.item.value) (h : c.rest = b.chars ++ (entries '\x7d' first (m.text :: es) ++ rest)) :
    ∃ c₁ c₂ c₃ : Cursor,
      c₂.rest = m.item.before.chars ++ (m.item.value ++ (m.item.after.chars ++
        (entries '\x7d' false es ++ rest))) ∧
      c₃.rest = m.item.after.chars ++ (entries '\x7d' false es ++ rest) ∧
      readMembers fields (fuel + 1) first seen s c =
        match fields.find? (·.name == key) with
        | none => readMembers fields fuel false seen s c₃
        | some field =>
          if seen.contains key then repeated key c₁
          else
            match field.read s c₂ with
            | .error e => .error e
            | .ok (s, c) => readMembers fields fuel false (key :: seen) s c := by
  obtain ⟨c₀, hnext, hc₀⟩ := nextKey_key h
  have hread := readString_closed m.name hc₀
  rw [show (spell? m.name).map String.ofList = some key from hkey] at hread
  obtain ⟨c₁, hname, hc₁⟩ := hread
  have hcolon := Cursor.rest_skip hc₁ (by decide)
  have hc₂ : (c₁.skip.advance 1).rest = m.item.before.chars ++ (m.item.value ++ (m.item.after.chars ++
      (entries '\x7d' false es ++ rest))) := by
    rw [Cursor.rest_advance_one hcolon, Item.text, List.append_assoc, List.append_assoc]
  obtain ⟨c₃, hignore, hc₃⟩ := ignore_isValue hm (.entries (.inr rfl) m.item.after es rest) hc₂
  have hread : readColon c₁ = .ok (c₁.skip.advance 1) := by
    unfold readColon
    simp only [hcolon, if_true]
  refine ⟨c₁, c₁.skip.advance 1, c₃, hc₂, hc₃, ?_⟩
  rw [readMembers, hnext]
  cases hfield : fields.find? (·.name == key) with
  | none => simp only [hname, hread, hignore, hfield]
  | some field =>
    cases hvalue : field.read s (c₁.skip.advance 1) <;> simp only [hname, hread, hfield, hvalue]

/-- None of the members has the name of a slot that was given before. -/
def Unseen (slots : List (Slot σ)) (seen : List String) (members : List Member) : Prop :=
  ∀ m ∈ members, ∀ f ∈ slots, m.key? = some f.name → f.name ∉ seen

theorem named_cons {m : Member} {key : String} (hkey : m.key? = some key) (members : List Member) :
    named (m :: members) = (key, m.item.value) :: named members := by
  unfold named
  rw [List.filterMap_cons, hkey]
  rfl

/-- A name that no member has is not given. -/
theorem lookup_named {members : List Member} {name : String} (h : ∀ m ∈ members, m.key? ≠ some name) :
    (named members).lookup name = none := by
  rw [List.lookup_eq_none_iff]
  intro entry hentry
  obtain ⟨m, hm, hentry⟩ := List.mem_filterMap.mp hentry
  obtain ⟨key, hkey, rfl⟩ := Option.map_eq_some_iff.mp hentry
  exact bne_iff_ne.mpr fun heq => h m hm (heq ▸ hkey)

/-- A name of a slot that is well named stands once at most. -/
theorem WellNamed.countP_le_one {members : List Member} (h : WellNamed slots members) {f : Slot σ}
    (hf : f ∈ slots) : members.countP (fun m => m.key? = some f.name) ≤ 1 := by
  have honce := h.once
  clear h
  induction members with
  | nil => exact Nat.zero_le 1
  | cons m members ih =>
    obtain ⟨hm, hmore⟩ := List.pairwise_cons.mp honce
    by_cases hkey : m.key? = some f.name
    · have hnone : members.countP (fun m => m.key? = some f.name) = 0 :=
        List.countP_eq_zero.mpr fun n hn hsame => hm n hn f hf ⟨hkey, of_decide_eq_true hsame⟩
      rw [List.countP_cons, hnone, if_pos (decide_eq_true hkey)]
    · rw [List.countP_cons, if_neg (by rw [decide_eq_true_eq]; exact hkey)]
      exact ih hmore

/-- Names that can be spelled and differ are well named. -/
theorem WellNamed.of_nodup {members : List Member} (hnames : ∀ m ∈ members, ∃ key, m.key? = some key)
    (hdistinct : (members.map Member.key?).Nodup) : WellNamed slots members where
  names := hnames
  once := (List.pairwise_map.mp hdistinct).imp fun hne f _ hsame => hne (by rw [hsame.1, hsame.2])

/-- What a well-named member gives is found under its name. -/
theorem WellNamed.lookup_named {members : List Member} (h : WellNamed slots members) {f : Slot σ}
    (hf : f ∈ slots) {m : Member} (hm : m ∈ members) (hkey : m.key? = some f.name) :
    (named members).lookup f.name = some m.item.value := by
  obtain ⟨hnames, honce⟩ := h
  induction members with
  | nil => exact absurd hm List.not_mem_nil
  | cons n members ih =>
    obtain ⟨⟨key, hn⟩, hnames⟩ := List.forall_mem_cons.mp hnames
    obtain ⟨hfirst, honce⟩ := List.pairwise_cons.mp honce
    rw [named_cons hn]
    rcases List.mem_cons.mp hm with rfl | hm
    · rw [hkey, Option.some.injEq] at hn
      rw [hn, lookup_cons_self]
    · have hne : f.name ≠ key := fun heq => hfirst m hm f hf ⟨heq ▸ hn, hkey⟩
      rw [lookup_cons_ne hne]
      exact ih hm hnames honce

/-- A member in front that no slot asks for gives nothing. -/
theorem Gives.cons_unknown {m : Member} {members : List Member} {key : String} {s s' : σ}
    (hkey : m.key? = some key) (hne : ∀ f ∈ slots, f.name ≠ key) (h : Gives slots s members s') :
    Gives slots s (m :: members) s' where
  wellNamed :=
    { names := List.forall_mem_cons.mpr ⟨⟨key, hkey⟩, h.wellNamed.names⟩
      once := .cons (fun n _ f hf hsame => hne f hf (Option.some.inj (hsame.1.symm.trans hkey)))
        h.wellNamed.once }
  overrides := by
    rw [named_cons hkey]
    exact (Overrides.cons_unknown hne m.item.value).mpr h.overrides

/-- A member in front gives what is read from its value, if no other member has its name. -/
theorem Gives.cons (hdistinct : (slots.map (·.name)).Nodup) {f : Slot σ} (hf : f ∈ slots) {m : Member}
    {members : List Member} {s s₁ s' : σ} (hkey : m.key? = some f.name)
    (hnone : ∀ n ∈ members, n.key? ≠ some f.name) (hdenotes : f.Denotes m.item.value (f.get s₁))
    (hothers : ∀ g ∈ slots, g.name ≠ f.name → g.get s₁ = g.get s) (h : Gives slots s₁ members s') :
    Gives slots s (m :: members) s' where
  wellNamed :=
    { names := List.forall_mem_cons.mpr ⟨⟨f.name, hkey⟩, h.wellNamed.names⟩
      once := .cons (fun n hn g _ hsame => hnone n hn (hsame.2.trans (hsame.1.symm.trans hkey)))
        h.wellNamed.once }
  overrides := by
    rw [named_cons hkey]
    exact h.overrides.cons hdistinct hf hdenotes hothers (lookup_named hnone)

/-- The members of an object override the record that was read so far. -/
theorem readMembers_sound (hdescribes : Describes fields slots) (members : List Member) :
    ∀ {fuel : Nat} {first : Bool} {seen : List String} {s s' : σ} {c c' : Cursor} {b : Blanks},
    (∀ m ∈ members, IsValue m.item.value) →
    c.rest = b.chars ++ (entries '\x7d' first (members.map Member.text) ++ rest) →
    readMembers fields fuel first seen s c = .ok (s', c') →
    Gives slots s members s' ∧ Unseen slots seen members ∧ c'.rest = rest := by
  induction members with
  | nil =>
    intro fuel first seen s s' c c' b _ h hread
    cases fuel with
    | zero => cases hread
    | succ fuel =>
      obtain ⟨c₁, hnext, hc₁⟩ := nextKey_done h
      rw [readMembers, hnext] at hread
      cases hread
      exact ⟨⟨⟨fun m hm => absurd hm List.not_mem_nil, .nil⟩, fun f _ => rfl⟩,
        fun m hm => absurd hm List.not_mem_nil, hc₁⟩
  | cons m members ih =>
    intro fuel first seen s s' c c' b hvalues h hread
    obtain ⟨hm, hmore⟩ := List.forall_mem_cons.mp hvalues
    cases fuel with
    | zero => cases hread
    | succ fuel =>
    cases hkey : m.key? with
    | none =>
      obtain ⟨e, he⟩ := readMembers_unnamed fields fuel seen s hkey h
      rw [he] at hread
      cases hread
    | some key =>
    obtain ⟨c₁, c₂, c₃, hc₂, hc₃, hstep⟩ := readMembers_named fields fuel seen s hkey hm h
    rw [hstep] at hread
    have hfield := find?_field hdescribes.reads key
    generalize fields.find? (·.name == key) = found at hread hfield
    cases found with
    | none =>
      -- the name is unknown, and its value is passed over
      obtain ⟨hgives, hunseen, hc'⟩ := ih hmore hc₃ hread
      refine ⟨hgives.cons_unknown hkey hfield, List.forall_mem_cons.mpr ⟨?_, hunseen⟩, hc'⟩
      exact fun f hf heq => absurd (Option.some.inj (heq.symm.trans hkey)) (hfield f hf)
    | some field =>
      obtain ⟨f, hf, rfl, hreads⟩ := hfield
      dsimp only at hread
      split at hread
      · cases hread
      next hnew =>
      split at hread
      · cases hread
      next s₁ c₄ hvalue =>
      obtain ⟨hdenotes, hothers, hc₄⟩ := hreads.sound hm
        (.entries (.inr rfl) m.item.after (members.map Member.text) rest) hc₂ hvalue
      obtain ⟨hgives, hunseen, hc'⟩ := ih hmore hc₄ hread
      have hnone : ∀ n ∈ members, n.key? ≠ some f.name := fun n hn heq =>
        hunseen n hn f hf heq List.mem_cons_self
      refine ⟨hgives.cons hdescribes.distinct hf hkey hnone hdenotes hothers,
        List.forall_mem_cons.mpr ⟨fun g hg heq hseen => ?_, fun n hn g hg heq hseen => ?_⟩, hc'⟩
      · rw [hkey, Option.some.injEq] at heq
        exact hnew (List.contains_iff_mem.mpr (heq ▸ hseen))
      · exact hunseen n hn g hg heq (List.mem_cons_of_mem _ hseen)

/-- Members are read if each is named, names of slots are new, and values denote something. -/
theorem readMembers_complete (hdescribes : Describes fields slots) (members : List Member) :
    ∀ {fuel : Nat} {first : Bool} {seen : List String} {s : σ} {c : Cursor} {b : Blanks},
    members.length < fuel → (∀ m ∈ members, IsValue m.item.value) → WellNamed slots members →
    Unseen slots seen members → WellTyped slots (named members) →
    c.rest = b.chars ++ (entries '\x7d' first (members.map Member.text) ++ rest) →
    ∃ r, readMembers fields fuel first seen s c = .ok r := by
  induction members with
  | nil =>
    intro fuel first seen s c b hfuel _ _ _ _ h
    obtain ⟨fuel, rfl⟩ : ∃ k, fuel = k + 1 := ⟨fuel - 1, by omega⟩
    obtain ⟨c₁, hnext, -⟩ := nextKey_done h
    exact ⟨(s, c₁), by rw [readMembers, hnext]⟩
  | cons m members ih =>
    intro fuel first seen s c b hfuel hvalues hnamed hunseen htyped h
    obtain ⟨fuel, rfl⟩ : ∃ k, fuel = k + 1 := ⟨fuel - 1, by omega⟩
    have hfuel : members.length < fuel := Nat.lt_of_succ_lt_succ hfuel
    obtain ⟨hm, hmore⟩ := List.forall_mem_cons.mp hvalues
    obtain ⟨⟨key, hkey⟩, hnames⟩ := List.forall_mem_cons.mp hnamed.names
    obtain ⟨honce, honces⟩ := List.pairwise_cons.mp hnamed.once
    obtain ⟨hnew, hunseen⟩ := List.forall_mem_cons.mp hunseen
    rw [named_cons hkey] at htyped
    obtain ⟨c₁, c₂, c₃, hc₂, hc₃, hstep⟩ := readMembers_named fields fuel seen s hkey hm h
    rw [hstep]
    have hfield := find?_field hdescribes.reads key
    generalize fields.find? (·.name == key) = found at hfield ⊢
    cases found with
    | none =>
      refine ih hfuel hmore ⟨hnames, honces⟩ hunseen (fun g hg v hv => ?_) hc₃
      exact htyped g hg v (by rw [lookup_cons_ne (hfield g hg), hv])
    | some field =>
      obtain ⟨f, hf, rfl, hreads⟩ := hfield
      have hends := Ends.entries (.inr rfl) m.item.after (members.map Member.text) rest
      obtain ⟨a, ha⟩ := htyped f hf _ (lookup_cons_self _ _ _)
      obtain ⟨⟨s₁, c₄⟩, hread⟩ := hreads.complete ha hends hc₂
      obtain ⟨-, -, hc₄⟩ := hreads.sound hm hends hc₂ hread
      have hnone : ∀ n ∈ members, n.key? ≠ some f.name := fun n hn heq => honce n hn f hf ⟨hkey, heq⟩
      dsimp only
      rw [if_neg (fun h => hnew f hf hkey (List.contains_iff_mem.mp h)), hread]
      refine ih hfuel hmore ⟨hnames, honces⟩ (fun n hn g hg heq hseen => ?_) (fun g hg v hv => ?_) hc₄
      · rcases List.mem_cons.mp hseen with hsame | hseen
        · exact hnone n hn (hsame ▸ heq)
        · exact hunseen n hn g hg heq hseen
      · by_cases hname : g.name = f.name
        · rw [hname, lookup_named hnone] at hv
          cases hv
        · exact htyped g hg v (by rw [lookup_cons_ne hname, hv])

/-! ## Lists -/

theorem readListEnd_nil (h : c.rest = b.chars ++ (entries ']' first [] ++ rest)) :
    ∃ c', readListEnd c = .ok c' ∧ c'.rest = rest := by
  have hskip : c.skip.rest = ']' :: rest := Cursor.rest_skip h (by decide)
  refine ⟨c.skip.advance 1, ?_, Cursor.rest_advance_one hskip⟩
  unfold readListEnd
  simp only [hskip, if_true]

/-- Behind the last field no item may follow. -/
theorem readListEnd_cons {i : Item} {es : List (List Char)} (hi : IsValue i.value)
    (h : c.rest = b.chars ++ (entries ']' first (i.text :: es) ++ rest)) :
    ∃ e, readListEnd c = .error e := by
  obtain ⟨x, t, hvalue, hx, hend⟩ := hi.exists_cons
  rw [entries, Item.text, hvalue] at h
  unfold readListEnd
  cases first with
  | true =>
    have hskip : c.skip.rest = x :: (t ++ (i.after.chars ++ (entries ']' false es ++ rest))) := by
      refine Cursor.rest_skip (b := b.append i.before) ?_ hx
      rw [h]
      simp [Blanks.append]
    simp only [hskip, if_neg hend]
    split <;> exact ⟨_, rfl⟩
  | false =>
    have hskip : c.skip.rest = ',' :: (i.before.chars ++ (x :: t ++ (i.after.chars ++
        (entries ']' false es ++ rest)))) := by
      refine Cursor.rest_skip (b := b) ?_ (by decide)
      rw [h]
      simp
    simp only [hskip]
    exact ⟨_, rfl⟩

theorem placed_cons (f : Slot σ) (slots : List (Slot σ)) (i : Item) (items : List Item) :
    placed (f :: slots) (i :: items) = (f.name, i.value) :: placed slots items := rfl

theorem lookup_placed {items : List Item} {name : String} (h : name ∉ slots.map (·.name)) :
    (placed slots items).lookup name = none := by
  rw [List.lookup_eq_none_iff]
  intro entry hentry
  refine bne_iff_ne.mpr fun heq => h ?_
  rw [heq]
  exact (List.of_mem_zip hentry).1

/-- The items of a list override the record that was read so far, in the slots that are left. -/
theorem readPositions_sound (hreads : List.Forall₂ (FieldReads slots) more fields) :
    ∀ {items : List Item} {first : Bool} {s s' : σ} {c c' : Cursor} {b : Blanks},
    (more.map (·.name)).Nodup → (∀ f ∈ more, f ∈ slots) → (∀ i ∈ items, IsValue i.value) →
    c.rest = b.chars ++ (entries ']' first (items.map Item.text) ++ rest) →
    readPositions fields first s c = .ok (s', c') →
    items.length ≤ more.length ∧ Overrides more s (placed more items) s' ∧
      (∀ g ∈ slots, g.name ∉ more.map (·.name) → g.get s' = g.get s) ∧ c'.rest = rest := by
  induction hreads with
  | nil =>
    intro items first s s' c c' b _ _ hvalues h hread
    cases items with
    | nil =>
      obtain ⟨c₁, hend, hc₁⟩ := readListEnd_nil h
      rw [readPositions, hend] at hread
      cases hread
      exact ⟨Nat.le_refl 0, fun f hf => absurd hf List.not_mem_nil, fun _ _ _ => rfl, hc₁⟩
    | cons i items =>
      obtain ⟨e, he⟩ := readListEnd_cons (hvalues i List.mem_cons_self) h
      rw [readPositions, he] at hread
      cases hread
  | @cons f field more fields hfield _ ih =>
    intro items first s s' c c' b hdistinct hsub hvalues h hread
    cases items with
    | nil =>
      obtain ⟨c₁, hnext, hc₁⟩ := nextItem_done h
      rw [readPositions, hnext] at hread
      cases hread
      exact ⟨Nat.zero_le _, fun g _ => rfl, fun _ _ _ => rfl, hc₁⟩
    | cons i items =>
      obtain ⟨hi, hmore⟩ := List.forall_mem_cons.mp hvalues
      obtain ⟨c₁, hnext, hc₁⟩ := nextItem_item hi h
      rw [readPositions, hnext] at hread
      dsimp only at hread
      split at hread
      · cases hread
      · next s₁ c₂ hvalue =>
        obtain ⟨hnew, hdistinct'⟩ := List.nodup_cons.mp hdistinct
        obtain ⟨hdenotes, hothers, hc₂⟩ := hfield.sound (b := .none) hi
          (.entries (.inl rfl) i.after (items.map Item.text) rest) hc₁ hvalue
        obtain ⟨hfew, hoverrides, hkept, hc'⟩ := ih hdistinct'
          (fun g hg => hsub g (List.mem_cons_of_mem f hg)) hmore hc₂ hread
        have hfirst : Overrides (f :: more) s₁ (placed more items) s' :=
          List.forall_mem_cons.mpr ⟨by
            rw [lookup_placed hnew]
            exact hkept f (hsub f List.mem_cons_self) hnew, hoverrides⟩
        refine ⟨Nat.succ_le_succ hfew, ?_, fun g hg hne => ?_, hc'⟩
        · rw [placed_cons]
          exact hfirst.cons hdistinct List.mem_cons_self hdenotes
            (fun g hg => hothers g (hsub g hg)) (lookup_placed hnew)
        · obtain ⟨hne, hne'⟩ := not_or.mp (fun h => hne (List.mem_cons.mpr h))
          rw [hkept g hg hne', hothers g hg hne]

/-- Items are read if there are not too many and each denotes something. -/
theorem readPositions_complete (hreads : List.Forall₂ (FieldReads slots) more fields) :
    ∀ {items : List Item} {first : Bool} {s : σ} {c : Cursor} {b : Blanks},
    (more.map (·.name)).Nodup → (∀ i ∈ items, IsValue i.value) → items.length ≤ more.length →
    WellTyped more (placed more items) →
    c.rest = b.chars ++ (entries ']' first (items.map Item.text) ++ rest) →
    ∃ r, readPositions fields first s c = .ok r := by
  induction hreads with
  | nil =>
    intro items first s c b _ _ hfew _ h
    obtain rfl := List.length_eq_zero_iff.mp (Nat.le_zero.mp hfew)
    obtain ⟨c₁, hend, -⟩ := readListEnd_nil h
    exact ⟨(s, c₁), by rw [readPositions, hend]; rfl⟩
  | @cons f field more fields hfield _ ih =>
    intro items first s c b hdistinct hvalues hfew htyped h
    cases items with
    | nil =>
      obtain ⟨c₁, hnext, -⟩ := nextItem_done h
      exact ⟨(s, c₁), by rw [readPositions, hnext]⟩
    | cons i items =>
      obtain ⟨hnew, hdistinct'⟩ := List.nodup_cons.mp hdistinct
      obtain ⟨hi, hmore⟩ := List.forall_mem_cons.mp hvalues
      rw [placed_cons] at htyped
      obtain ⟨a, ha⟩ := htyped f List.mem_cons_self _ (lookup_cons_self _ _ _)
      have hends := Ends.entries (.inl rfl) i.after (items.map Item.text) rest
      obtain ⟨c₁, hnext, hc₁⟩ := nextItem_item hi h
      obtain ⟨⟨s₁, c₂⟩, hread⟩ := hfield.complete (b := .none) (s := s) ha hends hc₁
      obtain ⟨-, -, hc₂⟩ := hfield.sound (b := .none) hi hends hc₁ hread
      rw [readPositions, hnext]
      dsimp only
      rw [hread]
      refine ih hdistinct' hmore (Nat.le_of_succ_le_succ hfew) (fun g hg v hv => ?_) hc₂
      have hne : g.name ≠ f.name := fun heq => hnew (List.mem_map.mpr ⟨g, hg, heq⟩)
      exact htyped g (List.mem_cons_of_mem f hg) v (by rw [lookup_cons_ne hne, hv])

/-! ## Records -/

theorem Overrides.wellTyped {defaults s : σ} {given : List (String × List Char)}
    (h : Overrides slots defaults given s) : WellTyped slots given := by
  intro f hf v hv
  have hholds := h f hf
  rw [hv] at hholds
  exact ⟨_, hholds⟩

theorem RecordText.head? {defaults s : σ} {v : List Char} (h : RecordText slots defaults v s) :
    v.head? = some '\x7b' ∨ v.head? = some '[' := by
  cases h with
  | object => exact .inl rfl
  | list => exact .inr rfl

variable (hdescribes : Describes fields slots) (title : String) (defaults : σ)

include hdescribes

section Object

variable {lead : Blanks} {members : List Member}
  (hvalues : ∀ m ∈ members, IsValue m.item.value)
  (h : c.rest = b.chars ++ (objectText lead members ++ rest))

include hvalues h

/-- An object that is read as a record overrides the defaults, and is read to its end. -/
theorem readRecord_object_sound {s : σ} {c' : Cursor}
    (hread : readRecord title fields defaults c = .ok (s, c')) :
    Gives slots defaults members s ∧ c'.rest = rest := by
  have hskip := Cursor.rest_skip h (by decide)
  have hbehind := (Cursor.rest_advance_one hskip).trans (List.append_assoc ..)
  unfold readRecord at hread
  dsimp only at hread
  rw [if_pos (by rw [hskip]; rfl)] at hread
  obtain ⟨hgives, -, hc'⟩ := readMembers_sound hdescribes members hvalues hbehind hread
  exact ⟨hgives, hc'⟩

theorem readRecord_object_complete (hnamed : WellNamed slots members)
    (htyped : WellTyped slots (named members)) : ∃ r, readRecord title fields defaults c = .ok r := by
  have hskip := Cursor.rest_skip h (by decide)
  have hbehind := (Cursor.rest_advance_one hskip).trans (List.append_assoc ..)
  have hlength := length_le_entries '\x7d' true (members.map Member.text)
  rw [List.length_map] at hlength
  unfold readRecord
  dsimp only
  rw [if_pos (by rw [hskip]; rfl)]
  refine readMembers_complete hdescribes members ?_ hvalues hnamed
    (fun _ _ _ _ _ => List.not_mem_nil) htyped hbehind
  rw [hbehind, List.length_append, List.length_append]
  omega

end Object

section List

variable {lead : Blanks} {items : List Item} (hvalues : ∀ i ∈ items, IsValue i.value)
  (h : c.rest = b.chars ++ (arrayText lead items ++ rest))

include hvalues h

/-- A list that is read as a record overrides the defaults, and is read to its end. -/
theorem readRecord_list_sound {s : σ} {c' : Cursor}
    (hread : readRecord title fields defaults c = .ok (s, c')) :
    items.length ≤ slots.length ∧ Overrides slots defaults (placed slots items) s ∧ c'.rest = rest := by
  have hskip := Cursor.rest_skip h (by decide)
  have hbehind := (Cursor.rest_advance_one hskip).trans (List.append_assoc ..)
  unfold readRecord at hread
  dsimp only at hread
  rw [if_neg (by rw [hskip]; exact fun h => by cases h), if_pos (by rw [hskip]; rfl)] at hread
  obtain ⟨hfew, hoverrides, -, hc'⟩ := readPositions_sound hdescribes.reads hdescribes.distinct
    (fun f hf => hf) hvalues hbehind hread
  exact ⟨hfew, hoverrides, hc'⟩

theorem readRecord_list_complete (hfew : items.length ≤ slots.length)
    (htyped : WellTyped slots (placed slots items)) :
    ∃ r, readRecord title fields defaults c = .ok r := by
  have hskip := Cursor.rest_skip h (by decide)
  have hbehind := (Cursor.rest_advance_one hskip).trans (List.append_assoc ..)
  unfold readRecord
  dsimp only
  rw [if_neg (by rw [hskip]; exact fun h => by cases h), if_pos (by rw [hskip]; rfl)]
  exact readPositions_complete hdescribes.reads hdescribes.distinct hvalues hfew htyped hbehind

end List

/-- A record is read in either form. -/
theorem Describes.reads_record : Reads (readRecord title fields defaults) (RecordText slots defaults) where
  isValue := by
    intro v s hv
    cases hv with
    | object b members s values => exact .object b members values
    | list b items s values => exact .array b items values
  complete := by
    intro v s b rest c hv _ h
    cases hv with
    | object lead members s values gives =>
      obtain ⟨⟨s', c'⟩, hread⟩ := readRecord_object_complete hdescribes title defaults
        values h gives.wellNamed gives.overrides.wellTyped
      obtain ⟨hgives, hc'⟩ := readRecord_object_sound hdescribes title defaults values h hread
      exact ⟨c', by rw [hread, hgives.overrides.unique hdescribes gives.overrides], hc'⟩
    | list lead items s values few overrides =>
      obtain ⟨⟨s', c'⟩, hread⟩ := readRecord_list_complete hdescribes title defaults
        values h few overrides.wellTyped
      obtain ⟨-, hoverrides, hc'⟩ := readRecord_list_sound hdescribes title defaults values h hread
      exact ⟨c', by rw [hread, hoverrides.unique hdescribes overrides], hc'⟩
  sound := by
    intro v s b rest c c' hv _ h hread
    obtain ⟨hskip, hhead⟩ := Cursor.rest_skip_value hv h
    by_cases hbrace : v.head? = some '\x7b'
    · obtain ⟨lead, members, rfl, values⟩ := hv.eq_objectText hbrace
      obtain ⟨hgives, hc'⟩ := readRecord_object_sound hdescribes title defaults values h hread
      exact ⟨.object lead members s values hgives, hc'⟩
    by_cases hbracket : v.head? = some '['
    · obtain ⟨lead, items, rfl, values⟩ := hv.eq_arrayText hbracket
      obtain ⟨hfew, hoverrides, hc'⟩ := readRecord_list_sound hdescribes title defaults values h hread
      exact ⟨.list lead items s values hfew hoverrides, hc'⟩
    · unfold readRecord at hread
      dsimp only at hread
      rw [hhead, if_neg hbrace, if_neg hbracket] at hread
      exact absurd hread wrongType_ne_ok

/-- What an object gives is told by its members. -/
theorem Describes.recordText_objectText_iff {lead : Blanks} {members : List Member} {s : σ}
    (hvalues : ∀ m ∈ members, IsValue m.item.value) :
    RecordText slots defaults (objectText lead members) s ↔ Gives slots defaults members s := by
  refine ⟨fun h => ?_, .object lead members s hvalues⟩
  have htext : (⟨{}, objectText lead members⟩ : Cursor).rest =
      Blanks.none.chars ++ (objectText lead members ++ []) := (List.append_nil _).symm
  obtain ⟨c', hread, -⟩ := (hdescribes.reads_record "" defaults).complete h .nil htext
  exact (readRecord_object_sound hdescribes "" defaults hvalues htext hread).1

/-- What a list gives is told by its items. -/
theorem Describes.recordText_arrayText_iff {lead : Blanks} {items : List Item} {s : σ}
    (hvalues : ∀ i ∈ items, IsValue i.value) :
    RecordText slots defaults (arrayText lead items) s ↔
      items.length ≤ slots.length ∧ Overrides slots defaults (placed slots items) s := by
  refine ⟨fun h => ?_, fun h => .list lead items s hvalues h.1 h.2⟩
  have htext : (⟨{}, arrayText lead items⟩ : Cursor).rest =
      Blanks.none.chars ++ (arrayText lead items ++ []) := (List.append_nil _).symm
  obtain ⟨c', hread, -⟩ := (hdescribes.reads_record "" defaults).complete h .nil htext
  obtain ⟨hfew, hoverrides, -⟩ := readRecord_list_sound hdescribes "" defaults hvalues htext hread
  exact ⟨hfew, hoverrides⟩

/-- Items that are not too many and well typed give a record. -/
theorem Describes.exists_overrides {items : List Item} (hvalues : ∀ i ∈ items, IsValue i.value)
    (hfew : items.length ≤ slots.length) (htyped : WellTyped slots (placed slots items)) :
    ∃ s, Overrides slots defaults (placed slots items) s := by
  have htext : (⟨{}, arrayText .none items⟩ : Cursor).rest =
      Blanks.none.chars ++ (arrayText .none items ++ []) := (List.append_nil _).symm
  obtain ⟨⟨s, c'⟩, hread⟩ := readRecord_list_complete hdescribes "" defaults hvalues htext hfew htyped
  exact ⟨s, (readRecord_list_sound hdescribes "" defaults hvalues htext hread).2.1⟩

/-- Members that are well named and well typed give a record. -/
theorem Describes.exists_gives {members : List Member} (hvalues : ∀ m ∈ members, IsValue m.item.value)
    (hnamed : WellNamed slots members) (htyped : WellTyped slots (named members)) :
    ∃ s, Gives slots defaults members s := by
  have htext : (⟨{}, objectText .none members⟩ : Cursor).rest =
      Blanks.none.chars ++ (objectText .none members ++ []) := (List.append_nil _).symm
  obtain ⟨⟨s, c'⟩, hread⟩ :=
    readRecord_object_complete hdescribes "" defaults hvalues htext hnamed htyped
  exact ⟨s, (readRecord_object_sound hdescribes "" defaults hvalues htext hread).1⟩

theorem Describes.recordForms (hnull : ∀ f ∈ slots, ∀ a, ¬ f.Denotes ['n', 'u', 'l', 'l'] a) :
    RecordForms slots defaults where
  object := hdescribes.recordText_objectText_iff defaults
  empty _ := (hdescribes.recordText_objectText_iff defaults fun _ h => absurd h List.not_mem_nil).mpr
    ⟨⟨fun _ h => absurd h List.not_mem_nil, .nil⟩, fun _ _ => rfl⟩
  kinds := RecordText.head?
  null := hnull

/-! ## Whole texts -/

omit hdescribes in
/-- A whole text is read as what its value denotes. -/
theorem Reads.readWhole_iff {α : Type} {read : Cursor → Except ReadError (α × Cursor)}
    {Denotes : List Char → α → Prop} (h : Reads read Denotes) {before after : Blanks} {v : List Char}
    (hv : IsValue v) {a : α} {text : String}
    (htext : text.toList = before.chars ++ (v ++ after.chars)) :
    readWhole read text = .ok a ↔ Denotes v a := by
  have hstart : (Cursor.ofText text).rest = before.chars ++ (v ++ after.chars) := htext
  unfold readWhole
  constructor
  · intro hread
    split at hread
    · cases hread
    · next a' c' hok =>
      dsimp only at hread
      split at hread
      · cases hread
        exact (h.sound hv (.of_blanks after) hstart hok).1
      · cases hread
  · intro hdenotes
    obtain ⟨c', hok, hc'⟩ := h.complete hdenotes (.of_blanks after) hstart
    have hend : c'.skip.rest = [] :=
      c'.rest_skip_eq_nil_iff.mpr fun x hx => after.isSpace (hc' ▸ hx)
    rw [hok]
    dsimp only
    rw [if_pos hend]

/-- A text is read as what its object gives, if nothing but blanks is behind the object. -/
theorem Describes.readWhole_object_iff {before lead : Blanks} {members : List Member} {after : List Char}
    {s : σ} (hvalues : ∀ m ∈ members, IsValue m.item.value) {text : String}
    (htext : text.toList = before.chars ++ (objectText lead members ++ after)) :
    readWhole (readRecord title fields defaults) text = .ok s ↔
      Gives slots defaults members s ∧ ∀ x ∈ after, Cursor.isSpace x = true := by
  have hstart : (Cursor.ofText text).rest = before.chars ++ (objectText lead members ++ after) := htext
  unfold readWhole
  constructor
  · intro h
    split at h
    · cases h
    · next s' c' hread =>
      obtain ⟨hgives, hc'⟩ := readRecord_object_sound hdescribes title defaults hvalues hstart hread
      dsimp only at h
      split at h
      · next hend =>
        cases h
        exact ⟨hgives, hc' ▸ c'.rest_skip_eq_nil_iff.mp hend⟩
      · cases h
  · rintro ⟨hgives, hafter⟩
    obtain ⟨⟨s', c'⟩, hread⟩ := readRecord_object_complete hdescribes title defaults hvalues hstart
      hgives.wellNamed hgives.overrides.wellTyped
    obtain ⟨hgives', hc'⟩ := readRecord_object_sound hdescribes title defaults hvalues hstart hread
    have hend : c'.skip.rest = [] := c'.rest_skip_eq_nil_iff.mpr (hc' ▸ hafter)
    rw [hread]
    dsimp only
    rw [if_pos hend, hgives'.overrides.unique hdescribes hgives.overrides]

end HardenAudit.Json
