import HardenAudit.Proofs.Printing

/-!
# Written values are read back

A text of the grammar denotes a value if it is null, a natural number of any size, or made of such values and
of strings that spell texts.  The reader of values reads each such text as what it denotes, and so a text
denotes one value at most.  The written form of a value denotes it: whatever characters its strings and
names are made of, it is read back, and different values are written differently.

The steps of the reader count the levels of nesting, and no text is nested deeper than it is long.

    the members of an object are read up to its end                    (readEntries_complete)
    a text is read as the value that it denotes                        (readValue_denotes, parse_of_denotes)
    a written value denotes itself, and nothing else                   (denotes_prettyAt, denotes_pretty_iff)
-/

namespace HardenAudit.Json

/-! ## Algorithm -/

variable {α : Type}

/-- The members of an object and its end. -/
def readEntries (read : Cursor → Except ReadError (α × Cursor)) :
    Nat → (first : Bool) → Cursor → Except ReadError (List (String × α) × Cursor)
  | 0, _, c => c.fail .endOfObject
  | fuel + 1, first, c =>
    match nextKey first c with
    | .error e => .error e
    | .ok (.done c) => .ok ([], c)
    | .ok (.key c) =>
      match readString c with
      | .error e => .error e
      | .ok (key, c) =>
        match readColon c with
        | .error e => .error e
        | .ok c =>
          match read c with
          | .error e => .error e
          | .ok (a, c) => (readEntries read fuel false c).map fun (es, c) => ((key, a) :: es, c)

/-- A natural number of any size. -/
def readNatural (c : Cursor) : Except ReadError (Nat × Cursor) :=
  let ds := digits c
  let c' := c.advance ds.length
  if ds.head? = some '0' ∧ ds.length > 1 then (c.advance 1).failPeek .invalidNumber
  else if c'.rest.head? = some '.' ∨ c'.rest.head? = some 'e' ∨ c'.rest.head? = some 'E' then
    c'.failPeek .invalidNumber
  else .ok (Nat.ofDigitChars 10 ds 0, c')

/-- A value that is nested in no more than so many levels.  Truth values and numbers with a sign, a fraction
or an exponent are refused: no report and no settings hold them. -/
def readValue : (depth : Nat) → Cursor → Except ReadError (Json × Cursor)
  | 0, c => c.fail .endOfValue
  | depth + 1, c =>
    let c := c.skip
    match c.rest with
    | [] => c.failPeek .endOfValue
    | x :: _ =>
      if x = 'n' then (readLetters ['n', 'u', 'l', 'l'] c).map fun c => (.null, c)
      else if x.isDigit then (readNatural c).map fun (n, c) => (.number n, c)
      else if x = '"' then (readString c).map fun (s, c) => (.string s, c)
      else if x = '[' then
        let c := c.advance 1
        (readItems (readValue depth) (c.rest.length + 1) true c).map fun (items, c) => (.array items, c)
      else if x = '\x7b' then
        let c := c.advance 1
        (readEntries (readValue depth) (c.rest.length + 1) true c).map fun (members, c) =>
          (.object members, c)
      else c.failPeek .expectedValue

/-- Reads a whole text as one value. -/
def parse (text : String) : Except ReadError Json := readWhole (readValue text.toList.length) text

/-- The texts of values, and what they denote. -/
inductive Denotes : List Char → Json → Prop where
  | null : Denotes ['n', 'u', 'l', 'l'] .null
  | number (w : Whole) : Denotes w.chars (.number w.value)
  | string {v : List Char} {s : String} (spells : Spells v s) : Denotes v (.string s)
  | array (b : Blanks) (items : List Item) (values : List Json) (length : items.length = values.length)
    (each : ∀ e ∈ items.zip values, Denotes e.1.value e.2) : Denotes (arrayText b items) (.array values)
  | object (b : Blanks) (members : List Member) (values : List (String × Json))
    (keys : members.map Member.key? = values.map fun e => some e.1)
    (each : ∀ e ∈ members.zip values, Denotes e.1.item.value e.2.2) :
    Denotes (objectText b members) (.object values)

/-! ## Members -/

section

variable {read : Cursor → Except ReadError (α × Cursor)} {rest : List Char}

/-- Members are read up to the end of their object. -/
theorem readEntries_complete {members : List Member} {values : List (String × α)}
    (h : List.Forall₂ (fun m e => m.key? = some e.1 ∧ ReadsAs read m.item.value e.2) members values) :
    ∀ {fuel : Nat} {first : Bool} {c : Cursor} {b : Blanks}, members.length < fuel →
      c.rest = b.chars ++ (entries '\x7d' first (members.map Member.text) ++ rest) →
      ∃ c', readEntries read fuel first c = .ok (values, c') ∧ c'.rest = rest := by
  induction h with
  | nil =>
    intro fuel first c b hfuel htext
    obtain ⟨fuel, rfl⟩ : ∃ k, fuel = k + 1 := ⟨fuel - 1, by omega⟩
    obtain ⟨c', hnext, hc'⟩ := nextKey_done htext
    exact ⟨c', by rw [readEntries, hnext], hc'⟩
  | @cons m e members values hm _ ih =>
    intro fuel first c b hfuel htext
    rw [List.length_cons] at hfuel
    obtain ⟨fuel, rfl⟩ : ∃ k, fuel = k + 1 := ⟨fuel - 1, by omega⟩
    obtain ⟨hkey, hreads⟩ := hm
    obtain ⟨c₀, hnext, hc₀⟩ := nextKey_key htext
    have hname := readString_closed m.name hc₀
    rw [show (spell? m.name).map String.ofList = some e.1 from hkey] at hname
    obtain ⟨c₁, hname, hc₁⟩ := hname
    have hcolon := Cursor.rest_skip hc₁ (by decide)
    have hitem : (c₁.skip.advance 1).rest = m.item.before.chars ++ (m.item.value ++
        (m.item.after.chars ++ (entries '\x7d' false (members.map Member.text) ++ rest))) := by
      rw [Cursor.rest_advance_one hcolon, Item.text, List.append_assoc, List.append_assoc]
    have hbehind : readColon c₁ = .ok (c₁.skip.advance 1) := by
      unfold readColon
      simp only [hcolon, if_true]
    obtain ⟨c₂, hread, hc₂⟩ := hreads (b := m.item.before) (.entries (.inr rfl) m.item.after _ rest) hitem
    obtain ⟨c', hmore, hc'⟩ := ih (Nat.lt_of_succ_lt_succ hfuel) hc₂
    refine ⟨c', ?_, hc'⟩
    rw [readEntries, hnext]
    simp only [hname, hbehind, hread, hmore]
    rfl

end

/-! ## Numbers -/

theorem readNatural_whole (w : Whole) {c : Cursor} {rest : List Char} (hrest : Ends rest)
    (h : c.rest = w.chars ++ rest) : ∃ c', readNatural c = .ok (w.value, c') ∧ c'.rest = rest := by
  have hbehind := Cursor.rest_advance_append h
  have hdigits := digits_eq w.toDigits h fun x hx => (hrest x hx).1
  have hmark : ¬ ((c.advance w.chars.length).rest.head? = some '.' ∨
      (c.advance w.chars.length).rest.head? = some 'e' ∨
      (c.advance w.chars.length).rest.head? = some 'E') := by
    rw [hbehind]
    rintro (h | h | h)
    · exact (hrest _ h).2.1 rfl
    · exact (hrest _ h).2.2.1 rfl
    · exact (hrest _ h).2.2.2 rfl
  refine ⟨c.advance w.chars.length, ?_, hbehind⟩
  unfold readNatural
  simp only [hdigits, if_neg w.not_leading, if_neg hmark]
  rfl

/-! ## Values -/

/-- No entry is longer than all of them. -/
theorem length_le_entries_of_mem (close : Char) {e : List Char} : ∀ {es : List (List Char)} (first : Bool),
    e ∈ es → e.length ≤ (entries close first es).length
  | [], _, h => absurd h List.not_mem_nil
  | e' :: es, first, h => by
    rw [entries, List.length_append, List.length_append]
    rcases List.mem_cons.mp h with rfl | h
    · omega
    · have := length_le_entries_of_mem close false h
      omega

/-- The first step of reading a text leads over the blanks in front of it. -/
theorem readsAs_cons {x : Char} {t : List Char} {a : Json} (hx : Cursor.isSpace x = false)
    (hstep : ∀ (depth : Nat) (c : Cursor) (rest : List Char), t.length ≤ depth → Ends rest →
      c.skip.rest = x :: (t ++ rest) → ∃ c', readValue (depth + 1) c = .ok (a, c') ∧ c'.rest = rest)
    {depth : Nat} (hdepth : (x :: t).length ≤ depth) : ReadsAs (readValue depth) (x :: t) a := by
  intro c b rest hrest h
  rw [List.length_cons] at hdepth
  obtain ⟨depth, rfl⟩ : ∃ k, depth = k + 1 := ⟨depth - 1, by omega⟩
  exact hstep depth c rest (by omega) hrest (Cursor.rest_skip h hx)

theorem readsAs_number (w : Whole) {depth : Nat} (hdepth : w.chars.length ≤ depth) :
    ReadsAs (readValue depth) w.chars (.number w.value) := by
  obtain ⟨d, t, hchars, hd⟩ := w.exists_cons
  obtain ⟨hspace, hmark⟩ := not_mark_of_isDigit hd
  rw [hchars] at hdepth ⊢
  refine readsAs_cons hspace (fun depth c rest _ hrest h => ?_) hdepth
  have hn : d ≠ 'n' := fun h => hmark (by rw [h]; decide)
  obtain ⟨c', hread, hc'⟩ := readNatural_whole w hrest (by rw [h, hchars]; rfl)
  refine ⟨c', ?_, hc'⟩
  rw [readValue]
  simp only [h, if_neg hn, hd, if_true, hread]
  rfl

theorem readsAs_string {v : List Char} {s : String} (hv : Spells v s) {depth : Nat}
    (hdepth : v.length ≤ depth) : ReadsAs (readValue depth) v (.string s) := by
  obtain ⟨pieces, rfl, hspell⟩ := hv
  refine readsAs_cons rfl (fun depth c rest _ _ h => ?_) hdepth
  rw [closed, List.append_assoc] at h
  have hread := readString_closed pieces h
  rw [hspell, Option.map_some, String.ofList_toList] at hread
  obtain ⟨c', hread, hc'⟩ := hread
  refine ⟨c', ?_, hc'⟩
  rw [readValue]
  simp only [h, hread]
  rfl

/-- An array is read if its items are. -/
theorem readsAs_array {b : Blanks} {items : List Item} {values : List Json}
    (hitems : ∀ depth, (∀ i ∈ items, i.value.length ≤ depth) → List.Forall₂
      (fun i a => IsValue i.value ∧ ReadsAs (readValue depth) i.value a) items values)
    {depth : Nat} (hdepth : (arrayText b items).length ≤ depth) :
    ReadsAs (readValue depth) (arrayText b items) (.array values) := by
  refine readsAs_cons rfl (fun depth c rest hdepth _ h => ?_) hdepth
  have hbehind := (Cursor.rest_advance_one h).trans (List.append_assoc ..)
  have hlength := length_le_entries ']' true (items.map Item.text)
  rw [List.length_map] at hlength
  rw [List.length_append] at hdepth
  have hshort : ∀ i ∈ items, i.value.length ≤ depth := by
    intro i hi
    have := length_le_entries_of_mem ']' true (List.mem_map_of_mem (f := Item.text) hi)
    rw [Item.text, List.length_append, List.length_append] at this
    omega
  have hfuel : items.length < (c.skip.advance 1).rest.length + 1 := by
    rw [hbehind, List.length_append, List.length_append]
    omega
  obtain ⟨c', hread, hc'⟩ := readItems_complete (hitems depth hshort) hfuel hbehind
  refine ⟨c', ?_, hc'⟩
  rw [readValue]
  simp only [h, hread]
  rfl

/-- An object is read if the values of its members are. -/
theorem readsAs_object {b : Blanks} {members : List Member} {values : List (String × Json)}
    (hmembers : ∀ depth, (∀ m ∈ members, m.item.value.length ≤ depth) → List.Forall₂
      (fun m e => m.key? = some e.1 ∧ ReadsAs (readValue depth) m.item.value e.2) members values)
    {depth : Nat} (hdepth : (objectText b members).length ≤ depth) :
    ReadsAs (readValue depth) (objectText b members) (.object values) := by
  refine readsAs_cons rfl (fun depth c rest hdepth _ h => ?_) hdepth
  have hbehind := (Cursor.rest_advance_one h).trans (List.append_assoc ..)
  have hlength := length_le_entries '\x7d' true (members.map Member.text)
  rw [List.length_map] at hlength
  rw [List.length_append] at hdepth
  have hshort : ∀ m ∈ members, m.item.value.length ≤ depth := by
    intro m hm
    have := length_le_entries_of_mem '\x7d' true (List.mem_map_of_mem (f := Member.text) hm)
    simp only [Member.text, Item.text, List.length_append, List.length_cons, length_closed] at this
    omega
  have hfuel : members.length < (c.skip.advance 1).rest.length + 1 := by
    rw [hbehind, List.length_append, List.length_append]
    omega
  obtain ⟨c', hread, hc'⟩ := readEntries_complete (hmembers depth hshort) hfuel hbehind
  refine ⟨c', ?_, hc'⟩
  rw [readValue]
  simp only [h, hread]
  rfl

/-- **A text is read as the value that it denotes.** -/
theorem readValue_denotes {v : List Char} {a : Json} (h : Denotes v a) :
    IsValue v ∧ ∀ depth, v.length ≤ depth → ReadsAs (readValue depth) v a := by
  induction h with
  | null =>
    refine ⟨.null, fun depth hdepth => readsAs_cons rfl (fun depth c rest _ _ h => ?_) hdepth⟩
    obtain ⟨c', hread, hc'⟩ := readLetters_append ['n', 'u', 'l', 'l'] h
    refine ⟨c', ?_, hc'⟩
    rw [readValue]
    simp only [h, hread]
    rfl
  | number w => exact ⟨w.text_literal ▸ .number w.literal, fun _ => readsAs_number w⟩
  | string spells => exact ⟨(reads_string "a string").isValue spells, fun _ => readsAs_string spells⟩
  | array b items values length each ih =>
    have hall : List.Forall₂ (fun i a => IsValue i.value ∧ ∀ depth, i.value.length ≤ depth →
        ReadsAs (readValue depth) i.value a) items values :=
      List.forall₂_iff_zip.mpr ⟨length, fun h => ih _ h⟩
    obtain ⟨hvalues, hreads⟩ := (List.forall₂_and_left items values).mp hall
    refine ⟨.array b items hvalues, fun _ => readsAs_array fun depth hshort => ?_⟩
    have hitems := (List.forall₂_and_left items values).mpr
      ⟨fun i hi => And.intro (hvalues i hi) (hshort i hi), hreads⟩
    exact hitems.imp fun i a h => ⟨h.1.1, h.2 depth h.1.2⟩
  | object b members values keys each ih =>
    rw [← List.forall₂_eq_eq_eq, List.forall₂_map_left_iff, List.forall₂_map_right_iff] at keys
    obtain ⟨length, hkeys⟩ := List.forall₂_iff_zip.mp keys
    have hall : List.Forall₂ (fun m e => IsValue m.item.value ∧ m.key? = some e.1 ∧ ∀ depth,
        m.item.value.length ≤ depth → ReadsAs (readValue depth) m.item.value e.2) members values :=
      List.forall₂_iff_zip.mpr ⟨length, fun h => ⟨(ih _ h).1, hkeys h, (ih _ h).2⟩⟩
    obtain ⟨hvalues, hreads⟩ := (List.forall₂_and_left members values).mp hall
    refine ⟨.object b members hvalues, fun _ => readsAs_object fun depth hshort => ?_⟩
    have hmembers := (List.forall₂_and_left members values).mpr ⟨hshort, hreads⟩
    exact hmembers.imp fun m e h => ⟨h.2.1, h.2.2 depth h.1⟩

/-- A whole text is read as the value that it denotes, and so it denotes one value at most. -/
theorem parse_of_denotes {text : String} {a : Json} (h : Denotes text.toList a) : parse text = .ok a := by
  have hstart : (Cursor.ofText text).rest = Blanks.none.chars ++ (text.toList ++ []) :=
    (List.append_nil _).symm
  obtain ⟨c', hread, hc'⟩ := (readValue_denotes h).2 _ (Nat.le_refl _) .nil hstart
  have hend : c'.skip.rest = [] := by
    rw [Cursor.rest_skip_eq_nil_iff, hc']
    exact fun x hx => absurd hx List.not_mem_nil
  unfold parse readWhole
  rw [hread]
  dsimp only
  rw [if_pos hend]

/-! ## Written values -/

theorem values_membersAt (depth : Nat) (members : List (String × Json)) :
    (membersAt depth members).map (fun m => m.item.value) =
      members.map fun e => prettyAt (depth + 1) e.2 :=
  map_laidOut (fun m : Member => m.item.value) (fun e : String × Json => prettyAt (depth + 1) e.2)
    (fun _ _ => rfl) members

mutual

/-- The written form of a value denotes it. -/
theorem denotes_prettyAt : ∀ (a : Json) (depth : Nat), Denotes (prettyAt depth a) a
  | .null, _ => .null
  | .number n, _ => by
    have h := Denotes.number (wholeOf n)
    rwa [value_wholeOf] at h
  | .string s, depth => .string (spells_string depth s)
  | .array items, depth => by
    have hall : List.Forall₂ (fun i a => Denotes i.value a) (itemsAt depth items) items := by
      rw [← List.forall₂_map_left_iff, values_itemsAt, List.forall₂_map_left_iff, List.forall₂_same]
      exact denotes_items items (depth + 1)
    obtain ⟨length, each⟩ := List.forall₂_iff_zip.mp hall
    rw [prettyAt_array]
    exact .array _ _ _ length fun e he => each he
  | .object members, depth => by
    have hall : List.Forall₂ (fun m e => Denotes m.item.value e.2) (membersAt depth members) members := by
      have h : List.Forall₂ Denotes ((membersAt depth members).map fun m => m.item.value)
          (members.map (·.2)) := by
        rw [values_membersAt, List.forall₂_map_left_iff, List.forall₂_map_right_iff, List.forall₂_same]
        exact denotes_members members (depth + 1)
      rwa [List.forall₂_map_left_iff, List.forall₂_map_right_iff] at h
    have keys : (membersAt depth members).map Member.key? = members.map fun e => some e.1 :=
      map_laidOut _ _ (fun b e => key?_memberAt depth b e) members
    rw [prettyAt_object]
    exact .object _ _ _ keys fun e he => (List.forall₂_iff_zip.mp hall).2 he

theorem denotes_items : ∀ (items : List Json) (depth : Nat), ∀ a ∈ items, Denotes (prettyAt depth a) a
  | [], _ => fun _ h => absurd h List.not_mem_nil
  | a :: items, depth => List.forall_mem_cons.mpr ⟨denotes_prettyAt a depth, denotes_items items depth⟩

theorem denotes_members : ∀ (members : List (String × Json)) (depth : Nat), ∀ e ∈ members,
    Denotes (prettyAt depth e.2) e.2
  | [], _ => fun _ h => absurd h List.not_mem_nil
  | (_, a) :: members, depth =>
    List.forall_mem_cons.mpr ⟨denotes_prettyAt a depth, denotes_members members depth⟩

end

theorem denotes_pretty (a : Json) : Denotes a.pretty.toList a := by
  unfold pretty
  rw [String.toList_ofList]
  exact denotes_prettyAt a 0

/-- A written value is read back. -/
theorem parse_pretty (a : Json) : parse a.pretty = .ok a := parse_of_denotes (denotes_pretty a)

/-- A written value denotes nothing but itself. -/
theorem denotes_pretty_iff (a b : Json) : Denotes a.pretty.toList b ↔ b = a := by
  constructor
  · intro h
    have hread := parse_of_denotes h
    rw [parse_pretty] at hread
    exact (Except.ok.inj hread).symm
  · rintro rfl
    exact denotes_pretty b

end HardenAudit.Json
