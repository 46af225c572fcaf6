import HardenAudit.Json.Value
import HardenAudit.Proofs.Records

/-!
# What is written is a JSON text

The written form of a value, with one entry per line, is a value of the grammar.  A string is written with
one piece per character, so that its pieces spell it again, and a number as its digits without a needless
zero.  The entries of an array or an object are items or members with a line break in front; the last one
has another line break behind it.

    the pieces of a written string spell it                            (spells_quote)
    the digits of a written number have its value                      (isWord_number)
    the written form of a value is a value                             (isValue_prettyAt)
    a written array or object has its entries, in order                (prettyAt_array, prettyAt_object)
-/

namespace HardenAudit.Json

/-! ## Strings -/

/-- Two hexadecimal digits of a control character, behind two zeros. -/
def controlUnit (c : Char) (h : c.toNat < 0x20) : CodeUnit where
  first := ⟨0, false⟩
  second := ⟨0, false⟩
  third := ⟨⟨c.toNat / 16, by omega⟩, false⟩
  fourth := ⟨⟨c.toNat % 16, by omega⟩, false⟩

/-- The piece that a character is written as. -/
def pieceOf (c : Char) : Piece :=
  if hquote : c = '"' then .escape .quote
  else if hbackslash : c = '\\' then .escape .backslash
  else if c.toNat = 8 then .escape .backspace
  else if c.toNat = 12 then .escape .formFeed
  else if c = '\n' then .escape .lineFeed
  else if c = '\r' then .escape .carriageReturn
  else if c = '\t' then .escape .tab
  else if hcontrol : c.toNat < 0x20 then .unit (controlUnit c hcontrol)
  else .plain ⟨c, hquote, hbackslash, Nat.le_of_not_lt hcontrol⟩

/-- The pieces that a text is written as. -/
def piecesOf (s : String) : List Piece := s.toList.map pieceOf

theorem text_pieceOf (c : Char) : (pieceOf c).text = Json.escape c := by
  unfold pieceOf Json.escape
  repeat' split
  all_goals rfl

theorem char_eq_ofNat {c : Char} {n : Nat} (h : c.toNat = n) : c = Char.ofNat n := by
  rw [← h, Char.ofNat_toNat]

theorem spell?_cons_pieceOf (c : Char) (pieces : List Piece) :
    spell? (pieceOf c :: pieces) = (spell? pieces).map (c :: ·) := by
  unfold pieceOf
  split
  · next h => rw [h]; rfl
  split
  · next h => rw [h]; rfl
  split
  · next h => rw [char_eq_ofNat h]; rfl
  split
  · next h => rw [char_eq_ofNat h]; rfl
  split
  · next h => rw [h]; rfl
  split
  · next h => rw [h]; rfl
  split
  · next h => rw [h]; rfl
  split
  · next h =>
    have hcode : (controlUnit c h).code = c.toNat := by
      show ((0 * 16 + 0) * 16 + c.toNat / 16) * 16 + c.toNat % 16 = c.toNat
      omega
    have hlow : ¬ (controlUnit c h).Low := fun hlow => by
      have := hlow.1
      omega
    have hhigh : ¬ (controlUnit c h).High := fun hhigh => by
      have := hhigh.1
      omega
    rw [spell?_basic hlow hhigh, hcode, Char.ofNat_toNat]
  · rfl

theorem spell?_piecesOf (s : String) : spell? (piecesOf s) = some s.toList := by
  unfold piecesOf
  induction s.toList with
  | nil => rfl
  | cons c cs ih => rw [List.map_cons, spell?_cons_pieceOf, ih, Option.map_some]

theorem quote_eq (s : String) : Json.quote s = stringText (piecesOf s) := by
  unfold Json.quote stringText closed piecesOf
  rw [List.flatMap_map, List.cons_append]
  congr 2
  exact congrArg (s.toList.flatMap ·) (funext fun c => (text_pieceOf c).symm)

/-- A written string is read back. -/
theorem spells_quote (s : String) : Spells (Json.quote s) s := ⟨_, quote_eq s, spell?_piecesOf s⟩

/-! ## Numbers -/

/-- The digits of a number have no needless zero in front. -/
theorem toDigits_leading (n : Nat) : (Nat.toDigits 10 n).head? = some '0' → Nat.toDigits 10 n = ['0'] := by
  induction n using Nat.strongRecOn with
  | ind n ih =>
    rw [Nat.toDigits_eq_if (by decide)]
    split
    · intro h
      rw [Option.some.inj h]
    · next hn =>
      have hlt : n / 10 < n := by omega
      intro h
      rw [List.head?_append_of_ne_nil _ Nat.toDigits_ne_nil] at h
      have hzero := congrArg (Nat.ofDigitChars 10 · 0) (ih (n / 10) hlt h)
      rw [Nat.ofDigitChars_ten_toDigits] at hzero
      have : n / 10 = 0 := hzero
      omega

/-- A number as it is written. -/
def wholeOf (n : Nat) : Whole where
  chars := Nat.toDigits 10 n
  nonempty := Nat.toDigits_ne_nil
  digit _ h := Nat.isDigit_of_mem_toDigits (by decide) (by decide) h
  leading := toDigits_leading n

theorem value_wholeOf (n : Nat) : (wholeOf n).value = n := Nat.ofDigitChars_ten_toDigits

/-- A digit is the digit of a number. -/
theorem exists_digitChar {c : Char} (h : c.isDigit = true) : ∃ d < 10, c = Nat.digitChar d := by
  obtain ⟨hlow, hhigh⟩ : 48 ≤ c.toNat ∧ c.toNat ≤ 57 := Char.isDigit_iff_toNat.mp h
  have hd : c.toNat - 48 < 10 := by omega
  refine ⟨c.toNat - 48, hd, Char.toNat_inj.mp ?_⟩
  rw [Nat.toNat_digitChar_of_lt_ten hd, Nat.add_sub_cancel' hlow]

/-- Digits behind a number that is not zero are the last digits of the whole. -/
theorem toDigits_ofDigitChars (cs : List Char) (hcs : ∀ c ∈ cs, c.isDigit = true) : ∀ {n : Nat}, 0 < n →
    Nat.toDigits 10 (Nat.ofDigitChars 10 cs n) = Nat.toDigits 10 n ++ cs := by
  induction cs with
  | nil => exact fun _ => (List.append_nil _).symm
  | cons c cs ih =>
    intro n hn
    obtain ⟨hc, hmore⟩ := List.forall_mem_cons.mp hcs
    obtain ⟨d, hd, rfl⟩ := exists_digitChar hc
    rw [Nat.ofDigitChars_cons_digitChar_of_lt_ten hd, ih hmore (by omega),
      ← Nat.toDigits_append_toDigits (by decide) hn hd, Nat.toDigits_of_lt_base hd, List.append_assoc,
      List.singleton_append]

/-- A whole number is written in one way. -/
theorem Whole.chars_eq_toDigits (w : Whole) : w.chars = Nat.toDigits 10 w.value := by
  obtain ⟨c, t, hchars, hc⟩ := w.exists_cons
  obtain ⟨-, ht⟩ := List.forall_mem_cons.mp (hchars ▸ w.digit)
  obtain ⟨d, hd, rfl⟩ := exists_digitChar hc
  have hvalue : w.value = Nat.ofDigitChars 10 t d := by
    unfold Whole.value
    rw [hchars, Nat.ofDigitChars_cons_digitChar_of_lt_ten hd, Nat.mul_zero, Nat.zero_add]
  rcases Nat.eq_zero_or_pos d with rfl | hpos
  · have hzero := w.leading (by rw [hchars]; rfl)
    rw [hzero] at hchars ⊢
    obtain rfl : [] = t := (List.cons.inj hchars).2
    rw [hvalue, Nat.ofDigitChars_nil, Nat.toDigits_zero]
  · rw [hchars, hvalue, toDigits_ofDigitChars t ht hpos, Nat.toDigits_of_lt_base hd,
      List.singleton_append]

/-! ## Entries -/

/-- A line break and the blanks in front of the next line. -/
def lineBreak (depth : Nat) : Blanks where
  chars := Json.newline depth
  blank c h := by
    rcases List.mem_cons.mp h with rfl | h
    · exact .inr (.inl rfl)
    · exact .inl (List.eq_of_mem_replicate h)

/-- Entries that are made with the blanks behind them: none but for the last one. -/
def laidOut {α β : Type} (make : Blanks → α → β) (last : Blanks) : List α → List β
  | [] => []
  | [a] => [make last a]
  | a :: a' :: more => make .none a :: laidOut make last (a' :: more)

theorem mem_laidOut {α β : Type} {make : Blanks → α → β} {last : Blanks} {x : β} :
    ∀ {l : List α}, x ∈ laidOut make last l → ∃ a ∈ l, ∃ b, x = make b a
  | [], h => absurd h List.not_mem_nil
  | [a], h => ⟨a, List.mem_singleton_self a, last, List.mem_singleton.mp h⟩
  | a :: a' :: more, h => by
    rcases List.mem_cons.mp h with rfl | h
    · exact ⟨a, List.mem_cons_self, .none, rfl⟩
    · obtain ⟨a₁, ha₁, hx⟩ := mem_laidOut h
      exact ⟨a₁, List.mem_cons_of_mem a ha₁, hx⟩

/-- What does not depend on the blanks behind an entry is mapped. -/
theorem map_laidOut {α β γ : Type} {make : Blanks → α → β} {last : Blanks} (f : β → γ) (g : α → γ)
    (h : ∀ b a, f (make b a) = g a) : ∀ l : List α, (laidOut make last l).map f = l.map g
  | [] => rfl
  | [a] => congrArg (· :: []) (h last a)
  | a :: a' :: more => by
    rw [laidOut, List.map_cons, map_laidOut f g h (a' :: more), h]
    rfl

/-- Entries that are laid out stand between commas, and the last blanks are in front of the end. -/
theorem entries_laidOut {α β : Type} {make : Blanks → α → β} {last : Blanks} {close : Char}
    (text : β → List Char) (core : α → List Char) (h : ∀ b a, text (make b a) = core a ++ b.chars) :
    ∀ (more : List α) (first : Bool) (a : α),
      entries close first ((laidOut make last (a :: more)).map text) =
        (if first then [] else [',']) ++ (core a ++ (more.flatMap (fun a => ',' :: core a) ++
          (last.chars ++ [close])))
  | [], first, a => by simp [laidOut, entries, h]
  | a' :: more, first, a => by
    rw [laidOut, List.map_cons, entries, entries_laidOut text core h more false a', h]
    simp [Blanks.none]

/-- An item on a line of its own. -/
def itemAt (depth : Nat) (after : Blanks) (v : Json) : Item :=
  ⟨lineBreak (depth + 1), Json.prettyAt (depth + 1) v, after⟩

/-- A member on a line of its own. -/
def memberAt (depth : Nat) (after : Blanks) (entry : String × Json) : Member :=
  ⟨lineBreak (depth + 1), piecesOf entry.1, .none,
    ⟨⟨[' '], fun _ h => .inl (List.mem_singleton.mp h)⟩, Json.prettyAt (depth + 1) entry.2, after⟩⟩

/-- The items of a written array. -/
def itemsAt (depth : Nat) (items : List Json) : List Item :=
  laidOut (itemAt depth) (lineBreak depth) items

/-- The members of a written object. -/
def membersAt (depth : Nat) (members : List (String × Json)) : List Member :=
  laidOut (memberAt depth) (lineBreak depth) members

/-- The values of written items. -/
theorem values_itemsAt (depth : Nat) (items : List Json) :
    (itemsAt depth items).map Item.value = items.map (Json.prettyAt (depth + 1)) :=
  map_laidOut Item.value (Json.prettyAt (depth + 1)) (fun _ _ => rfl) items

theorem text_itemAt (depth : Nat) (after : Blanks) (v : Json) : (itemAt depth after v).text =
    (Json.newline (depth + 1) ++ Json.prettyAt (depth + 1) v) ++ after.chars := by
  simp [itemAt, Item.text, lineBreak]

theorem text_memberAt (depth : Nat) (after : Blanks) (entry : String × Json) :
    (memberAt depth after entry).text = (Json.newline (depth + 1) ++ (Json.quote entry.1 ++
      ':' :: ' ' :: Json.prettyAt (depth + 1) entry.2)) ++ after.chars := by
  simp [memberAt, Member.text, Item.text, lineBreak, quote_eq, stringText, closed, Blanks.none]

theorem prettyItems_eq (depth : Nat) (items : List Json) : Json.prettyItems depth items =
    items.flatMap fun v => ',' :: (Json.newline depth ++ Json.prettyAt depth v) := by
  induction items with
  | nil => rfl
  | cons v items ih => rw [Json.prettyItems, ih]; simp

theorem prettyMembers_eq (depth : Nat) (members : List (String × Json)) :
    Json.prettyMembers depth members = members.flatMap fun entry =>
      ',' :: (Json.newline depth ++ (Json.quote entry.1 ++ ':' :: ' ' :: Json.prettyAt depth entry.2)) := by
  induction members with
  | nil => rfl
  | cons entry members ih => rw [Json.prettyMembers, ih]; simp

/-- A written array has its items, in order. -/
theorem prettyAt_array (depth : Nat) (items : List Json) :
    Json.prettyAt depth (.array items) = arrayText .none (itemsAt depth items) := by
  cases items with
  | nil => rfl
  | cons v items =>
    rw [Json.prettyAt, prettyItems_eq, arrayText, itemsAt,
      entries_laidOut Item.text _ (text_itemAt depth) items true v]
    simp [Blanks.none, lineBreak]

/-- A written object has its members, in order. -/
theorem prettyAt_object (depth : Nat) (members : List (String × Json)) :
    Json.prettyAt depth (.object members) = objectText .none (membersAt depth members) := by
  cases members with
  | nil => rfl
  | cons entry members =>
    rw [Json.prettyAt, prettyMembers_eq, objectText, membersAt,
      entries_laidOut Member.text _ (text_memberAt depth) members true entry]
    simp [Blanks.none, lineBreak]

/-! ## Values -/

mutual

/-- The written form of a value is a value. -/
theorem isValue_prettyAt : ∀ (v : Json) (depth : Nat), IsValue (Json.prettyAt depth v)
  | .null, _ => .null
  | .number n, _ => by
    rw [Json.prettyAt, ← show (wholeOf n).chars = Nat.toDigits 10 n from rfl, ← Whole.text_literal]
    exact .number _
  | .string s, _ => by
    rw [Json.prettyAt, quote_eq]
    exact .string _
  | .array items, depth => by
    rw [prettyAt_array]
    refine .array _ _ fun i hi => ?_
    obtain ⟨v, hv, after, rfl⟩ := mem_laidOut hi
    exact isValue_items items (depth + 1) v hv
  | .object members, depth => by
    rw [prettyAt_object]
    refine .object _ _ fun m hm => ?_
    obtain ⟨entry, hentry, after, rfl⟩ := mem_laidOut hm
    exact isValue_members members (depth + 1) entry hentry

theorem isValue_items : ∀ (items : List Json) (depth : Nat), ∀ v ∈ items,
    IsValue (Json.prettyAt depth v)
  | [], _ => fun _ h => absurd h List.not_mem_nil
  | v :: items, depth =>
    List.forall_mem_cons.mpr ⟨isValue_prettyAt v depth, isValue_items items depth⟩

theorem isValue_members : ∀ (members : List (String × Json)) (depth : Nat), ∀ entry ∈ members,
    IsValue (Json.prettyAt depth entry.2)
  | [], _ => fun _ h => absurd h List.not_mem_nil
  | (_, v) :: members, depth =>
    List.forall_mem_cons.mpr ⟨isValue_prettyAt v depth, isValue_members members depth⟩

end

/-! ## Reading back -/

variable {σ : Type} {slots : List (Slot σ)}

theorem key?_memberAt (depth : Nat) (after : Blanks) (entry : String × Json) :
    (memberAt depth after entry).key? = some entry.1 := by
  show (spell? (piecesOf entry.1)).map String.ofList = some entry.1
  rw [spell?_piecesOf, Option.map_some, String.ofList_toList]

/-- The values of a written object by their names. -/
theorem named_membersAt (depth : Nat) (members : List (String × Json)) :
    named (membersAt depth members) =
      members.map fun entry => (entry.1, Json.prettyAt (depth + 1) entry.2) := by
  have hmap : (membersAt depth members).map (fun m => m.key?.map fun key => (key, m.item.value)) =
      members.map fun entry => some (entry.1, Json.prettyAt (depth + 1) entry.2) :=
    map_laidOut _ _ (fun b entry => by rw [key?_memberAt]; rfl) members
  have hid : named (membersAt depth members) =
      ((membersAt depth members).map fun m => m.key?.map fun key => (key, m.item.value)).filterMap id := by
    rw [List.filterMap_map]
    rfl
  rw [hid, hmap, List.filterMap_map]
  exact congrFun List.filterMap_eq_map members

/-- The names of a written object can be read back, and stand once if they differ. -/
theorem wellNamed_membersAt (depth : Nat) {members : List (String × Json)}
    (h : (members.map (·.1)).Nodup) : WellNamed slots (membersAt depth members) := by
  have hkeys : (membersAt depth members).map Member.key? = (members.map (·.1)).map some := by
    rw [List.map_map]
    exact map_laidOut _ _ (fun b entry => key?_memberAt depth b entry) members
  refine .of_nodup (fun m hm => ?_) (hkeys ▸ h.map fun _ _ => Option.some.inj)
  obtain ⟨entry, -, after, rfl⟩ := mem_laidOut hm
  exact ⟨_, key?_memberAt depth after entry⟩

/-- The values of written members. -/
theorem isValue_membersAt (depth : Nat) (members : List (String × Json)) :
    ∀ m ∈ membersAt depth members, IsValue m.item.value := by
  intro m hm
  obtain ⟨entry, -, after, rfl⟩ := mem_laidOut hm
  exact isValue_prettyAt entry.2 (depth + 1)

/-- A written object is a record that its values override. -/
theorem recordText_object {defaults s : σ} (depth : Nat) {members : List (String × Json)}
    (hnames : (members.map (·.1)).Nodup) (h : Overrides slots defaults
      (members.map fun entry => (entry.1, Json.prettyAt (depth + 1) entry.2)) s) :
    RecordText slots defaults (Json.prettyAt depth (.object members)) s := by
  rw [prettyAt_object]
  exact .object _ _ _ (isValue_membersAt depth members)
    ⟨wellNamed_membersAt depth hnames, named_membersAt depth members ▸ h⟩

theorem isValue_itemsAt (depth : Nat) (items : List Json) : ∀ i ∈ itemsAt depth items, IsValue i.value := by
  intro i hi
  obtain ⟨v, -, after, rfl⟩ := mem_laidOut hi
  exact isValue_prettyAt v (depth + 1)

/-- A written array is a record that its items override, one slot each. -/
theorem recordText_array {defaults s : σ} (depth : Nat) {items : List Json}
    (few : items.length ≤ slots.length) (h : Overrides slots defaults
      ((slots.map (·.name)).zip (items.map (Json.prettyAt (depth + 1)))) s) :
    RecordText slots defaults (Json.prettyAt depth (.array items)) s := by
  have hvalues := values_itemsAt depth items
  have hlength : (itemsAt depth items).length = items.length := by
    have := congrArg List.length hvalues
    rwa [List.length_map, List.length_map] at this
  rw [prettyAt_array]
  exact .list _ _ _ (isValue_itemsAt depth items) (hlength ▸ few) (by rw [placed, hvalues]; exact h)

/-- A written text is read back. -/
theorem spells_string (depth : Nat) (s : String) : Spells (Json.prettyAt depth (.string s)) s := by
  rw [Json.prettyAt]
  exact spells_quote s

/-- A written limit is read back. -/
theorem isWord_number (depth : Nat) (n : UInt64) : IsWord (Json.prettyAt depth (.number n.toNat)) n := by
  rw [Json.prettyAt]
  exact ⟨wholeOf n.toNat, rfl, value_wholeOf n.toNat⟩

/-- A written list of texts is read back. -/
theorem lists_strings (depth : Nat) (ss : List String) :
    Lists (Json.prettyAt depth (.array (ss.map .string))) ss := by
  refine ⟨.none, itemsAt depth (ss.map .string), prettyAt_array depth _, ?_⟩
  have hitems := values_itemsAt depth (ss.map .string)
  have hquotes : (ss.map Json.string).map (Json.prettyAt (depth + 1)) = ss.map Json.quote := by
    rw [List.map_map]
    exact List.map_congr_left fun s _ => by rw [Function.comp_apply, Json.prettyAt]
  have hspells : List.Forall₂ Spells (ss.map Json.quote) ss := by
    rw [List.forall₂_map_left_iff, List.forall₂_same]
    exact fun s _ => spells_quote s
  rw [← hquotes, ← hitems, List.forall₂_map_left_iff] at hspells
  exact hspells

end HardenAudit.Json
