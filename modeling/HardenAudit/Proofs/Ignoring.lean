import HardenAudit.Json.Ignored
import HardenAudit.Proofs.Grammar
import Mathlib.Data.List.TakeWhile

/-!
# Every value is passed over to its end

A reader is at a cursor, and what matters of the cursor is the text that is left.  In front of blanks and a
value, and with something behind that ends the value, passing over leaves just what is behind: the steps
that are given are enough, and no value is refused.

    behind the pieces of a string and its quote                        (ignoreChars_closed)
    behind a number                                                    (ignoreNumber_text)
    behind a value, with two steps per character                       (ignoreValue_isValue)
-/

namespace HardenAudit.Json

variable {c : Cursor} {rest : List Char}

/-! ## Cursors -/

@[simp] theorem Cursor.rest_advance (c : Cursor) (n : Nat) : (c.advance n).rest = c.rest.drop n := rfl

theorem Cursor.rest_advance_one {x : Char} (h : c.rest = x :: rest) : (c.advance 1).rest = rest := by
  rw [rest_advance, h, List.drop_one, List.tail_cons]

theorem Cursor.rest_advance_append {l : List Char} (h : c.rest = l ++ rest) :
    (c.advance l.length).rest = rest := by
  rw [rest_advance, h, List.drop_left]

theorem Cursor.rest_skipFrom (l : List Char) :
    ∀ p, (Cursor.skipFrom p l).rest = l.dropWhile Cursor.isSpace := by
  induction l with
  | nil => exact fun p => rfl
  | cons x l ih =>
    intro p
    rw [Cursor.skipFrom, List.dropWhile_cons]
    split
    · exact ih _
    · rfl

/-- Skipping leads to the end just if nothing but blanks is left. -/
theorem Cursor.rest_skip_eq_nil_iff (c : Cursor) :
    c.skip.rest = [] ↔ ∀ x ∈ c.rest, Cursor.isSpace x = true := by
  rw [Cursor.skip, Cursor.rest_skipFrom, List.dropWhile_eq_nil_iff]

/-- Skipping leads over blanks to whatever is no blank. -/
theorem Cursor.rest_skip {b : Blanks} {x : Char} (h : c.rest = b.chars ++ x :: rest)
    (hx : Cursor.isSpace x = false) : c.skip.rest = x :: rest := by
  rw [Cursor.skip, Cursor.rest_skipFrom, h, List.dropWhile_append_of_pos fun _ => b.isSpace,
    List.dropWhile_cons_of_neg (by rw [hx]; exact Bool.false_ne_true)]

/-- Skipping leads to the comma or the closing mark behind an entry. -/
theorem Cursor.rest_skip_entries {close : Char} (hclose : close = ']' ∨ close = '\x7d') {b : Blanks}
    {es : List (List Char)} (h : c.rest = b.chars ++ (entries close false es ++ rest)) :
    c.skip.rest = entries close false es ++ rest := by
  obtain ⟨x, t, heq, -, hx⟩ := entries_exists_cons hclose es rest
  rw [heq] at h ⊢
  exact Cursor.rest_skip h hx

/-- Skipping leads to a value, and its first character is looked at. -/
theorem Cursor.rest_skip_value {v : List Char} {b : Blanks} (hv : IsValue v)
    (h : c.rest = b.chars ++ (v ++ rest)) :
    c.skip.rest = v ++ rest ∧ c.skip.rest.head? = v.head? := by
  obtain ⟨x, t, rfl, hx, -⟩ := hv.exists_cons
  have hskip := Cursor.rest_skip h hx
  exact ⟨hskip, by rw [hskip]; rfl⟩

/-! ## Literals -/

theorem readLetters_append (letters : List Char) : ∀ {c : Cursor}, c.rest = letters ++ rest →
    ∃ c', readLetters letters c = .ok c' ∧ c'.rest = rest := by
  induction letters with
  | nil => exact fun h => ⟨_, rfl, h⟩
  | cons x letters ih =>
    intro c h
    rw [List.cons_append] at h
    unfold readLetters
    simp only [h, if_true]
    exact ih (Cursor.rest_advance_one h)

/-! ## Strings -/

theorem HexDigit.hexValue?_char : ∀ d : HexDigit, hexValue? d.char = some d.value.val := by
  rintro ⟨value, upper⟩
  revert value upper
  decide

/-- The four digits of a code unit are read as its code. -/
theorem readHex_chars (u : CodeUnit) (h : c.rest = u.chars ++ rest) :
    readHex c = .ok (u.code, c.advance 4) := by
  have htake : c.rest.take 4 = u.chars := by rw [h]; rfl
  have hsize : ¬ u.chars.foldl (fun n x => n + x.utf8Size) 0 < 4 := by
    have h1 := u.first.char.utf8Size_pos
    have h2 := u.second.char.utf8Size_pos
    have h3 := u.third.char.utf8Size_pos
    have h4 := u.fourth.char.utf8Size_pos
    show ¬ 0 + u.first.char.utf8Size + u.second.char.utf8Size + u.third.char.utf8Size
      + u.fourth.char.utf8Size < 4
    omega
  have hvalues : u.chars.mapM hexValue? =
      some [u.first.value.val, u.second.value.val, u.third.value.val, u.fourth.value.val] := by
    simp [CodeUnit.chars, HexDigit.hexValue?_char]
  unfold readHex
  rw [htake, if_neg hsize, hvalues]
  simp [CodeUnit.code]

theorem Escape.simpleEscape?_letter (e : Escape) : simpleEscape? e.letter = some e.char := by
  cases e <;> rfl

/-- Characters that belong to an escape are passed over one by one. -/
theorem ignoreChars_skip (l rest : List Char) : ∀ p, ∃ p',
    ignoreChars l.length p (l ++ rest) = ignoreChars 0 p' rest := by
  induction l with
  | nil => exact fun p => ⟨p, rfl⟩
  | cons x l ih => exact fun p => ih _

theorem ignoreChars_closed (pieces : List Piece) : ∀ p, ∃ c',
    ignoreChars 0 p (closed pieces rest) = .ok c' ∧ c'.rest = rest := by
  induction pieces with
  | nil => exact fun p => ⟨_, if_pos rfl, rfl⟩
  | cons piece pieces ih =>
    intro p
    have hclosed : closed (piece :: pieces) rest = piece.text ++ closed pieces rest :=
      List.append_assoc ..
    rw [hclosed]
    cases piece with
    | plain x =>
      obtain ⟨hquote, hbackslash, hcontrol⟩ := x.plain
      simp only [Piece.text, List.singleton_append, ignoreChars, if_neg hquote, if_neg hbackslash,
        if_neg (Nat.not_lt.mpr hcontrol)]
      exact ih _
    | escape e =>
      obtain ⟨p', hskip⟩ := ignoreChars_skip [e.letter] (closed pieces rest) (p.past '\\')
      simp only [Piece.text, List.cons_append, List.nil_append, ignoreChars, e.simpleEscape?_letter]
      exact ih _
    | unit u =>
      have hhex : readHex (Cursor.advance ⟨p.past '\\', 'u' :: (u.chars ++ closed pieces rest)⟩ 1) = _ :=
        readHex_chars u rfl
      obtain ⟨p', hskip⟩ := ignoreChars_skip ('u' :: u.chars) (closed pieces rest) (p.past '\\')
      rw [Piece.text, List.cons_append, List.cons_append, ignoreChars, if_neg (by decide), if_pos rfl]
      dsimp only
      rw [if_neg (by decide), if_pos rfl, hhex]
      exact hskip ▸ ih p'

/-- A string is passed over from its opening quote on. -/
theorem ignoreString_closed (pieces : List Piece) (h : c.rest = '"' :: closed pieces rest) :
    ∃ c', ignoreString c = .ok c' ∧ c'.rest = rest := by
  unfold ignoreString
  dsimp only
  rw [Cursor.rest_advance_one h]
  exact ignoreChars_closed pieces _

/-! ## Numbers -/

theorem digits_eq (ds : Digits) (h : c.rest = ds.chars ++ rest)
    (hrest : ∀ x ∈ rest.head?, x.isDigit = false) : digits c = ds.chars := by
  unfold digits
  rw [h, List.takeWhile_append_of_pos ds.digit]
  cases rest with
  | nil => exact List.append_nil _
  | cons x t =>
    rw [List.takeWhile_cons_of_neg (by rw [hrest x rfl]; exact Bool.false_ne_true), List.append_nil]

theorem ignoreDigits_eq (ds : Digits) (h : c.rest = ds.chars ++ rest)
    (hrest : ∀ x ∈ rest.head?, x.isDigit = false) :
    ∃ c', ignoreDigits c = .ok c' ∧ c'.rest = rest := by
  unfold ignoreDigits
  rw [digits_eq ds h hrest]
  obtain ⟨d, t, hchars, -⟩ := ds.exists_cons
  exact ⟨c.advance ds.chars.length, by rw [hchars], Cursor.rest_advance_append h⟩

theorem ignoreExponent_text (e? : Option Exponent) (hrest : Ends rest)
    (h : c.rest = NumberLiteral.exponentText e? ++ rest) :
    ∃ c', ignoreExponent c = .ok c' ∧ c'.rest = rest := by
  have hdigit : ∀ x ∈ rest.head?, x.isDigit = false := fun x hx => (hrest x hx).1
  unfold ignoreExponent
  match e? with
  | none =>
    have hc : c.rest = rest := h
    cases hhead : c.rest.head? with
    | none => exact ⟨c, rfl, hc⟩
    | some x =>
      obtain ⟨-, -, he, hE⟩ := hrest x (hc ▸ hhead)
      exact ⟨c, if_neg (not_or.mpr ⟨he, hE⟩), hc⟩
  | some ⟨mark, isMark, sign, isSign, ds⟩ =>
    have hc : c.rest = mark :: (sign.toList ++ (ds.chars ++ rest)) := by
      rw [h]
      simp [NumberLiteral.exponentText]
    simp only [hc, List.head?_cons, if_pos isMark, Cursor.rest_advance_one hc]
    cases sign with
    | none =>
      obtain ⟨d, t, hchars, hd⟩ := ds.exists_cons
      have hsign : ¬ (some d = some '+' ∨ some d = some '-') := by
        rintro (h | h) <;> (cases h; revert hd; decide)
      have hhead : (Option.toList (none : Option Char) ++ (ds.chars ++ rest)).head? = some d := by
        rw [hchars]
        rfl
      rw [hhead, if_neg hsign]
      exact ignoreDigits_eq ds (Cursor.rest_advance_one hc) hdigit
    | some x =>
      have hx : some x = some '+' ∨ some x = some '-' := (isSign x rfl).imp (congrArg some) (congrArg some)
      have hhead : (Option.toList (some x) ++ (ds.chars ++ rest)).head? = some x := rfl
      rw [hhead, if_pos hx]
      exact ignoreDigits_eq ds (Cursor.rest_advance_one (Cursor.rest_advance_one hc)) hdigit

/-- What follows the digits in front of an exponent is neither a digit nor a point. -/
theorem NumberLiteral.not_digit_of_exponentText (e? : Option Exponent) (hrest : Ends rest) :
    ∀ x ∈ (exponentText e? ++ rest).head?, x.isDigit = false ∧ x ≠ '.' := by
  intro x hx
  match e? with
  | some e =>
    obtain rfl : e.mark = x := Option.some.inj hx
    rcases e.isMark with h | h <;> (rw [h]; decide)
  | none => exact ⟨(hrest x hx).1, (hrest x hx).2.1⟩

/-- What follows the whole part of a number is no digit. -/
theorem NumberLiteral.not_digit_of_fractionText (f? : Option Digits) (e? : Option Exponent)
    (hrest : Ends rest) :
    ∀ x ∈ (fractionText f? ++ (exponentText e? ++ rest)).head?, x.isDigit = false := by
  intro x hx
  match f? with
  | some ds =>
    obtain rfl : '.' = x := Option.some.inj hx
    decide
  | none => exact (not_digit_of_exponentText e? hrest x hx).1

theorem Whole.not_leading (w : Whole) : ¬ (w.chars.head? = some '0' ∧ w.chars.length > 1) := by
  rintro ⟨hhead, hlength⟩
  rw [w.leading hhead] at hlength
  exact absurd hlength (by decide)

/-- The cursor behind the sign of a number, if it has one. -/
theorem NumberLiteral.rest_sign (n : NumberLiteral) (h : c.rest = n.text ++ rest) :
    (c.rest.head? = some '-' ↔ n.negative = true) ∧
    (if c.rest.head? = some '-' then c.advance 1 else c).rest = n.unsigned ++ rest := by
  unfold NumberLiteral.text at h
  cases hnegative : n.negative with
  | true =>
    rw [if_pos hnegative] at h
    have hhead : c.rest.head? = some '-' := by rw [h]; rfl
    rw [if_pos hhead]
    exact ⟨iff_of_true hhead rfl, Cursor.rest_advance_one h⟩
  | false =>
    rw [if_neg (by rw [hnegative]; exact Bool.false_ne_true)] at h
    have hhead : c.rest.head? ≠ some '-' := by
      obtain ⟨d, t, hchars, hd⟩ := n.whole.exists_cons
      rw [h, NumberLiteral.unsigned, hchars]
      rintro hd'
      cases hd'
      exact absurd hd (by decide)
    rw [if_neg hhead]
    exact ⟨iff_of_false hhead Bool.false_ne_true, h⟩

/-- A number is passed over from its sign or its first digit on. -/
theorem ignoreNumber_text (n : NumberLiteral) (hrest : Ends rest) (h : c.rest = n.text ++ rest) :
    ∃ c', ignoreNumber c = .ok c' ∧ c'.rest = rest := by
  have hunsigned := (n.rest_sign h).2
  unfold ignoreNumber
  dsimp only
  generalize (if c.rest.head? = some '-' then c.advance 1 else c) = c at hunsigned ⊢
  rw [NumberLiteral.unsigned, List.append_assoc, List.append_assoc] at hunsigned
  have hwhole := NumberLiteral.not_digit_of_fractionText n.fraction n.exponent hrest
  rw [digits_eq n.whole.toDigits hunsigned hwhole, if_neg n.whole.not_leading]
  obtain ⟨c₁, hdigits, hc₁⟩ := ignoreDigits_eq n.whole.toDigits hunsigned hwhole
  rw [hdigits]
  show ∃ c', (if c₁.rest.head? = some '.' then _ else _) = Except.ok c' ∧ _
  cases hfraction : n.fraction with
  | none =>
    rw [hfraction] at hc₁
    have hpoint : c₁.rest.head? ≠ some '.' := fun h =>
      (NumberLiteral.not_digit_of_exponentText n.exponent hrest '.' (hc₁ ▸ h)).2 rfl
    rw [if_neg hpoint]
    exact ignoreExponent_text n.exponent hrest hc₁
  | some ds =>
    rw [hfraction] at hc₁
    have hc₁ : c₁.rest = '.' :: (ds.chars ++ (NumberLiteral.exponentText n.exponent ++ rest)) := hc₁
    obtain ⟨c₂, hdigits, hc₂⟩ := ignoreDigits_eq ds (Cursor.rest_advance_one hc₁)
      fun x hx => (NumberLiteral.not_digit_of_exponentText n.exponent hrest x hx).1
    rw [if_pos (by rw [hc₁]; rfl), hdigits]
    exact ignoreExponent_text n.exponent hrest hc₂

/-! ## Values -/

/-- Two steps per character are enough to pass over the text, and nothing behind it is touched. -/
def PassedOver (v : List Char) : Prop :=
  ∀ ⦃fuel : Nat⦄ ⦃c : Cursor⦄ ⦃b : Blanks⦄ ⦃rest : List Char⦄, 2 * v.length ≤ fuel → Ends rest →
    c.rest = b.chars ++ (v ++ rest) → ∃ c', ignoreValue fuel c = .ok c' ∧ c'.rest = rest

theorem length_closed (pieces : List Piece) (rest : List Char) :
    (closed pieces rest).length = (pieces.flatMap Piece.text).length + (rest.length + 1) :=
  List.length_append ..

variable {b : Blanks}

/-- An item is passed over, and then the array ends or goes on. -/
theorem ignoreItems_step (i : Item) (fuel : Nat) {es : List (List Char)} (hi : PassedOver i.value)
    (hfuel : 2 * i.value.length ≤ fuel)
    (h : c.rest = b.chars ++ (i.value ++ (i.after.chars ++ (entries ']' false es ++ rest)))) :
    ∃ c' : Cursor, c'.rest = entries ']' false es ++ rest ∧ ignoreItems (fuel + 1) c =
      if es.isEmpty then .ok (c'.advance 1) else ignoreItems fuel (c'.advance 1) := by
  obtain ⟨c₁, hvalue, hc₁⟩ := hi hfuel (.entries (.inl rfl) i.after es rest) h
  have hskip := Cursor.rest_skip_entries (.inl rfl) hc₁
  refine ⟨c₁.skip, hskip, ?_⟩
  rw [ignoreItems, hvalue]
  cases es with
  | nil =>
    simp only [hskip, entries]
    rfl
  | cons e es =>
    simp only [hskip, entries]
    rfl

/-- Items are passed over up to the end of their array. -/
theorem ignoreItems_entries (items : List Item) : ∀ (i : Item) {fuel : Nat} {c : Cursor} {b : Blanks},
    (∀ j ∈ i :: items, PassedOver j.value) →
    2 * (i.value ++ (i.after.chars ++ entries ']' false (items.map Item.text))).length ≤ fuel →
    c.rest = b.chars ++ (i.value ++ (i.after.chars ++ (entries ']' false (items.map Item.text) ++ rest))) →
    ∃ c', ignoreItems fuel c = .ok c' ∧ c'.rest = rest := by
  induction items with
  | nil =>
    intro i fuel c b hitems hfuel h
    simp only [List.length_append, List.map_nil, entries, List.length_singleton] at hfuel
    obtain ⟨fuel, rfl⟩ : ∃ k, fuel = k + 1 := ⟨fuel - 1, by omega⟩
    obtain ⟨c₁, hc₁, hstep⟩ := ignoreItems_step i fuel (hitems i List.mem_cons_self) (by omega) h
    exact ⟨_, hstep, Cursor.rest_advance_one hc₁⟩
  | cons j items ih =>
    intro i fuel c b hitems hfuel h
    simp only [List.length_append, List.map_cons, entries, Item.text, Bool.false_eq_true, if_false,
      List.length_singleton] at hfuel
    obtain ⟨fuel, rfl⟩ : ∃ k, fuel = k + 1 := ⟨fuel - 1, by omega⟩
    obtain ⟨c₁, hc₁, hstep⟩ := ignoreItems_step i fuel (hitems i List.mem_cons_self) (by omega) h
    have hnext : c₁.rest = ',' :: (j.before.chars ++ (j.value ++ (j.after.chars ++
        (entries ']' false (items.map Item.text) ++ rest)))) := by
      rw [hc₁]
      simp [entries, Item.text]
    rw [hstep]
    exact ih j (fun k hk => hitems k (List.mem_cons_of_mem i hk))
      (by simp only [List.length_append]; omega) (Cursor.rest_advance_one hnext)

/-- A member is passed over, and then the object ends or goes on. -/
theorem ignoreMembers_step (m : Member) (fuel : Nat) {es : List (List Char)} (hm : PassedOver m.item.value)
    (hfuel : 2 * m.item.value.length ≤ fuel)
    (h : c.rest = b.chars ++ '"' :: closed m.name (m.between.chars ++ ':' :: (m.item.text ++
      (entries '\x7d' false es ++ rest)))) :
    ∃ c' : Cursor, c'.rest = entries '\x7d' false es ++ rest ∧ ignoreMembers (fuel + 1) c =
      if es.isEmpty then .ok (c'.advance 1) else ignoreMembers fuel (c'.advance 1) := by
  have hquote := Cursor.rest_skip h (by decide)
  obtain ⟨c₁, hname, hc₁⟩ := ignoreString_closed m.name hquote
  have hcolon := Cursor.rest_skip hc₁ (by decide)
  have hitem : (c₁.skip.advance 1).rest = m.item.before.chars ++ (m.item.value ++
      (m.item.after.chars ++ (entries '\x7d' false es ++ rest))) := by
    rw [Cursor.rest_advance_one hcolon, Item.text, List.append_assoc, List.append_assoc]
  obtain ⟨c₂, hvalue, hc₂⟩ := hm hfuel (.entries (.inr rfl) m.item.after es rest) hitem
  have hskip := Cursor.rest_skip_entries (.inr rfl) hc₂
  refine ⟨c₂.skip, hskip, ?_⟩
  rw [ignoreMembers]
  simp only [hquote, hname, hcolon, hvalue, hskip, ne_eq, not_true_eq_false, if_false]
  cases es <;> rfl

/-- Members are passed over up to the end of their object. -/
theorem ignoreMembers_entries (members : List Member) : ∀ (m : Member) {fuel : Nat} {c : Cursor}
    {b : Blanks}, (∀ n ∈ m :: members, PassedOver n.item.value) →
    2 * (closed m.name (m.between.chars ++ ':' :: (m.item.text ++
      entries '\x7d' false (members.map Member.text)))).length ≤ fuel →
    c.rest = b.chars ++ '"' :: closed m.name (m.between.chars ++ ':' :: (m.item.text ++
      (entries '\x7d' false (members.map Member.text) ++ rest))) →
    ∃ c', ignoreMembers fuel c = .ok c' ∧ c'.rest = rest := by
  induction members with
  | nil =>
    intro m fuel c b hmembers hfuel h
    simp only [length_closed, List.length_append, List.length_cons, Item.text] at hfuel
    obtain ⟨fuel, rfl⟩ : ∃ k, fuel = k + 1 := ⟨fuel - 1, by omega⟩
    obtain ⟨c₁, hc₁, hstep⟩ := ignoreMembers_step m fuel (hmembers m List.mem_cons_self) (by omega) h
    exact ⟨_, hstep, Cursor.rest_advance_one hc₁⟩
  | cons n members ih =>
    intro m fuel c b hmembers hfuel h
    simp only [length_closed, List.length_append, List.length_cons, List.map_cons, entries, Item.text,
      Member.text, Bool.false_eq_true, if_false] at hfuel
    obtain ⟨fuel, rfl⟩ : ∃ k, fuel = k + 1 := ⟨fuel - 1, by omega⟩
    obtain ⟨c₁, hc₁, hstep⟩ := ignoreMembers_step m fuel (hmembers m List.mem_cons_self) (by omega) h
    have hnext : c₁.rest = ',' :: (n.before.chars ++ '"' :: closed n.name (n.between.chars ++ ':' ::
        (n.item.text ++ (entries '\x7d' false (members.map Member.text) ++ rest)))) := by
      rw [hc₁]
      simp [entries, Member.text, closed]
    rw [hstep]
    exact ih n (fun k hk => hmembers k (List.mem_cons_of_mem m hk))
      (by simp only [length_closed, List.length_append, List.length_cons, Item.text]; omega)
      (Cursor.rest_advance_one hnext)

/-- The first step of passing over a text leads over the blanks in front of it. -/
theorem passedOver_cons {x : Char} {t : List Char} (hx : Cursor.isSpace x = false)
    (hstep : ∀ (fuel : Nat) (c : Cursor) (rest : List Char), 2 * t.length < fuel → Ends rest →
      c.skip.rest = x :: (t ++ rest) → ∃ c', ignoreValue (fuel + 1) c = .ok c' ∧ c'.rest = rest) :
    PassedOver (x :: t) := by
  intro fuel c b rest hfuel hrest h
  rw [List.length_cons] at hfuel
  obtain ⟨fuel, rfl⟩ : ∃ k, fuel = k + 1 := ⟨fuel - 1, by omega⟩
  exact hstep fuel c rest (by omega) hrest (Cursor.rest_skip h hx)

theorem passedOver_number (n : NumberLiteral) : PassedOver n.text := by
  obtain ⟨x, t, htext, hx⟩ := n.exists_cons
  have hmarks : Cursor.isSpace x = false ∧ x ∉ ['n', 't', 'f'] := by
    rcases hx with rfl | hx
    · decide
    · obtain ⟨hspace, hmark⟩ := not_mark_of_isDigit hx
      exact ⟨hspace, fun h => hmark (List.mem_append_left _ h)⟩
  simp only [List.mem_cons, List.not_mem_nil, or_false, not_or] at hmarks
  obtain ⟨hspace, hn, ht, hf⟩ := hmarks
  rw [htext]
  refine passedOver_cons hspace fun fuel c rest _ hrest h => ?_
  rw [ignoreValue]
  simp only [h, if_neg hn, if_neg ht, if_neg hf, if_pos hx]
  rw [← List.cons_append, ← htext] at h
  exact ignoreNumber_text n hrest h

theorem passedOver_string (pieces : List Piece) : PassedOver (stringText pieces) := by
  refine passedOver_cons rfl fun fuel c rest _ _ h => ?_
  rw [ignoreValue]
  simp only [h]
  rw [closed, List.append_assoc] at h
  exact ignoreString_closed pieces h

/-- An array is passed over if its items are. -/
theorem passedOver_array (b : Blanks) (items : List Item) (values : ∀ i ∈ items, IsValue i.value)
    (hitems : ∀ i ∈ items, PassedOver i.value) : PassedOver (arrayText b items) := by
  refine passedOver_cons rfl fun fuel c rest hfuel _ h => ?_
  have hbehind := Cursor.rest_advance_one h
  rw [List.append_assoc] at hbehind
  rw [List.length_append] at hfuel
  rw [ignoreValue]
  simp only [h]
  cases items with
  | nil =>
    have hend : (c.skip.advance 1).skip.rest = ']' :: rest := Cursor.rest_skip hbehind (by decide)
    refine ⟨(c.skip.advance 1).skip.advance 1, ?_, Cursor.rest_advance_one hend⟩
    rw [hend]
    rfl
  | cons i items =>
    obtain ⟨x, t, hvalue, hspace, hx⟩ := (values i List.mem_cons_self).exists_cons
    have hfirst : (c.skip.advance 1).skip.rest = i.value ++ (i.after.chars ++
        (entries ']' false (items.map Item.text) ++ rest)) := by
      simp only [List.map_cons, entries, if_true, List.nil_append, Item.text, hvalue,
        List.append_assoc] at hbehind ⊢
      rw [← List.append_assoc b.chars] at hbehind
      exact Cursor.rest_skip (b := b.append i.before) hbehind hspace
    have hsteps : 2 * (i.value ++ (i.after.chars ++
        entries ']' false (items.map Item.text))).length ≤ fuel := by
      simp only [List.map_cons, entries, if_true, List.nil_append, Item.text, List.length_append]
        at hfuel ⊢
      omega
    obtain ⟨c', hread, hc'⟩ := ignoreItems_entries items i (b := .none) hitems hsteps hfirst
    refine ⟨c', ?_, hc'⟩
    have hend : ¬ (c.skip.advance 1).skip.rest.head? = some ']' := by
      rw [hfirst, hvalue]
      exact fun h => hx (Option.some.inj h)
    have hmore : (c.skip.advance 1).skip.rest ≠ [] := by
      rw [hfirst, hvalue]
      exact List.cons_ne_nil _ _
    rw [← hread]
    simp only [if_neg hend, if_neg hmore]
    rfl

/-- An object is passed over if the values of its members are. -/
theorem passedOver_object (b : Blanks) (members : List Member)
    (hmembers : ∀ m ∈ members, PassedOver m.item.value) : PassedOver (objectText b members) := by
  refine passedOver_cons rfl fun fuel c rest hfuel _ h => ?_
  have hbehind := Cursor.rest_advance_one h
  rw [List.append_assoc] at hbehind
  rw [List.length_append] at hfuel
  rw [ignoreValue]
  simp only [h]
  cases members with
  | nil =>
    have hend : (c.skip.advance 1).skip.rest = '\x7d' :: rest :=
      Cursor.rest_skip hbehind (by decide)
    refine ⟨(c.skip.advance 1).skip.advance 1, ?_, Cursor.rest_advance_one hend⟩
    rw [hend]
    rfl
  | cons m members =>
    have hfirst : (c.skip.advance 1).skip.rest = '"' :: closed m.name (m.between.chars ++ ':' ::
        (m.item.text ++ (entries '\x7d' false (members.map Member.text) ++ rest))) := by
      simp only [List.map_cons, entries, if_true, List.nil_append, Member.text, closed,
        List.append_assoc, List.cons_append] at hbehind ⊢
      rw [← List.append_assoc b.chars] at hbehind
      exact Cursor.rest_skip (b := b.append m.before) hbehind rfl
    have hsteps : 2 * (closed m.name (m.between.chars ++ ':' :: (m.item.text ++
        entries '\x7d' false (members.map Member.text)))).length ≤ fuel := by
      simp only [List.map_cons, entries, if_true, List.nil_append, Member.text, List.length_append,
        List.length_cons, length_closed] at hfuel ⊢
      omega
    obtain ⟨c', hread, hc'⟩ := ignoreMembers_entries members m (b := .none) hmembers hsteps hfirst
    refine ⟨c', ?_, hc'⟩
    rw [← hread, hfirst]
    rfl

/-- **Every value is passed over to its end.** -/
theorem ignoreValue_isValue {v : List Char} (hv : IsValue v) : PassedOver v := by
  induction hv with
  | null =>
    refine passedOver_cons rfl fun fuel c rest _ _ h => ?_
    rw [ignoreValue]
    simp only [h]
    exact readLetters_append ['n', 'u', 'l', 'l'] h
  | truth =>
    refine passedOver_cons rfl fun fuel c rest _ _ h => ?_
    rw [ignoreValue]
    simp only [h]
    exact readLetters_append ['t', 'r', 'u', 'e'] h
  | falsity =>
    refine passedOver_cons rfl fun fuel c rest _ _ h => ?_
    rw [ignoreValue]
    simp only [h]
    exact readLetters_append ['f', 'a', 'l', 's', 'e'] h
  | number n => exact passedOver_number n
  | string pieces => exact passedOver_string pieces
  | array b items values ih => exact passedOver_array b items values ih
  | object b members values ih => exact passedOver_object b members ih

/-- A value is passed over with the steps that are given. -/
theorem ignore_isValue {v : List Char} {b : Blanks} (hv : IsValue v) (hrest : Ends rest)
    (h : c.rest = b.chars ++ (v ++ rest)) : ∃ c', ignore c = .ok c' ∧ c'.rest = rest := by
  refine ignoreValue_isValue hv ?_ hrest h
  rw [h, List.length_append, List.length_append]
  omega

end HardenAudit.Json
