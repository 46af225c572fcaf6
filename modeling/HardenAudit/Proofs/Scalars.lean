import HardenAudit.Json.Record
import HardenAudit.Proofs.Ignoring
import Mathlib.Data.List.Forall2

/-!
# Reading strings and numbers

A reader of one type reads a value just if the value denotes something of this type, and reads it to its
end (`Reads`).  A string denotes the text that its pieces spell, and a number denotes a word if it has no
sign, no fraction and no exponent, and its digits stand for a number of 64 bits.  Any other value is
refused, whatever it is.

    pieces are read as what they spell, or not at all                  (readChars_closed)
    only whole numbers are read as natural numbers                     (readNumber_natural_iff)
    readers of strings, words and lists of strings                     (reads_string, reads_word, reads_strings)
-/

namespace HardenAudit.Json

variable {c : Cursor} {rest : List Char} {α : Type}

/-! ## Algorithm -/

/-- A reader of one type reads just the values that denote something of this type, each to its end. -/
structure Reads (read : Cursor → Except ReadError (α × Cursor)) (Denotes : List Char → α → Prop) : Prop where
  isValue : ∀ {v a}, Denotes v a → IsValue v
  complete : ∀ {v a} {b : Blanks} {rest} {c : Cursor}, Denotes v a → Ends rest →
    c.rest = b.chars ++ (v ++ rest) → ∃ c', read c = .ok (a, c') ∧ c'.rest = rest
  sound : ∀ {v a} {b : Blanks} {rest} {c c' : Cursor}, IsValue v → Ends rest →
    c.rest = b.chars ++ (v ++ rest) → read c = .ok (a, c') → Denotes v a ∧ c'.rest = rest

/-- A reader reads a text as a value, wherever it stands. -/
def ReadsAs (read : Cursor → Except ReadError (α × Cursor)) (v : List Char) (a : α) : Prop :=
  ∀ ⦃c : Cursor⦄ ⦃b : Blanks⦄ ⦃rest : List Char⦄, Ends rest → c.rest = b.chars ++ (v ++ rest) →
    ∃ c', read c = .ok (a, c') ∧ c'.rest = rest

/-- The items of a list and its end. -/
def readItems (read : Cursor → Except ReadError (α × Cursor)) :
    Nat → (first : Bool) → Cursor → Except ReadError (List α × Cursor)
  | 0, _, c => c.fail .endOfList
  | fuel + 1, first, c =>
    match nextItem first c with
    | .error e => .error e
    | .ok (.done c) => .ok ([], c)
    | .ok (.item c) =>
      match read c with
      | .error e => .error e
      | .ok (a, c) => (readItems read fuel false c).map fun (as, c) => (a :: as, c)

/-- The value is a string of a text. -/
def Spells (v : List Char) (s : String) : Prop :=
  ∃ pieces, v = stringText pieces ∧ spell? pieces = some s.toList

/-- The value is a number without a sign, a fraction or an exponent, of 64 bits. -/
def IsWord (v : List Char) (n : UInt64) : Prop := ∃ w : Whole, v = w.chars ∧ w.value = n.toNat

/-- The value is an array of strings of texts. -/
def Lists (v : List Char) (ss : List String) : Prop :=
  ∃ b items, v = arrayText b items ∧ List.Forall₂ (fun i : Item => Spells i.value) items ss

theorem Spells.head? {v : List Char} {s : String} (h : Spells v s) : v.head? = some '"' := by
  obtain ⟨pieces, rfl, -⟩ := h
  rfl

theorem Lists.head? {v : List Char} {ss : List String} (h : Lists v ss) : v.head? = some '[' := by
  obtain ⟨b, items, rfl, -⟩ := h
  rfl

theorem IsWord.head? {v : List Char} {n : UInt64} (h : IsWord v n) :
    ∃ d, v.head? = some d ∧ d.isDigit = true := by
  obtain ⟨w, rfl, -⟩ := h
  obtain ⟨d, t, hchars, hd⟩ := w.exists_cons
  exact ⟨d, by rw [hchars]; rfl, hd⟩

/-- The outcome of reading: a value and what is left, or a failure. -/
def Outcome (r : Except ReadError (α × Cursor)) (rest : List Char) : Option α → Prop
  | some a => ∃ c', r = .ok (a, c') ∧ c'.rest = rest
  | none => ∃ e, r = .error e

theorem Outcome.of_ok {r : Except ReadError (α × Cursor)} {a? : Option α} {a : α} {c' : Cursor}
    (h : Outcome r rest a?) (hr : r = .ok (a, c')) : a? = some a ∧ c'.rest = rest := by
  match a? with
  | some b =>
    obtain ⟨c₁, hok, hc₁⟩ := h
    rw [hr, Except.ok.injEq, Prod.mk.injEq] at hok
    exact ⟨congrArg some hok.1.symm, hok.2 ▸ hc₁⟩
  | none =>
    obtain ⟨e, he⟩ := h
    rw [hr] at he
    cases he

/-- A value denotes one thing at most. -/
theorem Reads.unique {read : Cursor → Except ReadError (α × Cursor)} {Denotes : List Char → α → Prop}
    (h : Reads read Denotes) {v : List Char} {a a' : α} (ha : Denotes v a) (ha' : Denotes v a') :
    a = a' := by
  have htext : (⟨{}, v⟩ : Cursor).rest = Blanks.none.chars ++ (v ++ []) := (List.append_nil v).symm
  obtain ⟨c, hread, -⟩ := h.complete ha .nil htext
  obtain ⟨c', hread', -⟩ := h.complete ha' .nil htext
  rw [hread, Except.ok.injEq, Prod.mk.injEq] at hread'
  exact hread'.1

theorem Reads.readsAs {read : Cursor → Except ReadError (α × Cursor)} {Denotes : List Char → α → Prop}
    (h : Reads read Denotes) {v : List Char} {a : α} (ha : Denotes v a) : ReadsAs read v a :=
  fun _ _ _ hrest htext => h.complete ha hrest htext

/-! ## Surrogates -/

variable {u v : CodeUnit}

theorem readUnicode_low (hu : u.Low) (h : c.rest = u.chars ++ rest) : ∃ e, readUnicode c = .error e := by
  unfold readUnicode
  rw [readHex_chars u h]
  exact ⟨_, if_pos hu⟩

theorem readUnicode_basic (hlow : ¬ u.Low) (hhigh : ¬ u.High) (h : c.rest = u.chars ++ rest) :
    readUnicode c = .ok (Char.ofNat u.code, 4) := by
  unfold readUnicode
  rw [readHex_chars u h]
  exact (if_neg hlow).trans (if_neg hhigh)

theorem readMiddle_cons {x : Char} (h : c.rest = x :: rest) : readMiddle x c = .ok (c.advance 1) := by
  unfold readMiddle
  simp only [h, if_true]

theorem readUnicode_pair (hlow : ¬ u.Low) (hhigh : u.High)
    (h : c.rest = u.chars ++ '\\' :: 'u' :: (v.chars ++ rest)) :
    readUnicode c = if v.Low then .ok (u.pair v, 10)
      else (((c.advance 4).advance 1).advance 1 |>.advance 4).fail .loneSurrogate := by
  have hbackslash : (c.advance 4).rest = '\\' :: 'u' :: (v.chars ++ rest) :=
    Cursor.rest_advance_append (l := u.chars) h
  have hletter := Cursor.rest_advance_one hbackslash
  unfold readUnicode
  rw [readHex_chars u h]
  refine (if_neg hlow).trans ((if_pos hhigh).trans ?_)
  rw [readMiddle_cons hbackslash]
  show (readMiddle 'u' ((c.advance 4).advance 1) >>= _) = _
  rw [readMiddle_cons hletter]
  show (readHex (((c.advance 4).advance 1).advance 1) >>= _) = _
  rw [readHex_chars v (Cursor.rest_advance_one hletter)]
  rfl

theorem readMiddle_fails {x : Char} (h : ∀ t, c.rest ≠ x :: t) : ∃ e, readMiddle x c = .error e := by
  unfold readMiddle
  cases hrest : c.rest with
  | nil => exact ⟨_, rfl⟩
  | cons y t =>
    have hy : y ≠ x := fun hy => h t (hy ▸ hrest)
    exact ⟨_, if_neg hy⟩

/-- A high surrogate needs another escape behind it. -/
theorem readUnicode_lone (hlow : ¬ u.Low) (hhigh : u.High) (h : c.rest = u.chars ++ rest)
    (hrest : ∀ t, rest ≠ '\\' :: 'u' :: t) : ∃ e, readUnicode c = .error e := by
  have hbehind : (c.advance 4).rest = rest := Cursor.rest_advance_append (l := u.chars) h
  unfold readUnicode
  rw [readHex_chars u h]
  show ∃ e, (if u.Low then _ else if u.High then (readMiddle '\\' (c.advance 4) >>= _) else _) = .error e
  rw [if_neg hlow, if_pos hhigh]
  by_cases hbackslash : ∃ t, rest = '\\' :: t
  · obtain ⟨t, rfl⟩ := hbackslash
    rw [readMiddle_cons hbehind]
    obtain ⟨e, he⟩ := readMiddle_fails (x := 'u') (c := (c.advance 4).advance 1) fun t' ht' =>
      hrest t' (by rw [← ht', Cursor.rest_advance_one hbehind])
    refine ⟨e, ?_⟩
    show (readMiddle 'u' ((c.advance 4).advance 1) >>= _) = .error e
    rw [he]
    rfl
  · obtain ⟨e, he⟩ := readMiddle_fails (x := '\\') fun t ht => hbackslash ⟨t, by rw [← hbehind, ht]⟩
    exact ⟨e, by rw [he]; rfl⟩

/-! ## Strings -/

/-- Characters that belong to an escape are left out one by one. -/
theorem readChars_skip (l rest : List Char) : ∀ p, ∃ p',
    readChars l.length p (l ++ rest) = readChars 0 p' rest := by
  induction l with
  | nil => exact fun p => ⟨p, rfl⟩
  | cons x l ih => exact fun p => ih _

theorem closed_cons (piece : Piece) (pieces : List Piece) (rest : List Char) :
    closed (piece :: pieces) rest = piece.text ++ closed pieces rest := List.append_assoc ..

/-- A character in front adds to the outcome. -/
theorem Outcome.cons {r : Except ReadError (List Char × Cursor)} {cs? : Option (List Char)} (x : Char)
    (h : Outcome r rest cs?) :
    Outcome (r.map fun (ys, c) => (x :: ys, c)) rest (cs?.map (x :: ·)) := by
  match cs? with
  | some cs =>
    obtain ⟨c', rfl, hc'⟩ := h
    exact ⟨c', rfl, hc'⟩
  | none =>
    obtain ⟨e, rfl⟩ := h
    exact ⟨e, rfl⟩

/-- An escape that stands for a character, at a backslash. -/
theorem readChars_escape {p : Position} {l : List Char} {x : Char}
    (h : readEscape ⟨p.past '\\', l ++ rest⟩ = .ok (x, l.length)) : ∃ p',
    readChars 0 p ('\\' :: (l ++ rest)) = (readChars 0 p' rest).map fun (ys, c) => (x :: ys, c) := by
  obtain ⟨p', hskip⟩ := readChars_skip l rest (p.past '\\')
  exact ⟨p', by rw [readChars, if_neg (by decide), if_pos rfl, h, ← hskip]⟩

theorem readChars_escape_fails {p : Position} {l : List Char}
    (h : ∃ e, readEscape ⟨p.past '\\', l⟩ = .error e) : ∃ e, readChars 0 p ('\\' :: l) = .error e := by
  obtain ⟨e, he⟩ := h
  exact ⟨e, by rw [readChars, if_neg (by decide), if_pos rfl, he]⟩

/-- The escape of a code unit is read behind its letter. -/
theorem readEscape_unit (p : Position) (l : List Char) : readEscape ⟨p, 'u' :: l⟩ =
    (readUnicode (Cursor.advance ⟨p, 'u' :: l⟩ 1)).map fun (y, n) => (y, n + 1) := rfl

/-- A code unit that cannot be read leaves the string unread. -/
theorem readChars_unit_fails {p : Position} {pieces : List Piece}
    (h : ∀ c : Cursor, c.rest = u.chars ++ closed pieces rest → ∃ e, readUnicode c = .error e) :
    ∃ e, readChars 0 p (closed (.unit u :: pieces) rest) = .error e := by
  rw [closed_cons, Piece.text, List.cons_append, List.cons_append]
  refine readChars_escape_fails ?_
  rw [readEscape_unit]
  obtain ⟨e, he⟩ := h (Cursor.advance ⟨p.past '\\', 'u' :: (u.chars ++ closed pieces rest)⟩ 1) rfl
  exact ⟨e, by rw [he]; rfl⟩

/-! The equations of spelling for code units. -/

theorem spell?_low {pieces : List Piece} (hlow : u.Low) : spell? (.unit u :: pieces) = none := by
  rw [spell?.eq_def]
  exact if_pos hlow

theorem spell?_pair {pieces : List Piece} (hlow : ¬ u.Low) (hhigh : u.High) :
    spell? (.unit u :: .unit v :: pieces) =
      if v.Low then (spell? pieces).map (u.pair v :: ·) else none := by
  rw [spell?.eq_def]
  exact (if_neg hlow).trans (if_pos hhigh)

theorem spell?_lone {pieces : List Piece} (hlow : ¬ u.Low) (hhigh : u.High)
    (hne : ∀ v more, pieces ≠ .unit v :: more) : spell? (.unit u :: pieces) = none := by
  rw [spell?.eq_def]
  refine (if_neg hlow).trans ((if_pos hhigh).trans ?_)
  split
  · next v more => exact absurd rfl (hne v more)
  · rfl

theorem spell?_basic {pieces : List Piece} (hlow : ¬ u.Low) (hhigh : ¬ u.High) :
    spell? (.unit u :: pieces) = (spell? pieces).map (Char.ofNat u.code :: ·) := by
  rw [spell?.eq_def]
  exact (if_neg hlow).trans (if_neg hhigh)

/-- Only an escape of a code unit begins like one. -/
theorem closed_ne_unit {pieces : List Piece} (hne : ∀ v more, pieces ≠ .unit v :: more) (t : List Char) :
    closed pieces rest ≠ '\\' :: 'u' :: t := by
  intro h
  match pieces with
  | [] => cases h
  | .plain x :: pieces => exact x.plain.2.1 (List.cons.inj h).1
  | .escape e :: pieces =>
    have hletter := (List.cons.inj (List.cons.inj h).2).1
    cases e <;> cases hletter
  | .unit v :: more => exact hne v more rfl

/-- Pieces are read as what they spell, or not at all. -/
theorem readChars_closed (pieces : List Piece) : ∀ p,
    Outcome (readChars 0 p (closed pieces rest)) rest (spell? pieces) := by
  induction pieces using spell?.induct with
  | case1 => exact fun p => ⟨_, if_pos rfl, rfl⟩
  | case2 x pieces ih =>
    intro p
    obtain ⟨hquote, hbackslash, hcontrol⟩ := x.plain
    rw [closed_cons, spell?, Piece.text, List.singleton_append, readChars, if_neg hquote,
      if_neg hbackslash, if_neg (Nat.not_lt.mpr hcontrol)]
    exact (ih _).cons x.char
  | case3 e pieces ih =>
    intro p
    have hescape : readEscape ⟨p.past '\\', [e.letter] ++ closed pieces rest⟩ = .ok (e.char, 1) := by
      unfold readEscape
      simp only [List.singleton_append, e.simpleEscape?_letter]
    obtain ⟨p', hread⟩ := readChars_escape hescape
    rw [closed_cons, spell?]
    exact hread ▸ (ih p').cons e.char
  | case4 u pieces hlow =>
    intro p
    rw [spell?_low hlow]
    exact readChars_unit_fails fun c hc => readUnicode_low hlow hc
  | case5 u hlow hhigh v pieces hlow' ih =>
    intro p
    have htext : closed (.unit u :: .unit v :: pieces) rest =
        '\\' :: ('u' :: (u.chars ++ '\\' :: 'u' :: v.chars) ++ closed pieces rest) := by
      simp [closed, Piece.text]
    have hescape : readEscape ⟨p.past '\\',
        'u' :: (u.chars ++ '\\' :: 'u' :: v.chars) ++ closed pieces rest⟩ = .ok (u.pair v, 11) := by
      rw [List.cons_append, readEscape_unit, readUnicode_pair hlow hhigh (by simp; rfl), if_pos hlow']
      rfl
    obtain ⟨p', hread⟩ := readChars_escape hescape
    rw [spell?_pair hlow hhigh, if_pos hlow', htext, hread]
    exact (ih p').cons (u.pair v)
  | case6 u hlow hhigh v pieces hlow' =>
    intro p
    rw [spell?_pair hlow hhigh, if_neg hlow']
    refine readChars_unit_fails fun c hc => ?_
    rw [closed_cons, Piece.text] at hc
    exact ⟨_, (readUnicode_pair hlow hhigh hc).trans (if_neg hlow')⟩
  | case7 u pieces hlow hhigh hne =>
    intro p
    rw [spell?_lone hlow hhigh hne]
    exact readChars_unit_fails fun c hc => readUnicode_lone hlow hhigh hc (closed_ne_unit hne)
  | case8 u pieces hlow hhigh ih =>
    intro p
    have hescape : readEscape ⟨p.past '\\', 'u' :: u.chars ++ closed pieces rest⟩ =
        .ok (Char.ofNat u.code, 5) := by
      rw [List.cons_append, readEscape_unit, readUnicode_basic hlow hhigh rfl]
      rfl
    obtain ⟨p', hread⟩ := readChars_escape hescape
    rw [closed_cons, spell?_basic hlow hhigh]
    exact hread ▸ (ih p').cons (Char.ofNat u.code)

/-- A string is read as what it spells, or not at all. -/
theorem readString_closed (pieces : List Piece) (h : c.rest = '"' :: closed pieces rest) :
    Outcome (readString c) rest ((spell? pieces).map String.ofList) := by
  have hchars : Outcome (readChars 0 (c.advance 1).position (closed pieces rest)) rest (spell? pieces) :=
    readChars_closed pieces (c.advance 1).position
  unfold readString
  dsimp only
  rw [Cursor.rest_advance_one h]
  match hspell : spell? pieces with
  | some cs =>
    rw [hspell] at hchars
    obtain ⟨c', hread, hc'⟩ := hchars
    exact ⟨c', by rw [hread]; rfl, hc'⟩
  | none =>
    rw [hspell] at hchars
    obtain ⟨e, hread⟩ := hchars
    exact ⟨e, by rw [hread]; rfl⟩

/-! ## Wrong types -/

/-- A value of the wrong type is never read. -/
theorem wrongType_ne_ok {expected : String} {r : α × Cursor} : wrongType expected c ≠ .ok r := by
  have hbind : ∀ {β : Type} (read : Except ReadError β) (f : β → Except ReadError (α × Cursor)),
      (∀ b, f b ≠ .ok r) → (read >>= f) ≠ .ok r := by
    intro β read f hf
    cases read with
    | error e => exact fun h => by cases h
    | ok b => exact hf b
  have hfail : ∀ (c : Cursor) (cause : Cause), c.fail cause ≠ .ok r := fun c cause h => by cases h
  unfold wrongType
  split
  · exact fun h => by cases h
  · repeat' split
    · exact hbind _ _ fun b => hfail b _
    · exact hbind _ _ fun b => hfail b _
    · exact hbind _ _ fun b => hfail b _
    · exact hbind _ _ fun b => hfail b.2 _
    · exact hbind _ _ fun b => hfail b.2 _
    · exact hfail _ _
    · exact hfail _ _
    · exact fun h => by cases h

/-- A reader of strings reads the strings that spell a text. -/
theorem reads_string (expected : String) : Reads (stringValue expected) Spells where
  isValue := by
    rintro v s ⟨pieces, rfl, -⟩
    exact .string pieces
  complete := by
    rintro v s b rest c ⟨pieces, rfl, hspell⟩ - h
    have hskip : c.skip.rest = '"' :: closed pieces rest := by
      rw [stringText, closed, List.cons_append, List.append_assoc] at h
      exact Cursor.rest_skip h (by decide)
    have hread := readString_closed pieces hskip
    rw [hspell, Option.map_some, String.ofList_toList] at hread
    unfold stringValue
    dsimp only
    rw [if_pos (by rw [hskip]; rfl)]
    exact hread
  sound := by
    intro v s b rest c c' hv _ h hread
    obtain ⟨hskip, hhead⟩ := Cursor.rest_skip_value hv h
    unfold stringValue at hread
    dsimp only at hread
    split at hread
    · next hquote =>
      obtain ⟨pieces, rfl⟩ := hv.eq_stringText (hhead ▸ hquote)
      rw [stringText, closed, List.cons_append, List.append_assoc] at hskip
      obtain ⟨hspell, hrest⟩ := (readString_closed pieces hskip).of_ok hread
      obtain ⟨cs, hcs, rfl⟩ := Option.map_eq_some_iff.mp hspell
      exact ⟨⟨pieces, rfl, by rw [hcs, String.toList_ofList]⟩, hrest⟩
    · exact absurd hread wrongType_ne_ok

/-! ## Numbers -/

/-- Digits are appended up to the last one just if the number stays within a word. -/
theorem appendDigits_eq (ds : List Char) : ∀ n, n ≤ wordMax →
    if Nat.ofDigitChars 10 ds n ≤ wordMax then appendDigits n ds = (Nat.ofDigitChars 10 ds n, [])
    else (appendDigits n ds).2 ≠ [] := by
  induction ds with
  | nil =>
    intro n hn
    rw [Nat.ofDigitChars_nil, if_pos hn, appendDigits]
  | cons d ds ih =>
    intro n hn
    have hnext : n * 10 + digitValue d = 10 * n + (d.toNat - '0'.toNat) := by
      rw [Nat.mul_comm]
      rfl
    rw [Nat.ofDigitChars_cons, appendDigits, ← hnext]
    by_cases hmax : n * 10 + digitValue d > wordMax
    · have hgrows : n * 10 + digitValue d ≤ Nat.ofDigitChars 10 ds (n * 10 + digitValue d) := by
        rw [Nat.ofDigitChars_eq_ofDigitChars_zero]
        have hpos : 0 < 10 ^ ds.length := Nat.pow_pos (by decide)
        exact Nat.le_trans (Nat.le_mul_of_pos_left _ hpos) (Nat.le_add_right _ _)
      rw [if_neg (by omega)]
      simp only [if_pos hmax, ne_eq, reduceCtorEq, not_false_eq_true]
    · simp only [if_neg hmax]
      exact ih _ (by omega)

theorem floatOf_ne_natural {negative : Bool} {n k : Nat} {e : Int} {c' : Cursor} :
    floatOf negative n e c ≠ .ok (.natural k, c') := by
  unfold floatOf
  split <;> exact fun h => by cases h

theorem readExponent_ne_natural {negative : Bool} {n k : Nat} {e : Int} {c' : Cursor} :
    readExponent negative n e c ≠ .ok (.natural k, c') := by
  unfold readExponent
  dsimp only
  generalize (if (c.advance 1).rest.head? = some '+' ∨ (c.advance 1).rest.head? = some '-'
    then (c.advance 1).advance 1 else c.advance 1) = d
  split
  · exact fun h => by cases h
  · split
    · exact fun h => by cases h
    · split
      · exact floatOf_ne_natural
      · split <;> exact fun h => by cases h

theorem readFraction_ne_natural {negative : Bool} {n k : Nat} {e : Int} {c' : Cursor} :
    readFraction negative n e c ≠ .ok (.natural k, c') := by
  unfold readFraction
  dsimp only
  split
  · exact fun h => by cases h
  · split
    · split
      · exact readExponent_ne_natural
      · exact floatOf_ne_natural
    · exact floatOf_ne_natural

namespace NumberLiteral

/-- A number without a sign, a fraction or an exponent. -/
structure IsPlain (n : NumberLiteral) : Prop where
  sign : n.negative = false
  fraction : n.fraction = none
  exponent : n.exponent = none

theorem IsPlain.text_eq {n : NumberLiteral} (h : n.IsPlain) : n.text = n.whole.chars := by
  unfold text unsigned
  rw [h.sign, h.fraction, h.exponent]
  exact List.append_nil _

end NumberLiteral

/-- A whole number as a literal of its own. -/
def Whole.literal (w : Whole) : NumberLiteral := ⟨false, w, none, none⟩

theorem Whole.text_literal (w : Whole) : w.literal.text = w.chars :=
  NumberLiteral.IsPlain.text_eq ⟨rfl, rfl, rfl⟩

/-- What digits are read as that were appended up to some point, if nothing of a number follows them. -/
def wholeNumber (negative : Bool) (appended : Nat × List Char) (c : Cursor) :
    Except ReadError (Number × Cursor) :=
  if appended.2 ≠ [] then floatOf negative appended.1 appended.2.length c
  else if !negative then .ok (.natural appended.1, c)
  else if appended.1 = 0 ∨ appended.1 > negativeMax then floatOf true appended.1 0 c
  else .ok (.negative appended.1, c)

/-- Digits without a sign are read as a natural number, if it is a number of a word. -/
theorem wholeNumber_natural_iff (w : Whole) {negative : Bool} {k : Nat} {c' : Cursor} :
    wholeNumber negative (appendDigits 0 w.chars) c = .ok (.natural k, c') ↔
      negative = false ∧ w.value = k ∧ k ≤ wordMax ∧ c' = c := by
  have happend : if w.value ≤ wordMax then appendDigits 0 w.chars = (w.value, [])
      else (appendDigits 0 w.chars).2 ≠ [] := appendDigits_eq w.chars 0 (Nat.zero_le _)
  unfold wholeNumber
  by_cases hmax : w.value ≤ wordMax
  · rw [if_pos hmax] at happend
    rw [happend]
    cases negative with
    | false =>
      simp only [ne_eq, not_true_eq_false, if_false, Bool.not_false, if_true, Except.ok.injEq,
        Prod.mk.injEq, Number.natural.injEq, true_and]
      constructor
      · rintro ⟨hk, hc⟩
        exact ⟨hk, hk ▸ hmax, hc.symm⟩
      · rintro ⟨hk, -, hc⟩
        exact ⟨hk, hc.symm⟩
    | true =>
      refine iff_of_false ?_ fun h => by cases h.1
      simp only [ne_eq, not_true_eq_false, if_false, Bool.not_true, Bool.false_eq_true]
      split
      · exact floatOf_ne_natural
      · exact fun h => by cases h
  · rw [if_neg hmax] at happend
    rw [if_pos happend]
    refine iff_of_false floatOf_ne_natural ?_
    rintro ⟨-, rfl, hk, -⟩
    exact hmax hk

/-- Only whole numbers without a sign are read as natural numbers, if they are numbers of a word. -/
theorem readUnsigned_natural_iff (n : NumberLiteral) {negative : Bool} (hrest : Ends rest)
    (h : c.rest = n.unsigned ++ rest) {k : Nat} {c' : Cursor} :
    readUnsigned negative c = .ok (.natural k, c') ↔ negative = false ∧ n.fraction = none ∧
      n.exponent = none ∧ n.whole.value = k ∧ k ≤ wordMax ∧ c' = c.advance n.whole.chars.length := by
  rw [NumberLiteral.unsigned, List.append_assoc, List.append_assoc] at h
  have hdigits := digits_eq n.whole.toDigits h
    (NumberLiteral.not_digit_of_fractionText n.fraction n.exponent hrest)
  have hbehind := Cursor.rest_advance_append h
  have hleading := n.whole.not_leading
  obtain ⟨d, t, hchars, hd⟩ := n.whole.exists_cons
  have hcons : c.rest = d :: (t ++ (NumberLiteral.fractionText n.fraction ++
      (NumberLiteral.exponentText n.exponent ++ rest))) := by rw [h, hchars]; rfl
  have hsingle : ¬ (d = '0' ∧ n.whole.chars.length > 1) := by
    rintro ⟨hzero, hlong⟩
    exact hleading ⟨by rw [hchars, hzero]; rfl, hlong⟩
  unfold readUnsigned
  simp only [hcons, hd, Bool.not_true, Bool.false_eq_true, if_false, hdigits, if_neg hsingle]
  generalize c.advance n.whole.chars.length = c₁ at hbehind ⊢
  -- what follows the digits tells whether there is a fraction or an exponent
  cases hfraction : n.fraction with
  | some ds =>
    have hhead : c₁.rest.head? = some '.' := by rw [hbehind, hfraction]; rfl
    simp only [hhead]
    exact iff_of_false readFraction_ne_natural fun h => by cases h.2.1
  | none =>
    cases hexponent : n.exponent with
    | some e =>
      have hhead : c₁.rest.head? = some e.mark := by rw [hbehind, hfraction, hexponent]; rfl
      rcases e.isMark with hmark | hmark <;>
      · simp only [hhead, hmark]
        exact iff_of_false readExponent_ne_natural fun h => by cases h.2.2.1
    | none =>
      have hhead : ∀ x ∈ c₁.rest.head?, x ≠ '.' ∧ x ≠ 'e' ∧ x ≠ 'E' := by
        rw [hbehind, hfraction, hexponent]
        exact fun x hx => (hrest x hx).2
      split
      · next heq => exact absurd rfl (hhead _ heq).1
      · next heq => exact absurd rfl (hhead _ heq).2.1
      · next heq => exact absurd rfl (hhead _ heq).2.2
      · rw [eq_self, eq_self, true_and, true_and]
        exact wholeNumber_natural_iff n.whole

/-- Only whole numbers without a sign, a fraction and an exponent are read as natural numbers, if they are
numbers of a word. -/
theorem readNumber_natural_iff (n : NumberLiteral) (hrest : Ends rest) (h : c.rest = n.text ++ rest)
    {k : Nat} {c' : Cursor} : readNumber c = .ok (.natural k, c') ↔
      n.IsPlain ∧ n.whole.value = k ∧ k ≤ wordMax ∧ c' = c.advance n.text.length := by
  obtain ⟨hsign, hunsigned⟩ := n.rest_sign h
  unfold readNumber
  cases hnegative : n.negative with
  | true =>
    rw [if_pos (hsign.mpr hnegative)] at hunsigned ⊢
    refine (readUnsigned_natural_iff n hrest hunsigned).trans (iff_of_false (fun h => ?_) fun h => ?_)
    · cases h.1
    · rw [h.1.sign] at hnegative
      cases hnegative
  | false =>
    have hhead : ¬ c.rest.head? = some '-' := fun h => by
      rw [hsign.mp h] at hnegative
      cases hnegative
    rw [if_neg hhead] at hunsigned ⊢
    refine (readUnsigned_natural_iff n hrest hunsigned).trans ?_
    constructor
    · rintro ⟨-, hfraction, hexponent, hk, hmax, rfl⟩
      have hplain : n.IsPlain := ⟨hnegative, hfraction, hexponent⟩
      exact ⟨hplain, hk, hmax, by rw [hplain.text_eq]⟩
    · rintro ⟨hplain, hk, hmax, rfl⟩
      exact ⟨rfl, hplain.fraction, hplain.exponent, hk, hmax, by rw [hplain.text_eq]⟩

theorem toUInt64_eq {k : Nat} (hk : k ≤ wordMax) (n : UInt64) : k.toUInt64 = n ↔ k = n.toNat := by
  have hlt : k < 2 ^ 64 := Nat.lt_of_le_of_lt hk (by decide)
  rw [← UInt64.toNat_inj, Nat.toUInt64_eq, UInt64.toNat_ofNat_of_lt' hlt]

/-- A reader of words reads the numbers of 64 bits that have no sign, no fraction and no exponent. -/
theorem reads_word : Reads wordValue IsWord where
  isValue := by
    rintro v n ⟨w, rfl, -⟩
    exact w.text_literal ▸ .number w.literal
  complete := by
    rintro v n b rest c ⟨w, rfl, hvalue⟩ hrest h
    obtain ⟨d, t, hchars, hd⟩ := w.exists_cons
    rw [hchars] at h
    have hskip := Cursor.rest_skip h (not_mark_of_isDigit hd).1
    have htext : c.skip.rest = w.literal.text ++ rest := by rw [w.text_literal, hchars, hskip]; rfl
    have hmax : n.toNat ≤ wordMax := Nat.le_of_lt_succ n.toNat_lt
    have hread := (readNumber_natural_iff w.literal hrest htext).mpr
      ⟨⟨rfl, rfl, rfl⟩, hvalue, hmax, rfl⟩
    refine ⟨c.skip.advance w.literal.text.length, ?_, Cursor.rest_advance_append htext⟩
    unfold wordValue
    simp only [hskip, if_pos (Or.inr hd : d = '-' ∨ d.isDigit = true), hread]
    rw [(toUInt64_eq hmax n).mpr rfl]
  sound := by
    intro v n b rest c c' hv hrest h hread
    obtain ⟨x, t, rfl, hx, -⟩ := hv.exists_cons
    have hskip := Cursor.rest_skip h hx
    unfold wordValue at hread
    simp only [hskip] at hread
    split at hread
    · next hnumber =>
      obtain ⟨n', hn'⟩ := hv.eq_number rfl hnumber
      have htext : c.skip.rest = n'.text ++ rest := by rw [← hn', hskip]; rfl
      split at hread
      · cases hread
      · next k c₁ hnatural =>
        cases hread
        obtain ⟨hplain, hvalue, hmax, rfl⟩ := (readNumber_natural_iff n' hrest htext).mp hnatural
        exact ⟨⟨n'.whole, hn'.trans hplain.text_eq, by rw [hvalue, ← toUInt64_eq hmax]⟩,
          Cursor.rest_advance_append htext⟩
      · cases hread
      · cases hread
    · exact absurd hread wrongType_ne_ok

/-! ## Lists of strings -/

variable {b : Blanks} {first : Bool}

/-- At the end of an array there is no next item. -/
theorem nextItem_done (h : c.rest = b.chars ++ (entries ']' first [] ++ rest)) :
    ∃ c', nextItem first c = .ok (.done c') ∧ c'.rest = rest := by
  have hskip : c.skip.rest = ']' :: rest := Cursor.rest_skip h (by decide)
  refine ⟨c.skip.advance 1, ?_, Cursor.rest_advance_one hskip⟩
  unfold nextItem
  simp only [hskip, if_true]

/-- In front of an item, going on leads to its value. -/
theorem nextItem_item {i : Item} {es : List (List Char)} (hi : IsValue i.value)
    (h : c.rest = b.chars ++ (entries ']' first (i.text :: es) ++ rest)) :
    ∃ c', nextItem first c = .ok (.item c') ∧
      c'.rest = i.value ++ (i.after.chars ++ (entries ']' false es ++ rest)) := by
  obtain ⟨x, t, hvalue, hx, hend⟩ := hi.exists_cons
  rw [entries, Item.text, hvalue] at h
  unfold nextItem
  cases first with
  | true =>
    have hskip : c.skip.rest = x :: (t ++ (i.after.chars ++ (entries ']' false es ++ rest))) := by
      refine Cursor.rest_skip (b := b.append i.before) ?_ hx
      rw [h]
      simp [Blanks.append]
    refine ⟨c.skip, ?_, by rw [hskip, hvalue]; rfl⟩
    simp only [hskip, if_neg hend, if_true]
  | false =>
    have hcomma : c.skip.rest = ',' :: (i.before.chars ++ (x :: (t ++ (i.after.chars ++
        (entries ']' false es ++ rest))))) := by
      refine Cursor.rest_skip (b := b) ?_ (by decide)
      rw [h]
      simp
    have hskip := Cursor.rest_skip (Cursor.rest_advance_one hcomma) hx
    refine ⟨(c.skip.advance 1).skip, ?_, by rw [hskip, hvalue]; rfl⟩
    simp only [hcomma, hskip, if_neg hend]
    rfl

/-- Items are read up to the end of their array. -/
theorem readItems_complete {read : Cursor → Except ReadError (α × Cursor)} {items : List Item}
    {values : List α}
    (h : List.Forall₂ (fun i a => IsValue i.value ∧ ReadsAs read i.value a) items values) :
    ∀ {fuel : Nat} {first : Bool} {c : Cursor} {b : Blanks}, items.length < fuel →
      c.rest = b.chars ++ (entries ']' first (items.map Item.text) ++ rest) →
      ∃ c', readItems read fuel first c = .ok (values, c') ∧ c'.rest = rest := by
  induction h with
  | nil =>
    intro fuel first c b hfuel htext
    obtain ⟨fuel, rfl⟩ : ∃ k, fuel = k + 1 := ⟨fuel - 1, by omega⟩
    obtain ⟨c', hnext, hc'⟩ := nextItem_done htext
    exact ⟨c', by rw [readItems, hnext], hc'⟩
  | @cons i a items values hi _ ih =>
    intro fuel first c b hfuel htext
    rw [List.length_cons] at hfuel
    obtain ⟨fuel, rfl⟩ : ∃ k, fuel = k + 1 := ⟨fuel - 1, by omega⟩
    obtain ⟨hvalue, hreads⟩ := hi
    obtain ⟨c₁, hnext, hc₁⟩ := nextItem_item hvalue htext
    obtain ⟨c₂, hread, hc₂⟩ := hreads (b := .none) (.entries (.inl rfl) i.after _ rest) hc₁
    obtain ⟨c', hmore, hc'⟩ := ih (Nat.lt_of_succ_lt_succ hfuel) hc₂
    refine ⟨c', ?_, hc'⟩
    rw [readItems, hnext]
    simp only [hread, hmore]
    rfl

/-- A list of strings is a list of what a reader of strings reads. -/
theorem stringItems_eq (fuel : Nat) : ∀ (first : Bool) (c : Cursor),
    stringItems fuel first c = readItems (stringValue "a string") fuel first c := by
  induction fuel with
  | zero => exact fun _ _ => rfl
  | succ fuel ih =>
    intro first c
    rw [stringItems, readItems]
    cases nextItem first c with
    | error e => rfl
    | ok next =>
      cases next with
      | done c => rfl
      | item c =>
        dsimp only
        cases stringValue "a string" c with
        | error e => rfl
        | ok r =>
          dsimp only
          rw [ih]

theorem stringItems_sound (items : List Item) : ∀ {fuel : Nat} {first : Bool} {c c' : Cursor} {b : Blanks}
    {ss : List String}, (∀ i ∈ items, IsValue i.value) →
    c.rest = b.chars ++ (entries ']' first (items.map Item.text) ++ rest) →
    stringItems fuel first c = .ok (ss, c') →
    List.Forall₂ (fun i : Item => Spells i.value) items ss ∧ c'.rest = rest := by
  induction items with
  | nil =>
    intro fuel first c c' b ss _ h hread
    cases fuel with
    | zero => cases hread
    | succ fuel =>
      obtain ⟨c₁, hnext, hc₁⟩ := nextItem_done h
      rw [stringItems, hnext] at hread
      cases hread
      exact ⟨.nil, hc₁⟩
  | cons i items ih =>
    intro fuel first c c' b ss hitems h hread
    cases fuel with
    | zero => cases hread
    | succ fuel =>
      have hi := hitems i List.mem_cons_self
      obtain ⟨c₁, hnext, hc₁⟩ := nextItem_item hi h
      rw [stringItems, hnext] at hread
      dsimp only at hread
      split at hread
      · cases hread
      · next s c₂ hs =>
        obtain ⟨hspells, hc₂⟩ := (reads_string "a string").sound (b := .none) hi
          (.entries (.inl rfl) i.after _ rest) hc₁ hs
        cases hmore : stringItems fuel false c₂ with
        | error e =>
          rw [hmore] at hread
          cases hread
        | ok more =>
          rw [hmore] at hread
          cases hread
          obtain ⟨hall, hc'⟩ := ih (fun j hj => hitems j (List.mem_cons_of_mem i hj)) hc₂ hmore
          exact ⟨.cons hspells hall, hc'⟩

theorem length_lt_entries (close : Char) (es : List (List Char)) :
    es.length < (entries close false es).length := by
  induction es with
  | nil => exact Nat.one_pos
  | cons e es ih =>
    simp only [entries, List.length_append, List.length_cons, Bool.false_eq_true, if_false]
    omega

/-- There are no more entries than characters. -/
theorem length_le_entries (close : Char) (first : Bool) (es : List (List Char)) :
    es.length ≤ (entries close first es).length := by
  cases first with
  | false => exact Nat.le_of_lt (length_lt_entries close es)
  | true =>
    cases es with
    | nil => exact Nat.zero_le _
    | cons e es =>
      have := length_lt_entries close es
      simp only [entries, List.length_append, List.length_cons, if_true]
      omega

/-- A reader of lists reads the arrays of strings that spell a text. -/
theorem reads_strings : Reads stringsValue Lists where
  isValue := by
    rintro v ss ⟨b, items, rfl, hss⟩
    refine .array b items ?_
    induction hss with
    | nil => exact fun i hi => absurd hi List.not_mem_nil
    | cons hs _ ih => exact List.forall_mem_cons.mpr ⟨(reads_string "a string").isValue hs, ih⟩
  complete := by
    rintro v ss b rest c ⟨b', items, rfl, hss⟩ - h
    have hskip := Cursor.rest_skip h (by decide)
    have hbehind := (Cursor.rest_advance_one hskip).trans (List.append_assoc ..)
    unfold stringsValue
    dsimp only
    rw [if_pos (by rw [hskip]; rfl)]
    rw [stringItems_eq]
    refine readItems_complete (hss.imp fun i s hs =>
      ⟨(reads_string "a string").isValue hs, (reads_string "a string").readsAs hs⟩) ?_ hbehind
    have hlength := length_le_entries ']' true (items.map Item.text)
    rw [List.length_map] at hlength
    rw [hbehind, List.length_append, List.length_append]
    omega
  sound := by
    intro v ss b rest c c' hv _ h hread
    obtain ⟨hskip, hhead⟩ := Cursor.rest_skip_value hv h
    unfold stringsValue at hread
    dsimp only at hread
    split at hread
    · next hbracket =>
      obtain ⟨b', items, rfl, hvalues⟩ := hv.eq_arrayText (hhead ▸ hbracket)
      have hbehind := (Cursor.rest_advance_one hskip).trans (List.append_assoc ..)
      obtain ⟨hss, hrest⟩ := stringItems_sound items hvalues hbehind hread
      exact ⟨⟨b', items, rfl, hss⟩, hrest⟩
    · exact absurd hread wrongType_ne_ok

end HardenAudit.Json
