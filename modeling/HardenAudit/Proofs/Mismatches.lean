import HardenAudit.Failure
import HardenAudit.Proofs.Comparing

/-!
# What a message about wrong counts says

The message names the disagreements one after the other, with a semicolon and a blank between each two.
No key, number or word has a semicolon in it, so the message falls apart into its entries; each of them
has a blank in front, as the heading ends in one.  In an entry the key goes up to the only colon, and a
number up to the first character that is no digit.

    the words for a disagreement are read back                          (ofWords?_text)
    behind a blank, entries are parted by semicolons alone              (blank_cons_intercalate)
    a message is read back, and so no two lists have the same message   (mismatches_read_back)
-/

namespace HardenAudit

/-! ## Algorithm -/

namespace Discrepancy

/-- The number whose digits stand in front, and what follows them. -/
def readNumber (cs : List Char) : Nat × List Char :=
  (Nat.ofDigitChars 10 (cs.takeWhile Char.isDigit) 0, cs.dropWhile Char.isDigit)

/-- Reads the words for a disagreement. -/
def ofWords? (cs : List Char) : Option Discrepancy :=
  let key := cs.takeWhile (· != ':')
  let (expected, rest) := readNumber (cs.drop (key.length + ": expected ".length))
  let (actual, _) := readNumber (rest.drop ", got ".length)
  (Category.ofKey? (String.ofList key)).map (⟨·, expected.toUInt32, actual.toUInt32⟩)

end Discrepancy

/-- Reads a message about wrong counts. -/
def Failure.mismatches? (message : String) : Option (List Discrepancy) :=
  let entries := (message.toList.drop "Diagnostic counts mismatched:".length).splitOn ';'
  if entries = [[' ']] then some []
  else entries.mapM fun entry => Discrepancy.ofWords? (entry.drop 1)

/-! ## Entries -/

namespace Discrepancy

theorem readNumber_append (n : Nat) {rest : List Char}
    (hrest : rest.head?.all fun c => !c.isDigit) :
    readNumber (Nat.toDigits 10 n ++ rest) = (n, rest) := by
  have hdigits : ∀ c ∈ Nat.toDigits 10 n, c.isDigit = true := fun c =>
    Nat.isDigit_of_mem_toDigits (by decide) (by decide)
  unfold readNumber
  rw [List.takeWhile_append_of_pos hdigits, List.dropWhile_append_of_pos hdigits]
  cases rest with
  | nil => rw [List.takeWhile_nil, List.dropWhile_nil, List.append_nil, Nat.ofDigitChars_ten_toDigits]
  | cons c rest =>
    have hc : ¬ c.isDigit = true := by simpa using hrest
    rw [List.takeWhile_cons_of_neg hc, List.dropWhile_cons_of_neg hc, List.append_nil,
      Nat.ofDigitChars_ten_toDigits]

theorem toList_text (d : Discrepancy) : d.text.toList = d.category.key.toList ++ (": expected ".toList ++
    (Nat.toDigits 10 d.expected.toNat ++ (", got ".toList ++ Nat.toDigits 10 d.actual.toNat))) := by
  unfold text
  simp [String.toList_append]

theorem takeWhile_text (d : Discrepancy) :
    d.text.toList.takeWhile (· != ':') = d.category.key.toList := by
  have hkey : d.category.key.toList.all (· != ':') = true := by cases d.category <;> decide
  rw [toList_text, List.takeWhile_append_of_pos (List.all_eq_true.mp hkey)]
  exact List.append_nil _

/-- The words for a disagreement are read back. -/
theorem ofWords?_text (d : Discrepancy) : ofWords? d.text.toList = some d := by
  unfold ofWords?
  rw [takeWhile_text]
  dsimp only
  rw [toList_text, List.drop_length_add_append, List.drop_left' String.length_toList,
    readNumber_append _ rfl]
  dsimp only
  rw [List.drop_left' String.length_toList, ← List.append_nil (Nat.toDigits 10 d.actual.toNat),
    readNumber_append _ rfl]
  dsimp only
  rw [String.ofList_toList, (Category.ofKey?_eq_some_iff _ d.category).mpr rfl]
  show some (Discrepancy.mk d.category (.ofNat d.expected.toNat) (.ofNat d.actual.toNat)) = some d
  rw [UInt32.ofNat_toNat, UInt32.ofNat_toNat]

/-- No semicolon stands in the words for a disagreement. -/
theorem semicolon_not_mem_text (d : Discrepancy) : ';' ∉ d.text.toList := by
  have hdigits : ∀ n, ';' ∉ Nat.toDigits 10 n := fun n hm =>
    absurd (Nat.isDigit_of_mem_toDigits (by decide) (by decide) hm) (by decide)
  have hkey : ';' ∉ d.category.key.toList := by
    cases d.category <;> decide
  rw [toList_text]
  simp only [List.mem_append, not_or]
  exact ⟨hkey, by decide, hdigits _, by decide, hdigits _⟩

end Discrepancy

/-! ## Messages -/

namespace Failure

/-- Behind a blank, entries that are parted by a semicolon and a blank are entries with a blank in front
that are parted by a semicolon. -/
theorem blank_cons_intercalate (e : List Char) (more : List (List Char)) :
    ' ' :: "; ".toList.intercalate (e :: more) =
      [';'].intercalate ((e :: more).map (' ' :: ·)) := by
  induction more generalizing e with
  | nil => simp
  | cons e' more ih =>
    rw [List.intercalate_cons_cons, List.map_cons, List.map_cons, List.intercalate_cons_cons,
      ← List.map_cons, ← ih]
    simp

/-- The message is its heading, with its entries behind. -/
theorem drop_message (ds : List Discrepancy) :
    ((Failure.countMismatch ds).message).toList.drop "Diagnostic counts mismatched:".length =
      ' ' :: "; ".toList.intercalate (ds.map fun d => d.text.toList) := by
  unfold message
  rw [String.toList_append, String.toList_intercalate, List.map_map]
  rfl

/-- The entries of a message, if there are any, are the words for the disagreements, with a blank in
front. -/
theorem splitOn_message {ds : List Discrepancy} (hds : ds ≠ []) :
    (((Failure.countMismatch ds).message).toList.drop "Diagnostic counts mismatched:".length).splitOn ';' =
      ds.map fun d => ' ' :: d.text.toList := by
  have hentries : ∀ entry ∈ ds.map fun d => ' ' :: d.text.toList, ';' ∉ entry := by
    intro entry hentry
    obtain ⟨d, -, rfl⟩ := List.mem_map.mp hentry
    simpa using d.semicolon_not_mem_text
  obtain ⟨d, more, rfl⟩ := List.exists_cons_of_ne_nil hds
  rw [drop_message, List.map_cons, blank_cons_intercalate, List.map_cons, List.map_map]
  exact List.splitOn_intercalate ';' hentries (by simp)

theorem mapM_ofWords? (ds : List Discrepancy) :
    (ds.map fun d => ' ' :: d.text.toList).mapM (fun entry => Discrepancy.ofWords? (entry.drop 1)) =
      some ds := by
  induction ds with
  | nil => rfl
  | cons d more ih =>
    rw [List.map_cons, List.mapM_cons, ih, List.drop_one, List.tail_cons, d.ofWords?_text]
    rfl

/-- A message is read back. -/
theorem mismatches?_message (ds : List Discrepancy) :
    mismatches? (Failure.countMismatch ds).message = some ds := by
  unfold mismatches?
  cases ds with
  | nil => decide
  | cons d more =>
    have hblank : (d :: more).map (fun d => ' ' :: d.text.toList) ≠ [[' ']] := by
      intro h
      have hwords := d.ofWords?_text
      rw [(List.cons.inj (List.cons.inj h).1).2] at hwords
      cases hwords
    rw [splitOn_message (by simp)]
    dsimp only
    rw [if_neg hblank, mapM_ofWords?]

/-! ## Top theorem -/

/-- **The message about wrong counts can be read back**, down to the order of the entries and to there
being none.  So two lists of disagreements have the same message only if they are the same list. -/
theorem mismatches_read_back (ds others : List Discrepancy) :
    mismatches? (Failure.countMismatch ds).message = some ds ∧
    ((Failure.countMismatch ds).message = (Failure.countMismatch others).message ↔ ds = others) := by
  refine ⟨mismatches?_message ds, fun h => ?_, fun h => h ▸ rfl⟩
  have hread := mismatches?_message ds
  rw [h, mismatches?_message] at hread
  exact (Option.some.inj hread).symm

end Failure
end HardenAudit
