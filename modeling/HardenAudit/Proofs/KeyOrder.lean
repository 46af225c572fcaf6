import HardenAudit.Proofs.Decoding
import HardenAudit.Proofs.UnknownKeys

/-!
# Discrepancies stand in the order of the categories

Expectations are kept in the order of the bytes of their keys, with unknown keys anywhere between the known
ones, and the keys of the categories are in this order as well.  So walking the expectations meets the
categories in their own order, and what disagrees is what a walk over the categories finds.  The count of a
category that occurs never falls back on zero if its key is among those that were asked for.

    texts are in the order of their bytes                              (encode_lt)
    the known entries are those of the categories, in their order      (known_eq)
    discrepancies = the categories that disagree, in their order       (discrepancies_eq)
-/

namespace HardenAudit

namespace Text.Utf8

/-! ## The order of bytes -/

/-- The bytes are below others in the order of bytes, whatever follows on either side. -/
def Below (x y : Bytes) : Prop := ∀ r r' : Bytes, x ++ r < y ++ r'

theorem below_of_lt {a b : UInt8} (h : a.toNat < b.toNat) (x y : Bytes) : Below (a :: x) (b :: y) :=
  fun _ _ => List.cons_lt_cons_iff.mpr (.inl (UInt8.lt_iff_toNat_lt.mpr h))

theorem Below.cons {x y : Bytes} (h : Below x y) (a : UInt8) : Below (a :: x) (a :: y) :=
  fun r r' => List.cons_lt_cons_iff.mpr (.inr ⟨rfl, h r r'⟩)

/-- Sequences of one length for codes that differ in these bytes only are in the order of the codes. -/
theorem tailBytes_below {v w : Nat} (hvw : v < w) (d : Nat) :
    v / 64 ^ d = w / 64 ^ d → Below (tailBytes v d) (tailBytes w d) := by
  induction d with
  | zero =>
    intro h
    rw [Nat.pow_zero, Nat.div_one, Nat.div_one] at h
    omega
  | succ d ih =>
    intro h
    rw [div_pow_succ, div_pow_succ] at h
    have hle : v / 64 ^ d ≤ w / 64 ^ d := Nat.div_le_div_right (Nat.le_of_lt hvw)
    rw [tailBytes, tailBytes]
    by_cases hsame : v / 64 ^ d = w / 64 ^ d
    · rw [hsame]
      exact (ih hsame).cons _
    · refine below_of_lt ?_ _ _
      rw [toNat_tailByte, toNat_tailByte]
      omega

theorem mark_le : ∀ l < 4, ∀ k < l, mark (k + 1) ≤ mark l := by decide

theorem leastCode_le : ∀ l < 4, ∀ k < l, leastCode (k + 1) ≤ leastCode l := by decide

/-- The bytes of characters are in the order of the characters. -/
theorem utf8EncodeChar_below {c d : Char} (h : c < d) :
    Below (String.utf8EncodeChar c) (String.utf8EncodeChar d) := by
  have hcode : c.toNat < d.toNat := h
  obtain ⟨k, a, hc⟩ := exists_written c
  obtain ⟨l, b, hd⟩ := exists_written d
  have ha := hc.first
  have hb := hd.first
  rw [hc.bytes_eq, hd.bytes_eq]
  rcases Nat.lt_trichotomy k l with hkl | rfl | hkl
  · -- the longer sequence has the larger first byte
    have hfirst : mark l ≤ b.toNat := by rw [hb]; exact Nat.le_add_left _ _
    exact below_of_lt (Nat.lt_of_lt_of_le hc.first_lt
      (Nat.le_trans (mark_le l hd.due_lt k hkl) hfirst)) _ _
  · have hle : c.toNat / 64 ^ k ≤ d.toNat / 64 ^ k := Nat.div_le_div_right (Nat.le_of_lt hcode)
    by_cases hsame : c.toNat / 64 ^ k = d.toNat / 64 ^ k
    · have hab : a = b := UInt8.toNat_inj.mp (by rw [ha, hb, hsame])
      rw [hab]
      exact (tailBytes_below hcode k hsame).cons b
    · exact below_of_lt (by omega) _ _
  · -- and is that of the larger code
    have hleast := leastCode_le k hc.due_lt l hkl
    have hfrom := hc.least
    have hto := hd.lt_least
    omega

/-- The bytes of texts are in the order of the texts. -/
theorem encode_lt {s t : String} (h : s < t) : encode s < encode t := by
  have hlist : s.toList < t.toList := h
  unfold encode
  generalize s.toList = cs at hlist
  generalize t.toList = ds at hlist
  induction hlist with
  | @nil d ds =>
    obtain ⟨due, b, hd⟩ := exists_written d
    rw [List.flatMap_cons, hd.bytes_eq]
    exact List.nil_lt_cons b _
  | @rel c cs d ds hcd =>
    rw [List.flatMap_cons, List.flatMap_cons]
    exact utf8EncodeChar_below hcd _ _
  | @cons c cs ds _ ih =>
    rw [List.flatMap_cons, List.flatMap_cons]
    exact List.append_left_lt ih

end Text.Utf8

namespace Expectations

variable (expected : Expectations) (actual : Category → UInt32) (counts : Counts)

/-! ## Algorithm -/

/-- The discrepancy of a category that is expected, if its number is not the expected one. -/
def disagreementOn? (c : Category) : Option Discrepancy :=
  (expected.find? c.key).bind fun n => if actual c = n then none else some ⟨c, n, actual c⟩

/-- The discrepancies of all categories, in the order of the categories. -/
def byCategory : List Discrepancy := Category.all.filterMap (expected.disagreementOn? actual)

/-- The expected entry of a category. -/
def expectation? (c : Category) : Option (String × UInt32) := (expected.find? c.key).map (c.key, ·)

/-! ## The order of categories -/

theorem mem_all (c : Category) : c ∈ Category.all := by cases c <;> decide

theorem keys_ascending : Category.all.Pairwise fun c d => compare c.key d.key = .lt := by decide +kernel

/-- The entries of the categories, in the order of the categories. -/
def ofCategories : Expectations where
  entries := Category.all.filterMap expected.expectation?
  ascending := by
    refine keys_ascending.filterMap expected.expectation? ?_
    intro c d hcd e he e' he'
    obtain ⟨n, -, rfl⟩ := Option.map_eq_some_iff.mp he
    obtain ⟨n', -, rfl⟩ := Option.map_eq_some_iff.mp he'
    exact hcd

/-- The entries with known keys are those of the categories, in the order of the categories. -/
theorem known_eq : expected.filter (fun key => (Category.ofKey? key).isSome) = expected.ofCategories := by
  refine SortedMap.ext_find? fun key => Option.ext fun n => ?_
  rw [SortedMap.find?_filter, SortedMap.find?_eq_some_iff]
  constructor
  · intro h
    split at h
    · next hknown =>
      obtain ⟨c, hc⟩ := Option.isSome_iff_exists.mp hknown
      obtain rfl := (Category.ofKey?_eq_some_iff key c).mp hc
      have hentry : expected.expectation? c = some (c.key, n) := by rw [expectation?, h, Option.map_some]
      exact List.mem_filterMap.mpr ⟨c, mem_all c, hentry⟩
    · cases h
  · intro h
    obtain ⟨c, -, hentry⟩ := List.mem_filterMap.mp h
    obtain ⟨m, hfind, heq⟩ := Option.map_eq_some_iff.mp hentry
    cases heq
    rw [(Category.ofKey?_eq_some_iff _ c).mpr rfl, Option.isSome_some, if_pos rfl, hfind]

theorem disagreement?_entry (c : Category) :
    (expected.expectation? c).bind (disagreement? counts) =
      expected.disagreementOn? (fun c => (counts.get? c).getD 0) c := by
  unfold expectation? disagreementOn?
  cases expected.find? c.key with
  | none => rfl
  | some n =>
    rw [Option.map_some, Option.bind_some, Option.bind_some]
    unfold disagreement?
    dsimp only
    rw [(Category.ofKey?_eq_some_iff _ c).mpr rfl]

/-- Walking the expectations finds what walking the categories finds. -/
theorem discrepancies_eq :
    expected.discrepancies counts = expected.byCategory fun c => (counts.get? c).getD 0 := by
  rw [← discrepancies_filter, known_eq]
  show (Category.all.filterMap expected.expectation?).filterMap (disagreement? counts) = _
  rw [List.filterMap_filterMap]
  exact congrArg (Category.all.filterMap ·) (funext (expected.disagreement?_entry counts))

/-- The discrepancy of a category is about this category. -/
theorem category_of_disagreementOn? {c : Category} {d : Discrepancy}
    (h : expected.disagreementOn? actual c = some d) : d.category = c := by
  obtain ⟨n, -, hd⟩ := Option.bind_eq_some_iff.mp h
  split at hd
  · cases hd
  · cases hd
    rfl

/-- The categories of the discrepancies are those that disagree, in their order. -/
theorem map_category_byCategory : (expected.byCategory actual).map (·.category) =
    Category.all.filter fun c => (expected.disagreementOn? actual c).isSome := by
  unfold byCategory
  rw [List.map_filterMap, ← List.filterMap_eq_filter]
  congr 1
  funext c
  cases hd : expected.disagreementOn? actual c with
  | none => simp [Option.guard, hd]
  | some d => simp [Option.guard, hd, expected.category_of_disagreementOn? actual hd]

/-- Only the numbers of expected categories matter. -/
theorem byCategory_congr {actual actual' : Category → UInt32}
    (h : ∀ (c : Category) n, expected.find? c.key = some n → actual c = actual' c) :
    expected.byCategory actual = expected.byCategory actual' := by
  unfold byCategory
  refine congrArg (Category.all.filterMap ·) (funext fun c => ?_)
  unfold disagreementOn?
  cases hfind : expected.find? c.key with
  | none => rfl
  | some n => simp only [h c n hfind]

theorem byCategory_eq_nil_iff : expected.byCategory actual = [] ↔
    ∀ (c : Category) n, expected.find? c.key = some n → actual c = n := by
  unfold byCategory
  rw [List.filterMap_eq_nil_iff]
  constructor
  · intro h c n hn
    have hnone := h c (mem_all c)
    rw [disagreementOn?, hn, Option.bind_some] at hnone
    split at hnone
    · next heq => exact heq
    · cases hnone
  · intro h c _
    unfold disagreementOn?
    cases hfind : expected.find? c.key with
    | none => rfl
    | some n => rw [Option.bind_some, if_pos (h c n hfind)]

/-- The keys stand in the order of their bytes. -/
theorem keys_bytes_ascending : expected.keys.Pairwise fun key key' =>
    Text.Utf8.encode key < Text.Utf8.encode key' := by
  refine List.pairwise_map.mpr (expected.ascending.imp fun h => Text.Utf8.encode_lt ?_)
  exact compareOfLessAndEq_eq_lt.mp h

/-! ## Top theorem -/

/-- **Discrepancies stand in the order of the categories.**  Expectations are walked in the order of the
bytes of their keys, and the discrepancies found are those of the categories in their order: one at most
for each, whatever the unknown keys are.  If all expected categories were asked for, a category counts as
often as it occurs, and nothing disagrees just if each occurs as often as expected. -/
theorem discrepancies_in_order :
    (expected.keys.Pairwise fun key key' => Text.Utf8.encode key < Text.Utf8.encode key') ∧
    expected.discrepancies counts = expected.byCategory (fun c => (counts.get? c).getD 0) ∧
    ((expected.discrepancies counts).map (·.category)).Sublist Category.all ∧
    ((expected.discrepancies counts).map (·.category)).Nodup ∧
    (expected.discrepancies counts).length ≤ 4 ∧
    (∀ other : Expectations, expected.Agree other →
      other.discrepancies counts = expected.discrepancies counts) ∧
    ∀ text keys, (∀ c : Category, c.key ∈ expected.keys → c.key ∈ keys) →
      expected.discrepancies (Counts.count text keys) = expected.byCategory (·.occurrences text) ∧
      (expected.discrepancies (Counts.count text keys) = [] ↔
        ∀ (c : Category) n, expected.find? c.key = some n → c.occurrences text = n) := by
  have hcategories : ((expected.discrepancies counts).map (·.category)).Sublist Category.all := by
    rw [discrepancies_eq, map_category_byCategory]
    exact List.filter_sublist
  refine ⟨expected.keys_bytes_ascending, expected.discrepancies_eq counts, hcategories,
    hcategories.nodup (by decide), ?_, fun other h => (h.discrepancies counts).symm, ?_⟩
  · have hlength := hcategories.length_le
    rwa [List.length_map] at hlength
  · intro text keys hkeys
    have hcounted := (expected.discrepancies_eq (Counts.count text keys)).trans
      (expected.byCategory_congr fun c n hn => by
        rw [Counts.get?_count text keys c (hkeys c (mem_keys hn)), Option.getD_some])
    exact ⟨hcounted, hcounted ▸ expected.byCategory_eq_nil_iff _⟩

/-- Unknown keys before, between and behind the known ones, and keys asked for twice: the two categories
that disagree are found in their order, as they are without the unknown keys. -/
theorem discrepancies_in_order_mixed :
    let expected : Expectations := .ofList [("zz", 0), ("store", 1), ("a", 7), ("loads", 3), ("load", 2)]
    let other : Expectations := .ofList [("load", 2), ("store", 1)]
    let keys := ["?", "store", "load", "zz", "load"]
    let counts := Counts.count "Load instruction" keys
    (∀ c : Category, c.key ∈ expected.keys → c.key ∈ keys) ∧ expected.Agree other ∧
    expected.discrepancies counts = [⟨.load, 2, 1⟩, ⟨.store, 1, 0⟩] ∧
    other.discrepancies counts = [⟨.load, 2, 1⟩, ⟨.store, 1, 0⟩] := by
  intro expected other keys counts
  have hkeys : ∀ c : Category, c.key ∈ expected.keys → c.key ∈ keys := by
    intro c
    cases c <;> decide +kernel
  have hagree : expected.Agree other := by
    intro c
    cases c <;> decide +kernel
  obtain ⟨-, -, -, -, -, hother, hcounted⟩ := expected.discrepancies_in_order counts
  have hfound : expected.discrepancies counts = [⟨.load, 2, 1⟩, ⟨.store, 1, 0⟩] := by
    rw [(hcounted "Load instruction" keys hkeys).1]
    decide +kernel
  exact ⟨hkeys, hagree, hfound, (hother other hagree).trans hfound⟩

end Expectations
end HardenAudit
