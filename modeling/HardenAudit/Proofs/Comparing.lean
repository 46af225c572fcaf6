import HardenAudit.Diagnostic

/-!
# A text without discrepancies meets every expectation

Only the keys that are expected are counted, and only those of known categories are compared.  So a
text has no discrepancy iff each category whose key is expected is found exactly as often as that.

    ofKey? key = some c ↔ c.key = key                                          (ofKey?_eq_some_iff)
    d ∈ discrepancies ↔ d is an expected category with two different numbers   (mem_discrepancies_iff)
    discrepancies = [] ↔ each expected category is found as often as expected  (discrepancies_eq_nil_iff)
-/

namespace HardenAudit

theorem Category.ofKey?_eq_some_iff (key : String) (c : Category) :
    Category.ofKey? key = some c ↔ c.key = key := by
  unfold Category.ofKey?
  constructor
  · intro h
    have hkey := List.find?_some h
    exact eq_of_beq hkey
  · rintro rfl
    cases c <;> decide

theorem Counts.get?_count (text : String) (keys : List String) (c : Category)
    (h : c.key ∈ keys) : (Counts.count text keys).get? c = some (c.occurrences text) := by
  unfold Counts.count
  rw [Counts.get?_ofFn, if_pos (List.contains_iff_mem.mpr h)]

namespace Expectations

theorem mem_keys {expected : Expectations} {key : String} {n : UInt32}
    (h : expected.find? key = some n) : key ∈ expected.keys :=
  List.mem_map.mpr ⟨_, (expected.find?_eq_some_iff key n).mp h, rfl⟩

theorem mem_keys_iff (expected : Expectations) (key : String) :
    key ∈ expected.keys ↔ (expected.find? key).isSome = true := by
  constructor
  · intro h
    obtain ⟨⟨k, n⟩, he, rfl⟩ := List.mem_map.mp h
    rw [(expected.find?_eq_some_iff k n).mpr he]
    rfl
  · intro h
    obtain ⟨n, hn⟩ := Option.isSome_iff_exists.mp h
    exact mem_keys hn

theorem disagreement?_eq_some_iff (counts : Counts) (entry : String × UInt32) (d : Discrepancy) :
    disagreement? counts entry = some d ↔ d.category.key = entry.1 ∧ d.expected = entry.2 ∧
      d.actual = (counts.get? d.category).getD 0 ∧ d.actual ≠ d.expected := by
  obtain ⟨c, n, m⟩ := d
  unfold disagreement?
  constructor
  · intro h
    split at h
    · cases h
    · next c' hc' =>
      dsimp only at h
      split at h
      · cases h
      · next hne =>
        cases h
        exact ⟨(Category.ofKey?_eq_some_iff _ c).mp hc', rfl, rfl, hne⟩
  · rintro ⟨hkey, hn, hm, hne⟩
    dsimp only at hkey hn hm hne
    rw [(Category.ofKey?_eq_some_iff _ c).mpr hkey]
    dsimp only
    rw [if_neg (by rw [← hm, ← hn]; exact hne), ← hm, ← hn]

/-- The discrepancies are the expected categories whose count differs, each with its two numbers. -/
theorem mem_discrepancies_iff (expected : Expectations) (counts : Counts) (d : Discrepancy) :
    d ∈ expected.discrepancies counts ↔ expected.find? d.category.key = some d.expected ∧
      d.actual = (counts.get? d.category).getD 0 ∧ d.actual ≠ d.expected := by
  unfold discrepancies
  rw [List.mem_filterMap, expected.find?_eq_some_iff]
  constructor
  · rintro ⟨⟨key, n⟩, hmem, hsome⟩
    obtain ⟨hkey, hn, hactual⟩ := (disagreement?_eq_some_iff _ _ _).mp hsome
    dsimp only at hkey hn
    rw [hkey, hn]
    exact ⟨hmem, hn ▸ hactual⟩
  · rintro ⟨hmem, hactual⟩
    exact ⟨_, hmem, (disagreement?_eq_some_iff _ _ _).mpr ⟨rfl, rfl, hactual⟩⟩

theorem disagreement?_eq_none_iff (counts : Counts) (entry : String × UInt32) :
    disagreement? counts entry = none ↔
      ∀ c : Category, c.key = entry.1 → (counts.get? c).getD 0 = entry.2 := by
  unfold disagreement?
  split
  · next hnone =>
    constructor
    · intro _ c hc
      rw [(Category.ofKey?_eq_some_iff _ c).mpr hc] at hnone
      cases hnone
    · intro _
      rfl
  · next c hc =>
    have hkey := (Category.ofKey?_eq_some_iff _ c).mp hc
    constructor
    · intro h c' hc'
      have hsame : c' = c := by
        rw [(Category.ofKey?_eq_some_iff _ c').mpr hc'] at hc
        exact Option.some.inj hc
      subst hsame
      dsimp only at h
      split at h
      · next heq => exact heq
      · cases h
    · intro h
      exact if_pos (h c hkey)

/-- A text has no discrepancy iff each expected category is found exactly as often as expected. -/
theorem discrepancies_eq_nil_iff (expected : Expectations) (text : String) :
    expected.discrepancies (Counts.count text expected.keys) = [] ↔
      ∀ c n, expected.find? (Category.key c) = some n → c.occurrences text = n := by
  unfold discrepancies
  rw [List.filterMap_eq_nil_iff]
  constructor
  · intro h c n hn
    have hmem := (expected.find?_eq_some_iff c.key n).mp hn
    have hcount := (disagreement?_eq_none_iff _ _).mp (h _ hmem) c rfl
    rwa [Counts.get?_count text _ c (mem_keys hn), Option.getD_some] at hcount
  · rintro h ⟨key, n⟩ hmem
    rw [disagreement?_eq_none_iff]
    rintro c rfl
    have hn := (expected.find?_eq_some_iff c.key n).mpr hmem
    rw [Counts.get?_count text _ c (mem_keys hn), Option.getD_some]
    exact h c n hn

end Expectations
end HardenAudit
