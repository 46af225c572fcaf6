import HardenAudit.Pipeline
import HardenAudit.Proofs.Comparing

/-!
# Unknown keys do not matter

What a fixture expects is looked at in two places: the keys say which categories are counted, and the
entries are compared with the counts.  Both only see the keys of known categories.  So two fixtures
that expect the same of each category are processed alike to the last record, whatever else is
expected, in whatever order and however often.

    equal lookups at the known keys → equal counts                    (Agree.count)
    equal lookups at the known keys → equal discrepancies             (Agree.discrepancies)
    equal lookups at the known keys → equal results and journals      (process_congr)
-/

namespace HardenAudit

namespace Expectations

/-- Two expectations ask the same of each category. -/
def Agree (expected other : Expectations) : Prop :=
  ∀ c : Category, expected.find? c.key = other.find? c.key

variable {expected other : Expectations}

/-- Expectations that ask the same have the same entries with known keys. -/
theorem Agree.filter (h : Agree expected other) :
    expected.filter (fun key => (Category.ofKey? key).isSome) =
      other.filter fun key => (Category.ofKey? key).isSome := by
  refine SortedMap.ext_find? fun key => ?_
  rw [SortedMap.find?_filter, SortedMap.find?_filter]
  split
  · next hknown =>
    obtain ⟨c, hc⟩ := Option.isSome_iff_exists.mp hknown
    obtain rfl := (Category.ofKey?_eq_some_iff key c).mp hc
    exact h c
  · rfl

/-- Entries with unknown keys are in no disagreement, wherever they stand. -/
theorem discrepancies_filter (expected : Expectations) (counts : Counts) :
    discrepancies (expected.filter fun key => (Category.ofKey? key).isSome) counts =
      expected.discrepancies counts := by
  unfold discrepancies SortedMap.filter
  rw [List.filterMap_filter]
  congr 1
  funext entry
  split
  · rfl
  · next hunknown =>
    have hnone : Category.ofKey? entry.1 = none := by simpa using hunknown
    unfold disagreement?
    rw [hnone]

theorem Agree.discrepancies (h : Agree expected other) (counts : Counts) :
    expected.discrepancies counts = other.discrepancies counts := by
  rw [← discrepancies_filter expected, ← discrepancies_filter other, h.filter]

theorem Agree.count (h : Agree expected other) (text : String) :
    Counts.count text expected.keys = Counts.count text other.keys := by
  refine Counts.ext_get? fun c => ?_
  have hmem : c.key ∈ expected.keys ↔ c.key ∈ other.keys := by
    rw [mem_keys_iff, mem_keys_iff, h c]
  unfold Counts.count
  rw [Counts.get?_ofFn, Counts.get?_ofFn]
  by_cases hc : c.key ∈ expected.keys
  · rw [if_pos (List.contains_iff_mem.mpr hc), if_pos (List.contains_iff_mem.mpr (hmem.mp hc))]
  · have hc' : c.key ∉ other.keys := fun h' => hc (hmem.mpr h')
    rw [if_neg (by simpa using hc), if_neg (by simpa using hc')]

end Expectations

/-! ## From the comparison to the whole processing -/

namespace Audit

variable {ρ : Type} (a : Audit ρ) (f : Fixture) {other : Expectations}

theorem conclude_congr (h : f.expected.Agree other) (text : String) (j : Journal ρ) :
    a.conclude { f with expected := other } text j = a.conclude f text j := by
  have hstem : Fixture.artifactStem { f with expected := other } = f.artifactStem := rfl
  have htext : a.textPath { f with expected := other } = a.textPath f := rfl
  unfold conclude
  dsimp only
  rw [hstem, htext, ← h.count text, ← h.discrepancies]

theorem examine_congr (h : f.expected.Agree other) (artifact : Path) (j : Journal ρ) :
    a.examine { f with expected := other } artifact j = a.examine f artifact j := by
  unfold examine
  dsimp only
  split
  · rfl
  · exact a.conclude_congr f h _ _

theorem evaluate_congr (h : f.expected.Agree other) (w : World ρ) :
    a.evaluate { f with expected := other } w = a.evaluate f w := by
  have hsource : a.source { f with expected := other } = a.source f := rfl
  have houtput : a.output { f with expected := other } = a.output f := rfl
  unfold evaluate
  rw [hsource, houtput]
  split
  · rfl
  · dsimp only
    split
    · rfl
    · exact a.examine_congr f h _ _

/-- Fixtures that differ only in what they expect under unknown keys are processed alike. -/
theorem process_congr (h : f.expected.Agree other) (w : World ρ) :
    a.process { f with expected := other } w = a.process f w := by
  unfold process
  rw [a.evaluate_congr f h w]
  generalize a.evaluate f w = e
  obtain ⟨evaluation, j⟩ := e
  cases evaluation <;> rfl

end Audit

theorem Fixture.make_agree (name source : String) {es es' : List (String × UInt32)}
    (h : ∀ c : Category, es.reverse.lookup c.key = es'.reverse.lookup c.key) :
    (Fixture.make name source es).expected.Agree (Fixture.make name source es').expected := by
  intro c
  unfold make
  rw [SortedMap.find?_ofList, SortedMap.find?_ofList, h c]

theorem lookup_filter (keep : String → Bool) (key : String) (es : List (String × UInt32)) :
    (es.filter fun e => keep e.1).lookup key = if keep key then es.lookup key else none := by
  induction es with
  | nil => simp
  | cons e rest ih =>
    obtain ⟨k, n⟩ := e
    rw [List.filter_cons]
    by_cases hkey : key = k
    · subst hkey
      by_cases hkeep : keep key <;> simp [hkeep, ih]
    · have hne : (key == k) = false := by simpa using hkey
      by_cases hkeep : keep k <;> simp [hkeep, List.lookup_cons, hne, ih]

/-! ## Top theorem -/

/-- **Unknown keys do not matter.**  If the last entries of two lists of expected counts agree for each
known key, then the fixtures with these lists are processed alike: same result, same log, same calls
and stores, and the same world after it.  In particular entries with unknown keys may be left out. -/
theorem Audit.process_ignores_unknown_keys {ρ : Type} (a : Audit ρ) (name source : String)
    (es es' : List (String × UInt32)) (w : World ρ) :
    ((∀ c : Category, es.reverse.lookup c.key = es'.reverse.lookup c.key) →
      a.process (.make name source es) w = a.process (.make name source es') w) ∧
    a.process (.make name source es) w =
      a.process (.make name source (es.filter fun e => (Category.ofKey? e.1).isSome)) w := by
  have hprocess : ∀ es' : List (String × UInt32),
      (∀ c : Category, es.reverse.lookup c.key = es'.reverse.lookup c.key) →
      a.process (.make name source es) w = a.process (.make name source es') w := fun es' h =>
    (a.process_congr (.make name source es) (Fixture.make_agree name source h) w).symm
  refine ⟨hprocess es', hprocess _ fun c => ?_⟩
  have hknown : (Category.ofKey? c.key).isSome = true := by
    rw [(Category.ofKey?_eq_some_iff _ c).mpr rfl]
    rfl
  rw [← List.filter_reverse, lookup_filter (fun key => (Category.ofKey? key).isSome), if_pos hknown]

/-- Unknown keys before, between and behind the known ones, and a known one given twice: the fixture is
processed as if it only had the entries that count, and fails for the load that is missing. -/
theorem Audit.process_ignores_unknown_keys_anywhere :
    let a : Audit Unit := ⟨{ fixtureRoot := ⟨"/"⟩, outputDir := ⟨"/out"⟩ },
      { preflight := fun _ => .ok ()
        compile := fun _ o w => { result := .ok o, world := w }
        analyze := fun _ w => { result := .ok "Store instruction", world := w } }⟩
    let w : World Unit :=
      ⟨(({} : FileSystem).put ["one.c"] { matter := .file [], mode := 0o644 }).put ["out"]
        { matter := .directory, mode := 0o755 }, ()⟩
    let es := [("a", 7), ("load", 9), ("loads", 1), ("store", 1), ("load", 1), ("zz", 0)]
    a.process (.make "One" "one.c" es) w =
      a.process (.make "One" "one.c" [("load", 1), ("store", 1)]) w ∧
    (a.process (.make "One" "one.c" es) w).1.discrepancies = [⟨.load, 1, 0⟩] := by
  intro a w es
  have hsame := (a.process_ignores_unknown_keys "One" "one.c" es [("load", 1), ("store", 1)] w).1
    fun c => by cases c <;> decide
  refine ⟨hsame, ?_⟩
  rw [hsame]
  decide +kernel

end HardenAudit
