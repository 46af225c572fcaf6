import HardenAudit.Proofs.Reading
import HardenAudit.Proofs.Reporting

/-!
# The JSON report keeps what it shows

A report is written as one value, and its text is read back as this value.  What is left is what the value
says: an object has its members under fixed names, a list of results or discrepancies is an array of the
same length and order, counts stand under the keys of their categories, and null stands for what there is
not.  Each of these can be told from its item, and so the text of a report determines what it shows.

    counts stand under their keys, and no others do                    (countsItem)
    the report of a run shows its tallies and its results              (runItem)
    an item shows one discrepancy, failure or result at most           (DiscrepancyItem.unique, ResultItem.unique)
-/

namespace HardenAudit

/-! ## Algorithm -/

/-- The names of an object's members, in order. -/
def Json.keys? : Json → Option (List String)
  | .object members => some (members.map (·.1))
  | _ => none

theorem Category.key_injective : Function.Injective Category.key := by
  intro c d h
  have hc := (Category.ofKey?_eq_some_iff d.key c).mpr h
  rw [(Category.ofKey?_eq_some_iff d.key d).mpr rfl] at hc
  exact (Option.some.inj hc).symm

namespace Report

/-- What the JSON report shows of a failure. -/
structure ShownFailure where
  kind : String
  code : Nat
  message : String
  deriving DecidableEq

/-- What the JSON report shows of a result. -/
structure Shown where
  name : String
  source : Path
  outcome : Outcome
  counts : Counts
  discrepancies : List Discrepancy
  failure : Option ShownFailure
  diagnosticsPath : Option Path
  deriving DecidableEq

def shownFailure (f : Failure) : ShownFailure := ⟨f.kind, f.code, f.message⟩

def shown (r : FixtureResult) : Shown where
  name := r.name
  source := r.source
  outcome := r.outcome
  counts := r.counts
  discrepancies := r.discrepancies
  failure := r.failure.map shownFailure
  diagnosticsPath := r.diagnosticsPath

/-- A value is the item of some counts: it has a number for each category that was counted. -/
structure CountsItem (counts : Counts) (v : Json) : Prop where
  keys : v.keys? = some ((Category.all.filter fun c => (counts.get? c).isSome).map Category.key)
  count : ∀ c, v.member? (Category.key c) = (counts.get? c).map fun n => .number n.toNat

/-- A value is the item of a discrepancy. -/
structure DiscrepancyItem (d : Discrepancy) (v : Json) : Prop where
  keys : v.keys? = some ["actual", "category", "expected"]
  category : v.member? "category" = some (.string d.category.key)
  expected : v.member? "expected" = some (.number d.expected.toNat)
  actual : v.member? "actual" = some (.number d.actual.toNat)

/-- A value is the item of a failure. -/
structure FailureItem (f : ShownFailure) (v : Json) : Prop where
  keys : v.keys? = some ["code", "kind", "message"]
  kind : v.member? "kind" = some (.string f.kind)
  code : v.member? "code" = some (.number f.code)
  message : v.member? "message" = some (.string f.message)

/-- A value is the item of what there may be: null if there is nothing. -/
def OptionalItem {α : Type} (IsItem : α → Json → Prop) : Option α → Json → Prop
  | none, v => v = .null
  | some a, v => IsItem a v

/-- A value is the item of a list: an array with an item for each element, in order. -/
def ListItem {α : Type} (IsItem : α → Json → Prop) (l : List α) (v : Json) : Prop :=
  ∃ items, v = .array items ∧ List.Forall₂ IsItem l items

/-- A value is the item of a path: its text. -/
def PathItem (path : Path) (v : Json) : Prop := v = .string path.text

/-- A value is the item of a result that shows so much. -/
structure ResultItem (s : Shown) (v : Json) : Prop where
  keys : v.keys? = some
    ["counts", "diagnostics_path", "discrepancies", "failure", "name", "outcome", "source"]
  name : v.member? "name" = some (.string s.name)
  source : v.member? "source" = some (.string s.source.text)
  outcome : v.member? "outcome" = some (.string s.outcome.label)
  counts : ∃ u, v.member? "counts" = some u ∧ CountsItem s.counts u
  discrepancies : ∃ u, v.member? "discrepancies" = some u ∧
    ListItem DiscrepancyItem s.discrepancies u
  failure : ∃ u, v.member? "failure" = some u ∧ OptionalItem FailureItem s.failure u
  diagnosticsPath : ∃ u, v.member? "diagnostics_path" = some u ∧
    OptionalItem PathItem s.diagnosticsPath u

/-- A value is the item of a run: it has the tallies, and one item for each result, in order. -/
structure RunItem (results : List FixtureResult) (v : Json) : Prop where
  keys : v.keys? = some ["fixtures", "summary"]
  summary : ∃ u, v.member? "summary" = some u ∧ u.keys? = some ["failed", "passed", "total"] ∧
    u.member? "passed" = some (.number (Summary.ofResults results).passed) ∧
    u.member? "failed" = some (.number (Summary.ofResults results).failed) ∧
    u.member? "total" = some (.number (Summary.ofResults results).total)
  fixtures : ∃ u, v.member? "fixtures" = some u ∧ ListItem ResultItem (results.map shown) u

/-- Nothing that the report of a run shows is lost in its text. -/
structure Lossless (results : List FixtureResult) : Prop where
  isValue : Json.IsValue (json results).pretty.toList
  /-- The text denotes one value, which is the item of the run, and is read as this value. -/
  read : ∃ v, (∀ v', Json.Denotes (json results).pretty.toList v' ↔ v' = v) ∧
    Json.parse (json results).pretty = .ok v ∧ RunItem results v
  determines : ∀ others, (json others).pretty = (json results).pretty →
    others.map shown = results.map shown

/-! ## Items of a report -/

/-- Those of some categories that are counted have their counts under their keys. -/
theorem lookup_counts (counts : Counts) (c : Category) (l : List Category) :
    ((l.filterMap fun c => (counts.get? c).map (c, ·)).map
      fun e => (e.1.key, Json.number e.2.toNat)).lookup c.key =
        if c ∈ l then (counts.get? c).map fun n => .number n.toNat else none := by
  induction l with
  | nil => rfl
  | cons d l ih =>
    cases hd : counts.get? d with
    | none =>
      rw [List.filterMap_cons_none (by rw [hd]; rfl), ih]
      by_cases hc : c = d
      · simp [hc, hd]
      · simp [hc]
    | some n =>
      rw [List.filterMap_cons_some (b := (d, n)) (by rw [hd]; rfl), List.map_cons, List.lookup_cons]
      by_cases hc : c = d
      · simp [hc, hd]
      · rw [beq_false_of_ne (Category.key_injective.ne hc)]
        simp [ih, hc]

/-- No other keys are there. -/
theorem keys_counts (counts : Counts) (l : List Category) :
    (l.filterMap fun c => (counts.get? c).map (c, ·)).map (fun e => e.1.key) =
      (l.filter fun c => (counts.get? c).isSome).map Category.key := by
  induction l with
  | nil => rfl
  | cons d l ih => cases hd : counts.get? d <;> simp [hd, ih]

theorem countsItem (counts : Counts) : CountsItem counts
    (.object (counts.toList.map fun e => (e.1.key, .number e.2.toNat))) where
  keys := by
    rw [← keys_counts]
    exact congrArg some List.map_map
  count c := (lookup_counts counts c Category.all).trans (if_pos (by cases c <;> decide))

theorem discrepancyItem (d : Discrepancy) : DiscrepancyItem d (discrepancyJson d) :=
  ⟨rfl, rfl, rfl, rfl⟩

theorem failureItem (f : Failure) : FailureItem (shownFailure f) (failureJson f) :=
  ⟨rfl, rfl, rfl, rfl⟩

theorem optionalItem {α β : Type} {IsItem : β → Json → Prop} {f : α → β} {item : α → Json}
    (h : ∀ a, IsItem (f a) (item a)) (a? : Option α) :
    OptionalItem IsItem (a?.map f) (orNull (a?.map item)) := by
  cases a? with
  | none => rfl
  | some a => exact h a

theorem listItem {α β : Type} {IsItem : β → Json → Prop} {f : α → β} {item : α → Json}
    (h : ∀ a, IsItem (f a) (item a)) (l : List α) :
    ListItem IsItem (l.map f) (.array (l.map item)) := by
  refine ⟨_, rfl, ?_⟩
  rw [List.forall₂_map_left_iff, List.forall₂_map_right_iff]
  exact List.forall₂_same.mpr fun a _ => h a

theorem resultItem (r : FixtureResult) : ResultItem (shown r) (fixtureJson r) where
  keys := rfl
  name := rfl
  source := rfl
  outcome := rfl
  counts := ⟨_, rfl, countsItem r.counts⟩
  discrepancies := by
    have h := listItem (f := id) discrepancyItem r.discrepancies
    rw [List.map_id] at h
    exact ⟨_, rfl, h⟩
  failure := ⟨_, rfl, optionalItem failureItem r.failure⟩
  diagnosticsPath := by
    have hitem : ∀ path, PathItem (id path) (.string path.text) := fun _ => rfl
    have h := optionalItem hitem r.diagnosticsPath
    rw [Option.map_id] at h
    exact ⟨_, rfl, h⟩

theorem runItem (results : List FixtureResult) : RunItem results (json results) where
  keys := rfl
  summary := ⟨_, rfl, rfl, rfl, rfl, rfl⟩
  fixtures := ⟨_, rfl, listItem resultItem results⟩

/-! ## What is told from an item -/

theorem leftUnique_countsItem : Relator.LeftUnique CountsItem := by
  intro counts counts' v h h'
  refine Counts.ext_get? fun c => ?_
  have hcount := (h.count c).symm.trans (h'.count c)
  exact Option.map_injective (fun m n hmn => UInt32.toNat_inj.mp (Json.number.inj hmn)) hcount

theorem leftUnique_discrepancyItem : Relator.LeftUnique DiscrepancyItem := by
  rintro ⟨category, expected, actual⟩ ⟨category', expected', actual'⟩ v h h'
  obtain rfl := Category.key_injective (Json.string.inj (Option.mem_unique h.category h'.category))
  obtain rfl := UInt32.toNat_inj.mp (Json.number.inj (Option.mem_unique h.expected h'.expected))
  obtain rfl := UInt32.toNat_inj.mp (Json.number.inj (Option.mem_unique h.actual h'.actual))
  rfl

theorem leftUnique_failureItem : Relator.LeftUnique FailureItem := by
  rintro ⟨kind, code, message⟩ ⟨kind', code', message'⟩ v h h'
  obtain rfl := Json.string.inj (Option.mem_unique h.kind h'.kind)
  obtain rfl := Json.number.inj (Option.mem_unique h.code h'.code)
  obtain rfl := Json.string.inj (Option.mem_unique h.message h'.message)
  rfl

theorem leftUnique_pathItem : Relator.LeftUnique PathItem := by
  rintro ⟨text⟩ ⟨text'⟩ v h h'
  exact congrArg Path.mk (Json.string.inj (h.symm.trans h'))

/-- What there is and what there is not can be told apart if null is the item of nothing else. -/
theorem leftUnique_optionalItem {α : Type} {IsItem : α → Json → Prop} (h : Relator.LeftUnique IsItem)
    (hnull : ∀ a, ¬ IsItem a .null) : Relator.LeftUnique (OptionalItem IsItem) := by
  intro a? b? v ha hb
  cases a? with
  | none =>
    obtain rfl : v = .null := ha
    cases b? with
    | none => rfl
    | some b => exact absurd hb (hnull b)
  | some a =>
    cases b? with
    | none =>
      obtain rfl : v = .null := hb
      exact absurd ha (hnull a)
    | some b => exact congrArg some (h ha hb)

theorem leftUnique_listItem {α : Type} {IsItem : α → Json → Prop} (h : Relator.LeftUnique IsItem) :
    Relator.LeftUnique (ListItem IsItem) := by
  rintro l l' v ⟨items, rfl, hl⟩ ⟨items', hitems, hl'⟩
  obtain rfl := Json.array.inj hitems
  exact h.forall₂ hl hl'

/-- What a member is the item of is told by its value. -/
theorem eq_of_member {α : Type} {IsItem : α → Json → Prop} (hunique : Relator.LeftUnique IsItem)
    {v? : Option Json} {a a' : α} (h : ∃ u, v? = some u ∧ IsItem a u)
    (h' : ∃ u, v? = some u ∧ IsItem a' u) : a = a' := by
  obtain ⟨u, hu, ha⟩ := h
  obtain ⟨u', hu', ha'⟩ := h'
  obtain rfl := Option.mem_unique hu hu'
  exact hunique ha ha'

theorem label_injective : Function.Injective Outcome.label := by
  intro o o' h
  cases o <;> cases o' <;> first | rfl | exact absurd h (by decide)

theorem leftUnique_resultItem : Relator.LeftUnique ResultItem := by
  intro s s' v h h'
  obtain ⟨name, ⟨source⟩, outcome, counts, discrepancies, failure, path⟩ := s
  obtain ⟨name', ⟨source'⟩, outcome', counts', discrepancies', failure', path'⟩ := s'
  obtain rfl := Json.string.inj (Option.mem_unique h.name h'.name)
  obtain rfl := Json.string.inj (Option.mem_unique h.source h'.source)
  obtain rfl := label_injective (Json.string.inj (Option.mem_unique h.outcome h'.outcome))
  obtain rfl := eq_of_member leftUnique_countsItem h.counts h'.counts
  obtain rfl := eq_of_member (leftUnique_listItem leftUnique_discrepancyItem) h.discrepancies
    h'.discrepancies
  have hfailure : Relator.LeftUnique (OptionalItem FailureItem) :=
    leftUnique_optionalItem leftUnique_failureItem fun _ hnull => by cases hnull.keys
  obtain rfl := eq_of_member hfailure h.failure h'.failure
  have hpath : Relator.LeftUnique (OptionalItem PathItem) :=
    leftUnique_optionalItem leftUnique_pathItem fun _ hnull => by cases hnull
  obtain rfl := eq_of_member hpath h.diagnosticsPath h'.diagnosticsPath
  rfl

/-! ## Top theorem -/

/-- **The JSON report is lossless.**  Its text is a JSON text that is read back as the item of the run: the
tallies and, for each result in order, just what is shown of it.  So reports with the same text show the
same results. -/
theorem report_lossless (results : List FixtureResult) : Lossless results where
  isValue := (Json.readValue_denotes (Json.denotes_pretty _)).1
  read := ⟨json results, Json.denotes_pretty_iff _, Json.parse_pretty _, runItem results⟩
  determines others h := by
    have hread := Json.parse_pretty (json others)
    rw [h, Json.parse_pretty] at hread
    have hothers := runItem others
    rw [← Except.ok.inj hread] at hothers
    exact eq_of_member (leftUnique_listItem leftUnique_resultItem) hothers.fixtures
      (runItem results).fixtures

/-- Quotes, backslashes, control characters and characters beyond the basic plane are read back, and two
results that change places give another text. -/
theorem report_lossless_odd :
    let wrong : List Discrepancy := [⟨.load, 0, 0xFFFFFFFF⟩]
    let r : FixtureResult :=
      { name := "\"\\\n\x01😀"
        source := ⟨"a\tb.c"⟩
        counts := { load := some 0xFFFFFFFF }
        discrepancies := wrong
        failure := some (.countMismatch wrong)
        diagnosticsPath := some ⟨"out/\x7f.output"⟩ }
    let r' : FixtureResult := { name := "", source := ⟨""⟩, outcome := .pass }
    (∃ v, Json.parse (json [r, r']).pretty = .ok v ∧
      fixtureMember? v 0 "name" = some (.string "\"\\\n\x01😀") ∧
      fixtureMember? v 1 "failure" = some .null) ∧
    (json [r', r]).pretty ≠ (json [r, r']).pretty := by
  intro wrong r r'
  obtain ⟨-, ⟨v, -, hread, hrun⟩, hdetermines⟩ := report_lossless [r, r']
  constructor
  · obtain ⟨u, hu, items, rfl, hitems⟩ := hrun.fixtures
    obtain ⟨item, _, hitem, hmore, rfl⟩ := List.forall₂_cons_left_iff.mp hitems
    obtain ⟨item', _, hitem', hnil, rfl⟩ := List.forall₂_cons_left_iff.mp hmore
    obtain ⟨failure, hfailure, hnull⟩ := hitem'.failure
    refine ⟨v, hread, ?_⟩
    unfold fixtureMember?
    rw [hu]
    exact ⟨hitem.name, hfailure.trans (congrArg some hnull)⟩
  · exact fun h => absurd (hdetermines _ h) (by decide)

end Report
end HardenAudit
