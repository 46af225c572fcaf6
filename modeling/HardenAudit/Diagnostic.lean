import HardenAudit.SortedMap
import HardenAudit.Text.Basic

/-!
# Diagnostics: categories, counts and expectations

## Categories of diagnostics

The analysis marks each finding with a fixed phrase.  A category is one such phrase together with
the key under which expectations and reports name it.
-/

namespace HardenAudit

/-- A kind of finding that the analysis reports. -/
inductive Category where
  | conditionalBranch
  | load
  | store
  | vulnerableInstruction
  deriving DecidableEq, Repr, Inhabited

namespace Category

/-- Every category, in the order of their keys. -/
def all : List Category := [conditionalBranch, load, store, vulnerableInstruction]

/-- The name of a category in expectations and reports. -/
def key : Category → String
  | conditionalBranch => "conditional_branch"
  | load => "load"
  | store => "store"
  | vulnerableInstruction => "vulnerable_instruction"

/-- The phrase that the analysis prints for a finding. -/
def marker : Category → String
  | conditionalBranch => "Conditional branch"
  | load => "Load instruction"
  | store => "Store instruction"
  | vulnerableInstruction => "potentially vulnerable instruction"

/-- The name of a category in log lines. -/
def label : Category → String
  | conditionalBranch => "ConditionalBranch"
  | load => "Load"
  | store => "Store"
  | vulnerableInstruction => "VulnerableInstruction"

/-- The category with a given key. -/
def ofKey? (key : String) : Option Category := all.find? (·.key == key)

/-- Number of findings of a category in a text, in 32-bit arithmetic. -/
def occurrences (c : Category) (text : String) : UInt32 :=
  (Text.scanCount c.marker.toList text.toList).toUInt32

end Category
end HardenAudit

/-!
## Counts, expectations and their disagreements

A fixture names the number of findings it expects per key; only the keys of known categories are
counted and compared.  `discrepancies` walks the expectations in the order of their keys and keeps
the known ones whose count differs.
-/

namespace HardenAudit

/-- How often each category was found; `none` for a category that nobody asked about. -/
structure Counts where
  conditionalBranch : Option UInt32 := none
  load : Option UInt32 := none
  store : Option UInt32 := none
  vulnerableInstruction : Option UInt32 := none
  deriving DecidableEq, Repr, Inhabited

namespace Counts

/-- The count of a category, if it was asked for. -/
def get? (counts : Counts) : Category → Option UInt32
  | .conditionalBranch => counts.conditionalBranch
  | .load => counts.load
  | .store => counts.store
  | .vulnerableInstruction => counts.vulnerableInstruction

/-- The counts given by a function on categories. -/
def ofFn (f : Category → Option UInt32) : Counts where
  conditionalBranch := f .conditionalBranch
  load := f .load
  store := f .store
  vulnerableInstruction := f .vulnerableInstruction

@[simp] theorem get?_ofFn (f : Category → Option UInt32) (c : Category) : (ofFn f).get? c = f c := by
  cases c <;> rfl

theorem ext_get? {a b : Counts} (h : ∀ c, a.get? c = b.get? c) : a = b := by
  obtain ⟨a₁, a₂, a₃, a₄⟩ := a
  obtain ⟨b₁, b₂, b₃, b₄⟩ := b
  have h₁ := h .conditionalBranch
  have h₂ := h .load
  have h₃ := h .store
  have h₄ := h .vulnerableInstruction
  simp only [get?] at h₁ h₂ h₃ h₄
  simp [h₁, h₂, h₃, h₄]

/-- The counted categories with their counts, in the order of their keys. -/
def toList (counts : Counts) : List (Category × UInt32) :=
  Category.all.filterMap fun c => (counts.get? c).map (c, ·)

/-- Counts from a list in which a later entry wins over an earlier one. -/
def ofList (l : List (Category × UInt32)) : Counts :=
  ofFn fun c => (l.reverse.find? (·.1 == c)).map (·.2)

/-- Occurrences in a text of the categories that are named by `keys`; other keys ask for nothing. -/
def count (text : String) (keys : List String) : Counts :=
  ofFn fun c => if keys.contains c.key then some (c.occurrences text) else none

/-- The counts as a log line shows them. -/
def label (counts : Counts) : String :=
  "\x7b" ++ ", ".intercalate (counts.toList.map fun e => e.1.label ++ ": " ++ toString e.2.toNat)
    ++ "\x7d"

end Counts

/-- Expected number of findings per key.  Any text may be a key. -/
abbrev Expectations := SortedMap String UInt32

/-- A category whose count is not the expected one. -/
structure Discrepancy where
  category : Category
  expected : UInt32
  actual : UInt32
  deriving DecidableEq, Repr, Inhabited

namespace Discrepancy

/-- The disagreement in words. -/
def text (d : Discrepancy) : String :=
  d.category.key ++ ": expected " ++ toString d.expected.toNat ++ ", got " ++ toString d.actual.toNat

end Discrepancy

namespace Expectations

/-- The disagreement about one expected entry; an unknown key is never in disagreement. -/
def disagreement? (counts : Counts) (entry : String × UInt32) : Option Discrepancy :=
  match Category.ofKey? entry.1 with
  | none => none
  | some c =>
    let actual := (counts.get? c).getD 0
    if actual = entry.2 then none else some ⟨c, entry.2, actual⟩

/-- The expectations that the counts do not meet, in the order of the keys. -/
def discrepancies (expected : Expectations) (counts : Counts) : List Discrepancy :=
  expected.entries.filterMap (disagreement? counts)

end Expectations
end HardenAudit
