import HardenAudit.Proofs.Aborting
import HardenAudit.Proofs.Consistency
import HardenAudit.Toolchain.Scripted

/-!
# The reports of a run agree

A run is reported three times: as blocks of text, as tallies, and as JSON.  The text reads the failure of
a result, the tallies read its outcome, and JSON shows both.  They agree since the parts of every result
of a run agree.

    the verdict is read off the line behind the head of a block      (verdictLine_of_pass, verdictLine_of_fail)
    the tallies count results                                         (Summary.ofResults_eq)
    the counts of a fixture disagree in a text that the tools gave    (process_disagrees)
-/

namespace HardenAudit

/-! ## Algorithm -/

namespace Json

/-- The member of an object with a key. -/
def member? (key : String) : Json → Option Json
  | .object members => members.lookup key
  | _ => none

/-- The items of an array. -/
def items? : Json → Option (List Json)
  | .array items => some items
  | _ => none

end Json

namespace Report

/-- A member of the i-th fixture in a JSON report. -/
def fixtureMember? (report : Json) (i : Nat) (key : String) : Option Json := do
  let items ← (← report.member? "fixtures").items?
  (← items[i]?).member? key

/-- The lines in front of the verdict on a fixture. -/
def head (name : String) : String := lines ["", "Testing: " ++ name, rule '-']

/-- The line behind the head of a block. -/
def verdictLine (name block : String) : String :=
  String.ofList ((block.toList.drop (head name).length).takeWhile (· != '\n'))

/-- Is the block one of a fixture that passed? -/
def isPass (r : FixtureResult) : Bool := verdictLine r.name (block r) = "PASS"

/-- Is the block one of a fixture that failed? -/
def isFail (r : FixtureResult) : Bool :=
  "FAIL: ".toList.isPrefixOf (verdictLine r.name (block r)).toList

/-- The reports agree on the i-th result of a run: whether its fixture passed, and what it is called. -/
structure AgreeOn (f : Fixture) (results : List FixtureResult) (i : Nat) (r : FixtureResult) : Prop where
  block : ∃ rest, Report.block r = head f.name ++ verdictLine r.name (Report.block r) ++ "\n" ++ rest
  passed : isPass r = true ↔ (Summary.ofResults (results.take (i + 1))).passed =
    (Summary.ofResults (results.take i)).passed + 1
  outcome : isPass r = true ↔ fixtureMember? (json results) i "outcome" = some (.string "pass")
  failure : isPass r = true ↔ fixtureMember? (json results) i "failure" = some .null
  fails : isPass r = false → isFail r = true
  name : fixtureMember? (json results) i "name" = some (.string f.name)
  source : fixtureMember? (json results) i "source" = some (.string f.source.text)

/-- The reports show the same discrepancies of the i-th result, and the text shows what was analysed. -/
structure ShowsDiscrepancies (results : List FixtureResult) (i : Nat) (r : FixtureResult)
    (text : String) : Prop where
  block : Report.block r = head r.name ++ lines ("FAIL: diagnostic counts differ" ::
    r.discrepancies.map (fun d => "  - " ++ d.text) ++ ["", "Actual output:", text])
  single : ∀ d ∈ r.discrepancies, '\n' ∉ d.text.toList
  json : fixtureMember? (json results) i "discrepancies" =
    some (.array (r.discrepancies.map discrepancyJson))

/-- The tallies are the numbers of blocks and of items of the JSON report, whatever the order of the
results. -/
structure Totals (listed : List Fixture) (results : List FixtureResult) : Prop where
  passed : (Summary.ofResults results).passed = results.countP isPass
  failed : (Summary.ofResults results).failed = results.countP isFail
  total : (Summary.ofResults results).passed + (Summary.ofResults results).failed =
    (Summary.ofResults results).total
  fixtures : (Summary.ofResults results).total = listed.length
  items : ∃ items, ((json results).member? "fixtures").bind Json.items? = some items ∧
    items.length = listed.length
  summary : (json results).member? "summary" = some (.object
    [("failed", .number (results.countP isFail)), ("passed", .number (results.countP isPass)),
      ("total", .number listed.length)])
  order : ∀ others, others.Perm results → Summary.ofResults others = Summary.ofResults results

/-! ## Blocks -/

theorem lines_cons (l : String) (ls : List String) : lines (l :: ls) = l ++ "\n" ++ lines ls := by
  unfold lines
  rw [List.map_cons, String.join_cons]

theorem block_eq (r : FixtureResult) : block r = head r.name ++ lines (verdict r) := by
  unfold block head
  simp only [List.cons_append, List.nil_append, lines_cons]
  simp [lines, String.append_assoc]

theorem takeWhile_append_newline (l rest : List Char) :
    (l ++ '\n' :: rest).takeWhile (· != '\n') = l.takeWhile (· != '\n') := by
  induction l with
  | nil => rfl
  | cons c cs ih =>
    rw [List.cons_append, List.takeWhile_cons, List.takeWhile_cons, ih]

theorem exists_rest (l rest : List Char) : ∃ more,
    l ++ '\n' :: rest = l.takeWhile (· != '\n') ++ '\n' :: more := by
  induction l with
  | nil => exact ⟨rest, rfl⟩
  | cons c cs ih =>
    obtain ⟨more, hmore⟩ := ih
    by_cases hc : c = '\n'
    · subst hc
      exact ⟨cs ++ '\n' :: rest, rfl⟩
    · refine ⟨more, ?_⟩
      rw [List.cons_append, hmore, List.takeWhile_cons, if_pos (by simpa using hc),
        List.cons_append]

/-- The line behind the head is the first of the lines there, up to its first line break. -/
theorem verdictLine_lines (name l : String) (ls : List String) :
    verdictLine name (head name ++ lines (l :: ls)) =
      String.ofList (l.toList.takeWhile (· != '\n')) := by
  unfold verdictLine
  rw [lines_cons, String.toList_append, ← String.length_toList, List.drop_left]
  simp only [String.toList_append, List.append_assoc]
  rw [show "\n".toList = ['\n'] from rfl, List.singleton_append, takeWhile_append_newline]

/-- A block starts with its head and the line of the verdict. -/
theorem block_starts (r : FixtureResult) :
    ∃ rest, block r = head r.name ++ verdictLine r.name (block r) ++ "\n" ++ rest := by
  have hverdict : ∃ l ls, verdict r = l :: ls := by
    unfold verdict
    split
    · exact ⟨_, _, rfl⟩
    · exact ⟨_, _, rfl⟩
    · exact ⟨_, _, rfl⟩
  obtain ⟨l, ls, hverdict⟩ := hverdict
  obtain ⟨more, hmore⟩ := exists_rest l.toList (lines ls).toList
  refine ⟨String.ofList more, ?_⟩
  rw [block_eq, hverdict, verdictLine_lines, lines_cons, ← String.toList_inj]
  simp only [String.toList_append, String.toList_ofList, List.append_assoc]
  exact congrArg _ hmore

theorem verdictLine_of_pass {r : FixtureResult} (h : r.failure = none) :
    verdictLine r.name (block r) = "PASS" := by
  have hverdict : verdict r = ["PASS"] := by
    unfold verdict
    rw [h]
  rw [block_eq, hverdict, verdictLine_lines]
  rfl

/-- The verdict on a fixture that failed starts with a word that says so. -/
theorem verdict_of_fail {r : FixtureResult} {e : Failure} (h : r.failure = some e) :
    ∃ reason rest, verdict r = ("FAIL: " ++ reason) :: rest := by
  unfold verdict
  rw [h]
  cases e with
  | countMismatch discrepancies => exact ⟨"diagnostic counts differ", _, rfl⟩
  | _ => exact ⟨_, _, rfl⟩

theorem verdictLine_of_fail {r : FixtureResult} {e : Failure} (h : r.failure = some e) :
    ∃ reason, verdictLine r.name (block r) = "FAIL: " ++ reason := by
  obtain ⟨reason, rest, hverdict⟩ := verdict_of_fail h
  refine ⟨String.ofList (reason.toList.takeWhile (· != '\n')), ?_⟩
  rw [block_eq, hverdict, verdictLine_lines, ← String.toList_inj]
  simp only [String.toList_append, String.toList_ofList]
  rfl

theorem isPass_iff (r : FixtureResult) : isPass r = true ↔ r.failure = none := by
  unfold isPass
  rw [decide_eq_true_iff]
  cases h : r.failure with
  | none => exact ⟨fun _ => rfl, fun _ => verdictLine_of_pass h⟩
  | some e =>
    obtain ⟨reason, hline⟩ := verdictLine_of_fail h
    refine ⟨fun hpass => ?_, fun hnone => by cases hnone⟩
    rw [hline] at hpass
    have hfirst := congrArg (fun s : String => s.toList.head?) hpass
    simp at hfirst

theorem isFail_eq (r : FixtureResult) : isFail r = !isPass r := by
  cases h : r.failure with
  | none =>
    rw [(isPass_iff r).mpr h]
    unfold isFail
    rw [verdictLine_of_pass h]
    rfl
  | some e =>
    obtain ⟨reason, hline⟩ := verdictLine_of_fail h
    have hpass : isPass r = false := by
      rw [← Bool.not_eq_true, isPass_iff, h]
      exact Option.some_ne_none e
    rw [hpass]
    unfold isFail
    rw [hline, String.toList_append]
    rfl

/-! ## JSON -/

theorem fixtureMember?_json {results : List FixtureResult} {i : Nat} {r : FixtureResult}
    (h : results[i]? = some r) (key : String) :
    fixtureMember? (json results) i key = (fixtureJson r).member? key := by
  have hitems : (json results).member? "fixtures" = some (.array (results.map fixtureJson)) := by
    unfold json Json.member?
    simp
  unfold fixtureMember?
  rw [hitems]
  dsimp only [bind, Option.bind, Json.items?]
  rw [List.getElem?_map, h]
  rfl

theorem member?_summary (results : List FixtureResult) : (json results).member? "summary" =
    some (.object [("failed", .number (Summary.ofResults results).failed),
      ("passed", .number (Summary.ofResults results).passed),
      ("total", .number (Summary.ofResults results).total)]) := by
  unfold json Json.member?
  simp [List.lookup_cons]

/-- The members of a fixture in the JSON report that say what became of it. -/
theorem member?_fixtureJson (r : FixtureResult) :
    (fixtureJson r).member? "outcome" = some (.string r.outcome.label) ∧
    (fixtureJson r).member? "failure" = some (orNull (r.failure.map failureJson)) ∧
    (fixtureJson r).member? "discrepancies" =
      some (.array (r.discrepancies.map discrepancyJson)) ∧
    (fixtureJson r).member? "name" = some (.string r.name) ∧
    (fixtureJson r).member? "source" = some (.string r.source.text) := by
  unfold fixtureJson Json.member?
  simp [List.lookup_cons]

theorem orNull_eq_null_iff (failure : Option Failure) :
    orNull (failure.map failureJson) = .null ↔ failure = none := by
  cases failure with
  | none => exact ⟨fun _ => rfl, fun _ => rfl⟩
  | some e =>
    unfold orNull failureJson
    simp

theorem label_eq_pass_iff (outcome : Outcome) : outcome.label = "pass" ↔ outcome = .pass := by
  cases outcome <;> decide

end Report

/-! ## Discrepancies -/

theorem Discrepancy.newline_not_mem_text (d : Discrepancy) : '\n' ∉ d.text.toList := by
  have hdigits : ∀ n : Nat, '\n' ∉ (toString n).toList := by
    intro n h
    have hmem : '\n' ∈ Nat.toDigits 10 n := by simpa using h
    exact absurd (Nat.isDigit_of_mem_toDigits (by decide) (Nat.le_refl 10) hmem) (by decide)
  have hkey : ∀ c : Category, '\n' ∉ c.key.toList := by
    intro c
    cases c <;> decide
  unfold text
  simp only [String.toList_append, List.mem_append, not_or]
  exact ⟨⟨⟨⟨hkey d.category, by decide⟩, hdigits _⟩, by decide⟩, hdigits _⟩

namespace Audit

variable {ρ : Type} {a : Audit ρ} {f : Fixture} {w : World ρ}

/-- If the counts of a fixture disagree, then they disagree in a text that the tools gave, and this text
is kept for the report. -/
theorem process_disagrees (h : (a.process f w).1.discrepancies ≠ []) : ∃ text,
    (a.captured f w).1 = .ok text ∧
    (a.process f w).1.discrepancies = disagreements f text ∧
    (a.process f w).1.failure = some (.countMismatch (a.process f w).1.discrepancies) ∧
    (a.process f w).1.mismatchOutput = some text := by
  obtain ⟨evaluation, hresult, hending⟩ := a.process_ending f w
  rw [hresult] at h ⊢
  cases hending with
  | failed e captured result => rw [result] at h; exact absurd rfl h
  | refused text e captured write result => rw [result] at h; exact absurd rfl h
  | stored text fs captured write result =>
    refine ⟨text, captured, ?_⟩
    rw [result] at h ⊢
    unfold evaluationOfText FixtureResult.ofEvaluation at h ⊢
    dsimp only at h ⊢
    split at h
    · exact absurd rfl h
    · next hsome =>
      rw [if_neg hsome]
      exact ⟨rfl, rfl, rfl⟩

end Audit

/-! ## The reports of a run -/

namespace Report

variable {f : Fixture} {results : List FixtureResult} {i : Nat} {r : FixtureResult} {fs : FileSystem}

/-- The block says that a fixture passed iff its result does, since the parts of the result agree. -/
theorem isPass_eq (h : Consistent f r fs) : isPass r = r.passed := by
  rw [Bool.eq_iff_iff, isPass_iff, ← h.passes]
  unfold FixtureResult.passed
  rw [decide_eq_true_iff]

theorem agreeOn (hr : results[i]? = some r) (h : Consistent f r fs) : AgreeOn f results i r := by
  have hpass := isPass_eq h
  obtain ⟨houtcome, hfailure, -, hname, hsource⟩ := member?_fixtureJson r
  constructor
  case block =>
    obtain ⟨rest, hblock⟩ := block_starts r
    exact ⟨rest, by rw [← h.name]; exact hblock⟩
  case passed =>
    rw [Summary.ofResults_eq, Summary.ofResults_eq, List.take_add_one, hr]
    dsimp only
    rw [List.countP_append, Option.toList_some, List.countP_singleton, hpass]
    cases r.passed <;> simp
  case outcome =>
    rw [fixtureMember?_json hr, houtcome, hpass]
    unfold FixtureResult.passed
    rw [decide_eq_true_iff, ← label_eq_pass_iff]
    simp
  case failure =>
    rw [fixtureMember?_json hr, hfailure, isPass_iff, ← orNull_eq_null_iff, Option.some.injEq]
  case fails =>
    intro hno
    rw [isFail_eq, hno]
    rfl
  case name => rw [fixtureMember?_json hr, hname, h.name]
  case source => rw [fixtureMember?_json hr, hsource, h.source]

theorem showsDiscrepancies {text : String} (hr : results[i]? = some r)
    (hfailure : r.failure = some (.countMismatch r.discrepancies))
    (htext : r.mismatchOutput = some text) : ShowsDiscrepancies results i r text where
  block := by
    rw [block_eq]
    unfold verdict
    rw [hfailure, htext]
  single d _ := d.newline_not_mem_text
  json := by rw [fixtureMember?_json hr, (member?_fixtureJson r).2.2.1]

theorem totals {fixtures : List Fixture} (hlength : results.length = fixtures.length)
    (h : ∀ r ∈ results, ∃ f fs, Consistent f r fs) : Totals fixtures results := by
  have hpasses : results.countP isPass = results.countP fun r => r.passed := by
    refine List.countP_congr fun r hr => ?_
    obtain ⟨f, fs, hconsistent⟩ := h r hr
    rw [isPass_eq hconsistent]
  have hfails : results.countP isFail = results.countP fun r => !r.passed := by
    refine List.countP_congr fun r hr => ?_
    obtain ⟨f, fs, hconsistent⟩ := h r hr
    rw [isFail_eq, isPass_eq hconsistent]
  constructor
  case passed => rw [Summary.ofResults_eq, hpasses]
  case failed => rw [Summary.ofResults_eq, hfails]
  case total =>
    rw [Summary.ofResults_eq]
    dsimp only
    have hsplit := List.length_eq_countP_add_countP (l := results) FixtureResult.passed
    simp only [decide_not, Bool.decide_eq_true] at hsplit
    exact hsplit.symm
  case fixtures =>
    rw [Summary.ofResults_eq]
    exact hlength
  case items =>
    refine ⟨results.map fixtureJson, ?_, by rw [List.length_map, hlength]⟩
    unfold json Json.member?
    simp [Json.items?]
  case summary =>
    rw [member?_summary, Summary.ofResults_eq]
    dsimp only
    rw [hpasses, hfails, hlength]
  case order =>
    intro others hperm
    rw [Summary.ofResults_eq, Summary.ofResults_eq, hperm.countP_eq, hperm.countP_eq,
      hperm.length_eq]

end Report

namespace Audit

variable {ρ : Type} {a : Audit ρ} {fixtures : List Fixture} {w : World ρ}
  {results : List FixtureResult}

/-! ## Top theorem -/

/-- **The reports of a run agree.**  For each fixture the text, the tallies and JSON agree whether it
passed.  If its counts disagree, then text and JSON list the same discrepancies, and the text shows all
of what was analysed.  So the tallies are the numbers of blocks and of JSON items. -/
theorem reports_agree (hrun : (a.run fixtures w).1 = .ok results) :
    (∀ i r, results[i]? = some r → ∃ f, fixtures[i]? = some f ∧ Report.AgreeOn f results i r ∧
      (r.discrepancies ≠ [] → ∃ text,
        (a.captured f (a.run (fixtures.take i) w).2.world).1 = .ok text ∧
        r.discrepancies = disagreements f text ∧ Report.ShowsDiscrepancies results i r text)) ∧
    Report.Totals fixtures results := by
  obtain ⟨hlength, hget⟩ := run_results hrun
  have hprocessed : ∀ i r, results[i]? = some r → ∃ f, fixtures[i]? = some f ∧
      r = (a.process f (a.run (fixtures.take i) w).2.world).1 := by
    intro i r hr
    obtain ⟨hi, -⟩ := List.getElem?_eq_some_iff.mp hr
    have hf := List.getElem?_eq_getElem (hlength ▸ hi)
    have hresult := (hget i _ hf).1
    rw [hr, Option.some.injEq] at hresult
    exact ⟨_, hf, hresult⟩
  refine ⟨fun i r hr => ?_, Report.totals hlength fun r hr => ?_⟩
  · obtain ⟨f, hf, hresult⟩ := hprocessed i r hr
    generalize (a.run (fixtures.take i) w).2.world = world at hresult ⊢
    have hconsistent := a.process_consistent f world
    rw [← hresult] at hconsistent
    refine ⟨f, hf, Report.agreeOn hr hconsistent, fun hsome => ?_⟩
    rw [hresult] at hsome
    obtain ⟨text, htext, hdiffer, hfailure, hkept⟩ := process_disagrees hsome
    rw [← hresult] at hdiffer hfailure hkept
    exact ⟨text, htext, hdiffer, Report.showsDiscrepancies hr hfailure hkept⟩
  · obtain ⟨i, hi, rfl⟩ := List.getElem_of_mem hr
    obtain ⟨f, -, hresult⟩ := hprocessed i _ (List.getElem?_eq_getElem hi)
    rw [hresult]
    exact ⟨f, _, a.process_consistent f _⟩

/-- One fixture passes, one disagrees and one has no source: the text, the tallies and JSON say so, and
the text of the second one is shown. -/
theorem reports_agree_mixed :
    let analyses := [("/f/out/b.ll", { text := "Load instruction" })]
    let a : Audit Unit := ⟨{ fixtureRoot := ⟨"/"⟩, outputDir := ⟨"/f/out"⟩ },
      ⟨Scripted.preflight none, Scripted.compile [], Scripted.analyze analyses⟩⟩
    let file : Node := { matter := .file [], mode := 0o644 }
    let w : World Unit := ⟨[["f", "a.c"], ["f", "b.c"]].foldl (fun fs l => fs.put l file)
      (({} : FileSystem).put ["f"] { matter := .directory, mode := 0o755 }), ()⟩
    let fixtures := [Fixture.make "A" "f/a.c" [("load", 0)], Fixture.make "B" "f/b.c" [("load", 0)],
      Fixture.make "C" "f/c.c" []]
    ∃ results r, (a.run fixtures w).1 = .ok results ∧ results[1]? = some r ∧
      results.map Report.isPass = [true, false, false] ∧
      (Summary.ofResults results).passed = 1 ∧ (Summary.ofResults results).failed = 2 ∧
      Report.ShowsDiscrepancies results 1 r "Load instruction" := by
  intro analyses a file w fixtures
  have hfailures : ((a.run fixtures w).1.toOption.map fun rs => rs.map (·.failure.isNone)) =
      some [true, false, false] := by decide +kernel
  have hdiffers : (((a.run fixtures w).1.toOption.bind (·[1]?)).map (·.discrepancies)) =
      some [⟨.load, 0, 1⟩] := by decide +kernel
  have htext : (a.captured (Fixture.make "B" "f/b.c" [("load", 0)])
      (a.run (fixtures.take 1) w).2.world).1.toOption = some "Load instruction" := by decide +kernel
  obtain ⟨results, hok, hnones⟩ := Option.map_eq_some_iff.mp hfailures
  have hlist : results.map Report.isPass = [true, false, false] := by
    rw [← hnones]
    refine List.map_congr_left fun r _ => ?_
    rw [Bool.eq_iff_iff, Report.isPass_iff, Option.isNone_iff_eq_none]
  have hrun := toOption_eq_some_iff.mp hok
  rw [hok] at hdiffers
  obtain ⟨r, hr, hlisted⟩ := Option.map_eq_some_iff.mp hdiffers
  obtain ⟨hagree, htotals⟩ := reports_agree hrun
  obtain ⟨f, hf, -, hshown⟩ := hagree 1 r hr
  cases hf
  obtain ⟨text, hcaptured, -, hshows⟩ := hshown (by rw [hlisted]; exact List.cons_ne_nil _ _)
  rw [hcaptured] at htext
  cases htext
  have hcount : results.countP Report.isPass = 1 := by
    have hmap : (results.map Report.isPass).countP id = results.countP Report.isPass := by
      rw [List.countP_map, Function.id_comp]
    rw [← hmap, hlist]
    rfl
  refine ⟨results, r, hrun, hr, hlist, htotals.passed.trans hcount, ?_, hshows⟩
  have htotal := htotals.total
  rw [htotals.passed, htotals.fixtures, hcount] at htotal
  exact Nat.add_left_cancel htotal

end Audit
end HardenAudit
