import HardenAudit.Proofs.Decoding
import HardenAudit.Proofs.Launching

/-!
# Streams that outlive their program

The limit of a bounded run is one of the program itself.  A program that still runs when it has passed is
killed.  One that has ended by then is not waited for any longer, but both its streams are read to their
end, and what it has started may hold them and write to them for as long as it likes.  So a run is not
bounded by its limit: it is, just if the streams are closed a pause behind the limit whenever the program
ends in time.  If they are never closed, then the run does not even return.

    all that was written to its streams is caught, however late        (late_output_caught)
    a run is bounded just if its streams are closed in time            (bounded_run_iff)
-/

namespace HardenAudit.Launch

open Text.Utf8 (decodeLossy)

/-! ## Algorithm -/

/-- The time at which a run would be over that is bounded as a whole: a pause behind its limit. -/
def lastTime (ms : UInt64) : Nat := ms.toNat * 1000 + pollInterval

/-- The bytes of a stream that are written up to a time. -/
def Behaviour.collectBy (time : Nat) (emissions : List Emission) : Text.Bytes :=
  collect (emissions.filter fun emission => emission.time ≤ time)

variable {ρ : Type}

/-- Nothing is written to streams that are closed. -/
def Behaviour.WritesOpen (b : Behaviour ρ) : Prop :=
  ∀ emission ∈ b.stdout ++ b.stderr, ∀ closed, b.closed = some closed → emission.time ≤ closed

/-- The streams are closed at a time or before. -/
def Behaviour.ClosedBy (b : Behaviour ρ) (time : Nat) : Prop :=
  ∃ closed, b.closed = some closed ∧ closed ≤ time

/-- What a run promises that is bounded as a whole. -/
structure Bounded (b : Behaviour ρ) (command : Command) (ms : UInt64) (answer : Answer ρ Capture) :
    Prop where
  /-- Nothing is caught that is written later, -/
  caught : ∀ capture, answer.given? = some (.ok capture) →
    capture.stdout = decodeLossy (Behaviour.collectBy (lastTime ms) b.stdout) ∧
      capture.stderr = decodeLossy (Behaviour.collectBy (lastTime ms) b.stderr)
  /-- and a run whose streams are still open then is given up. -/
  givenUp : ¬ b.ClosedBy (lastTime ms) →
    answer.given? = some (.error (.toolTimeout (Command.shown command.program) ms))

/-- What a limit decides about the run of a launched program. -/
structure LimitsProgram (machine : Machine ρ) (command : Command) (ms : UInt64) (w : World ρ)
    (b : Behaviour ρ) : Prop where
  givenUp : (run machine command (.ofMilliseconds ms) w).given? =
    some (.error (.toolTimeout (Command.shown command.program) ms)) ↔
      ¬ b.EndsBy (killTime (.ofMilliseconds ms))
  killed : ¬ b.EndsBy (killTime (.ofMilliseconds ms)) → ∃ time ≤ lastTime ms,
    (run machine command (.ofMilliseconds ms) w).world = b.after time
  /-- Once a program has ended in time, all that its run needs to return is that the streams are closed,
  at whatever time, -/
  inFull : ∀ time status closed, b.exit = some (time, .ok status) →
    time ≤ killTime (.ofMilliseconds ms) → b.closed = some closed →
    ∃ seen, time ≤ seen ∧ seen ≤ lastTime ms ∧ run machine command (.ofMilliseconds ms) w =
      { result := .ok ⟨status, decodeLossy (Behaviour.collect b.stdout),
          decodeLossy (Behaviour.collect b.stderr)⟩
        world := b.after (max seen closed)
        log := [spawning command] }
  /-- and without this it never does. -/
  endless : ∀ time status, b.exit = some (time, .ok status) → time ≤ killTime (.ofMilliseconds ms) →
    b.closed = none → (run machine command (.ofMilliseconds ms) w).given? = none
  bounded_iff : b.WritesOpen →
    (Bounded b command ms (run machine command (.ofMilliseconds ms) w) ↔
      (b.EndsBy (killTime (.ofMilliseconds ms)) → b.ClosedBy (lastTime ms)))

variable {machine : Machine ρ} {command : Command} {ms : UInt64} {w : World ρ} {b : Behaviour ρ}

/-! ## Streams -/

/-- All that is written to the streams is written until they are closed. -/
theorem Behaviour.WritesOpen.collectBy_eq {time : Nat} (h : b.WritesOpen) (hclosed : b.ClosedBy time) :
    collectBy time b.stdout = collect b.stdout ∧ collectBy time b.stderr = collect b.stderr := by
  obtain ⟨closed, hclosed, hle⟩ := hclosed
  have hwritten : ∀ emission ∈ b.stdout ++ b.stderr, decide (emission.time ≤ time) = true :=
    fun emission hmem => decide_eq_true (Nat.le_trans (h emission hmem closed hclosed) hle)
  unfold collectBy
  constructor
  · rw [List.filter_eq_self.mpr fun emission hmem => hwritten _ (List.mem_append_left _ hmem)]
  · rw [List.filter_eq_self.mpr fun emission hmem => hwritten _ (List.mem_append_right _ hmem)]

theorem Behaviour.collect_nil : collect [] = [] := by
  simp [collect]

theorem Behaviour.collect_singleton (time : Nat) (bytes : Text.Bytes) :
    collect [⟨time, bytes⟩] = bytes := by
  simp [collect]

/-! ## Runs -/

theorem killTime_le_lastTime (ms : UInt64) : killTime (.ofMilliseconds ms) ≤ lastTime ms := by
  rw [killTime_ofMilliseconds]
  show (ms.toNat + 9) / 10 * 10000 ≤ ms.toNat * 1000 + 10000
  omega

section

variable (hnul : (command.program :: command.args).any Command.hasNul = false)
  (hlaunch : machine.launch w command (killTime (.ofMilliseconds ms)) = .ok b)

include hnul hlaunch

/-- What a program's descendants write is caught if the program itself has ended in time, however late it is
written, if the streams are ever closed. -/
theorem late_output_caught {time late closed : Nat} {status : ExitStatus} {text : String}
    (hexit : b.exit = some (time, .ok status)) (hle : time ≤ killTime (.ofMilliseconds ms))
    (hclosed : b.closed = some closed) (hstdout : b.stdout = [⟨late, Text.Utf8.encode text⟩])
    (hstderr : b.stderr = []) :
    (run machine command (.ofMilliseconds ms) w).given? = some (.ok ⟨status, text, ""⟩) := by
  obtain ⟨seen, -, -, hrun⟩ := run_in_time hnul hlaunch hexit hle
  rw [hrun, hclosed, hstdout, hstderr, Behaviour.collect_singleton, Behaviour.collect_nil,
    Text.Utf8.decodeLossy_encode]
  rfl

theorem run_given?_eq_toolTimeout_iff : (run machine command (.ofMilliseconds ms) w).given? =
    some (.error (.toolTimeout (Command.shown command.program) ms)) ↔
      ¬ b.EndsBy (killTime (.ofMilliseconds ms)) := by
  constructor
  · intro h
    obtain ⟨-, -, -, b', hlaunch', hlate⟩ :=
      run_toolTimeout_iff.mp (Answer.given?_eq_some_iff.mp h).2
    obtain rfl := Except.ok.inj (hlaunch.symm.trans hlaunch')
    exact hlate
  · intro hlate
    rw [run_late hnul hlaunch hlate]
    rfl

/-- A run is bounded as a whole just if the streams of a program that ends in time are closed in time. -/
theorem bounded_run_iff (hopenly : b.WritesOpen) :
    Bounded b command ms (run machine command (.ofMilliseconds ms) w) ↔
      (b.EndsBy (killTime (.ofMilliseconds ms)) → b.ClosedBy (lastTime ms)) := by
  have hlate := run_given?_eq_toolTimeout_iff (w := w) hnul hlaunch
  constructor
  · intro h hends
    exact Classical.byContradiction fun hopen => hlate.mp (h.givenUp hopen) hends
  · refine fun h => ⟨fun capture hcapture => ?_, fun hopen => hlate.mpr fun hends => hopen (h hends)⟩
    by_cases hends : b.EndsBy (killTime (.ofMilliseconds ms))
    · obtain ⟨hstdout, hstderr⟩ := hopenly.collectBy_eq (h hends)
      obtain ⟨time, ended, hexit, hle⟩ := hends
      have hresult := (Answer.given?_eq_some_iff.mp hcapture).2
      cases ended with
      | ok status =>
        obtain ⟨seen, -, -, hrun⟩ := run_in_time hnul hlaunch hexit hle
        rw [hrun] at hresult
        obtain rfl := Except.ok.inj hresult
        rw [hstdout, hstderr]
        exact ⟨rfl, rfl⟩
      | error reason =>
        obtain ⟨seen, -, -, hrun⟩ := run_unasked hnul hlaunch hexit hle
        rw [hrun] at hresult
        cases hresult
    · rw [hlate.mpr hends] at hcapture
      cases hcapture

/-! ## Top theorem -/

/-- **The limit of a run is one of the program itself.**  It is given up just if it does not end in time, and
then it is killed in time.  If it ends in time, then its streams are read until they are closed, and for
ever if they never are. -/
theorem limit_bounds_program : LimitsProgram machine command ms w b where
  givenUp := run_given?_eq_toolTimeout_iff hnul hlaunch
  killed hlate := by
    refine ⟨_, killTime_le_lastTime ms, ?_⟩
    rw [run_late hnul hlaunch hlate]
  inFull time status closed hexit hle hclosed := by
    obtain ⟨seen, hfrom, hto, hrun⟩ := run_in_time hnul hlaunch hexit hle
    rw [hclosed] at hrun
    exact ⟨seen, hfrom, Nat.le_trans hto (killTime_le_lastTime ms), hrun⟩
  endless time status hexit hle hclosed := by
    obtain ⟨seen, -, -, hrun⟩ := run_in_time hnul hlaunch hexit hle
    rw [hrun, hclosed]
    rfl
  bounded_iff := bounded_run_iff hnul hlaunch

end

/-- A program has ended at once, what it has started writes half a second later, and the limit is a second:
the run catches it and is bounded. -/
theorem limit_bounds_program_in_background :
    let command : Command := ⟨"sh", ["-c", "(sleep 0.5; echo later) & exit 0"]⟩
    let b : Behaviour Unit :=
      { exit := some (2000, .ok (.code 0))
        stdout := [⟨500000, Text.Utf8.encode "later\n"⟩]
        stderr := []
        closed := some 500000
        after := fun _ => ⟨{}, ()⟩ }
    let machine : Machine Unit := ⟨fun _ _ _ => .ok b⟩
    (command.program :: command.args).any Command.hasNul = false ∧
      (∀ w, machine.launch w command (killTime (.ofMilliseconds 1000)) = .ok b) ∧ b.WritesOpen ∧
      (∀ w, (run machine command (.ofMilliseconds 1000) w).given? =
        some (.ok ⟨.code 0, "later\n", ""⟩)) ∧
      ∀ w, Bounded b command 1000 (run machine command (.ofMilliseconds 1000) w) := by
  intro command b machine
  have hopenly : b.WritesOpen := by
    unfold Behaviour.WritesOpen
    decide
  have hlimits (w : World Unit) : LimitsProgram machine command 1000 w b :=
    limit_bounds_program (by decide) rfl
  refine ⟨by decide, fun _ => rfl, hopenly, fun w => ?_, fun w => ?_⟩
  · obtain ⟨seen, -, -, hrun⟩ := (hlimits w).inFull 2000 (.code 0) 500000 rfl (by decide) rfl
    rw [hrun, Behaviour.collect_singleton, Behaviour.collect_nil, Text.Utf8.decodeLossy_encode]
    rfl
  · exact ((hlimits w).bounded_iff hopenly).mpr fun _ => ⟨500000, rfl, by decide⟩

/-- A program has ended at once, what it has started writes three seconds later, and the limit is a second:
the run catches it and is not bounded. -/
theorem run_outlasts_limit :
    let command : Command := ⟨"sh", ["-c", "(sleep 3; echo late) & exit 0"]⟩
    let b : Behaviour Unit :=
      { exit := some (2000, .ok (.code 0))
        stdout := [⟨3000000, Text.Utf8.encode "late\n"⟩]
        stderr := []
        closed := some 3000000
        after := fun _ => ⟨{}, ()⟩ }
    let machine : Machine Unit := ⟨fun _ _ _ => .ok b⟩
    let answer := run machine command (.ofMilliseconds 1000) ⟨{}, ()⟩
    b.WritesOpen ∧ answer.given? = some (.ok ⟨.code 0, "late\n", ""⟩) ∧
      ¬ Bounded b command 1000 answer := by
  intro command b machine answer
  have hcaught : answer.given? = some (.ok ⟨.code 0, "late\n", ""⟩) :=
    late_output_caught (by decide) rfl rfl (by decide) rfl rfl rfl
  refine ⟨by unfold Behaviour.WritesOpen; decide, hcaught, fun h => ?_⟩
  have hgivenUp := h.givenUp fun ⟨closed, hclosed, hle⟩ => by
    cases hclosed
    exact absurd hle (by decide)
  rw [hcaught] at hgivenUp
  cases hgivenUp

end HardenAudit.Launch
