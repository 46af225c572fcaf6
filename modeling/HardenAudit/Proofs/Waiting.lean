import HardenAudit.Proofs.Launching

/-!
# The waiting for a program ends in time

The waiting ends in the first round that is final: the program does not run any more, or cannot be asked, or
it still runs and the clock is at or past the deadline.  The answer of a round comes before its clock, so a
program that has ended is never given up, however late that is seen, and one that is given up was seen to
run when its time was over.  It is killed in the two endings that are failures and in no other.

Every pause behind a round that is not final leaves less time: if each of them takes its time, then there are
no more rounds than it takes pauses until the limit has passed, and one.

    the waiting goes on through rounds that are not final              (wait_eq_none_iff)
    it ends in the first final round, with its verdict                 (isFirst_of_wait, settles)
    the clock gains on the deadline while no round is final            (clock_le, exists_final)
    the answer of a run passes the verdict on                          (tells_answer)
-/

namespace HardenAudit

/-! ## Algorithm -/

/-- Nanoseconds of a span. -/
def Span.total (s : Span) : Nat := s.seconds.toNat * 1000000000 + s.nanoseconds.toNat

namespace Launch

/-- Nanoseconds of a pause between two rounds. -/
def pauseTime : Nat := pollInterval * 1000

/-- How many pauses it takes until a span has passed. -/
def pauses (limit : Span) : Nat := (limit.total + (pauseTime - 1)) / pauseTime

/-- The first final round of a sequence. -/
structure IsFirst (observe : Nat → Observation) (deadline : Moment) (round : Nat) : Prop where
  final : (observe round).Final deadline
  first : ∀ r < round, ¬ (observe r).Final deadline

/-- An ending says what the last round told: how the program ended, whatever the clock shows, that it still
runs and its time is over, or that it could not be asked.  It is killed unless it has ended. -/
structure Settles (o : Observation) (deadline : Moment) (e : Ending) : Prop where
  exited : ∀ status, e.verdict = .exited status ↔ o.poll = .exited status
  timedOut : e.verdict = .timedOut ↔ o.poll = .running
  due : e.verdict = .timedOut → deadline.total ≤ o.clock.total
  failed : ∀ reason, e.verdict = .failed reason ↔ o.poll = .failed reason
  reaped : e.reaped = true ↔ ∀ status, o.poll ≠ .exited status

/-- How a sequence of rounds is waited through, from a start on until a limit has passed. -/
structure WaitsThrough (observe : Nat → Observation) (start deadline : Moment) (limit : Span) :
    Prop where
  due : deadline.total = start.total + limit.total
  goesOn : ∀ rounds, wait observe deadline rounds 0 = none ↔
    ∀ r < rounds, ¬ (observe r).Final deadline
  ends : ∀ rounds e, wait observe deadline rounds 0 = some e →
    e.round < rounds ∧ IsFirst observe deadline e.round ∧ Settles (observe e.round) deadline e
  inTime : start.total ≤ (observe 0).clock.total →
    (∀ r < pauses limit, ¬ (observe r).Final deadline →
      (observe r).clock.total + pauseTime ≤ (observe (r + 1)).clock.total) →
    ∃ e, wait observe deadline (pauses limit + 1) 0 = some e

variable {ρ : Type}

/-- An answer passes on what the last round told. -/
structure Tells (o : Observation) (command : Command) (limit : Span) (answer : Answer ρ Capture) :
    Prop where
  status : ∀ status, (∃ capture, answer.result = .ok capture ∧ capture.status = status) ↔
    o.poll = .exited status
  timeout : answer.result =
    .error (.toolTimeout (Command.shown command.program) limit.toMilliseconds) ↔ o.poll = .running
  launch : ∀ reason, answer.result = .error
    (.toolLaunch (Command.shown command.program) ("waiting for process: " ++ reason)) ↔
      o.poll = .failed reason

end Launch

/-! ## Deadlines -/

/-- A moment that a span leads to is this much later, to the nanosecond. -/
theorem Moment.total_of_add? {m d : Moment} {s : Span} (h : m.add? s = some d) :
    d.total = m.total + s.total := by
  have hmin := m.seconds.le_toInt
  unfold add? secondLimit at h
  dsimp only at h
  split at h
  · next hlt =>
    have hrest : (m.nanoseconds.toNat + s.nanoseconds.toNat) % 1000000000 < 1000000000 :=
      Nat.mod_lt _ (by decide)
    cases h
    unfold total Span.total
    dsimp only
    rw [Int64.toInt_ofInt_of_le (by omega) (by omega), toNat_nanoseconds hrest]
    omega
  · cases h

namespace Launch

variable {machine : Machine ρ} {command : Command} {limit : Span} {w : World ρ} {b : Behaviour ρ}
  {observe : Nat → Observation} {o : Observation} {start deadline : Moment} {e : Ending} {ms : UInt64}

/-! ## Rounds -/

/-- What a verdict says of its round. -/
theorem settles (hverdict : o.verdict? deadline = some e.verdict) (hreaped : e.reaped = e.verdict.reaps) :
    Settles o deadline e := by
  obtain ⟨verdict, round, reaped⟩ := e
  dsimp only at hverdict hreaped
  subst hreaped
  unfold Observation.verdict? at hverdict
  cases hpoll : o.poll with
  | running =>
    rw [hpoll] at hverdict
    dsimp only at hverdict
    split at hverdict
    · next hreached =>
      cases hverdict
      exact ⟨by simp [hpoll], by simp [hpoll], fun _ => of_decide_eq_true hreached, by simp [hpoll],
        by simp [hpoll, Verdict.reaps]⟩
    · cases hverdict
  | exited status =>
    rw [hpoll] at hverdict
    cases hverdict
    exact ⟨by simp [hpoll], by simp [hpoll], by simp, by simp [hpoll], by simp [hpoll, Verdict.reaps]⟩
  | failed reason =>
    rw [hpoll] at hverdict
    cases hverdict
    exact ⟨by simp [hpoll], by simp [hpoll], by simp, by simp [hpoll], by simp [hpoll, Verdict.reaps]⟩

/-! ## Waiting -/

/-- The waiting goes on just through rounds that are not final. -/
theorem wait_eq_none_iff : ∀ {rounds round : Nat}, wait observe deadline rounds round = none ↔
    ∀ r, round ≤ r → r < round + rounds → ¬ (observe r).Final deadline := by
  intro rounds
  induction rounds with
  | zero =>
    intro round
    exact iff_of_true rfl fun r hfrom hto => by omega
  | succ rounds ih =>
    intro round
    unfold wait
    cases hverdict : (observe round).verdict? deadline with
    | none =>
      have hround := verdict?_eq_none_iff.mp hverdict
      refine ih.trans ⟨fun h r hfrom hto => ?_, fun h r hfrom hto => h r (by omega) (by omega)⟩
      rcases Nat.eq_or_lt_of_le hfrom with rfl | hlt
      · exact hround
      · exact h r hlt (by omega)
    | some verdict =>
      refine iff_of_false (fun h => by cases h) fun h => ?_
      have hnone := verdict?_eq_none_iff.mpr (h round (Nat.le_refl _) (by omega))
      rw [hverdict] at hnone
      cases hnone

theorem isFirst_of_wait {rounds : Nat} (h : wait observe deadline rounds 0 = some e) :
    e.round < rounds ∧ IsFirst observe deadline e.round ∧ Settles (observe e.round) deadline e := by
  obtain ⟨hto, hfirst, hverdict, hreaped⟩ := ends_of_wait h
  refine ⟨by omega, ⟨?_, fun r hr => hfirst r (Nat.zero_le r) hr⟩, settles hverdict hreaped⟩
  apply Classical.byContradiction
  intro hgoes
  rw [verdict?_eq_none_iff.mpr hgoes] at hverdict
  cases hverdict

/-! ## The remaining time -/

/-- The clock gains a pause with each round while none is final. -/
theorem clock_le {n : Nat} (hgoes : ∀ r < n, ¬ (observe r).Final deadline)
    (hpause : ∀ r < n, ¬ (observe r).Final deadline →
      (observe r).clock.total + pauseTime ≤ (observe (r + 1)).clock.total) :
    ∀ r ≤ n, (observe 0).clock.total + (r * pauseTime : Nat) ≤ (observe r).clock.total := by
  intro r
  induction r with
  | zero => intro _; simp
  | succ r ih =>
    intro hr
    have hbefore := ih (by omega)
    have hgain := hpause r (by omega) (hgoes r (by omega))
    rw [Nat.succ_mul]
    omega

/-- When all pauses of a limit are over, the limit has passed. -/
theorem total_le_pauses (limit : Span) : limit.total ≤ pauses limit * pauseTime := by
  have hpause : pauseTime = 10000000 := rfl
  unfold pauses
  rw [hpause]
  omega

/-- One of the rounds before and behind these pauses is final. -/
theorem exists_final (hdeadline : deadline.total = start.total + limit.total)
    (hstart : start.total ≤ (observe 0).clock.total)
    (hpause : ∀ r < pauses limit, ¬ (observe r).Final deadline →
      (observe r).clock.total + pauseTime ≤ (observe (r + 1)).clock.total) :
    ∃ r ≤ pauses limit, (observe r).Final deadline := by
  apply Classical.byContradiction
  intro hnone
  have hgoes : ∀ r ≤ pauses limit, ¬ (observe r).Final deadline := fun r hr h => hnone ⟨r, hr, h⟩
  have hclock := clock_le (fun r hr => hgoes r (Nat.le_of_lt hr)) hpause (pauses limit) (Nat.le_refl _)
  have hpauses := total_le_pauses limit
  exact hgoes _ (Nat.le_refl _) (.inr (by omega))

theorem waitsThrough (hadd : start.add? limit = some deadline) (observe : Nat → Observation) :
    WaitsThrough observe start deadline limit where
  due := Moment.total_of_add? hadd
  goesOn rounds := by
    refine wait_eq_none_iff.trans ⟨fun h r hr => h r (Nat.zero_le r) (by omega), fun h r _ hr => ?_⟩
    exact h r (by omega)
  ends rounds e := isFirst_of_wait
  inTime hstart hpauses := by
    obtain ⟨r, hr, hfinal⟩ := exists_final (Moment.total_of_add? hadd) hstart hpauses
    cases hwait : wait observe deadline (pauses limit + 1) 0 with
    | none => exact absurd hfinal (wait_eq_none_iff.mp hwait r (Nat.zero_le _) (by omega))
    | some e => exact ⟨e, rfl⟩

/-! ## Answers -/

/-- An answer passes on the verdict of its ending. -/
theorem tells_answer (h : Settles o deadline e) (b : Behaviour ρ) (command : Command) (limit : Span) :
    Tells o command limit (b.answer command limit e) := by
  unfold Behaviour.answer
  cases hverdict : e.verdict with
  | timedOut =>
    have hpoll := h.timedOut.mp hverdict
    exact ⟨by simp [hpoll], by simp [hpoll], by simp [hpoll]⟩
  | exited status =>
    have hpoll := (h.exited status).mp hverdict
    exact ⟨by simp [hpoll], by simp [hpoll], by simp [hpoll]⟩
  | failed reason =>
    have hpoll := (h.failed reason).mp hverdict
    exact ⟨by simp [hpoll], by simp [hpoll], by simp [hpoll]⟩

/-- In this round the limit of a run has passed. -/
theorem final_observe (hadd : (Moment.ofMicroseconds 0).add? (.ofMilliseconds ms) = some deadline) :
    (b.observe ((ms.toNat + 9) / 10)).Final deadline := by
  obtain ⟨deadline', hadd', hdeadline⟩ := exists_deadline ms
  obtain rfl := Option.some.inj (hadd'.symm.trans hadd)
  have hclock : (b.observe ((ms.toNat + 9) / 10)).clock.total =
      ((ms.toNat + 9) / 10 * 10000 : Nat) * 1000 := total_clock (Nat.le_refl _)
  refine .inr ?_
  rw [hclock, hdeadline]
  omega

section

variable (hnul : (command.program :: command.args).any Command.hasNul = false)

include hnul

/-- The rounds that a run has are enough. -/
theorem exists_ending (hlaunch : machine.launch w command (killTime (.ofMilliseconds ms)) = .ok b) :
    ∃ deadline e, (Moment.ofMicroseconds 0).add? (.ofMilliseconds ms) = some deadline ∧
      wait b.observe deadline (roundLimit (.ofMilliseconds ms)) 0 = some e ∧
      run machine command (.ofMilliseconds ms) w = b.answer command (.ofMilliseconds ms) e := by
  obtain ⟨deadline, hadd, -⟩ := exists_deadline ms
  cases hwait : wait b.observe deadline (roundLimit (.ofMilliseconds ms)) 0 with
  | none =>
    rw [roundLimit_ofMilliseconds] at hwait
    exact absurd (final_observe hadd) (wait_eq_none_iff.mp hwait _ (Nat.zero_le _) (by omega))
  | some e => exact ⟨deadline, e, hadd, hwait, run_eq_answer hnul hlaunch hadd hwait⟩

end

/-! ## Top theorem -/

/-- **The waiting ends in the first final round.**  It ends with what this round tells, after no more pauses
than it takes until the limit has passed if each of them takes its time, and the answer passes this on.  A
run of a program gives the answer that the waiting for this program calls for. -/
theorem waiting_settles :
    (∀ (observe : Nat → Observation) (start deadline : Moment) (limit : Span),
      start.add? limit = some deadline → WaitsThrough observe start deadline limit) ∧
    (∀ (ρ : Type) (b : Behaviour ρ) (command : Command) (limit : Span) (observe : Nat → Observation)
      (deadline : Moment) (rounds : Nat) (e : Ending), wait observe deadline rounds 0 = some e →
      Tells (observe e.round) command limit (b.answer command limit e)) ∧
    ∀ (ρ : Type) (machine : Machine ρ) (command : Command) (ms : UInt64) (w : World ρ) (b : Behaviour ρ),
      (command.program :: command.args).any Command.hasNul = false →
      machine.launch w command (killTime (.ofMilliseconds ms)) = .ok b →
      ∃ deadline e, (Moment.ofMicroseconds 0).add? (.ofMilliseconds ms) = some deadline ∧
        wait b.observe deadline (roundLimit (.ofMilliseconds ms)) 0 = some e ∧
        run machine command (.ofMilliseconds ms) w = b.answer command (.ofMilliseconds ms) e :=
  ⟨fun observe _ _ _ hadd => waitsThrough hadd observe,
    fun _ b command limit _ _ _ _ hwait => tells_answer (isFirst_of_wait hwait).2.2 b command limit,
    fun _ _ _ _ _ _ hnul hlaunch => exists_ending hnul hlaunch⟩

/-- A program is seen to run for three rounds and has then ended, when its 25 milliseconds are over: it is not
given up.  A run of one that ends after 12 milliseconds sees this in its third round. -/
theorem waiting_settles_past_deadline :
    let observe (round : Nat) : Observation :=
      ⟨if round < 3 then .running else .exited (.code 0), .ofMicroseconds (5000000 + 11000 * round)⟩
    let command : Command := ⟨"sh", ["-c", "sleep 0.012; echo done"]⟩
    let b : Behaviour Unit :=
      { exit := some (12000, .ok (.code 0))
        stdout := [⟨12000, Text.Utf8.encode "done\n"⟩]
        stderr := []
        closed := some 12000
        after := fun _ => ⟨{}, ()⟩ }
    let machine : Machine Unit := ⟨fun _ _ _ => .ok b⟩
    (∃ deadline, (Moment.ofMicroseconds 5000000).add? (.ofMilliseconds 25) = some deadline ∧
      (observe 3).clock.reached deadline ∧ pauses (.ofMilliseconds 25) = 3 ∧
      wait observe deadline 4 0 = some ⟨.exited (.code 0), 3, false⟩ ∧
      (∃ e, wait observe deadline (pauses (.ofMilliseconds 25) + 1) 0 = some e) ∧
      WaitsThrough observe (.ofMicroseconds 5000000) deadline (.ofMilliseconds 25) ∧
      Tells (observe 3) command (.ofMilliseconds 25)
        (b.answer command (.ofMilliseconds 25) ⟨.exited (.code 0), 3, false⟩)) ∧
    run machine command (.ofMilliseconds 25) ⟨{}, ()⟩ =
      b.answer command (.ofMilliseconds 25) ⟨.exited (.code 0), 2, false⟩ := by
  intro observe command b machine
  obtain ⟨hwaits, htells, hrun⟩ := waiting_settles
  constructor
  · have hadd : (Moment.ofMicroseconds 5000000).add? (.ofMilliseconds 25) = some ⟨5, 25000000⟩ := by decide
    have hwait : wait observe ⟨5, 25000000⟩ 4 0 = some ⟨.exited (.code 0), 3, false⟩ := by decide
    have hpause : ∀ r < 3, (observe r).clock.total + pauseTime ≤ (observe (r + 1)).clock.total := by decide
    have hthrough := hwaits observe _ _ _ hadd
    exact ⟨_, hadd, by decide, by decide, hwait, hthrough.inTime (by decide) fun r hr _ => hpause r hr,
      hthrough, htells _ b command _ _ _ 4 _ hwait⟩
  · obtain ⟨deadline, e, hadd, hwait, hanswer⟩ := hrun Unit machine command 25 ⟨{}, ()⟩ b (by decide) rfl
    have hzero : (Moment.ofMicroseconds 0).add? (.ofMilliseconds 25) = some ⟨0, 25000000⟩ := by decide
    obtain rfl := Option.some.inj (hzero.symm.trans hadd)
    have hsecond : wait b.observe ⟨0, 25000000⟩ (roundLimit (.ofMilliseconds 25)) 0 =
      some ⟨.exited (.code 0), 2, false⟩ := by decide
    obtain rfl := Option.some.inj (hsecond.symm.trans hwait)
    exact hanswer

end Launch
end HardenAudit
