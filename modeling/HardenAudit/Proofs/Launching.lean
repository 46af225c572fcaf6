import HardenAudit.Launch.Bounded

/-!
# How a bounded run ends

A command is not launched, or the program is given up at its limit, or it cannot be asked after, or it ends
by itself and all that it wrote is caught.

A limit of 64 bits in milliseconds is exact as a span, and the deadline is exact for every reading of the
clock before second 2⁶².  So the limit alone decides whether a program is given up: it is in the first round
that is not before its limit, if it still runs then.

    a limit in milliseconds is kept as a span                          (Span.toMilliseconds_ofMilliseconds)
    the deadline is so many milliseconds later                         (Moment.add?_ofMilliseconds)
    the waiting ends in the round that brings a verdict                (ends_of_wait, wait_eq_some)
    a run gives the answer that its waiting calls for                  (run_eq_answer)
    a bounded run ends in one of four ways                             (run_ran)
    it tells its limit just if the program does not end in time        (run_toolTimeout_iff)
-/

/-! ## Limits in milliseconds -/

namespace HardenAudit

/-- The whole seconds of a time limit. -/
theorem Span.seconds_ofMilliseconds (ms : UInt64) :
    (Span.ofMilliseconds ms).seconds.toNat = ms.toNat / 1000 := by
  unfold ofMilliseconds
  rw [UInt64.toNat_div]
  rfl

/-- What a time limit is beyond its whole seconds fits into the word of the nanoseconds. -/
theorem Span.nanoseconds_ofMilliseconds (ms : UInt64) :
    (Span.ofMilliseconds ms).nanoseconds.toNat = ms.toNat % 1000 * 1000000 := by
  have hrest : (ms % 1000).toUInt32.toNat = ms.toNat % 1000 := by
    rw [UInt64.toNat_toUInt32, UInt64.toNat_mod]
    exact Nat.mod_eq_of_lt (Nat.lt_trans (Nat.mod_lt _ (by decide)) (by decide))
  have hlt : ms.toNat % 1000 < 1000 := Nat.mod_lt _ (by decide)
  unfold ofMilliseconds
  rw [UInt32.toNat_mul, hrest]
  show ms.toNat % 1000 * 1000000 % 2 ^ 32 = _
  omega

/-- A time limit in milliseconds is not changed on its way through seconds and nanoseconds. -/
theorem Span.toMilliseconds_ofMilliseconds (ms : UInt64) :
    (Span.ofMilliseconds ms).toMilliseconds = ms := by
  apply UInt64.toNat_inj.mp
  unfold toMilliseconds
  rw [seconds_ofMilliseconds, nanoseconds_ofMilliseconds, Nat.mul_div_cancel _ (by decide),
    Nat.div_add_mod', Nat.toUInt64_eq, UInt64.toNat_ofNat_of_lt' ms.toNat_lt]

/-- Nanoseconds below a second fit into their word. -/
theorem toNat_nanoseconds {k : Nat} (h : k < 1000000000) : k.toUInt32.toNat = k := by
  rw [Nat.toUInt32_eq, UInt32.toNat_ofNat_of_lt' (Nat.lt_trans h (by decide))]

/-- A moment in microseconds is exact while the clock can show its seconds. -/
theorem Moment.total_ofMicroseconds {n : Nat} (h : n / 1000000 < 0x8000000000000000) :
    (ofMicroseconds n).total = n * 1000 := by
  unfold ofMicroseconds total
  dsimp only
  rw [Int64.toInt_ofInt_of_le (by omega) (by omega), toNat_nanoseconds (by omega)]
  omega

/-- Before second 2⁶² the clock can show the moment that is a time limit later, to the nanosecond. -/
theorem Moment.add?_ofMilliseconds {m : Moment} (ms : UInt64)
    (hseconds : m.seconds.toInt < 0x4000000000000000) (hnanoseconds : m.nanoseconds.toNat < 1000000000) :
    ∃ d, m.add? (.ofMilliseconds ms) = some d ∧ d.total = m.total + ms.toNat * 1000000 ∧
      d.nanoseconds.toNat < 1000000000 := by
  have hms := ms.toNat_lt
  have hmin := m.seconds.le_toInt
  unfold add? secondLimit total
  rw [Span.seconds_ofMilliseconds, Span.nanoseconds_ofMilliseconds]
  dsimp only
  generalize m.seconds.toInt = s at *
  generalize m.nanoseconds.toNat = k at *
  generalize ms.toNat = n at *
  have hlt : s + ↑(n / 1000) + ↑((k + n % 1000 * 1000000) / 1000000000) < 0x8000000000000000 := by omega
  have hrest : (k + n % 1000 * 1000000) % 1000000000 < 1000000000 := Nat.mod_lt _ (by decide)
  rw [if_pos hlt]
  refine ⟨_, rfl, ?_, ?_⟩
  · dsimp only
    rw [Int64.toInt_ofInt_of_le (by omega) (by omega), toNat_nanoseconds hrest]
    omega
  · dsimp only
    rwa [toNat_nanoseconds hrest]

end HardenAudit

namespace HardenAudit.Launch

variable {ρ : Type} {machine : Machine ρ} {command : Command} {limit : Span} {w : World ρ}
  {b : Behaviour ρ} {deadline : Moment} {ms : UInt64}

/-! ## Algorithm -/

/-- The record that a command is launched. -/
def spawning (command : Command) : Record := ⟨.debug, "spawning " ++ command.text, none⟩

/-- How a bounded run of a command ends. -/
inductive Ran (machine : Machine ρ) (command : Command) (limit : Span) (w : World ρ) :
    Answer ρ Capture → Prop where
  | refused (e : FileError) : Ran machine command limit w
    { result := .error (.toolLaunch (Command.shown command.program) e.message)
      world := w
      log := [spawning command] }
  | late (b : Behaviour ρ) (time : Nat)
    (launch : machine.launch w command (killTime limit) = .ok b) : Ran machine command limit w
    { result := .error (.toolTimeout (Command.shown command.program) limit.toMilliseconds)
      world := b.after time
      log := [spawning command, ⟨.warn, Command.shown command.program ++ " exceeded "
        ++ toString limit.toMilliseconds.toNat ++ " ms; killed", none⟩] }
  | unasked (b : Behaviour ρ) (time seen : Nat) (reason : String)
    (launch : machine.launch w command (killTime limit) = .ok b)
    (exit : b.exit = some (time, .error reason)) : Ran machine command limit w
    { result := .error
        (.toolLaunch (Command.shown command.program) ("waiting for process: " ++ reason))
      world := b.after seen
      log := [spawning command] }
  | ended (b : Behaviour ρ) (time seen : Nat) (status : ExitStatus)
    (launch : machine.launch w command (killTime limit) = .ok b)
    (exit : b.exit = some (time, .ok status)) : Ran machine command limit w
    { result := .ok ⟨status, Text.Utf8.decodeLossy (Behaviour.collect b.stdout),
        Text.Utf8.decodeLossy (Behaviour.collect b.stderr)⟩
      world := b.after (max seen (b.closed.getD seen))
      log := [spawning command]
      returns := b.closed.isSome }

/-- The verdict on a program that has ended, or that cannot be asked after for a reason. -/
def Verdict.ofEnd : Except String ExitStatus → Verdict
  | .ok status => exited status
  | .error reason => failed reason

/-- A round behind which the waiting does not go on. -/
def Observation.Final (o : Observation) (deadline : Moment) : Prop :=
  o.poll ≠ .running ∨ deadline.total ≤ o.clock.total

/-- The answer of a run of a program whose waiting ended so. -/
def Behaviour.answer (b : Behaviour ρ) (command : Command) (limit : Span) (e : Ending) :
    Answer ρ Capture :=
  let program := Command.shown command.program
  match e.verdict with
  | .timedOut =>
    { result := .error (.toolTimeout program limit.toMilliseconds)
      world := b.after (e.round * pollInterval)
      log := [spawning command, ⟨.warn, program ++ " exceeded "
        ++ toString limit.toMilliseconds.toNat ++ " ms; killed", none⟩] }
  | .failed reason =>
    { result := .error (.toolLaunch program ("waiting for process: " ++ reason))
      world := b.after (e.round * pollInterval)
      log := [spawning command] }
  | .exited status =>
    { result := .ok ⟨status, Text.Utf8.decodeLossy (Behaviour.collect b.stdout),
        Text.Utf8.decodeLossy (Behaviour.collect b.stderr)⟩
      world := b.after
        (max (e.round * pollInterval) (b.closed.getD (e.round * pollInterval)))
      log := [spawning command]
      returns := b.closed.isSome }

/-- A program ends by itself, or cannot be asked after any more, at a time or before. -/
def Behaviour.EndsBy (b : Behaviour ρ) (limit : Nat) : Prop :=
  ∃ time ended, b.exit = some (time, ended) ∧ time ≤ limit

theorem Behaviour.EndsBy.mono {limit limit' : Nat} (hle : limit ≤ limit') (h : b.EndsBy limit) :
    b.EndsBy limit' := by
  obtain ⟨time, ended, hexit, hend⟩ := h
  exact ⟨time, ended, hexit, Nat.le_trans hend hle⟩

/-! ## Waiting -/

theorem verdict?_eq_none_iff {o : Observation} : o.verdict? deadline = none ↔ ¬ o.Final deadline := by
  unfold Observation.verdict? Observation.Final Moment.reached
  cases o.poll with
  | running => simp
  | exited status => simp
  | failed reason => simp

/-- The waiting ends behind rounds that are not final, in a round that brings a verdict. -/
theorem ends_of_wait {observe : Nat → Observation} {deadline : Moment} {e : Ending} :
    ∀ {rounds round : Nat}, wait observe deadline rounds round = some e →
    e.round < round + rounds ∧ (∀ r, round ≤ r → r < e.round → ¬ (observe r).Final deadline) ∧
      (observe e.round).verdict? deadline = some e.verdict ∧ e.reaped = e.verdict.reaps := by
  intro rounds
  induction rounds with
  | zero =>
    intro round h
    cases h
  | succ rounds ih =>
    intro round h
    unfold wait at h
    cases hverdict : (observe round).verdict? deadline with
    | none =>
      rw [hverdict] at h
      obtain ⟨hto, hfirst, hlast, hreaped⟩ := ih h
      refine ⟨by omega, fun r hfrom hr => ?_, hlast, hreaped⟩
      rcases Nat.eq_or_lt_of_le hfrom with rfl | hlt
      · exact verdict?_eq_none_iff.mp hverdict
      · exact hfirst r hlt hr
    | some verdict =>
      rw [hverdict] at h
      cases h
      exact ⟨by dsimp only; omega, fun r hfrom hr => absurd hr (Nat.not_lt.mpr hfrom), hverdict, rfl⟩

/-- A program is given up, or it does what it is seen to do. -/
theorem verdict_observe {b : Behaviour ρ} {round : Nat} {deadline : Moment} {verdict : Verdict}
    (h : (b.observe round).verdict? deadline = some verdict) :
    verdict = .timedOut ∨ ∃ time ended, verdict = .ofEnd ended ∧ b.exit = some (time, ended) := by
  unfold Behaviour.observe Observation.verdict? at h
  dsimp only at h
  cases hexit : b.exit with
  | none =>
    rw [hexit] at h
    dsimp only at h
    split at h
    · exact .inl (Option.some.inj h).symm
    · cases h
  | some exit =>
    obtain ⟨time, ended⟩ := exit
    rw [hexit] at h
    dsimp only at h
    by_cases hpast : time ≤ round * pollInterval
    · rw [if_pos hpast] at h
      refine .inr ⟨time, ended, ?_, rfl⟩
      cases ended <;> exact (Option.some.inj h).symm
    · rw [if_neg hpast] at h
      dsimp only at h
      split at h
      · exact .inl (Option.some.inj h).symm
      · cases h

/-- Waiting goes on through the rounds without a verdict, and ends in the first one that brings one. -/
theorem wait_eq_some {observe : Nat → Observation} {deadline : Moment} {verdict : Verdict} {last : Nat}
    (hverdict : (observe last).verdict? deadline = some verdict) : ∀ {rounds round : Nat},
    round ≤ last → last < round + rounds →
    (∀ r, round ≤ r → r < last → (observe r).verdict? deadline = none) →
    wait observe deadline rounds round = some ⟨verdict, last, verdict.reaps⟩ := by
  intro rounds
  induction rounds with
  | zero =>
    intro round hfrom hto _
    omega
  | succ rounds ih =>
    intro round hfrom hto hnone
    unfold wait
    rcases Nat.lt_or_eq_of_le hfrom with hlt | rfl
    · rw [hnone round (Nat.le_refl _) hlt]
      exact ih hlt (by omega) fun r hr => hnone r (Nat.le_of_succ_le hr)
    · rw [hverdict]

/-- A program that has ended is seen to end, whatever the clock shows. -/
theorem verdict?_ended {time round : Nat} {ended : Except String ExitStatus}
    (hexit : b.exit = some (time, ended)) (hend : time ≤ round * pollInterval) (deadline : Moment) :
    (b.observe round).verdict? deadline = some (.ofEnd ended) := by
  unfold Behaviour.observe Observation.verdict?
  dsimp only
  rw [hexit]
  dsimp only
  rw [if_pos hend]
  cases ended <;> rfl

/-- The clock is exact up to the first round in which a limit has passed. -/
theorem total_clock {round : Nat} (hround : round ≤ (ms.toNat + 9) / 10) :
    (Moment.ofMicroseconds (round * pollInterval)).total = (round * 10000 : Nat) * 1000 := by
  have hms := ms.toNat_lt
  refine Moment.total_ofMicroseconds ?_
  show round * 10000 / 1000000 < _
  omega

/-- A program that still runs is given up in the rounds from its limit on. -/
theorem verdict?_running {round : Nat}
    (hdeadline : deadline.total = ms.toNat * 1000000) (hround : round ≤ (ms.toNat + 9) / 10)
    (hruns : ¬ b.EndsBy (round * pollInterval)) : (b.observe round).verdict? deadline =
      if ms.toNat ≤ round * 10 then some .timedOut else none := by
  have hclock := total_clock hround
  have hreached : (Moment.ofMicroseconds (round * pollInterval)).reached deadline =
      decide (ms.toNat ≤ round * 10) := by
    unfold Moment.reached
    rw [hclock, hdeadline]
    exact decide_eq_decide.mpr (by omega)
  have hpoll : (b.observe round).poll = .running := by
    unfold Behaviour.observe
    dsimp only
    split
    · next time ended hexit => exact if_neg fun h => hruns ⟨time, ended, hexit, h⟩
    · rfl
  unfold Observation.verdict?
  rw [hpoll]
  show (if (Moment.ofMicroseconds (round * pollInterval)).reached deadline then _ else _) = _
  rw [hreached]
  simp only [decide_eq_true_eq]

/-! ## Bounded runs -/

theorem run_ran (machine : Machine ρ) (command : Command) (limit : Span) (w : World ρ) :
    Ran machine command limit w (run machine command limit w) := by
  unfold run
  -- the last second of the clock is too large a number to compute with
  generalize (Moment.ofMicroseconds 0).add? limit = deadline?
  cases hnul : (command.program :: command.args).any Command.hasNul with
  | true => exact .refused .nulInData
  | false =>
    rw [if_neg Bool.false_ne_true]
    cases hlaunch : machine.launch w command (killTime limit) with
    | error e => exact .refused e
    | ok b =>
      cases deadline? with
      | none => exact .late b _ hlaunch
      | some deadline =>
        dsimp only
        cases hwait : wait b.observe deadline (roundLimit limit) 0 with
        | none => exact .late b _ hlaunch
        | some ending =>
          dsimp only
          rcases verdict_observe (ends_of_wait hwait).2.2.1 with hlate | ⟨time, ended, hended, hexit⟩
          · rw [hlate]
            exact .late b _ hlaunch
          · rw [hended]
            cases ended with
            | ok status => exact .ended b time _ status hlaunch hexit
            | error reason => exact .unasked b time _ reason hlaunch hexit

/-- A command is refused, or it can be launched and is. -/
theorem run_refused_or_launched (machine : Machine ρ) (command : Command) (limit : Span) (w : World ρ) :
    (∃ e : FileError, run machine command limit w =
      { result := .error (.toolLaunch (Command.shown command.program) e.message)
        world := w
        log := [spawning command] }) ∨
    (command.program :: command.args).any Command.hasNul = false ∧
      ∃ b, machine.launch w command (killTime limit) = .ok b := by
  unfold run
  cases (command.program :: command.args).any Command.hasNul with
  | true => exact .inl ⟨.nulInData, rfl⟩
  | false =>
    rw [if_neg Bool.false_ne_true]
    cases machine.launch w command (killTime limit) with
    | error e => exact .inl ⟨e, rfl⟩
    | ok b => exact .inr ⟨rfl, b, rfl⟩

section

variable {ending : Ending} (hnul : (command.program :: command.args).any Command.hasNul = false)
  (hlaunch : machine.launch w command (killTime limit) = .ok b)
  (hadd : (Moment.ofMicroseconds 0).add? limit = some deadline)
  (hwait : wait b.observe deadline (roundLimit limit) 0 = some ending)

include hnul hlaunch hadd hwait

/-- A run of a launched program gives the answer that its waiting calls for. -/
theorem run_eq_answer : run machine command limit w = b.answer command limit ending := by
  unfold run Behaviour.answer
  -- the last second of the clock is too large a number to compute with
  generalize (Moment.ofMicroseconds 0).add? limit = deadline? at hadd ⊢
  rw [hnul, if_neg Bool.false_ne_true, hlaunch, hadd]
  dsimp only
  rw [hwait]
  dsimp only
  cases ending.verdict <;> rfl

/-- What a run gives if the waiting gives the program up. -/
theorem run_timedOut (hverdict : ending.verdict = .timedOut) : run machine command limit w =
    { result := .error (.toolTimeout (Command.shown command.program) limit.toMilliseconds)
      world := b.after (ending.round * pollInterval)
      log := [spawning command, ⟨.warn, Command.shown command.program ++ " exceeded "
        ++ toString limit.toMilliseconds.toNat ++ " ms; killed", none⟩] } := by
  rw [run_eq_answer hnul hlaunch hadd hwait]
  unfold Behaviour.answer
  rw [hverdict]

end

/-! ## The limit decides -/

/-- The deadline of a run that starts at second zero. -/
theorem exists_deadline (ms : UInt64) : ∃ deadline,
    (Moment.ofMicroseconds 0).add? (.ofMilliseconds ms) = some deadline ∧
      deadline.total = ms.toNat * 1000000 := by
  have hzero : (Moment.ofMicroseconds 0).total = 0 := Moment.total_ofMicroseconds (by decide)
  obtain ⟨deadline, hadd, htotal, -⟩ :=
    Moment.add?_ofMilliseconds (m := .ofMicroseconds 0) ms (by decide) (by decide)
  exact ⟨deadline, hadd, by rw [htotal, hzero, Int.zero_add]⟩

theorem killTime_ofMilliseconds (ms : UInt64) :
    killTime (.ofMilliseconds ms) = (ms.toNat + 9) / 10 * pollInterval := by
  unfold killTime
  rw [Span.toMilliseconds_ofMilliseconds]

theorem roundLimit_ofMilliseconds (ms : UInt64) :
    roundLimit (.ofMilliseconds ms) = ms.toNat / 10 + 2 := by
  unfold roundLimit
  rw [Span.toMilliseconds_ofMilliseconds]

section

variable (hnul : (command.program :: command.args).any Command.hasNul = false)
  (hlaunch : machine.launch w command (killTime (.ofMilliseconds ms)) = .ok b)

include hnul hlaunch

/-- A program that still runs when its limit has passed is killed, and the failure and the last log record
tell the limit. -/
theorem run_late (hlate : ¬ b.EndsBy (killTime (.ofMilliseconds ms))) :
    run machine command (.ofMilliseconds ms) w =
      { result := .error (.toolTimeout (Command.shown command.program) ms)
        world := b.after (killTime (.ofMilliseconds ms))
        log := [spawning command, ⟨.warn, Command.shown command.program ++ " exceeded "
          ++ toString ms.toNat ++ " ms; killed", none⟩] } := by
  obtain ⟨deadline, hadd, hdeadline⟩ := exists_deadline ms
  have hruns : ∀ round ≤ (ms.toNat + 9) / 10, ¬ b.EndsBy (round * pollInterval) := by
    intro round hround hends
    rw [killTime_ofMilliseconds] at hlate
    exact hlate (hends.mono (Nat.mul_le_mul_right _ hround))
  have hverdict : (b.observe ((ms.toNat + 9) / 10)).verdict? deadline = some .timedOut := by
    rw [verdict?_running hdeadline (Nat.le_refl _) (hruns _ (Nat.le_refl _)), if_pos (by omega)]
  have hwait : wait b.observe deadline (roundLimit (.ofMilliseconds ms)) 0 =
      some ⟨.timedOut, (ms.toNat + 9) / 10, true⟩ := by
    rw [roundLimit_ofMilliseconds]
    refine wait_eq_some hverdict (Nat.zero_le _) (by omega) fun round _ hround => ?_
    rw [verdict?_running hdeadline (Nat.le_of_lt hround) (hruns _ (Nat.le_of_lt hround)),
      if_neg (by omega)]
  rw [run_timedOut hnul hlaunch hadd hwait rfl, Span.toMilliseconds_ofMilliseconds,
    killTime_ofMilliseconds]

/-- The end of a program that ends by itself in time is seen in time. -/
theorem run_seen {time : Nat} {ended : Except String ExitStatus} (hexit : b.exit = some (time, ended))
    (hle : time ≤ killTime (.ofMilliseconds ms)) :
    ∃ round, time ≤ round * pollInterval ∧ round * pollInterval ≤ killTime (.ofMilliseconds ms) ∧
      run machine command (.ofMilliseconds ms) w = b.answer command (.ofMilliseconds ms)
        ⟨.ofEnd ended, round, (Verdict.ofEnd ended).reaps⟩ := by
  obtain ⟨deadline, hadd, hdeadline⟩ := exists_deadline ms
  rw [killTime_ofMilliseconds] at hle ⊢
  -- the first round that is not before the end
  have hfirst : ∀ round, time ≤ round * pollInterval ↔ (time + 9999) / 10000 ≤ round := by
    intro round
    show time ≤ round * 10000 ↔ _
    omega
  have hlast := (hfirst _).mp hle
  have hverdict := verdict?_ended hexit ((hfirst _).mpr (Nat.le_refl _)) deadline
  have hwait : wait b.observe deadline (roundLimit (.ofMilliseconds ms)) 0 =
      some ⟨.ofEnd ended, (time + 9999) / 10000, (Verdict.ofEnd ended).reaps⟩ := by
    rw [roundLimit_ofMilliseconds]
    refine wait_eq_some hverdict (Nat.zero_le _) (by omega) fun round _ hround => ?_
    have hruns : ¬ b.EndsBy (round * pollInterval) := by
      rintro ⟨time', ended', hexit', hle'⟩
      rw [hexit] at hexit'
      cases hexit'
      exact Nat.not_le.mpr hround ((hfirst round).mp hle')
    rw [verdict?_running hdeadline (by omega) hruns, if_neg (by omega)]
  exact ⟨_, (hfirst _).mpr (Nat.le_refl _), Nat.mul_le_mul_right _ hlast,
    run_eq_answer hnul hlaunch hadd hwait⟩

/-- All that was ever written to the streams of a program that ends in time is caught, if they are ever
closed. -/
theorem run_in_time {time : Nat} {status : ExitStatus} (hexit : b.exit = some (time, .ok status))
    (hle : time ≤ killTime (.ofMilliseconds ms)) :
    ∃ seen, time ≤ seen ∧ seen ≤ killTime (.ofMilliseconds ms) ∧
      run machine command (.ofMilliseconds ms) w =
        { result := .ok ⟨status, Text.Utf8.decodeLossy (Behaviour.collect b.stdout),
            Text.Utf8.decodeLossy (Behaviour.collect b.stderr)⟩
          world := b.after (max seen (b.closed.getD seen))
          log := [spawning command]
          returns := b.closed.isSome } := by
  obtain ⟨round, hfrom, hto, hrun⟩ := run_seen hnul hlaunch hexit hle
  exact ⟨_, hfrom, hto, hrun⟩

/-- A program that cannot be asked after is killed, and the failure tells why. -/
theorem run_unasked {time : Nat} {reason : String} (hexit : b.exit = some (time, .error reason))
    (hle : time ≤ killTime (.ofMilliseconds ms)) :
    ∃ seen, time ≤ seen ∧ seen ≤ killTime (.ofMilliseconds ms) ∧
      run machine command (.ofMilliseconds ms) w =
        { result := .error
            (.toolLaunch (Command.shown command.program) ("waiting for process: " ++ reason))
          world := b.after seen
          log := [spawning command] } := by
  obtain ⟨round, hfrom, hto, hrun⟩ := run_seen hnul hlaunch hexit hle
  exact ⟨_, hfrom, hto, hrun⟩

end

/-- A run reports that the limit has passed just if the program was launched and did not end in time. -/
theorem run_toolTimeout_iff {ms' : UInt64} {program : String} :
    (run machine command (.ofMilliseconds ms) w).result = .error (.toolTimeout program ms') ↔
      program = Command.shown command.program ∧ ms' = ms ∧
      (command.program :: command.args).any Command.hasNul = false ∧
      ∃ b, machine.launch w command (killTime (.ofMilliseconds ms)) = .ok b ∧
        ¬ b.EndsBy (killTime (.ofMilliseconds ms)) := by
  constructor
  · intro h
    rcases run_refused_or_launched machine command (.ofMilliseconds ms) w with
      ⟨e, hrun⟩ | ⟨hnul, b, hlaunch⟩
    · rw [hrun] at h
      cases h
    by_cases hends : b.EndsBy (killTime (.ofMilliseconds ms))
    · obtain ⟨time, ended, hexit, hle⟩ := hends
      cases ended with
      | ok status =>
        obtain ⟨seen, -, -, hrun⟩ := run_in_time hnul hlaunch hexit hle
        rw [hrun] at h
        cases h
      | error reason =>
        obtain ⟨seen, -, -, hrun⟩ := run_unasked hnul hlaunch hexit hle
        rw [hrun] at h
        cases h
    · rw [run_late hnul hlaunch hends] at h
      cases h
      exact ⟨rfl, rfl, hnul, b, hlaunch, hends⟩
  · rintro ⟨rfl, rfl, hnul, b, hlaunch, hlate⟩
    rw [run_late hnul hlaunch hlate]

end HardenAudit.Launch
