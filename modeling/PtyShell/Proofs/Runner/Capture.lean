import PtyShell.Proofs.Launch.Stages
import PtyShell.Proofs.Runner.Step

/-! # The runner captures everything

Whatever the order in which the two threads take their steps, a run that no fault disturbs gives the
whole output of a command that succeeds, and the return code of one that does not. -/

namespace PtyShell

namespace Run

def answer (stream : List UInt8) (code : Int) : RunOutcome :=
  if code = 0 then .output stream else .fault (.exited code)

/-- What the waiting thread knows at the point where it stands. -/
def Knows (stream : List UInt8) (run : Run) : RunPoint → Prop
  | .enteringWait | .awaitingExit => True
  | .joining (.returned code) => run.host.returncode = some code
  | .closing (.returned code) | .deciding code =>
    run.drain = .ended ∧ run.host.returncode = some code
  | .finished outcome =>
    run.drain = .ended ∧ ∃ code, run.host.returncode = some code ∧ outcome = answer stream code
  | _ => False

/-- What the waiting thread knows stays true while it stands. -/
theorem Knows.keeps {stream : List UInt8} {before after : Run} {point : RunPoint}
    (knows : Knows stream before point) (drained : before.drain = .ended → after.drain = .ended)
    (returned : ∀ code, before.host.returncode = some code → after.host.returncode = some code) :
    Knows stream after point := by
  cases point with
  | enteringWait => trivial
  | awaitingExit => trivial
  | joining verdict =>
      cases verdict with
      | returned code => exact returned code knows
      | failed fault => cases knows
  | closing verdict =>
      cases verdict with
      | returned code => exact ⟨drained knows.1, returned code knows.2⟩
      | failed fault => cases knows
  | deciding code => exact ⟨drained knows.1, returned code knows.2⟩
  | finished outcome =>
      obtain ⟨ended, code, exited, same⟩ := knows
      exact ⟨drained ended, code, returned code exited, same⟩
  | _ => cases knows

structure Capturing (stream : List UInt8) (run : Run) : Prop where
  waits : run.host.waitFaults = []
  closes : run.host.faults.close = none
  opened : run.drain = .ended ∨ run.host.isOpen .master = true
  captured : run.captured ++ Drain.rest run.host run.drain = stream
  knows : run.Knows stream run.main

namespace Capturing

variable {stream : List UInt8} {run : Run}

theorem all (capturing : run.Capturing stream) (ended : run.drain = .ended) :
    run.captured = stream := by
  have captured := capturing.captured
  rw [ended] at captured
  simpa [Drain.rest] using captured

theorem onward (capturing : run.Capturing stream) {host : Host} {point : RunPoint}
    (waits : host.waitFaults = []) (faults : host.faults = run.host.faults)
    (opened : run.drain = .ended ∨ host.isOpen .master = true)
    (output : host.output = run.host.output)
    (knows : Knows stream { run with host := host, main := point } point) :
    Capturing stream { run with host := host, main := point } where
  waits := waits
  closes := by
    rw [faults]
    exact capturing.closes
  opened := opened
  captured := by
    have same : Drain.rest host run.drain = Drain.rest run.host run.drain := by
      cases run.drain <;> simp only [Drain.rest, output]
    rw [← capturing.captured, ← same]
  knows := knows

theorem main (capturing : run.Capturing stream) {host : Host} {point : RunPoint}
    (taken : run.Goes run.main host point) :
    Capturing stream { run with host := host, main := point } := by
  have knows := capturing.knows
  have waits := capturing.waits
  generalize run.main = before at taken knows
  cases taken with
  | wait able =>
      refine capturing.onward ?_ rfl capturing.opened rfl trivial
      show run.host.waitFaults.tail = []
      rw [waits]
      rfl
  | waitFailed refused =>
      rw [waits] at refused
      cases refused
  | exited ended => exact capturing.onward waits rfl capturing.opened rfl ended
  | @join verdict drained =>
      cases verdict with
      | returned code =>
          exact capturing.onward waits rfl capturing.opened rfl ⟨drained, knows⟩
      | failed fault => cases knows
  | closeFailed refused =>
      rw [capturing.closes] at refused
      cases refused
  | close possible => exact capturing.onward waits rfl (Or.inl knows.1) rfl knows
  | succeed =>
      refine capturing.onward waits rfl capturing.opened rfl ⟨knows.1, 0, knows.2, ?_⟩
      rw [capturing.all knows.1]
      rfl
  | fail nonzero =>
      refine capturing.onward waits rfl capturing.opened rfl ⟨knows.1, _, knows.2, ?_⟩
      rw [answer, if_neg nonzero]
  | _ => cases knows

theorem drain (capturing : run.Capturing stream) {progress : Drain.Progress}
    (taken : Drain.Step (some .master) run.host run.drain progress) :
    Capturing stream
      { run with
        host := progress.host
        drain := progress.point
        captured := run.captured ++ progress.bytes } := by
  have same := taken.same
  have reading : run.drain ≠ .ended := by
    intro ended
    rw [ended] at taken
    cases taken
  have opened := capturing.opened.resolve_left reading
  refine ⟨?_, ?_, Or.inr ?_, ?_, ?_⟩
  · show progress.host.waitFaults = []
    rw [same]
    exact capturing.waits
  · show progress.host.faults.close = none
    rw [same]
    exact capturing.closes
  · show progress.host.isOpen .master = true
    rw [same]
    exact opened
  · show run.captured ++ progress.bytes ++ Drain.rest progress.host progress.point = stream
    rw [List.append_assoc, taken.rest opened]
    exact capturing.captured
  · apply capturing.knows.keeps
    · intro ended
      exact absurd ended reading
    · intro code exited
      show progress.host.returncode = some code
      rw [same]
      exact exited

theorem exit (capturing : run.Capturing stream) (code : Int) :
    Capturing stream { run with host := run.host.exit code } where
  waits := capturing.waits
  closes := capturing.closes
  opened := capturing.opened
  captured := capturing.captured
  knows := capturing.knows.keeps id fun _ ended => Host.exit_returncode code run.host ended

theorem moved (capturing : run.Capturing stream) {move : RunMove} {after : Run}
    (moved : run.Moved move after) : after.Capturing stream := by
  cases moved with
  | main taken => exact capturing.main taken
  | drain taken => exact capturing.drain taken
  | stay stuck => exact capturing
  | exit code => exact capturing.exit code

theorem play (capturing : run.Capturing stream) (moves : List RunMove) :
    (run.play moves).Capturing stream :=
  play_keeps (Capturing stream) (fun _ _ _ moved holds => holds.moved moved) moves run capturing

theorem outcome (capturing : run.Capturing stream) {outcome : RunOutcome}
    (found : run.outcome? = some outcome) :
    ∃ code, run.host.returncode = some code ∧ outcome = answer stream code := by
  have knows := capturing.knows
  unfold outcome? at found
  cases stands : run.main with
  | finished own =>
      simp only [stands, Option.some.injEq] at found
      subst found
      rw [stands] at knows
      exact knows.2
  | _ => simp [stands] at found

theorem finished (capturing : run.Capturing stream) (stuck : run.Stuck) {code : Int}
    (ended : run.host.returncode = some code) : run.outcome? = some (answer stream code) := by
  have drained : run.drain = .ended := by
    rcases Drain.step_none (Option.map_eq_none_iff.mp (stuck .drain)) with
      drained | ⟨_, running⟩
    · exact drained
    · rw [ended] at running
      cases running
  have knows := capturing.knows
  have still : run.stepMain = none := stuck .main
  unfold stepMain at still
  cases stands : run.main with
  | enteringWait => simp [stands, Host.enterWait, capturing.waits, goOn] at still
  | awaitingExit => simp [stands, ended, goOn] at still
  | joining verdict => simp [stands, drained, goOn] at still
  | closing verdict =>
      rw [stands] at knows
      cases verdict with
      | failed fault => cases knows
      | returned own =>
          simp [stands, Sys.close_run, Host.closeFault?, capturing.closes, goOn] at still
  | deciding own =>
      by_cases zero : own = 0 <;> simp [stands, exitFault?, zero, goOn] at still
  | finished outcome =>
      rw [stands] at knows
      obtain ⟨_, own, returned, same⟩ := knows
      rw [ended] at returned
      cases returned
      simp only [outcome?, stands, same]
  | _ =>
      rw [stands] at knows
      cases knows

end Capturing

theorem play_returncode {run : Run} {code : Int} (ended : run.host.returncode = some code)
    (moves : List RunMove) : (run.play moves).host.returncode = some code := by
  apply play_keeps (fun run => run.host.returncode = some code) _ moves run ended
  intro run move after moved ended
  cases moved with
  | main taken => exact taken.continues.returncode code ended
  | drain taken =>
      show Host.returncode _ = some code
      rw [taken.same]
      exact ended
  | stay stuck => exact ended
  | exit other => exact Host.exit_returncode other run.host ended

/-- How a run captures a stream of output in a list of moves. -/
structure Captures (stream : List UInt8) (start : Run) (moves : List RunMove) : Prop where
  outcome : ∀ outcome, (start.play moves).outcome? = some outcome →
    ∃ code, (start.play moves).host.returncode = some code ∧ outcome = answer stream code
  /-- Once the process has exited, neither thread waits forever. -/
  finishes : ∀ code, (start.play moves).host.returncode = some code →
    (start.play moves).Stuck → (start.play moves).outcome? = some (answer stream code)
  steps : start.steps moves ≤ start.bound

end Run

namespace Runner

section Launched

variable {command : Command} {size : TerminalSize} {base : Option Env} {config : Config}
  {host started : Host}

theorem ofHost_capturing
    (launched : (Launch.command command size base config).run host = .ok () started)
    (waits : host.waitFaults = []) (closes : host.faults.close = none) :
    (Run.ofHost command.argv.words started).Capturing (Drain.stream host.output) := by
  obtain ⟨same, opened⟩ := Launch.command_sameMachine launched
  have start : started.waitFaults = [] ∧ started.faults.close = none ∧
      started.output = host.output := by
    rw [same]
    exact ⟨waits, closes, rfl⟩
  refine ⟨start.1, start.2.1, Or.inr ?_, ?_, trivial⟩
  · show started.openFds.contains .master = true
    rw [opened]
    rfl
  · show [] ++ Drain.stream started.output = _
    rw [start.2.2, List.nil_append]

/-- The runner gives all of the output of a command that succeeds, and the return code of one that
does not, in whatever order its two threads take their steps. -/
theorem run_captures
    (launched : (Launch.command command size base config).run host = .ok () started)
    (waits : host.waitFaults = []) (closes : host.faults.close = none) :
    (∀ moves, Run.Captures (Drain.stream host.output) (Run.ofHost command.argv.words started)
        moves) ∧
      (∀ code, host.returncode = some code →
        (run command size base config host).1 =
          some (Run.answer (Drain.stream host.output) code)) ∧
      ([] ∉ host.output → Drain.stream host.output = host.output.flatten) := by
  have capturing := ofHost_capturing launched waits closes
  have remaining : (Run.ofHost command.argv.words started).remaining ≤
      (Run.ofHost command.argv.words started).bound := by
    show 7 + (started.unread + 2) ≤ started.unread + started.output.length + 2 + 12
    omega
  refine ⟨?_, ?_, Drain.stream_eq_flatten⟩
  · intro moves
    have reached := capturing.play moves
    have taken := Run.steps_play moves (Run.ofHost command.argv.words started)
    exact ⟨fun outcome found => reached.outcome found,
      fun code ended stuck => reached.finished stuck ended, by omega⟩
  · intro code ended
    obtain ⟨⟨moves, played⟩, stuck⟩ := Run.complete_play _ _ remaining
    have begins : (Run.ofHost command.argv.words started).host.returncode = some code := by
      show started.returncode = some code
      rw [(Launch.command_sameMachine launched).1]
      exact ended
    rw [played] at stuck
    unfold run
    simp only [launched]
    rw [played]
    exact (capturing.play moves).finished stuck (Run.play_returncode begins moves)

end Launched

theorem run_captures_greeted :
    ∃ started,
      (Launch.command Launch.idle ⟨24, 80⟩ none Config.default).run Host.greeted =
          .ok () started ∧
        (∀ moves, Run.Captures [104, 105, 10] (Run.ofHost ["true"] started) moves) ∧
          (run Launch.idle ⟨24, 80⟩ none Config.default Host.greeted).1 =
            some (.output [104, 105, 10]) := by
  obtain ⟨started, launched⟩ : ∃ started,
      (Launch.command Launch.idle ⟨24, 80⟩ none Config.default).run Host.greeted =
        .ok () started := ⟨_, rfl⟩
  have captured := run_captures launched rfl rfl
  exact ⟨started, launched, captured.1, captured.2.1 0 rfl⟩

end Runner

end PtyShell
