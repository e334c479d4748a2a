import PtyShell.Proofs.Launch.Descriptors
import PtyShell.Proofs.Launch.Started
import PtyShell.Proofs.Runner.Step

/-! # The runner gives up the terminal last

Whatever fails and in whatever order the threads take their steps, a run that has ended has closed
both ends of its terminal once. The master end is closed by its last call, after the drain has
ended, when no output is left to read. -/

namespace PtyShell

/-- Between two hosts both ends of a terminal were closed once, the master end by the last call and
with nothing left to read. -/
structure Host.Released (before after : Host) : Prop where
  slave : after.closes .slave = before.closes .slave + 1
  master : after.closes .master = before.closes .master + 1
  last : ∃ calls logs, after.trace = before.trace ++ calls ++ .close .master 0 :: logs ∧
    ∀ event ∈ logs, event.isLog = true

namespace Host.Released

theorem log {before after : Host} (released : before.Released after) (level : Level)
    (logger : Logger) (message : String) :
    before.Released (after.record (.log level logger message)) where
  slave := by
    rw [closes_record]
    exact released.slave
  master := by
    rw [closes_record]
    exact released.master
  last := by
    obtain ⟨calls, logs, trace, records⟩ := released.last
    refine ⟨calls, logs ++ [.log level logger message], ?_, ?_⟩
    · rw [record_trace, trace]
      simp
    · intro event member
      rcases List.mem_append.mp member with old | new
      · exact records event old
      · rw [List.mem_singleton.mp new]
        rfl

end Host.Released

namespace Run

/-- Since a start only the slave end was closed, and no output was lost by a drain. -/
structure Keeping (start host : Host) (drain : DrainPoint) : Prop where
  slave : host.closes .slave = start.closes .slave + 1
  master : host.closes .master = start.closes .master
  trace : start.trace <+: host.trace
  opened : host.isOpen .master = true
  left : Drain.rest host drain = host.output.flatten

namespace Keeping

variable {start host : Host} {drain : DrainPoint}

theorem unread (keeping : Keeping start host drain) (drained : drain = .ended) :
    host.unread = 0 := by
  have left := keeping.left
  rw [drained] at left
  unfold Host.unread
  rw [← left]
  rfl

theorem release (keeping : Keeping start host drain) (drained : drain = .ended) :
    start.Released (host.closed .master) where
  slave := by
    rw [Host.closes_closed]
    exact keeping.slave
  master := by
    rw [Host.closes_closed, keeping.master]
    rfl
  last := by
    obtain ⟨calls, trace⟩ := keeping.trace
    refine ⟨calls, [], ?_, fun _ member => absurd member List.not_mem_nil⟩
    show host.trace ++ [.close .master host.unread] = _
    rw [keeping.unread drained, trace]

theorem exit (keeping : Keeping start host drain) (code : Int) :
    Keeping start (host.exit code) drain where
  slave := keeping.slave
  master := keeping.master
  trace := keeping.trace
  opened := keeping.opened
  left := by
    rw [@Drain.rest_output host (host.exit code) rfl]
    exact keeping.left

theorem drained (keeping : Keeping start host drain) {progress : Drain.Progress}
    (taken : Drain.Step (some .master) host drain progress) :
    Keeping start progress.host progress.point where
  slave := (taken.closes .slave).trans keeping.slave
  master := (taken.closes .master).trans keeping.master
  trace := keeping.trace.trans taken.continues.trace
  opened := by
    rw [taken.same]
    exact keeping.opened
  left := taken.left keeping.opened keeping.left

end Keeping

def TerminalAt (start host : Host) (drain : DrainPoint) : RunPoint → Prop
  | .closing _ => Keeping start host drain ∧ drain = .ended
  | .deciding _ | .finished _ => drain = .ended ∧ start.Released host
  | _ => Keeping start host drain

theorem Goes.undisturbed {run : Run} {before after : RunPoint} {host : Host}
    (taken : run.Goes before host after) (early : ∀ verdict, before ≠ .closing verdict) :
    host.openFds = run.host.openFds ∧ ∀ fd, host.closes fd = run.host.closes fd := by
  cases taken with
  | wait able | waitFailed refused | waitAgain able | waitAgainFailed refused =>
      exact ⟨rfl, fun fd => Host.closes_enterWait fd run.host⟩
  | kill possible => exact ⟨Host.killed_openFds run.host, fun fd => Host.closes_killed fd run.host⟩
  | killFailed refused => exact ⟨rfl, fun fd => Host.closes_record fd .kill run.host⟩
  | closeFailed refused | closeAfterFault possible | close possible => exact absurd rfl (early _)
  | fail nonzero => exact ⟨rfl, fun fd => Host.closes_record fd _ run.host⟩
  | _ => exact ⟨rfl, fun _ => rfl⟩

section

variable {start : Host} {run : Run}

theorem Goes.keeping {before after : RunPoint} {next : Host} (taken : run.Goes before next after)
    (early : ∀ verdict, before ≠ .closing verdict)
    (keeping : Keeping start run.host run.drain) : Keeping start next run.drain where
  slave := ((taken.undisturbed early).2 .slave).trans keeping.slave
  master := ((taken.undisturbed early).2 .master).trans keeping.master
  trace := keeping.trace.trans taken.continues.trace
  opened := by
    unfold Host.isOpen
    rw [(taken.undisturbed early).1]
    exact keeping.opened
  left := by
    rw [Drain.rest_output taken.output, taken.output]
    exact keeping.left

theorem Goes.holds {before after : RunPoint} {next : Host} (taken : run.Goes before next after)
    (holds : TerminalAt start run.host run.drain before) :
    TerminalAt start next run.drain after := by
  have keeps := @taken.keeping start
  cases taken with
  | join drained => exact ⟨keeps (by intro _ same; cases same) holds, drained⟩
  | closeFailed refused | closeAfterFault possible | close possible =>
      exact ⟨holds.2, holds.1.release holds.2⟩
  | succeed => exact holds
  | fail nonzero => exact ⟨holds.1, holds.2.log _ _ _⟩
  | _ => exact keeps (by intro _ same; cases same) holds

theorem TerminalAt.drained {point : RunPoint} (holds : TerminalAt start run.host run.drain point)
    {progress : Drain.Progress}
    (taken : Drain.Step (some .master) run.host run.drain progress) :
    TerminalAt start progress.host progress.point point := by
  have going : run.drain ≠ .ended := by
    intro ended
    rw [ended] at taken
    cases taken
  cases point with
  | closing verdict => exact absurd holds.2 going
  | deciding code => exact absurd holds.1 going
  | finished outcome => exact absurd holds.1 going
  | _ => exact Keeping.drained holds taken

theorem TerminalAt.exit {point : RunPoint} (holds : TerminalAt start run.host run.drain point)
    (code : Int) : TerminalAt start (run.host.exit code) run.drain point := by
  cases point with
  | closing verdict => exact ⟨holds.1.exit code, holds.2⟩
  | deciding own => exact ⟨holds.1, holds.2.slave, holds.2.master, holds.2.last⟩
  | finished outcome => exact ⟨holds.1, holds.2.slave, holds.2.master, holds.2.last⟩
  | _ => exact Keeping.exit holds code

theorem TerminalAt.moved (holds : TerminalAt start run.host run.drain run.main) {move : RunMove}
    {after : Run} (moved : run.Moved move after) :
    TerminalAt start after.host after.drain after.main := by
  cases moved with
  | main taken => exact taken.holds holds
  | drain taken => exact holds.drained taken
  | stay stuck => exact holds
  | exit code => exact holds.exit code

/-- The waiting thread alone closes the master end, once it has joined the draining one. -/
theorem TerminalAt.closes (holds : TerminalAt start run.host run.drain run.main) {move : RunMove}
    {after : Run} (moved : run.Moved move after)
    (closes : after.host.closes .master ≠ run.host.closes .master) :
    move = .step .main ∧ run.drain = .ended ∧ run.host.unread = 0 := by
  cases moved with
  | main taken =>
      cases stands : run.main with
      | closing verdict =>
          rw [stands] at holds
          exact ⟨rfl, holds.2, holds.1.unread holds.2⟩
      | _ =>
          rw [stands] at taken
          exact absurd ((taken.undisturbed (by intro _ same; cases same)).2 .master) closes
  | drain taken => exact absurd (taken.closes .master) closes
  | stay stuck => exact absurd rfl closes
  | exit code => exact absurd rfl closes

/-- How a run that began on a host gives up its terminal in a list of moves. -/
structure Releases (begun : Host) (start : Run) (moves : List RunMove) : Prop where
  closes : ∀ move,
    ((start.play moves).move move).host.closes .master ≠ (start.play moves).host.closes .master →
      move = .step .main ∧ (start.play moves).drain = .ended ∧ (start.play moves).host.unread = 0
  released : ∀ outcome, (start.play moves).outcome? = some outcome →
    (start.play moves).drain = .ended ∧ begun.Released (start.play moves).host
  /-- Once the process has exited, neither thread waits forever. -/
  finishes : ∀ code, (start.play moves).host.returncode = some code →
    (start.play moves).Stuck → ∃ outcome, (start.play moves).outcome? = some outcome

theorem TerminalAt.play (holds : TerminalAt start run.host run.drain run.main)
    (moves : List RunMove) :
    TerminalAt start (run.play moves).host (run.play moves).drain (run.play moves).main :=
  play_keeps (fun run => TerminalAt start run.host run.drain run.main)
    (fun _ _ _ moved holds => holds.moved moved) moves run holds

theorem TerminalAt.released (holds : TerminalAt start run.host run.drain run.main)
    {outcome : RunOutcome} (found : run.outcome? = some outcome) :
    run.drain = .ended ∧ start.Released run.host := by
  rw [outcome_finished found] at holds
  exact holds

end

end Run

namespace Runner

section Launched

variable {command : Command} {size : TerminalSize} {base : Option Env} {config : Config}
  {host started : Host}

theorem ofHost_keeping
    (launched : (Launch.command command size base config).run host = .ok () started)
    (exhausted : Drain.stream host.output = host.output.flatten) :
    Run.Keeping host (Run.ofHost command.argv.words started).host .reading := by
  have launching := Launch.command_started launched
  obtain ⟨bytes, env, final⟩ := Launch.command_ok launched
  refine ⟨?_, ?_, launching.trace.trans (List.prefix_append _ _), launching.isOpen, ?_⟩
  · simp [Run.ofHost, final, Event.isClose]
  · simp [Run.ofHost, final, Event.isClose]
  · show Drain.stream started.output = started.output.flatten
    rw [launching.output]
    exact exhausted

/-- However calls fail and whatever the order of the steps, a run that ends has closed both ends of
the terminal once, the master end last of all and with nothing unread. -/
theorem run_releases
    (launched : (Launch.command command size base config).run host = .ok () started)
    (exhausted : Drain.stream host.output = host.output.flatten) :
    (∀ moves, Run.Releases host (Run.ofHost command.argv.words started) moves) ∧
      ∀ outcome, (run command size base config host).1 = some outcome →
        host.Released (run command size base config host).2 := by
  have keeping : Run.TerminalAt host (Run.ofHost command.argv.words started).host .reading
      .enteringWait := ofHost_keeping launched exhausted
  have reached (moves : List RunMove) := keeping.play moves
  refine ⟨?_, ?_⟩
  · intro moves
    refine ⟨?_, fun outcome found => (reached moves).released found, ?_⟩
    · intro move closes
      exact (reached moves).closes (Run.moved _ move) closes
    · intro code ended stuck
      exact stuck.finished ended
  · intro outcome found
    obtain ⟨⟨moves, played⟩, _⟩ :=
      Run.complete_play _ _ (Run.remaining_ofHost command.argv.words started)
    unfold run at found ⊢
    simp only [launched] at found ⊢
    rw [played] at found ⊢
    exact ((reached moves).released found).2

end Launched

def departed : Host :=
  { Host.refusing with output := [[104, 105], [10]], returncode := some 0 }

theorem run_releases_departed :
    ∃ started,
      (Launch.command Launch.idle ⟨24, 80⟩ none Config.default).run departed = .ok () started ∧
        Drain.stream departed.output = departed.output.flatten ∧
          (∀ moves, Run.Releases departed (Run.ofHost ["true"] started) moves) ∧
            (run Launch.idle ⟨24, 80⟩ none Config.default departed).1 =
                some (.fault (.system 5 "Input/output error" none)) ∧
              departed.Released (run Launch.idle ⟨24, 80⟩ none Config.default departed).2 := by
  obtain ⟨started, launched⟩ : ∃ started,
      (Launch.command Launch.idle ⟨24, 80⟩ none Config.default).run departed = .ok () started :=
    ⟨_, rfl⟩
  have released := run_releases launched rfl
  exact ⟨started, launched, rfl, released.1, rfl, released.2 _ rfl⟩

end Runner

end PtyShell
