import PtyShell.Proofs.Drain
import PtyShell.Proofs.Host
import PtyShell.Runner

namespace PtyShell

namespace Run

/-- The rules for the steps of the waiting thread: where it stands, and the host and the point it
goes on to. -/
inductive Goes (run : Run) : RunPoint → Host → RunPoint → Prop
  | wait (able : run.host.waitFaults.head? = none) :
      Goes run .enteringWait run.host.enterWait.2 .awaitingExit
  | waitFailed {fault : Fault} (refused : run.host.waitFaults.head? = some fault) :
      Goes run .enteringWait run.host.enterWait.2 (.killing fault)
  | exited {code : Int} (ended : run.host.returncode = some code) :
      Goes run .awaitingExit run.host (.joining (.returned code))
  | kill {cause : Fault} (possible : run.host.faults.kill = none) :
      Goes run (.killing cause) run.host.killed (.enteringSecondWait cause)
  | killFailed {cause fault : Fault} (refused : run.host.faults.kill = some fault) :
      Goes run (.killing cause) (run.host.record .kill) (.joining (.failed fault))
  | waitAgain {cause : Fault} (able : run.host.waitFaults.head? = none) :
      Goes run (.enteringSecondWait cause) run.host.enterWait.2 (.awaitingSecondExit cause)
  | waitAgainFailed {cause fault : Fault} (refused : run.host.waitFaults.head? = some fault) :
      Goes run (.enteringSecondWait cause) run.host.enterWait.2 (.joining (.failed fault))
  | exitedAgain {cause : Fault} {code : Int} (ended : run.host.returncode = some code) :
      Goes run (.awaitingSecondExit cause) run.host (.joining (.failed cause))
  | join {verdict : Verdict} (drained : run.drain = .ended) :
      Goes run (.joining verdict) run.host (.closing verdict)
  | closeFailed {verdict : Verdict} {fault : Fault} (refused : run.host.faults.close = some fault) :
      Goes run (.closing verdict) (run.host.closed .master) (.finished (.fault fault))
  | closeAfterFault {fault : Fault} (possible : run.host.faults.close = none) :
      Goes run (.closing (.failed fault)) (run.host.closed .master) (.finished (.fault fault))
  | close {code : Int} (possible : run.host.faults.close = none) :
      Goes run (.closing (.returned code)) (run.host.closed .master) (.deciding code)
  | succeed : Goes run (.deciding 0) run.host (.finished (.output run.captured))
  | fail {code : Int} (nonzero : code ≠ 0) :
      Goes run (.deciding code)
        (run.host.record (.log .debug .runner (failedMessage run.host.pid (.exited code))))
        (.finished (.fault (.exited code)))

private theorem goOn_eq {run next : Run} {host : Host} {point : RunPoint}
    (taken : run.goOn host point = some next) : next = { run with host := host, main := point } :=
  (Option.some.inj taken).symm

theorem stepMain_cases {run next : Run} (taken : run.stepMain = some next) :
    ∃ host point, run.Goes run.main host point ∧
      next = { run with host := host, main := point } := by
  unfold stepMain at taken
  cases stands : run.main with
  | enteringWait =>
      simp only [stands, Host.enterWait] at taken
      cases able : run.host.waitFaults.head? with
      | none =>
          simp only [able] at taken
          exact ⟨_, _, .wait able, goOn_eq taken⟩
      | some fault =>
          simp only [able] at taken
          exact ⟨_, _, .waitFailed able, goOn_eq taken⟩
  | awaitingExit =>
      cases ended : run.host.returncode with
      | none => simp [stands, ended] at taken
      | some code =>
          simp only [stands, ended] at taken
          exact ⟨_, _, .exited ended, goOn_eq taken⟩
  | killing cause =>
      simp only [stands, Sys.kill_run] at taken
      cases possible : run.host.faults.kill with
      | none =>
          simp only [possible] at taken
          exact ⟨_, _, .kill possible, goOn_eq taken⟩
      | some fault =>
          simp only [possible] at taken
          exact ⟨_, _, .killFailed possible, goOn_eq taken⟩
  | enteringSecondWait cause =>
      simp only [stands, Host.enterWait] at taken
      cases able : run.host.waitFaults.head? with
      | none =>
          simp only [able] at taken
          exact ⟨_, _, .waitAgain able, goOn_eq taken⟩
      | some fault =>
          simp only [able] at taken
          exact ⟨_, _, .waitAgainFailed able, goOn_eq taken⟩
  | awaitingSecondExit cause =>
      cases ended : run.host.returncode with
      | none => simp [stands, ended] at taken
      | some code =>
          simp only [stands, ended] at taken
          exact ⟨_, _, .exitedAgain ended, goOn_eq taken⟩
  | joining verdict =>
      cases drained : run.drain with
      | ended =>
          simp only [stands, drained] at taken
          exact ⟨_, _, .join drained, by rw [goOn_eq taken, drained]⟩
      | reading => simp [stands, drained] at taken
      | blocked => simp [stands, drained] at taken
  | closing verdict =>
      simp only [stands, Sys.close_run] at taken
      cases possible : run.host.closeFault? .master with
      | some fault =>
          simp only [possible] at taken
          exact ⟨_, _, .closeFailed possible, goOn_eq taken⟩
      | none =>
          cases verdict with
          | failed fault =>
              simp only [possible] at taken
              exact ⟨_, _, .closeAfterFault possible, goOn_eq taken⟩
          | returned code =>
              simp only [possible] at taken
              exact ⟨_, _, .close possible, goOn_eq taken⟩
  | deciding code =>
      by_cases zero : code = 0
      · subst zero
        simp only [stands, exitFault?, if_true] at taken
        exact ⟨_, _, .succeed, goOn_eq taken⟩
      · simp only [stands, exitFault?, if_neg zero] at taken
        exact ⟨_, _, .fail zero, goOn_eq taken⟩
  | finished outcome => simp [stands] at taken

inductive Moved (run : Run) : RunMove → Run → Prop
  | main {host : Host} {point : RunPoint} (taken : run.Goes run.main host point) :
      Moved run (.step .main) { run with host := host, main := point }
  | drain {progress : Drain.Progress}
      (taken : Drain.Step (some .master) run.host run.drain progress) :
      Moved run (.step .drain)
        { run with
          host := progress.host
          drain := progress.point
          captured := run.captured ++ progress.bytes }
  | stay {thread : RunThread} (stuck : run.step thread = none) : Moved run (.step thread) run
  | exit (code : Int) : Moved run (.exit code) { run with host := run.host.exit code }

theorem moved (run : Run) (move : RunMove) : run.Moved move (run.move move) := by
  cases move with
  | exit code => exact .exit code
  | step thread =>
      cases stuck : run.step thread with
      | none =>
          simp only [Run.move, stuck, Option.getD_none]
          exact .stay stuck
      | some next =>
          simp only [Run.move, stuck, Option.getD_some]
          cases thread with
          | main =>
              obtain ⟨host, point, taken, rfl⟩ := stepMain_cases stuck
              exact .main taken
          | drain =>
              obtain ⟨progress, taken, rfl⟩ := Option.map_eq_some_iff.mp stuck
              exact .drain (Drain.step_cases taken)

@[simp] theorem play_nil (run : Run) : run.play [] = run := rfl

@[simp] theorem play_cons (run : Run) (move : RunMove) (moves : List RunMove) :
    run.play (move :: moves) = (run.move move).play moves := rfl

theorem play_keeps (property : Run → Prop)
    (kept : ∀ run move after, run.Moved move after → property run → property after)
    (moves : List RunMove) (run : Run) (holds : property run) : property (run.play moves) := by
  induction moves generalizing run with
  | nil => exact holds
  | cons move moves ih => exact ih (run.move move) (kept run move _ (run.moved move) holds)

def rank : RunPoint → Nat
  | .enteringWait => 7
  | .killing _ => 6
  | .enteringSecondWait _ => 5
  | .awaitingExit | .awaitingSecondExit _ => 4
  | .joining _ => 3
  | .closing _ => 2
  | .deciding _ => 1
  | .finished _ => 0

def remaining (run : Run) : Nat :=
  rank run.main + Drain.remaining run.host run.drain

theorem Goes.rank {run : Run} {before after : RunPoint} {host : Host}
    (taken : run.Goes before host after) : Run.rank after < Run.rank before := by
  cases taken <;> simp [Run.rank]

theorem Goes.output {run : Run} {before after : RunPoint} {host : Host}
    (taken : run.Goes before host after) : host.output = run.host.output := by
  cases taken with
  | kill possible => exact Host.killed_output run.host
  | _ => rfl

theorem Goes.continues {run : Run} {before after : RunPoint} {host : Host}
    (taken : run.Goes before host after) : run.host.Continues host := by
  cases taken with
  | wait able | waitFailed refused | waitAgain able | waitAgainFailed refused =>
      exact Host.Continues.enterWait run.host
  | kill possible => exact Host.Continues.killed run.host
  | killFailed refused => exact Host.Continues.record .kill run.host
  | closeFailed refused | closeAfterFault possible | close possible =>
      exact Host.Continues.closed .master run.host
  | fail nonzero => exact Host.Continues.record _ run.host
  | _ => exact Host.Continues.refl run.host

def steps (run : Run) : List RunMove → Nat
  | [] => 0
  | move :: moves =>
    (match move with
      | .step thread => (run.step thread).isSome.toNat
      | .exit _ => 0) +
      (run.move move).steps moves

theorem outcome_finished {run : Run} {outcome : RunOutcome} (found : run.outcome? = some outcome) :
    run.main = .finished outcome := by
  unfold outcome? at found
  cases stands : run.main with
  | finished own =>
      simp only [stands, Option.some.injEq] at found
      rw [found]
  | _ => simp [stands] at found

def Stuck (run : Run) : Prop :=
  ∀ thread, run.step thread = none

/-- Once the process has exited, a run in which neither thread can go on has an outcome. -/
theorem Stuck.finished {run : Run} (stuck : run.Stuck) {code : Int}
    (ended : run.host.returncode = some code) : ∃ outcome, run.outcome? = some outcome := by
  have drained : run.drain = .ended := by
    rcases Drain.step_none (Option.map_eq_none_iff.mp (stuck .drain)) with
      drained | ⟨_, running⟩
    · exact drained
    · rw [ended] at running
      cases running
  have still : run.stepMain = none := stuck .main
  unfold stepMain at still
  cases stands : run.main with
  | finished outcome => exact ⟨outcome, by simp only [outcome?, stands]⟩
  | enteringWait | enteringSecondWait cause =>
      cases able : run.host.waitFaults.head? <;>
        simp [stands, Host.enterWait, able, goOn] at still
  | killing cause =>
      cases possible : run.host.faults.kill <;> simp [stands, Sys.kill_run, possible, goOn] at still
  | closing verdict =>
      cases possible : run.host.closeFault? .master <;> cases verdict <;>
        simp [stands, Sys.close_run, possible, goOn] at still
  | deciding code => by_cases zero : code = 0 <;> simp [stands, exitFault?, zero, goOn] at still
  | _ => simp [stands, ended, drained, goOn] at still

theorem remaining_step {run next : Run} {thread : RunThread} (taken : run.step thread = some next) :
    next.remaining < run.remaining := by
  cases thread with
  | main =>
      obtain ⟨host, point, goes, rfl⟩ := stepMain_cases taken
      have closer := goes.rank
      have same : Drain.remaining host run.drain = Drain.remaining run.host run.drain := by
        cases run.drain <;> simp [Drain.remaining, Host.unread, goes.output]
      show rank point + Drain.remaining host run.drain < _
      unfold remaining
      omega
  | drain =>
      obtain ⟨progress, found, rfl⟩ := Option.map_eq_some_iff.mp taken
      exact Nat.add_lt_add_left (Drain.step_cases found).remaining _

/-- No run takes more steps than remain at its start. -/
theorem steps_play (moves : List RunMove) (run : Run) :
    run.steps moves + (run.play moves).remaining ≤ run.remaining := by
  induction moves generalizing run with
  | nil => exact Nat.le_of_eq (Nat.zero_add _)
  | cons move moves ih =>
      have later := ih (run.move move)
      rw [play_cons]
      cases move with
      | exit code =>
          have same : (run.move (.exit code)).remaining = run.remaining := rfl
          simp only [steps]
          omega
      | step thread =>
          cases taken : run.step thread with
          | none =>
              have same : run.move (.step thread) = run := by simp [move, taken]
              simp only [steps, taken, same] at later ⊢
              simpa using later
          | some next =>
              have closer := remaining_step taken
              have same : run.move (.step thread) = next := by simp [move, taken]
              simp only [steps, taken, same, Option.isSome_some, Bool.toNat_true] at later ⊢
              omega

theorem remaining_ofHost (argv : List String) (host : Host) :
    (ofHost argv host).remaining ≤ (ofHost argv host).bound := by
  show 7 + (host.unread + 2) ≤ host.unread + host.output.length + 2 + 12
  omega

theorem complete_play (fuel : Nat) (run : Run) (enough : run.remaining ≤ fuel) :
    (∃ moves, run.complete fuel = run.play moves) ∧ (run.complete fuel).Stuck := by
  induction fuel generalizing run with
  | zero =>
      refine ⟨⟨[], rfl⟩, ?_⟩
      intro thread
      cases taken : run.step thread with
      | none => exact taken
      | some next =>
          have closer := remaining_step taken
          omega
  | succ fuel ih =>
      cases first : run.step .main with
      | some next =>
          have closer := remaining_step first
          obtain ⟨⟨moves, played⟩, stuck⟩ := ih next (by omega)
          simp only [complete, first]
          refine ⟨⟨.step .main :: moves, ?_⟩, stuck⟩
          rw [played, play_cons, show run.move (.step .main) = next by simp [move, first]]
      | none =>
          cases second : run.step .drain with
          | some next =>
              have closer := remaining_step second
              obtain ⟨⟨moves, played⟩, stuck⟩ := ih next (by omega)
              simp only [complete, first, second]
              refine ⟨⟨.step .drain :: moves, ?_⟩, stuck⟩
              rw [played, play_cons, show run.move (.step .drain) = next by simp [move, second]]
          | none =>
              simp only [complete, first, second]
              refine ⟨⟨[], rfl⟩, ?_⟩
              intro thread
              cases thread with
              | main => exact first
              | drain => exact second

end Run

end PtyShell
