import PtyShell.Cli.Exec
import PtyShell.Proofs.Drain
import PtyShell.Proofs.Handle.Step

namespace PtyShell.Cli

namespace Exec

def goTo (exec : Exec) (point : ExecPoint) : Exec :=
  { exec with main := point }

def afterClosing : Option Termination → ExecPoint
  | none => .waiting Call.wait.thread true
  | some result => .announcing result

def afterWaiting (result : Termination) : Bool → ExecPoint
  | true => .joiningPump (some result)
  | false => .closing Call.close.thread (some result)

def afterPump : Option Termination → ExecPoint
  | none => .waiting Call.wait.thread false
  | some result => .announcing result

/-- The rules for the steps of the main thread: where it stands, and what it leaves. -/
inductive Goes (exec : Exec) : ExecPoint → Exec → Prop
  | begin (kept : limitFault? exec.timeout = none) : Goes exec .starting (exec.goTo .joining)
  | refuse {fault : Fault} (refused : limitFault? exec.timeout = some fault) :
      Goes exec .starting (exec.goTo (.finished (.uncaught fault)))
  | join (ended : exec.reap = none) : Goes exec .joining (exec.goTo .checking)
  | inTime (done : exec.handle.done = true) : Goes exec .checking (exec.goTo (.joiningPump none))
  | tooLate (undone : exec.handle.done = false) :
      Goes exec .checking
        ((exec.notice (timedOutMessage exec.handle.host.pid exec.timeout)).goTo
          (.closing Call.close.thread none))
  | close {thread next : Thread} {known : Option Termination} {progress : Progress}
      (taken : exec.handle.Step thread progress) (goesOn : progress.next = some next) :
      Goes exec (.closing thread known) ((exec.absorb progress).goTo (.closing next known))
  | closeFailed {thread : Thread} {known : Option Termination} {progress : Progress}
      {fault : Fault} (taken : exec.handle.Step thread progress) (ended : progress.next = none)
      (noted : progress.note = some (.failed fault)) :
      Goes exec (.closing thread known)
        ((exec.absorb progress).goTo (.finished (.uncaught fault)))
  | closed {thread : Thread} {known : Option Termination} {progress : Progress}
      (taken : exec.handle.Step thread progress) (ended : progress.next = none)
      (succeeded : ∀ fault, progress.note ≠ some (.failed fault)) :
      Goes exec (.closing thread known) ((exec.absorb progress).goTo (afterClosing known))
  | wait {thread next : Thread} {timedOut : Bool} {progress : Progress}
      (taken : exec.handle.Step thread progress) (goesOn : progress.next = some next) :
      Goes exec (.waiting thread timedOut) ((exec.absorb progress).goTo (.waiting next timedOut))
  | waited {thread : Thread} {timedOut : Bool} {progress : Progress} {observer : Observer}
      {result : Termination} (taken : exec.handle.Step thread progress)
      (ended : progress.next = none) (noted : progress.note = some (.waited observer result)) :
      Goes exec (.waiting thread timedOut)
        ((exec.absorb progress).goTo (afterWaiting result timedOut))
  | waitFailed {thread : Thread} {timedOut : Bool} {progress : Progress} {fault : Fault}
      (taken : exec.handle.Step thread progress) (ended : progress.next = none)
      (noted : progress.note = some (.failed fault)) :
      Goes exec (.waiting thread timedOut)
        ((exec.absorb progress).goTo (.finished (.uncaught fault)))
  | waitLost {thread : Thread} {timedOut : Bool} {progress : Progress}
      (taken : exec.handle.Step thread progress) (ended : progress.next = none)
      (silent : ∀ observer result, progress.note ≠ some (.waited observer result)) :
      Goes exec (.waiting thread timedOut)
        ((exec.absorb progress).goTo (.finished (.uncaught .missingResult)))
  | joinPump {known : Option Termination} (drained : exec.pump = .ended) :
      Goes exec (.joiningPump known) (exec.goTo (afterPump known))
  | announce {result : Termination} :
      Goes exec (.announcing result)
        ((exec.notice (exitCodeMessage result)).goTo (.finished (.exited (exitStatus result))))

private theorem goOn_eq {exec next : Exec} {point : ExecPoint}
    (taken : exec.goOn point = some next) : next = exec.goTo point :=
  (Option.some.inj taken).symm

private theorem stepClosing_cases {exec next : Exec} {thread : Thread}
    {known : Option Termination} (taken : exec.stepClosing thread known = some next) :
    exec.Goes (.closing thread known) next := by
  unfold stepClosing at taken
  cases stepped : exec.handle.step thread with
  | none => simp [stepped] at taken
  | some progress =>
      have rule := Handle.step_cases stepped
      simp only [stepped] at taken
      cases ended : progress.next with
      | some point =>
          simp only [ended] at taken
          rw [goOn_eq taken]
          exact .close rule ended
      | none =>
          cases noted : progress.note with
          | none =>
              simp only [ended, noted] at taken
              cases known <;> rw [goOn_eq taken] <;> exact .closed rule ended (by simp [noted])
          | some note =>
              cases note with
              | failed fault =>
                  simp only [ended, noted] at taken
                  rw [goOn_eq taken]
                  exact .closeFailed rule ended noted
              | _ =>
                  simp only [ended, noted] at taken
                  cases known <;> rw [goOn_eq taken] <;> exact .closed rule ended (by simp [noted])

private theorem stepWaiting_cases {exec next : Exec} {thread : Thread} {timedOut : Bool}
    (taken : exec.stepWaiting thread timedOut = some next) :
    exec.Goes (.waiting thread timedOut) next := by
  unfold stepWaiting at taken
  cases stepped : exec.handle.step thread with
  | none => simp [stepped] at taken
  | some progress =>
      have rule := Handle.step_cases stepped
      simp only [stepped] at taken
      cases ended : progress.next with
      | some point =>
          simp only [ended] at taken
          rw [goOn_eq taken]
          exact .wait rule ended
      | none =>
          cases noted : progress.note with
          | none =>
              simp only [ended, noted] at taken
              rw [goOn_eq taken]
              exact .waitLost rule ended (by simp [noted])
          | some note =>
              cases note with
              | waited observer result =>
                  simp only [ended, noted] at taken
                  cases timedOut <;> rw [goOn_eq taken] <;> exact .waited rule ended noted
              | failed fault =>
                  simp only [ended, noted] at taken
                  rw [goOn_eq taken]
                  exact .waitFailed rule ended noted
              | _ =>
                  simp only [ended, noted] at taken
                  rw [goOn_eq taken]
                  exact .waitLost rule ended (by simp [noted])

theorem stepMain_cases {exec next : Exec} (taken : exec.stepMain = some next) :
    exec.Goes exec.main next := by
  unfold stepMain at taken
  cases stands : exec.main with
  | starting =>
      cases limited : limitFault? exec.timeout with
      | none =>
          simp only [stands, limited] at taken
          rw [goOn_eq taken]
          exact .begin limited
      | some fault =>
          simp only [stands, limited] at taken
          rw [goOn_eq taken]
          exact .refuse limited
  | joining =>
      cases ended : exec.reap with
      | none =>
          simp only [stands, ended, Option.isNone_none, if_true] at taken
          rw [goOn_eq taken]
          exact .join ended
      | some thread => simp [stands, ended] at taken
  | checking =>
      cases done : exec.handle.done with
      | true =>
          simp only [stands, done, if_true] at taken
          rw [goOn_eq taken]
          exact .inTime done
      | false =>
          simp only [stands, done, Bool.false_eq_true, if_false] at taken
          rw [goOn_eq taken]
          exact .tooLate done
  | closing thread known =>
      simp only [stands] at taken
      exact stepClosing_cases taken
  | waiting thread timedOut =>
      simp only [stands] at taken
      exact stepWaiting_cases taken
  | joiningPump known =>
      cases drained : exec.pump with
      | ended =>
          simp only [stands, drained] at taken
          cases known <;> rw [goOn_eq taken] <;> exact .joinPump drained
      | reading => cases known <;> simp [stands, drained] at taken
      | blocked => cases known <;> simp [stands, drained] at taken
  | announcing result =>
      simp only [stands] at taken
      rw [goOn_eq taken]
      exact .announce
  | finished ending => simp [stands] at taken

inductive Moved (exec : Exec) : ExecMove → Exec → Prop
  | main {after : Exec} (taken : exec.Goes exec.main after) : Moved exec (.step .main) after
  | pump {progress : Drain.Progress}
      (taken : Drain.Step exec.source exec.handle.host exec.pump progress) :
      Moved exec (.step .pump)
        { exec with
          handle := { exec.handle with host := progress.host }
          pump := progress.point
          stdout := exec.stdout ++ progress.bytes }
  | reap {thread : Thread} {progress : Progress} (live : exec.reap = some thread)
      (taken : exec.handle.Step thread progress) :
      Moved exec (.step .reap) { exec.absorb progress with reap := progress.next }
  | reaper {place : Nat} {thread : Thread} {progress : Progress}
      (live : exec.reapers[place]? = some (some thread))
      (taken : exec.handle.Step thread progress) :
      Moved exec (.step (.reaper place))
        { exec.absorb progress with
          reapers := (exec.absorb progress).reapers.set place progress.next }
  | expire (joining : exec.main = .joining) (limited : exec.timeout.isSome = true) :
      Moved exec .expire { exec with main := .checking, expired := true }
  | exit (code : Int) : Moved exec (.exit code) (exec.exit code)
  | stay (move : ExecMove) : Moved exec move exec

theorem ending_finished {exec : Exec} {ending : Ending} (found : exec.ending? = some ending) :
    exec.main = .finished ending := by
  unfold ending? at found
  cases stands : exec.main with
  | finished own =>
      simp only [stands, Option.some.injEq] at found
      rw [found]
  | _ => simp [stands] at found

theorem moved_step {exec next : Exec} {thread : ExecThread} (taken : exec.step thread = some next) :
    exec.Moved (.step thread) next := by
  cases thread with
  | main => exact .main (stepMain_cases taken)
  | pump =>
      obtain ⟨progress, stepped, rfl⟩ := Option.map_eq_some_iff.mp taken
      exact .pump (Drain.step_cases stepped)
  | reap =>
      simp only [step, stepReap] at taken
      cases live : exec.reap with
      | none => simp [live] at taken
      | some thread =>
          simp only [live] at taken
          obtain ⟨progress, stepped, rfl⟩ := Option.map_eq_some_iff.mp taken
          exact .reap live (Handle.step_cases stepped)
  | reaper place =>
      simp only [step, stepReaper] at taken
      split at taken
      · next thread live =>
          obtain ⟨progress, stepped, rfl⟩ := Option.map_eq_some_iff.mp taken
          exact .reaper live (Handle.step_cases stepped)
      · cases taken

theorem moved (exec : Exec) (move : ExecMove) : exec.Moved move (exec.move move) := by
  cases move with
  | exit code => exact .exit code
  | expire =>
      by_cases possible : exec.main = .joining ∧ exec.timeout.isSome = true
      · simp only [Exec.move, expire, if_pos possible, Option.getD_some]
        exact .expire possible.1 possible.2
      · simp only [Exec.move, expire, if_neg possible, Option.getD_none]
        exact .stay _
  | step thread =>
      cases taken : exec.step thread with
      | none =>
          simp only [Exec.move, taken, Option.getD_none]
          exact .stay _
      | some next =>
          simp only [Exec.move, taken, Option.getD_some]
          exact moved_step taken

@[simp] theorem play_nil (exec : Exec) : exec.play [] = exec := rfl

@[simp] theorem play_cons (exec : Exec) (move : ExecMove) (moves : List ExecMove) :
    exec.play (move :: moves) = (exec.move move).play moves := rfl

theorem play_append (exec : Exec) (first second : List ExecMove) :
    exec.play (first ++ second) = (exec.play first).play second :=
  List.foldl_append

theorem play_keeps (property : Exec → Prop)
    (kept : ∀ exec move after, exec.Moved move after → property exec → property after)
    (moves : List ExecMove) (exec : Exec) (holds : property exec) : property (exec.play moves) := by
  induction moves generalizing exec with
  | nil => exact holds
  | cons move moves ih => exact ih (exec.move move) (kept exec move _ (exec.moved move) holds)

theorem move_step {exec next : Exec} {thread : ExecThread} (taken : exec.step thread = some next) :
    exec.move (.step thread) = next := by
  simp [move, taken]

theorem Goes.timeout {exec after : Exec} {before : ExecPoint} (taken : exec.Goes before after) :
    after.timeout = exec.timeout := by
  cases taken <;> rfl

theorem Moved.timeout {exec after : Exec} {move : ExecMove} (moved : exec.Moved move after) :
    after.timeout = exec.timeout := by
  cases moved with
  | main taken => exact taken.timeout
  | _ => rfl

theorem play_timeout (moves : List ExecMove) (exec : Exec) :
    (exec.play moves).timeout = exec.timeout :=
  play_keeps (fun after => after.timeout = exec.timeout)
    (fun _ _ _ moved same => moved.timeout.trans same) moves exec rfl

theorem next_move {exec next : Exec} (chosen : exec.next? = some next) :
    ∃ move, exec.move move = next := by
  simp only [next?, Option.orElse_eq_orElse, Option.orElse_eq_or, Option.or_eq_some_iff] at chosen
  rcases chosen with main | ⟨_, pump | ⟨_, reap | ⟨_, reaper | ⟨_, expires⟩⟩⟩⟩
  · exact ⟨_, move_step main⟩
  · exact ⟨_, move_step pump⟩
  · exact ⟨_, move_step reap⟩
  · exact ⟨_, move_step reaper⟩
  · exact ⟨.expire, by simp [move, expires]⟩

theorem complete_play (fuel : Nat) (exec : Exec) :
    ∃ moves, exec.complete fuel = exec.play moves := by
  induction fuel generalizing exec with
  | zero => exact ⟨[], rfl⟩
  | succ fuel ih =>
      cases chosen : exec.next? with
      | none =>
          simp only [complete, chosen]
          exact ⟨[], rfl⟩
      | some next =>
          obtain ⟨move, same⟩ := next_move chosen
          obtain ⟨moves, played⟩ := ih next
          simp only [complete, chosen]
          exact ⟨move :: moves, by rw [played, play_cons, same]⟩

def punctual : List ExecMove :=
  List.replicate 3 (.step .pump) ++ [.exit 0, .step .pump, .step .main] ++
    List.replicate 10 (.step .reap) ++ List.replicate 12 (.step .main)

end Exec

end PtyShell.Cli
