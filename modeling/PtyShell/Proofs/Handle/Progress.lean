import PtyShell.Proofs.Handle.Roles

namespace PtyShell

namespace Thread

/-- How many steps a thread takes at most from a point on, those of a thread that it starts
included. -/
def rank : Thread → Nat
  | .killing => 19
  | .killed _ => 18
  | .seekingReaper => 17
  | .checkingReaper => 16
  | .startingReaper => 15
  | .leavingReaper => 1
  | .enteringWait _ => 13
  | .awaitingExit _ => 12
  | .claimingResult .. => 11
  | .checkingResult .. => 10
  | .recordingResult .. => 9
  | .signalling .. => 8
  | .leavingResult .. => 7
  | .loggingResult .. => 6
  | .claimingMaster => 5
  | .takingMaster => 4
  | .clearingMaster _ => 3
  | .leavingMaster _ => 2
  | .closingMaster _ => 1
  | .awaitingDone _ | .polling => 2
  | .readingResult _ | .pollingResult => 1

def left (thread : Option Thread) : Nat :=
  thread.elim 0 rank

@[simp] theorem left_none : left none = 0 := rfl

@[simp] theorem left_some (thread : Thread) : left (some thread) = thread.rank := rfl

end Thread

namespace Handle

variable {handle : Handle} {thread : Thread}

theorem step_rank {progress : Progress} (taken : handle.Step thread progress) :
    Thread.left progress.next + Thread.left progress.started < thread.rank := by
  cases taken with
  | @unlockLost errand | @logResult errand =>
      cases errand <;> simp [afterErrand, Thread.rank]
  | _ => simp [Thread.rank]

theorem step_inside (inside : thread.holdsLock = true) : handle.step thread ≠ none := by
  cases thread with
  | checkingReaper =>
      cases present : handle.hasReaper <;> simp [step, stepCheckingReaper, present, goOn]
  | checkingResult errand report =>
      cases present : handle.result <;> simp [step, stepCheckingResult, present, goOn]
  | leavingResult errand report won => cases won <;> simp [step, stepLeavingResult, goOn]
  | leavingMaster fd => cases fd <;> simp [step, finish, goOn]
  | startingReaper | leavingReaper | recordingResult errand report | signalling errand report
  | takingMaster | clearingMaster fd => simp [step, stepStartingReaper, finish, goOn]
  | _ => cases inside

/-- Where the lock is free and the process has exited, only who waits for the result cannot go
on. -/
theorem step_free (free : handle.locked = false) {code : Int}
    (exited : handle.host.returncode = some code) (stuck : handle.step thread = none) :
    (∃ observer, thread = .awaitingDone observer) ∧ handle.done = false := by
  cases thread with
  | awaitingDone observer =>
      refine ⟨⟨observer, rfl⟩, ?_⟩
      cases done : handle.done with
      | false => rfl
      | true => simp [step, done, goOn] at stuck
  | killing =>
      simp only [step, stepKilling, Sys.kill_run] at stuck
      cases possible : handle.host.faults.kill with
      | none => simp [possible, goOn] at stuck
      | some fault => cases kind : fault.isSystem <;> simp [possible, kind, goOn, finish] at stuck
  | killed failure => cases failure <;> simp [step, stepKilled, goOn] at stuck
  | enteringWait errand =>
      simp only [step, stepEnteringWait, Host.enterWait] at stuck
      cases able : handle.host.waitFaults.head? with
      | none => simp [able, goOn] at stuck
      | some fault => cases kind : fault.isSystem <;> simp [able, kind, goOn, finish] at stuck
  | awaitingExit errand => simp [step, stepAwaitingExit, exited, goOn] at stuck
  | seekingReaper | claimingResult errand report | claimingMaster =>
      simp [step, acquire, free, goOn] at stuck
  | loggingResult errand report =>
      cases present : handle.result <;> simp [step, stepLoggingResult, present, finish] at stuck
  | readingResult observer =>
      cases present : handle.result <;> simp [step, stepReadingResult, present, finish] at stuck
  | polling => cases done : handle.done <;> simp [step, done, goOn, finish] at stuck
  | pollingResult => simp [step, finish] at stuck
  | closingMaster fd =>
      simp only [step, stepClosingMaster, Sys.close_run] at stuck
      cases possible : handle.host.closeFault? fd <;> simp [possible, finish] at stuck
  | _ => exact absurd stuck (step_inside rfl)

theorem step_awaits {progress : Progress} (taken : handle.Step thread progress)
    (relies : thread.Relies handle) {observer : Observer}
    (goesOn : progress.next = some (.awaitingDone observer)) : progress.handle.done = true := by
  cases taken with
  | unlockLost | logResult present => exact relies.2
  | _ => cases goesOn

end Handle

end PtyShell
