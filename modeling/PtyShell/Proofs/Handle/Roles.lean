import PtyShell.Proofs.Handle.Ownership

namespace PtyShell

inductive Role
  | close
  | publish
  | reap
  /-- The thread that closing starts, and a caller that gives up the master end. -/
  | reaper
  | wait
  | poll
  deriving DecidableEq, Repr

def Errand.role : Errand → Role
  | .publish => .publish
  | .reap => .reap
  | .reaper => .reaper

def Observer.role : Observer → Role
  | .wait => .wait
  | .reap => .reap

def Thread.role : Thread → Role
  | .killing | .killed _ | .seekingReaper | .checkingReaper | .startingReaper
  | .leavingReaper => .close
  | .enteringWait errand | .awaitingExit errand | .claimingResult errand _
  | .checkingResult errand _ | .recordingResult errand _ | .signalling errand _
  | .leavingResult errand _ _ | .loggingResult errand _ => errand.role
  | .awaitingDone observer | .readingResult observer => observer.role
  | .polling | .pollingResult => .poll
  | .claimingMaster | .takingMaster | .clearingMaster _ | .leavingMaster _
  | .closingMaster _ => .reaper

namespace Handle

variable {handle : Handle} {thread : Thread} {progress : Progress}

theorem step_role (taken : handle.Step thread progress) {next : Thread}
    (goesOn : progress.next = some next) : next.role = thread.role := by
  cases taken with
  | @unlockLost errand report => cases errand <;> cases goesOn <;> rfl
  | @logResult errand report result present => cases errand <;> cases goesOn <;> rfl
  | _ => cases goesOn <;> rfl

theorem step_unstarted (taken : handle.Step thread progress) (role : thread.role ≠ .close) :
    progress.started = none ∧ progress.handle.hasReaper = handle.hasReaper := by
  cases taken with
  | startReaper => exact absurd rfl role
  | _ => exact ⟨rfl, rfl⟩

theorem step_started_role (taken : handle.Step thread progress) {new : Thread}
    (started : progress.started = some new) : new.role = .reaper := by
  cases taken <;> cases started
  rfl

theorem step_unkilled (taken : handle.Step thread progress) (role : thread.role ≠ .close) :
    progress.handle.host.kills = handle.host.kills := by
  obtain ⟨kills, _⟩ := step_kills taken
  cases killing : thread == .killing with
  | false =>
      rw [kills, killing]
      rfl
  | true =>
      rw [eq_of_beq killing] at role
      exact absurd rfl role

theorem step_unclosed (taken : handle.Step thread progress) (role : thread.role ≠ .reaper) :
    progress.handle.host.openFds = handle.host.openFds := by
  cases taken with
  | kill possible => exact Host.killed_openFds handle.host
  | close quiet | closeFailed refused foreign => exact absurd rfl role
  | _ => rfl

theorem step_notices (taken : handle.Step thread progress) :
    progress.handle.host.notices = handle.host.notices := by
  cases taken with
  | kill possible => exact Host.notices_killed handle.host
  | killRefused refused system | killFailed refused foreign | logKill level message
  | logResult present => exact (Host.notices_record _ handle.host).trans (List.append_nil _)
  | wait able | waitRefused refused system | waitFailed refused foreign =>
      exact Host.notices_enterWait handle.host
  | close quiet | closeFailed refused foreign => exact Host.notices_closed _ handle.host
  | _ => rfl

theorem step_output (taken : handle.Step thread progress) :
    progress.handle.host.output = handle.host.output := by
  cases taken with
  | kill possible => exact Host.killed_output handle.host
  | _ => rfl

theorem step_result (taken : handle.Step thread progress) :
    progress.handle.result = handle.result ∨
      ∃ errand report, thread = .recordingResult errand report ∧
        progress.handle.result = some ⟨report⟩ := by
  cases taken with
  | recordResult => exact Or.inr ⟨_, _, rfl, rfl⟩
  | _ => exact Or.inl rfl

theorem step_unrecorded (taken : handle.Step thread progress)
    (role : thread.role = .close ∨ thread.role = .wait) :
    progress.handle.result = handle.result := by
  rcases step_result taken with same | ⟨errand, report, rfl, _⟩
  · exact same
  · cases errand <;> rcases role with role | role <;> cases role

theorem step_closed (taken : handle.Step thread progress) (role : thread.role = .close)
    (ended : progress.next = none) :
    progress.note = some .closed ∨
      ∃ fault, progress.note = some (.failed fault) ∧ handle.host.faults.kill = some fault ∧
        fault.isSystem = false := by
  cases taken with
  | killFailed refused foreign => exact Or.inr ⟨_, rfl, refused, foreign⟩
  | unlockReaper => exact Or.inl rfl
  | @waitFailed errand | @noResult errand => cases errand <;> cases role
  | @observe observer | @observeNothing observer => cases observer <;> cases role
  | @unlockLost errand | @logResult errand => cases errand <;> cases role
  | pollUndone undone | poll | unlockNothing | close quiet | closeFailed refused foreign =>
      cases role
  | _ => cases ended

theorem step_reaped (taken : handle.Step thread progress) (role : thread.role = .reap)
    (relies : thread.Relies handle)
    (system : ∀ fault ∈ handle.host.waitFaults, fault.isSystem = true)
    (ended : progress.next = none) : progress.handle.done = true := by
  cases taken with
  | waitFailed refused foreign =>
      have kind := system _ (List.mem_of_mem_head? refused)
      rw [kind] at foreign
      cases foreign
  | noResult absent => exact relies.2
  | observe present | observeNothing absent => exact relies
  | @unlockLost errand | @logResult errand =>
      cases errand <;> cases role
      cases ended
  | killFailed refused foreign | unlockReaper | pollUndone undone | poll | unlockNothing
  | close quiet | closeFailed refused foreign => cases role
  | _ => cases ended

theorem step_waits (taken : handle.Step thread progress) (role : thread.role = .wait)
    (relies : thread.Relies handle)
    (recorded : handle.done = true → ∃ result, handle.result = some result) :
    progress.handle = handle ∧ progress.started = none ∧
      (progress.next = none → ∃ result, handle.result = some result ∧
        progress.note = some (.waited .wait result)) := by
  cases taken with
  | awake done =>
      refine ⟨rfl, rfl, ?_⟩
      intro ended
      cases ended
  | @observe observer result present =>
      cases observer <;> cases role
      exact ⟨rfl, rfl, fun _ => ⟨result, present, rfl⟩⟩
  | observeNothing absent =>
      obtain ⟨result, present⟩ := recorded relies
      rw [absent] at present
      cases present
  | @wait errand | @waitRefused errand | @waitFailed errand | @exited errand
  | @lockResult errand | @findResult errand | @missResult errand | @recordResult errand
  | @signal errand | @unlockWon errand | @unlockLost errand | @logResult errand
  | @noResult errand => cases errand <;> cases role
  | _ => cases role

end Handle

end PtyShell
