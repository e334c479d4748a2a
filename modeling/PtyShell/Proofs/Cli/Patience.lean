import Mathlib.Data.List.Induction
import PtyShell.Proofs.Cli.Course
import PtyShell.Proofs.Launch.Started

/-! # No shell is cut short

Where kill and wait fail by the system only, the main thread kills a shell that has no result yet
only after its time limit has expired. Any other shell is killed after its result was published,
which then is the shell's own, and the first result is the one that is announced. -/

namespace PtyShell.Cli.Exec

def Gives (host : Host) (handle : Handle) (report : Option Report) : Prop :=
  (∃ code, handle.host.returncode = some code ∧ report = (exitFault? code).map .fault) ∨
    ∃ fault ∈ host.waitFaults, report = some (.fault fault)

theorem Gives.continues {host : Host} {before after : Handle} {report : Option Report}
    (gives : Gives host before report) (continues : before.host.Continues after.host) :
    Gives host after report := by
  rcases gives with ⟨code, ended, same⟩ | failed
  · exact Or.inl ⟨code, continues.returncode code ended, same⟩
  · exact Or.inr failed

structure Timed (host : Host) (exec : Exec) : Prop where
  continues : host.Continues exec.handle.host
  limited : exec.expired = true → exec.timeout.isSome = true
  checking : exec.main = .checking → exec.expired = true ∨ exec.reap = none
  reaped : exec.reap = none → exec.handle.done = true
  gives : ∀ thread errand report, exec.reap = some thread →
    thread.publication? = some (errand, report) → Gives host exec.handle report

variable {host : Host} {exec after : Exec}

theorem Goes.others {before : ExecPoint} (taken : exec.Goes before after) :
    after.reap = exec.reap ∧ after.expired = exec.expired := by
  cases taken <;> exact ⟨rfl, rfl⟩

theorem Goes.checking {before : ExecPoint} (taken : exec.Goes before after)
    (checks : after.main = .checking) : exec.reap = none := by
  cases taken with
  | join ended => exact ended
  | @closed _ known => cases known <;> cases checks
  | @waited _ timedOut => cases timedOut <;> cases checks
  | @joinPump known => cases known <;> cases checks
  | _ => cases checks

theorem Moved.expired {move : ExecMove} (moved : exec.Moved move after)
    (expired : exec.expired = true) : after.expired = true := by
  cases moved with
  | main taken => exact taken.others.2.trans expired
  | expire joining limited => rfl
  | _ => exact expired

theorem Timed.gives_step (timed : Timed host exec) (tidy : exec.Tidy) {thread next : Thread}
    {progress : Progress} (live : exec.reap = some thread)
    (taken : exec.handle.Step thread progress) (goesOn : progress.next = some next)
    {errand : Errand} {report : Option Report}
    (publishes : next.publication? = some (errand, report)) :
    Gives host progress.handle report := by
  have continues := Handle.step_continues taken
  cases before : thread.publication? with
  | none =>
      rcases Handle.step_waitGives taken before goesOn publishes with
        ⟨_, fault, refused, same⟩ | ⟨_, code, ended, same⟩
      · have member := timed.continues.waitFaults.subset (List.mem_of_mem_head? refused)
        exact Or.inr ⟨fault, member, same⟩
      · exact Or.inl ⟨code, continues.returncode code ended, same⟩
  | some publication =>
      have kept := timed.gives thread publication.1 publication.2 live before
      rcases (Handle.step_publication taken (tidy.relies_reap live) before).2 with
        ⟨_, last, same, still⟩ | ⟨ended, _⟩
      · cases goesOn.symm.trans same
        cases publishes.symm.trans still
        exact kept.continues continues
      · rw [goesOn] at ended
        cases own : publication.1 <;> rw [own] at ended <;> cases ended <;> cases publishes

theorem Timed.moved (timed : Timed host exec) (tidy : exec.Tidy)
    (waits : ∀ fault ∈ host.waitFaults, fault.isSystem = true) {move : ExecMove}
    (moved : exec.Moved move after) : Timed host after := by
  obtain ⟨keeps, continues⟩ := moved.keeps tidy
  have since := timed.continues.trans continues
  -- Only the steps of the reaping thread change where it stands.
  have idle (same : after.reap = exec.reap) : (after.reap = none → after.handle.done = true) ∧
      ∀ thread errand report, after.reap = some thread →
        thread.publication? = some (errand, report) → Gives host after.handle report := by
    rw [same]
    exact ⟨fun ended => keeps.done (timed.reaped ended), fun thread errand report live publishes =>
      (timed.gives thread errand report live publishes).continues continues⟩
  cases moved with
  | main taken =>
      obtain ⟨reap, expired⟩ := taken.others
      obtain ⟨reaped, gives⟩ := idle reap
      refine ⟨since, ?_, ?_, reaped, gives⟩
      · rw [expired, taken.timeout]
        exact timed.limited
      · intro checks
        exact Or.inr (reap.trans (taken.checking checks))
  | @reap thread progress live taken =>
      refine ⟨since, timed.limited, ?_, ?_, ?_⟩
      · intro checks
        rcases timed.checking checks with expired | ended
        · exact Or.inl expired
        · rw [ended] at live
          cases live
      · exact Handle.step_reaped taken (tidy.reap thread live) (tidy.relies_reap live)
          fun fault member => waits fault (timed.continues.waitFaults.subset member)
      · intro next errand report goesOn publishes
        exact timed.gives_step tidy live taken goesOn publishes
  | expire joining limited =>
      obtain ⟨reaped, gives⟩ := idle rfl
      exact ⟨since, fun _ => limited, fun _ => Or.inl rfl, reaped, gives⟩
  | pump taken | reaper live taken | exit code | stay move =>
      obtain ⟨reaped, gives⟩ := idle rfl
      exact ⟨since, timed.limited, timed.checking, reaped, gives⟩

/-- All that holds of a shell that is followed since a host. -/
structure Follows (host : Host) (exec : Exec) : Prop where
  tidy : exec.Tidy
  timed : Timed host exec
  /-- Only a shell whose time limit has expired is late. -/
  course : ∃ late, Stands host late exec ∧ (late = true → exec.expired = true)

namespace Follows

theorem moved (follows : Follows host exec)
    (waits : ∀ fault ∈ host.waitFaults, fault.isSystem = true) {move : ExecMove}
    (moved : exec.Moved move after) : Follows host after where
  tidy := follows.tidy.moved moved
  timed := follows.timed.moved follows.tidy waits moved
  course := by
    obtain ⟨late, stands, expired⟩ := follows.course
    obtain ⟨later, stands, same | ⟨_, checks, undone⟩⟩ := stands.moved follows.tidy moved
    · exact ⟨later, stands, fun is => moved.expired (expired (same.symm.trans is))⟩
    · refine ⟨later, stands, fun _ => moved.expired ?_⟩
      rcases follows.timed.checking checks with expired | ended
      · exact expired
      · rw [follows.timed.reaped ended] at undone
        cases undone

theorem play (follows : Follows host exec)
    (waits : ∀ fault ∈ host.waitFaults, fault.isSystem = true) (moves : List ExecMove) :
    Follows host (exec.play moves) :=
  play_keeps (Follows host) (fun _ _ _ moved follows => follows.moved waits moved) moves exec
    follows

end Follows

theorem Moved.kills (tidy : exec.Tidy) {move : ExecMove} (moved : exec.Moved move after)
    (kills : after.handle.host.kills ≠ exec.handle.host.kills) :
    ∃ thread known, exec.main = .closing thread known := by
  cases moved with
  | main taken =>
      have role := tidy.main
      generalize stands : exec.main = before at taken role
      cases taken with
      | close taken goesOn | closeFailed taken ended noted | closed taken ended succeeded =>
          exact ⟨_, _, rfl⟩
      | wait taken goesOn | waited taken ended noted | waitFailed taken ended noted
      | waitLost taken ended silent =>
          have own : _ = Role.wait := role
          exact absurd (Handle.step_unkilled taken (by rw [own]; decide)) kills
      | tooLate undone | announce => exact absurd (Host.kills_record _ exec.handle.host) kills
      | _ => exact absurd rfl kills
  | pump taken => exact absurd taken.kills kills
  | @reap thread progress live taken =>
      exact absurd (Handle.step_unkilled taken (by rw [tidy.reap thread live]; decide)) kills
  | @reaper place thread progress live taken =>
      have role := tidy.attended.roles thread (List.mem_of_getElem? live)
      exact absurd (Handle.step_unkilled taken (by rw [role]; decide)) kills
  | _ => exact absurd rfl kills

theorem Stands.quiet (stands : Stands host false exec)
    (kills : ∀ fault ∈ host.faults.kill, fault.isSystem = true)
    (absent : exec.handle.result = none) : Quiet host exec.handle := by
  rcases stands.early with quiet | ⟨_, ⟨result, found⟩ | ⟨fault, refused, foreign⟩⟩
  · exact quiet
  · rw [absent] at found
    cases found
  · rw [kills fault refused] at foreign
    cases foreign

theorem Goes.unrecorded {before : ExecPoint} (role : before.InRole)
    (taken : exec.Goes before after) : after.handle.result = exec.handle.result := by
  cases taken with
  | close taken goesOn | closeFailed taken ended noted | closed taken ended succeeded =>
      exact Handle.step_unrecorded taken (Or.inl role)
  | wait taken goesOn | waited taken ended noted | waitFailed taken ended noted
  | waitLost taken ended silent => exact Handle.step_unrecorded taken (Or.inr role)
  | _ => rfl

/-- At some moment nothing was killed, and a result was on record that a wait for the process
gave. -/
structure Witnessed (host : Host) (exec : Exec) (result : Termination) : Prop where
  recorded : exec.handle.result = some result
  kills : exec.handle.host.kills = host.kills
  gives : Gives host exec.handle result.error

/-- The first result of a shell that is not late comes from the reaping thread. -/
theorem Moved.witnessed (follows : Follows host exec) (stands : Stands host false exec)
    (kills : ∀ fault ∈ host.faults.kill, fault.isSystem = true) {move : ExecMove}
    (moved : exec.Moved move after) (absent : exec.handle.result = none) {result : Termination}
    (found : after.handle.result = some result) : Witnessed host after result := by
  have tidy := follows.tidy
  have quiet := stands.quiet kills absent
  have unchanged (same : after.handle.result = exec.handle.result) :
      Witnessed host after result := by
    rw [same, absent] at found
    cases found
  cases moved with
  | main taken => exact unchanged (taken.unrecorded tidy.main)
  | @reap thread progress live taken =>
      rcases Handle.step_result taken with same | ⟨errand, report, rfl, recorded⟩
      · exact unchanged same
      · cases found.symm.trans recorded
        refine ⟨recorded, ?_, ?_⟩
        · rw [← quiet.kills]
          exact Handle.step_unkilled taken (by rw [tidy.reap _ live]; decide)
        · exact (follows.timed.gives _ errand report live rfl).continues
            (Handle.step_continues taken)
  | reaper live taken =>
      rw [tidy.attended.unstarted quiet.unstarted] at live
      cases live
  | _ => exact unchanged rfl

theorem Follows.witnessed {start : Exec} (follows : Follows host start)
    (kills : ∀ fault ∈ host.faults.kill, fault.isSystem = true)
    (waits : ∀ fault ∈ host.waitFaults, fault.isSystem = true)
    (absent : start.handle.result = none) {moves : List ExecMove}
    (early : Stands host false (start.play moves)) {result : Termination}
    (found : (start.play moves).handle.result = some result) :
    ∃ before, before <+: moves ∧ Witnessed host (start.play before) result := by
  induction moves using List.reverseRecOn generalizing result with
  | nil =>
      rw [play_nil, absent] at found
      cases found
  | append_singleton moves move ih =>
      have reached := follows.play waits moves
      have moved := (start.play moves).moved move
      rw [play_append, play_cons, play_nil] at early found
      obtain ⟨late, stands, _⟩ := reached.course
      obtain ⟨later, stood, last⟩ := stands.moved reached.tidy moved
      cases stood.unique early
      have still : late = false := by
        rcases last with same | ⟨called, _⟩
        · exact same.symm
        · cases called
      rw [still] at stands
      cases before : (start.play moves).handle.result with
      | some known =>
          obtain ⟨first, inside, witnessed⟩ := ih stands before
          cases found.symm.trans ((moved.keeps reached.tidy).1.result known before)
          exact ⟨first, inside.trans (List.prefix_append _ _), witnessed⟩
      | none =>
          refine ⟨moves ++ [move], List.prefix_refl _, ?_⟩
          rw [play_append, play_cons, play_nil]
          exact moved.witnessed reached stands kills before found

/-- How a shell that was started on a host is left to end by itself in a list of moves. -/
structure Patient (host : Host) (start : Exec) (moves : List ExecMove) : Prop where
  /-- Before a result is published, a kill is tried only after the time limit has expired. -/
  kills : ∀ move,
    ((start.play moves).move move).handle.host.kills ≠ (start.play moves).handle.host.kills →
      (start.play moves).handle.done = false → (start.play moves).expired = true
  limited : (start.play moves).expired = true → start.timeout.isSome = true
  timedOut : timedOutMessage host.pid start.timeout ∈ said host (start.play moves) →
    (start.play moves).expired = true
  /-- The first result stays the result. -/
  first : ∀ before, before <+: moves → ∀ result,
    (start.play before).handle.result = some result →
      (start.play moves).handle.result = some result
  /-- The exit code that is announced and returned is that of the result. -/
  exits : ∀ status, (start.play moves).ending? = some (.exited status) →
    ∃ result, (start.play moves).handle.result = some result ∧ status = exitStatus result ∧
      (said host (start.play moves)).getLast? = some (exitCodeMessage result)
  /-- Only a time limit that cannot be kept ends the program otherwise, with nothing done. -/
  fails : ∀ fault, (start.play moves).ending? = some (.uncaught fault) →
    limitFault? start.timeout = some fault ∧ said host (start.play moves) = [] ∧
      (start.play moves).handle.host.kills = host.kills
  /-- Without an expired time limit the result is the shell's own, on record before a kill: its
  return code, or a failed wait, which leads to status 1. -/
  own : (start.play moves).expired = false ∨
      timedOutMessage host.pid start.timeout ∉ said host (start.play moves) →
    ∀ result, (start.play moves).handle.result = some result →
      ∃ before, before <+: moves ∧ (start.play before).handle.result = some result ∧
        (start.play before).handle.host.kills = host.kills ∧
          ((∃ code, (start.play before).handle.host.returncode = some code ∧
              result.error = (exitFault? code).map .fault) ∨
            ∃ fault ∈ host.waitFaults, result.error = some (.fault fault) ∧
              exitStatus result = 1)

theorem exitStatus_system {fault : Fault} (system : fault.isSystem = true) {result : Termination}
    (failed : result.error = some (.fault fault)) : exitStatus result = 1 := by
  cases fault <;> cases system
  simp [exitStatus, Termination.exitCode, failed, Fault.exitCode, Fault.exitStatus?]

section Start

variable {start : Exec}

theorem Follows.kills (follows : Follows host exec) {move : ExecMove}
    (moved : exec.Moved move after)
    (kills : after.handle.host.kills ≠ exec.handle.host.kills)
    (undone : exec.handle.done = false) : exec.expired = true := by
  obtain ⟨thread, known, closing⟩ := moved.kills follows.tidy kills
  obtain ⟨late, stands, expired⟩ := follows.course
  have point := stands.point
  rw [closing] at point
  cases known with
  | none => exact expired point
  | some result =>
      have done := point.2.2.1
      rw [undone] at done
      cases done

/-- How a shell that is followed may have ended. -/
theorem Follows.ended (follows : Follows host exec)
    (kills : ∀ fault ∈ host.faults.kill, fault.isSystem = true) {ending : Ending}
    (found : exec.ending? = some ending) :
    (∃ fault, ending = .uncaught fault ∧ limitFault? exec.timeout = some fault ∧
        said host exec = [] ∧ exec.handle.host.kills = host.kills) ∨
      ∃ result, ending = .exited (exitStatus result) ∧ exec.handle.result = some result ∧
        (said host exec).getLast? = some (exitCodeMessage result) := by
  obtain ⟨late, stands, _⟩ := follows.course
  cases stands.ended found with
  | @refused fault refused early quiet notices =>
      have silent := said_eq (notices.trans (List.append_nil _).symm)
      exact Or.inl ⟨fault, rfl, refused, silent, quiet.kills⟩
  | @failed fault refused foreign drained notices =>
      rw [kills fault refused] at foreign
      cases foreign
  | @announced result recorded drained notices =>
      rw [List.append_assoc] at notices
      refine Or.inr ⟨result, rfl, recorded, ?_⟩
      rw [said_eq notices, List.getLast?_append]
      rfl

theorem Follows.patient (follows : Follows host start)
    (kills : ∀ fault ∈ host.faults.kill, fault.isSystem = true)
    (waits : ∀ fault ∈ host.waitFaults, fault.isSystem = true)
    (absent : start.handle.result = none) (moves : List ExecMove) :
    Patient host start moves := by
  have reached := follows.play waits moves
  have limit := play_timeout moves start
  obtain ⟨late, stands, expired⟩ := reached.course
  have called := stands.said_iff
  rw [limit] at called
  refine ⟨?_, ?_, fun told => expired (called.mp told), ?_, ?_, ?_, ?_⟩
  · intro move kills undone
    exact reached.kills ((start.play moves).moved move) kills undone
  · rw [← limit]
    exact reached.timed.limited
  · rintro before ⟨rest, rfl⟩ result found
    rw [play_append]
    exact ((follows.play waits before).tidy.play rest).2.result result found
  · intro status ended
    rcases reached.ended kills ended with ⟨fault, other, _⟩ | ⟨result, same, found, last⟩
    · cases other
    · cases same
      exact ⟨result, found, rfl, last⟩
  · intro fault ended
    rcases reached.ended kills ended with ⟨own, same, refused, silent, alive⟩ | ⟨_, other, _⟩
    · cases same
      exact ⟨limit ▸ refused, silent, alive⟩
    · cases other
  · intro early result found
    have punctual : late = false := by
      rcases early with running | silent
      · cases late with
        | false => rfl
        | true => exact absurd (running.symm.trans (expired rfl)) Bool.false_ne_true
      · exact Bool.eq_false_iff.mpr fun is => silent (called.mpr is)
    rw [punctual] at stands
    obtain ⟨before, inside, witnessed⟩ := follows.witnessed kills waits absent stands found
    refine ⟨before, inside, witnessed.recorded, witnessed.kills, ?_⟩
    rcases witnessed.gives with exited | ⟨fault, member, failed⟩
    · exact Or.inl exited
    · exact Or.inr ⟨fault, member, failed, exitStatus_system (waits fault member) failed⟩

end Start

section Launched

variable {size : TerminalSize} {command : Option String} {opts : ShellOptions}
  {base : Option Env} {config : Config} {started : Host}

/-- A shell that was started is killed before its result is published only when its time limit has
expired, and ends with the first result, its own where the limit has not expired. -/
theorem exec_patient
    (launched : (Launch.shell size command opts base config).run host = .ok () started)
    (kills : ∀ fault ∈ host.faults.kill, fault.isSystem = true)
    (waits : ∀ fault ∈ host.waitFaults, fault.isSystem = true) (timeout : Option Binary64) :
    (∀ moves, Patient host (ofHandle (Handle.ofHost started) timeout) moves) ∧
      ∀ fuel, ∃ moves, (ofHandle (Handle.ofHost started) timeout).complete fuel =
        (ofHandle (Handle.ofHost started) timeout).play moves := by
  have launching := Launch.shell_started launched
  have follows : Follows host (ofHandle (Handle.ofHost started) timeout) :=
    { tidy := ofHandle_tidy launching.isOpen timeout
      timed :=
        { continues := launching.continues
          limited := by
            intro expired
            cases expired
          checking := by
            intro checks
            cases checks
          reaped := by
            intro ended
            cases ended
          gives := by
            intro thread errand report live publishes
            cases live
            cases publishes }
      course := by
        refine ⟨false, ?_, fun is => absurd is Bool.false_ne_true⟩
        exact ofHandle_stands launching.pid launching.faults launching.kills launching.notices
          timeout }
  exact ⟨follows.patient kills waits rfl, fun fuel => complete_play fuel _⟩

end Launched

theorem exec_patient_childless :
    ∃ started, Launch.plainShell.run Host.childless = .ok () started ∧
      (∀ fault ∈ Host.childless.faults.kill, fault.isSystem = true) ∧
        (∀ fault ∈ Host.childless.waitFaults, fault.isSystem = true) ∧
          (∀ moves, Patient Host.childless
            (ofHandle (Handle.ofHost started) (some (.finite false 1 0))) moves) ∧
            ((ofHandle (Handle.ofHost started) (some (.finite false 1 0))).play punctual).ending? =
                some (.exited 1) ∧
              said Host.childless
                  ((ofHandle (Handle.ofHost started) (some (.finite false 1 0))).play punctual) =
                ["exit code: -1"] := by
  have launched : Launch.plainShell.run Host.childless =
    .ok () (Launch.afterShell Host.childless) := rfl
  unfold Launch.plainShell at launched
  have kills : ∀ fault ∈ Host.childless.faults.kill, fault.isSystem = true := by decide
  have waits : ∀ fault ∈ Host.childless.waitFaults, fault.isSystem = true := by decide
  refine ⟨Launch.afterShell Host.childless, rfl, kills, waits, ?_, ?_, ?_⟩
  · exact (exec_patient launched kills waits _).1
  · decide +kernel
  · decide +kernel

end PtyShell.Cli.Exec
