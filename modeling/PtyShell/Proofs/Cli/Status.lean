import PtyShell.Proofs.Cli.Progress

namespace PtyShell

inductive OfWait : Option Report → Prop
  | success : OfWait none
  | failure {code : Int} (nonzero : code ≠ 0) : OfWait (some (.fault (.exited code)))
  | refused {fault : Fault} (system : fault.isSystem = true) : OfWait (some (.fault fault))

theorem OfWait.exit (code : Int) : OfWait ((exitFault? code).map .fault) := by
  unfold exitFault?
  by_cases zero : code = 0
  · rw [if_pos zero]
    exact .success
  · rw [if_neg zero]
    exact .failure zero

theorem Host.waits_system {host : Host} (waits : host.waitFaults = []) :
    ∀ fault ∈ host.waitFaults, fault.isSystem = true := by
  rw [waits]
  exact fun _ member => absurd member List.not_mem_nil

namespace Handle

variable {handle : Handle} {thread : Thread} {progress : Progress}

theorem step_ofWait (taken : handle.Step thread progress)
    (carried : ∀ errand report, thread.publication? = some (errand, report) → OfWait report)
    {next : Thread} (goesOn : progress.next = some next) {errand : Errand}
    {report : Option Report} (publishes : next.publication? = some (errand, report)) :
    OfWait report := by
  cases taken with
  | waitRefused refused system =>
      cases goesOn
      cases publishes
      exact .refused system
  | @exited _ code ended =>
      cases goesOn
      cases publishes
      exact .exit code
  | lockResult free | findResult present | missResult absent | recordResult | signal | unlockWon =>
      cases goesOn
      exact carried errand report publishes
  | @unlockLost own | @logResult own =>
      cases own <;> cases goesOn <;> cases publishes
  | _ => cases goesOn <;> cases publishes

theorem step_started_silent (taken : handle.Step thread progress) {new : Thread}
    (started : progress.started = some new) : new.publication? = none := by
  cases taken <;> cases started
  rfl

end Handle

namespace Cli.Exec

variable {exec after : Exec}

/-- All that is on record, or is to be published, comes from a wait. -/
structure Honest (exec : Exec) : Prop where
  recorded : ∀ result, exec.handle.result = some result → OfWait result.error
  carried : ∀ thread, exec.reap = some thread ∨ some thread ∈ exec.reapers →
    ∀ errand report, thread.publication? = some (errand, report) → OfWait report

section Honest

variable {thread : Thread} {progress : Progress}

theorem mem_absorb (taken : exec.handle.Step thread progress) {other : Thread}
    (member : some other ∈ (exec.absorb progress).reapers) :
    some other ∈ exec.reapers ∨ other.publication? = none := by
  rw [reapers_absorb] at member
  rcases List.mem_append.mp member with old | new
  · exact .inl old
  · obtain ⟨started, found, same⟩ := List.mem_map.mp new
    cases same
    exact .inr (Handle.step_started_silent taken (Option.mem_toList.mp found))

theorem Goes.mem_reapers {before : ExecPoint} (taken : exec.Goes before after) {other : Thread}
    (member : some other ∈ after.reapers) :
    some other ∈ exec.reapers ∨ other.publication? = none := by
  cases taken with
  | close taken goesOn | closeFailed taken ended noted | closed taken ended succeeded
  | wait taken goesOn | waited taken ended noted | waitFailed taken ended noted
  | waitLost taken ended silent => exact mem_absorb taken member
  | _ => exact .inl member

theorem Honest.recorded_step (honest : exec.Honest)
    (carried : ∀ errand report, thread.publication? = some (errand, report) → OfWait report)
    (taken : exec.handle.Step thread progress) {result : Termination}
    (found : progress.handle.result = some result) : OfWait result.error := by
  rcases Handle.step_result taken with same | ⟨errand, report, rfl, recorded⟩
  · exact honest.recorded result (same.symm.trans found)
  · cases found.symm.trans recorded
    exact carried errand report rfl

theorem Honest.moved (honest : exec.Honest) (tidy : exec.Tidy) {move : ExecMove}
    (moved : exec.Moved move after) : after.Honest := by
  cases moved with
  | main taken =>
      refine ⟨?_, ?_⟩
      · rw [taken.unrecorded tidy.main]
        exact honest.recorded
      · rintro thread (live | member) errand report publishes
        · exact honest.carried thread (.inl (taken.others.1 ▸ live)) errand report publishes
        · rcases taken.mem_reapers member with old | silent
          · exact honest.carried thread (.inr old) errand report publishes
          · rw [silent] at publishes
            cases publishes
  | reap live taken =>
      have carried := honest.carried _ (.inl live)
      refine ⟨fun result => honest.recorded_step carried taken, ?_⟩
      rintro thread (goesOn | member) errand report publishes
      · exact Handle.step_ofWait taken carried goesOn publishes
      · rcases mem_absorb taken member with old | silent
        · exact honest.carried thread (.inr old) errand report publishes
        · rw [silent] at publishes
          cases publishes
  | reaper live taken =>
      have carried := honest.carried _ (.inr (List.mem_of_getElem? live))
      refine ⟨fun result => honest.recorded_step carried taken, ?_⟩
      rintro thread (other | member) errand report publishes
      · exact honest.carried thread (.inl other) errand report publishes
      · rcases List.mem_or_eq_of_mem_set member with still | same
        · rcases mem_absorb taken still with old | silent
          · exact honest.carried thread (.inr old) errand report publishes
          · rw [silent] at publishes
            cases publishes
        · exact Handle.step_ofWait taken carried same.symm publishes
  | pump taken | expire joining limited | exit code | stay move =>
      exact ⟨honest.recorded, honest.carried⟩

theorem Honest.play (honest : exec.Honest) (tidy : exec.Tidy) (moves : List ExecMove) :
    (exec.play moves).Honest :=
  (play_keeps (fun exec => exec.Tidy ∧ exec.Honest)
    (fun _ _ _ moved holds => ⟨holds.1.moved moved, holds.2.moved holds.1 moved⟩) moves exec
    ⟨tidy, honest⟩).2

theorem ofHandle_honest (host : Host) (timeout : Option Binary64) :
    (ofHandle (Handle.ofHost host) timeout).Honest where
  recorded := by
    intro result found
    cases found
  carried := by
    rintro thread (live | member) errand report publishes
    · cases live
      cases publishes
    · exact absurd member List.not_mem_nil

end Honest

section Status

variable {result : Termination}

theorem exitStatus_eq_zero (ofWait : OfWait result.error) :
    exitStatus result = 0 ↔ result.success = true := by
  obtain ⟨error⟩ := result
  cases ofWait with
  | success => exact ⟨fun _ => rfl, fun _ => rfl⟩
  | @failure code nonzero =>
      have failed : exitStatus ⟨some (.fault (.exited code))⟩ ≠ 0 := by
        unfold exitStatus Termination.exitCode Fault.exitCode Fault.exitStatus?
        by_cases negative : code < 0
        · simp [negative]
        · have positive : 0 ≤ code := by omega
          simpa [negative, positive] using nonzero
      exact ⟨fun zero => absurd zero failed, fun succeeded => absurd succeeded Bool.false_ne_true⟩
  | refused system =>
      rw [exitStatus_system system rfl]
      exact ⟨fun zero => absurd zero (by decide),
        fun succeeded => absurd succeeded Bool.false_ne_true⟩

def statusOf (code : Int) : Int :=
  if code < 0 then 1 else code

theorem exitStatus_exit {code : Int} (exited : result.error = (exitFault? code).map .fault) :
    exitStatus result = statusOf code := by
  obtain ⟨error⟩ := result
  have same : error = (exitFault? code).map .fault := exited
  subst same
  unfold exitStatus statusOf Termination.exitCode exitFault?
  by_cases zero : code = 0
  · subst zero
    rfl
  · by_cases negative : code < 0
    · simp [zero, negative, Fault.exitCode, Fault.exitStatus?]
    · have positive : 0 ≤ code := by omega
      simp [zero, negative, positive, Fault.exitCode, Fault.exitStatus?]

end Status

/-- The ways in which following a shell may end: with the status of its result, by a time limit that
cannot be kept, or by a kill that failed otherwise than by the system. -/
inductive EndsWith (host : Host) (exec : Exec) : Ending → Prop
  | announced {result : Termination} (found : exec.handle.result = some result)
      (status : exitStatus result = 0 ↔ result.success = true) :
      EndsWith host exec (.exited (exitStatus result))
  | refused {fault : Fault} (refused : limitFault? exec.timeout = some fault) :
      EndsWith host exec (.uncaught fault)
  | killFailed {fault : Fault} (refused : host.faults.kill = some fault)
      (foreign : fault.isSystem = false) : EndsWith host exec (.uncaught fault)

/-- How a shell that was started on a host ends in a list of moves. -/
structure Ends (host : Host) (start : Exec) (moves : List ExecMove) : Prop where
  ending : ∀ ending, (start.play moves).ending? = some ending →
    EndsWith host (start.play moves) ending
  /-- Where a limit can be kept and does not expire, no wait fails and a kill fails by the system
  at most, the status is that of the return code of the process. -/
  own : limitFault? start.timeout = none → (start.play moves).expired = false →
    host.waitFaults = [] → (∀ fault ∈ host.faults.kill, fault.isSystem = true) →
      ∀ ending, (start.play moves).ending? = some ending →
        ∃ code, (start.play moves).handle.host.returncode = some code ∧
          ending = .exited (statusOf code)
  /-- Once the process has exited, no thread waits forever. -/
  finishes : (∀ fault ∈ host.waitFaults, fault.isSystem = true) →
    ∀ code, (start.play moves).handle.host.returncode = some code →
      (start.play moves).Stuck → ∃ ending, (start.play moves).ending? = some ending
  steps : start.steps moves ≤ start.bound

section Start

variable {host : Host} {start : Exec}

theorem Stands.endsWith {late : Bool} (stands : Stands host late exec) (honest : exec.Honest)
    {ending : Ending} (found : exec.ending? = some ending) : EndsWith host exec ending := by
  cases stands.ended found with
  | refused refused => exact .refused refused
  | failed refused foreign => exact .killFailed refused foreign
  | announced recorded =>
      exact .announced recorded (exitStatus_eq_zero (honest.recorded _ recorded))

theorem Tidy.continues (tidy : exec.Tidy) (moves : List ExecMove) :
    exec.handle.host.Continues (exec.play moves).handle.host := by
  refine (play_keeps (fun after => after.Tidy ∧ exec.handle.host.Continues after.handle.host) ?_
    moves exec ⟨tidy, Host.Continues.refl _⟩).2
  rintro after move last moved ⟨tidy, continues⟩
  exact ⟨tidy.moved moved, continues.trans (moved.keeps tidy).2⟩

theorem Follows.own (follows : Follows host start) (absent : start.handle.result = none)
    (waits : host.waitFaults = []) (kills : ∀ fault ∈ host.faults.kill, fault.isSystem = true)
    (kept : limitFault? start.timeout = none) {moves : List ExecMove}
    (unexpired : (start.play moves).expired = false) {ending : Ending}
    (found : (start.play moves).ending? = some ending) :
    ∃ code, (start.play moves).handle.host.returncode = some code ∧
      ending = .exited (statusOf code) := by
  have system := Host.waits_system waits
  have reached := follows.play system moves
  rcases reached.ended kills found with ⟨fault, _, refused, _⟩ | ⟨result, rfl, recorded, _⟩
  · rw [play_timeout, kept] at refused
    cases refused
  · have patient := follows.patient kills system absent moves
    obtain ⟨before, ⟨rest, rfl⟩, _, _, exited | ⟨fault, member, _⟩⟩ :=
      patient.own (.inl unexpired) result recorded
    · obtain ⟨code, exited, same⟩ := exited
      have later := (follows.play system before).tidy.continues rest
      rw [play_append]
      exact ⟨code, later.returncode code exited, by rw [exitStatus_exit same]⟩
    · rw [waits] at member
      exact absurd member List.not_mem_nil

theorem Settling.exits (settling : Settling host start) (absent : start.handle.result = none)
    (unexpired : start.expired = false) (waits : host.waitFaults = [])
    (kills : ∀ fault ∈ host.faults.kill, fault.isSystem = true)
    (kept : limitFault? start.timeout = none) {code : Int}
    (exited : start.handle.host.returncode = some code) {fuel : Nat}
    (enough : start.remaining ≤ fuel) :
    (start.complete fuel).ending? = some (.exited (statusOf code)) := by
  have system := Host.waits_system waits
  obtain ⟨moves, played, patient, ending, found⟩ :=
    settling.complete system exited fuel enough
  obtain ⟨own, ended, rfl⟩ := settling.follows.own absent waits kills kept
    ((play_unexpired patient).trans unexpired) found
  have still := (settling.follows.tidy.continues moves).returncode code exited
  cases ended.symm.trans still
  rw [played, found]

end Start

section Launched

variable {host started : Host}

theorem ofHandle_settling (launching : host.Started started) (timeout : Option Binary64) :
    Settling host (ofHandle (Handle.ofHost started) timeout) where
  follows :=
    { tidy := ofHandle_tidy launching.isOpen timeout
      timed :=
        { continues := launching.continues
          limited := fun expired => absurd expired Bool.false_ne_true
          checking := by
            intro checks
            cases checks
          reaped := by
            intro ended
            cases ended
          gives := by
            intro thread errand report live publishes
            cases live
            cases publishes }
      course := ⟨false, ofHandle_stands launching.pid launching.faults launching.kills
        launching.notices timeout,
        fun late => absurd late Bool.false_ne_true⟩ }
  signalled := by
    intro observer awaits
    cases awaits
  single := Nat.zero_le 1

theorem ofHandle_ends (launching : host.Started started) (timeout : Option Binary64)
    (moves : List ExecMove) : Ends host (ofHandle (Handle.ofHost started) timeout) moves := by
  have settling := ofHandle_settling launching timeout
  have tidy := settling.follows.tidy
  refine ⟨?_, ?_, ?_, ?_⟩
  · intro ending found
    obtain ⟨late, stands, _⟩ := settling.follows.course
    obtain ⟨_, later, stands, _⟩ := stands.play tidy moves
    exact stands.endsWith ((ofHandle_honest started timeout).play tidy moves) found
  · intro kept unexpired waits kills ending found
    exact settling.follows.own rfl waits kills kept unexpired found
  · intro system code exited stuck
    exact (settling.play system moves).ended stuck exited
  · have taken := steps_play moves (ofHandle (Handle.ofHost started) timeout)
    have enough := remaining_ofHandle started timeout
    omega

end Launched

end Cli.Exec

end PtyShell
