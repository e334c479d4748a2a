import PtyShell.Proofs.Cli.Threads

/-! # The course of the main thread

The main thread decides once whether the shell is late. Up to that decision nothing is killed and no
reaper is started; a shell that is not late is closed only when its output has been forwarded and
its result is known. -/

namespace PtyShell.Cli.Exec

structure Quiet (start : Host) (handle : Handle) : Prop where
  kills : handle.host.kills = start.kills
  unstarted : handle.hasReaper = false

def lateNotices (pid : Nat) (limit : Option Binary64) (late : Bool) : List String :=
  if late then [timedOutMessage pid limit] else []

/-- The ways to end: the time limit cannot be kept, the kill failed otherwise than by the system, or
the exit code was announced. -/
inductive Ended (start : Host) (late : Bool) (exec : Exec) : Ending → Prop
  | refused {fault : Fault} (refused : limitFault? exec.timeout = some fault)
      (early : late = false) (quiet : Quiet start exec.handle)
      (said : exec.handle.host.notices = start.notices) : Ended start late exec (.uncaught fault)
  | failed {fault : Fault} (refused : start.faults.kill = some fault)
      (foreign : fault.isSystem = false) (drained : late = false → exec.pump = .ended)
      (said : exec.handle.host.notices = start.notices ++ lateNotices start.pid exec.timeout late) :
      Ended start late exec (.uncaught fault)
  | announced {result : Termination} (found : exec.handle.result = some result)
      (drained : exec.pump = .ended)
      (said : exec.handle.host.notices =
        start.notices ++ lateNotices start.pid exec.timeout late ++ [exitCodeMessage result]) :
      Ended start late exec (.exited (exitStatus result))

/-- What holds where the main thread stands. -/
def StandsAt (start : Host) (late : Bool) (exec : Exec) : ExecPoint → Prop
  | .starting | .joining | .checking => late = false ∧ Quiet start exec.handle
  | .joiningPump none => late = false ∧ Quiet start exec.handle ∧ exec.handle.done = true
  | .waiting _ false =>
    late = false ∧ Quiet start exec.handle ∧ exec.handle.done = true ∧ exec.pump = .ended
  | .closing _ (some result) =>
    late = false ∧ exec.handle.result = some result ∧ exec.handle.done = true ∧
      exec.pump = .ended
  | .closing _ none | .waiting _ true => late = true
  | .joiningPump (some result) => late = true ∧ exec.handle.result = some result
  | .announcing result => exec.handle.result = some result ∧ exec.pump = .ended
  | .finished ending => Ended start late exec ending

/-- How far the main thread has come since a host, for a shell that is late or not. -/
structure Stands (start : Host) (late : Bool) (exec : Exec) : Prop where
  pid : exec.handle.host.pid = start.pid
  faults : exec.handle.host.faults = start.faults
  point : StandsAt start late exec exec.main
  notices : exec.ending? = none →
    exec.handle.host.notices = start.notices ++ lateNotices start.pid exec.timeout late

structure Calm (before after : Exec) : Prop where
  main : after.main = before.main
  timeout : after.timeout = before.timeout
  pid : after.handle.host.pid = before.handle.host.pid
  faults : after.handle.host.faults = before.handle.host.faults
  kills : after.handle.host.kills = before.handle.host.kills
  notices : after.handle.host.notices = before.handle.host.notices
  hasReaper : after.handle.hasReaper = before.handle.hasReaper
  keeps : before.handle.Keeps after.handle
  pump : before.pump = .ended → after.pump = .ended

variable {start : Host} {late : Bool} {exec after : Exec}

theorem Tidy.calm (tidy : exec.Tidy) {move : ExecMove} (moved : exec.Moved move after)
    (other : move ≠ .step .main) (waits : move ≠ .expire) : Calm exec after := by
  obtain ⟨keeps, continues⟩ := moved.keeps tidy
  cases moved with
  | main taken => exact absurd rfl other
  | pump taken =>
      refine ⟨rfl, rfl, continues.pid, continues.faults, taken.kills, taken.notices, rfl, keeps, ?_⟩
      intro ended
      rw [ended] at taken
      cases taken
  | @reap thread progress live taken =>
      have role : thread.role ≠ .close := by
        rw [tidy.reap thread live]
        decide
      exact ⟨rfl, rfl, continues.pid, continues.faults, Handle.step_unkilled taken role,
        Handle.step_notices taken, (Handle.step_unstarted taken role).2, keeps, id⟩
  | @reaper place thread progress live taken =>
      have role : thread.role ≠ .close := by
        rw [tidy.attended.roles thread (List.mem_of_getElem? live)]
        decide
      exact ⟨rfl, rfl, continues.pid, continues.faults, Handle.step_unkilled taken role,
        Handle.step_notices taken, (Handle.step_unstarted taken role).2, keeps, id⟩
  | expire joining limited => exact absurd rfl waits
  | exit code | stay move => exact ⟨rfl, rfl, rfl, rfl, rfl, rfl, rfl, keeps, id⟩

theorem Quiet.calm (quiet : Quiet start exec.handle) (calm : Calm exec after) :
    Quiet start after.handle where
  kills := calm.kills.trans quiet.kills
  unstarted := calm.hasReaper.trans quiet.unstarted

theorem Ended.calm {ending : Ending} (ended : Ended start late exec ending)
    (calm : Calm exec after) : Ended start late after ending := by
  cases ended with
  | refused refused early quiet said =>
      exact .refused (by rw [calm.timeout, refused]) early (quiet.calm calm)
        (calm.notices.trans said)
  | failed refused foreign drained said =>
      exact .failed refused foreign (fun early => calm.pump (drained early))
        (by rw [calm.notices, calm.timeout, said])
  | announced found drained said =>
      exact .announced (calm.keeps.result _ found) (calm.pump drained)
        (by rw [calm.notices, calm.timeout, said])

theorem StandsAt.calm {point : ExecPoint} (stands : StandsAt start late exec point)
    (calm : Calm exec after) : StandsAt start late after point := by
  cases point with
  | starting | joining | checking => exact ⟨stands.1, stands.2.calm calm⟩
  | closing thread known =>
      cases known with
      | none => exact stands
      | some result =>
          obtain ⟨early, found, done, drained⟩ := stands
          exact ⟨early, calm.keeps.result _ found, calm.keeps.done done, calm.pump drained⟩
  | waiting thread timedOut =>
      cases timedOut with
      | true => exact stands
      | false =>
          obtain ⟨early, quiet, done, drained⟩ := stands
          exact ⟨early, quiet.calm calm, calm.keeps.done done, calm.pump drained⟩
  | joiningPump known =>
      cases known with
      | none => exact ⟨stands.1, stands.2.1.calm calm, calm.keeps.done stands.2.2⟩
      | some result => exact ⟨stands.1, calm.keeps.result _ stands.2⟩
  | announcing result => exact ⟨calm.keeps.result _ stands.1, calm.pump stands.2⟩
  | finished ending => exact Ended.calm stands calm

theorem Stands.calm (stands : Stands start late exec) (calm : Calm exec after) :
    Stands start late after where
  pid := calm.pid.trans stands.pid
  faults := calm.faults.trans stands.faults
  point := by
    rw [calm.main]
    exact stands.point.calm calm
  notices := by
    intro unfinished
    rw [calm.notices, calm.timeout]
    apply stands.notices
    rw [← unfinished]
    simp only [ending?, calm.main]

section Main

variable {point : ExecPoint}

theorem Stands.goTo (stands : Stands start late exec) (going : exec.ending? = none)
    (holds : StandsAt start late (exec.goTo point) point) :
    Stands start late (exec.goTo point) where
  pid := stands.pid
  faults := stands.faults
  point := holds
  notices := fun _ => stands.notices going

theorem Stands.absorb (stands : Stands start late exec) (going : exec.ending? = none)
    {thread : Thread} {progress : Progress} (taken : exec.handle.Step thread progress)
    (holds : StandsAt start late ((exec.absorb progress).goTo point) point) :
    Stands start late ((exec.absorb progress).goTo point) where
  pid := (Handle.step_continues taken).pid.trans stands.pid
  faults := (Handle.step_continues taken).faults.trans stands.faults
  point := holds
  notices := fun _ => (Handle.step_notices taken).trans (stands.notices going)

theorem Goes.stands_closing (tidy : exec.Tidy) (stands : Stands start late exec) {thread : Thread}
    {known : Option Termination} (closing : exec.main = .closing thread known)
    (taken : exec.Goes (.closing thread known) after) : Stands start late after := by
  have role : exec.main.InRole := tidy.main
  have point := stands.point
  have going : exec.ending? = none := by simp only [ending?, closing]
  rw [closing] at role point
  have relies := tidy.relies_main (congrArg ExecPoint.thread? closing)
  cases taken with
  | close taken goesOn =>
      have keeps := Handle.step_keeps taken relies
      refine stands.absorb going taken ?_
      cases known with
      | none => exact point
      | some result =>
          obtain ⟨early, found, done, drained⟩ := point
          exact ⟨early, keeps.result _ found, keeps.done done, drained⟩
  | closeFailed taken ended noted =>
      refine stands.absorb going taken ?_
      rcases Handle.step_closed taken role ended with closed | ⟨fault, failed, refused, foreign⟩
      · rw [noted] at closed
        cases closed
      · rw [noted] at failed
        cases failed
        refine .failed (stands.faults ▸ refused) foreign ?_ ?_
        · intro early
          cases known with
          | none => exact absurd (early.symm.trans point) Bool.false_ne_true
          | some result => exact point.2.2.2
        · exact (Handle.step_notices taken).trans (stands.notices going)
  | closed taken ended succeeded =>
      have keeps := Handle.step_keeps taken relies
      refine stands.absorb going taken ?_
      cases known with
      | none => exact point
      | some result => exact ⟨keeps.result _ point.2.1, point.2.2.2⟩

theorem Goes.stands_waiting (tidy : exec.Tidy) (stands : Stands start late exec) {thread : Thread}
    {timedOut : Bool} (waiting : exec.main = .waiting thread timedOut)
    (taken : exec.Goes (.waiting thread timedOut) after) : Stands start late after := by
  have role : exec.main.InRole := tidy.main
  have point := stands.point
  have going : exec.ending? = none := by simp only [ending?, waiting]
  rw [waiting] at role point
  have relies := tidy.relies_main (congrArg ExecPoint.thread? waiting)
  cases taken with
  | wait taken goesOn =>
      have same := (Handle.step_waits taken role relies tidy.recorded).1
      refine stands.absorb going taken ?_
      cases timedOut with
      | true => exact point
      | false =>
          obtain ⟨early, quiet, done, drained⟩ := point
          rw [← same] at quiet done
          exact ⟨early, quiet, done, drained⟩
  | waited taken ended noted =>
      obtain ⟨same, _, finds⟩ := Handle.step_waits taken role relies tidy.recorded
      obtain ⟨result, found, said⟩ := finds ended
      rw [noted] at said
      cases said
      refine stands.absorb going taken ?_
      rw [← same] at found
      cases timedOut with
      | true => exact ⟨point, found⟩
      | false =>
          obtain ⟨early, _, done, drained⟩ := point
          rw [← same] at done
          exact ⟨early, found, done, drained⟩
  | waitFailed taken ended noted =>
      obtain ⟨_, _, finds⟩ := Handle.step_waits taken role relies tidy.recorded
      obtain ⟨result, _, said⟩ := finds ended
      rw [noted] at said
      cases said
  | waitLost taken ended silent =>
      obtain ⟨_, _, finds⟩ := Handle.step_waits taken role relies tidy.recorded
      obtain ⟨result, _, said⟩ := finds ended
      exact absurd said (silent _ _)

/-- A step of the main thread brings it on in its course; it finds the shell late where the result
is not published when it looks. -/
theorem Goes.stands (tidy : exec.Tidy) (stands : Stands start late exec)
    (taken : exec.Goes exec.main after) :
    ∃ later, Stands start later after ∧
      (later = late ∨ (later = true ∧ exec.main = .checking ∧ exec.handle.done = false)) := by
  have point := stands.point
  cases before : exec.main with
  | starting =>
      have going : exec.ending? = none := by simp only [ending?, before]
      rw [before] at taken point
      cases taken with
      | begin kept => exact ⟨late, stands.goTo going point, Or.inl rfl⟩
      | refuse refused =>
          refine ⟨late, stands.goTo going ?_, Or.inl rfl⟩
          obtain ⟨rfl, quiet⟩ := point
          exact .refused refused rfl quiet ((stands.notices going).trans (List.append_nil _))
  | joining =>
      have going : exec.ending? = none := by simp only [ending?, before]
      rw [before] at taken point
      cases taken
      exact ⟨late, stands.goTo going point, Or.inl rfl⟩
  | checking =>
      have going : exec.ending? = none := by simp only [ending?, before]
      rw [before] at taken point
      cases taken with
      | inTime done => exact ⟨late, stands.goTo going ⟨point.1, point.2, done⟩, Or.inl rfl⟩
      | tooLate undone =>
          refine ⟨true, ⟨stands.pid, stands.faults, rfl, ?_⟩, Or.inr ⟨rfl, rfl, undone⟩⟩
          intro _
          have said := stands.notices going
          rw [point.1] at said
          show (exec.handle.host.record _).notices = _
          rw [Host.notices_record, said, List.append_assoc, stands.pid]
          rfl
  | closing thread known =>
      rw [before] at taken
      exact ⟨late, taken.stands_closing tidy stands before, Or.inl rfl⟩
  | waiting thread timedOut =>
      rw [before] at taken
      exact ⟨late, taken.stands_waiting tidy stands before, Or.inl rfl⟩
  | joiningPump known =>
      have going : exec.ending? = none := by simp only [ending?, before]
      rw [before] at taken point
      cases taken with
      | joinPump drained =>
          refine ⟨late, stands.goTo going ?_, Or.inl rfl⟩
          cases known with
          | none => exact ⟨point.1, point.2.1, point.2.2, drained⟩
          | some result => exact ⟨point.2, drained⟩
  | announcing result =>
      have going : exec.ending? = none := by simp only [ending?, before]
      rw [before] at taken point
      cases taken
      refine ⟨late, ⟨stands.pid, stands.faults, ?_, ?_⟩, Or.inl rfl⟩
      · refine .announced point.1 point.2 ?_
        show (exec.handle.host.record _).notices = _
        rw [Host.notices_record, stands.notices going]
        rfl
      · intro unfinished
        cases unfinished
  | finished ending =>
      rw [before] at taken
      cases taken

end Main

theorem Stands.moved (stands : Stands start late exec) (tidy : exec.Tidy) {move : ExecMove}
    (moved : exec.Moved move after) :
    ∃ later, Stands start later after ∧
      (later = late ∨ (later = true ∧ exec.main = .checking ∧ exec.handle.done = false)) := by
  by_cases main : move = .step .main
  · subst main
    cases moved with
    | main taken => exact taken.stands tidy stands
    | stay => exact ⟨late, stands, Or.inl rfl⟩
  · by_cases expires : move = .expire
    · subst expires
      cases moved with
      | expire joining limited =>
          have point := stands.point
          rw [joining] at point
          refine ⟨late, ⟨stands.pid, stands.faults, point, ?_⟩, Or.inl rfl⟩
          intro unfinished
          exact stands.notices (by simp only [ending?, joining])
      | stay => exact ⟨late, stands, Or.inl rfl⟩
    · exact ⟨late, stands.calm (tidy.calm moved main expires), Or.inl rfl⟩

theorem Stands.play (stands : Stands start late exec) (tidy : exec.Tidy) (moves : List ExecMove) :
    (exec.play moves).Tidy ∧
      ∃ later, Stands start later (exec.play moves) ∧ (late = true → later = true) := by
  refine play_keeps (fun exec => exec.Tidy ∧
    ∃ later, Stands start later exec ∧ (late = true → later = true)) ?_ moves exec
    ⟨tidy, late, stands, id⟩
  rintro exec move after moved ⟨tidy, later, stands, stays⟩
  refine ⟨tidy.moved moved, ?_⟩
  obtain ⟨last, stands, same | ⟨found, _⟩⟩ := stands.moved tidy moved
  · exact ⟨last, stands, fun is => same.trans (stays is)⟩
  · exact ⟨last, stands, fun _ => found⟩

def said (start : Host) (exec : Exec) : List String :=
  exec.handle.host.notices.drop start.notices.length

theorem said_eq {lines : List String}
    (notices : exec.handle.host.notices = start.notices ++ lines) : said start exec = lines := by
  unfold said
  rw [notices, List.drop_left]

theorem lateText_ne (first second : String) :
    "Error: timed out after " ++ first ≠ "exit code: " ++ second := by
  intro same
  have heads := congrArg (fun text => text.toList.head?) same
  simp at heads

theorem timedOutMessage_ne (pid : Nat) (limit : Option Binary64) (result : Termination) :
    timedOutMessage pid limit ≠ exitCodeMessage result := by
  unfold timedOutMessage exitCodeMessage
  rw [String.append_assoc, String.append_assoc]
  exact lateText_ne _ _

theorem Stands.ended (stands : Stands start late exec) {ending : Ending}
    (found : exec.ending? = some ending) : Ended start late exec ending := by
  have point := stands.point
  rw [ending_finished found] at point
  exact point

/-- A shell is late if and only if that was said. -/
theorem Stands.said_iff (stands : Stands start late exec) :
    timedOutMessage start.pid exec.timeout ∈ said start exec ↔ late = true := by
  have lates : timedOutMessage start.pid exec.timeout ∈
      lateNotices start.pid exec.timeout late ↔ late = true := by
    cases late <;> simp [lateNotices]
  cases found : exec.ending? with
  | none => rw [said_eq (stands.notices found), lates]
  | some ending =>
      cases stands.ended found with
      | refused refused early quiet notices =>
          rw [said_eq (notices.trans (List.append_nil _).symm), early]
          simp
      | failed refused foreign drained notices => rw [said_eq notices, lates]
      | announced found drained notices =>
          rw [List.append_assoc] at notices
          rw [said_eq notices, List.mem_append, lates, List.mem_singleton]
          simp [timedOutMessage_ne]

/-- A shell that is not late is left in peace until its output is forwarded and its result known,
or until the kill that closes it then fails. -/
theorem Stands.early (stands : Stands start false exec) :
    Quiet start exec.handle ∨
      (exec.pump = .ended ∧ ((∃ result, exec.handle.result = some result) ∨
        ∃ fault, start.faults.kill = some fault ∧ fault.isSystem = false)) := by
  have point := stands.point
  cases stood : exec.main with
  | starting | joining | checking =>
      rw [stood] at point
      exact Or.inl point.2
  | closing thread known =>
      rw [stood] at point
      cases known with
      | none => cases point
      | some result => exact Or.inr ⟨point.2.2.2, Or.inl ⟨result, point.2.1⟩⟩
  | waiting thread timedOut =>
      rw [stood] at point
      cases timedOut with
      | true => cases point
      | false => exact Or.inl point.2.1
  | joiningPump known =>
      rw [stood] at point
      cases known with
      | none => exact Or.inl point.2.1
      | some result => cases point.1
  | announcing result =>
      rw [stood] at point
      exact Or.inr ⟨point.2, Or.inl ⟨result, point.1⟩⟩
  | finished ending =>
      rw [stood] at point
      cases point with
      | refused refused early quiet notices => exact Or.inl quiet
      | failed refused foreign drained notices =>
          exact Or.inr ⟨drained rfl, Or.inr ⟨_, refused, foreign⟩⟩
      | announced found drained notices => exact Or.inr ⟨drained, Or.inl ⟨_, found⟩⟩

theorem Stands.unique {other : Bool} (stands : Stands start late exec)
    (too : Stands start other exec) : late = other :=
  Bool.eq_iff_iff.mpr (stands.said_iff.symm.trans too.said_iff)

theorem ofHandle_stands {start host : Host} (pid : host.pid = start.pid)
    (faults : host.faults = start.faults) (kills : host.kills = start.kills)
    (notices : host.notices = start.notices)
    (timeout : Option Binary64) : Stands start false (ofHandle (Handle.ofHost host) timeout) where
  pid := pid
  faults := faults
  point := ⟨rfl, kills, rfl⟩
  notices := fun _ => notices.trans (List.append_nil _).symm

end PtyShell.Cli.Exec
