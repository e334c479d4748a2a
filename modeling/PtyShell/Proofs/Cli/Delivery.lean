import PtyShell.Proofs.Cli.Course
import PtyShell.Proofs.Launch.Started

/-! # The output of a shell that is followed

The pump writes the output in order and without a gap, unless the master end is closed while it
still reads. A reaper may do that where the shell is late, since the handle is then closed before
the pump is joined. -/

namespace PtyShell.Cli.Exec

/-- At some moment the master end was closed while the pump was still reading. -/
def Overtaken (exec : Exec) (moves : List ExecMove) : Prop :=
  ∃ before, before <+: moves ∧ (exec.play before).pump ≠ .ended ∧
    (exec.play before).handle.host.isOpen .master = false

/-- What is written, and what the pump has yet to read. -/
def conveyed (exec : Exec) : List UInt8 :=
  exec.stdout ++ Drain.rest exec.handle.host exec.pump

variable {exec after : Exec}

theorem Goes.conveyed {before : ExecPoint} (taken : exec.Goes before after) :
    after.conveyed = exec.conveyed := by
  have same {point : ExecPoint} {progress : Progress} {thread : Thread}
      (stepped : exec.handle.Step thread progress) :
      ((exec.absorb progress).goTo point).conveyed = exec.conveyed :=
    congrArg (exec.stdout ++ ·) (Drain.rest_output (Handle.step_output stepped) exec.pump)
  cases taken with
  | close taken goesOn | closeFailed taken ended noted | closed taken ended succeeded
  | wait taken goesOn | waited taken ended noted | waitFailed taken ended noted
  | waitLost taken ended silent => exact same taken
  | tooLate undone | announce =>
      exact congrArg (exec.stdout ++ ·) (Drain.rest_output rfl exec.pump)
  | _ => rfl

/-- Nothing is lost by a move, unless the pump meets a closed master end. -/
theorem Moved.conveyed (tidy : exec.Tidy) {move : ExecMove} (moved : exec.Moved move after) :
    after.conveyed = exec.conveyed ∨
      (exec.pump ≠ .ended ∧ exec.handle.host.isOpen .master = false ∧
        after.conveyed = exec.stdout) := by
  cases moved with
  | main taken => exact Or.inl taken.conveyed
  | @pump progress taken =>
      rw [tidy.source] at taken
      cases opened : exec.handle.host.isOpen .master with
      | true =>
          left
          show (exec.stdout ++ progress.bytes) ++ Drain.rest progress.host progress.point = _
          rw [List.append_assoc, taken.rest opened]
          rfl
      | false =>
          have reads : exec.pump ≠ .ended := by
            intro ended
            rw [ended] at taken
            cases taken
          have unread := taken.cut opened
          refine Or.inr ⟨reads, rfl, ?_⟩
          show (exec.stdout ++ progress.bytes) ++ Drain.rest progress.host progress.point = _
          rw [unread.1, unread.2, List.append_nil, List.append_nil]
  | reap live taken | reaper live taken =>
      left
      exact congrArg (exec.stdout ++ ·) (Drain.rest_output (Handle.step_output taken) exec.pump)
  | expire joining limited | stay move => exact Or.inl rfl
  | exit code =>
      left
      exact congrArg (exec.stdout ++ ·)
        (@Drain.rest_output exec.handle.host (exec.handle.host.exit code) rfl exec.pump)

theorem play_ordered {stream : List UInt8} (tidy : exec.Tidy) (ordered : exec.conveyed <+: stream)
    (moves : List ExecMove) : (exec.play moves).stdout <+: stream := by
  have reached := play_keeps (fun exec => exec.Tidy ∧ exec.conveyed <+: stream) (by
    intro exec move after moved holds
    refine ⟨holds.1.moved moved, ?_⟩
    rcases moved.conveyed holds.1 with same | ⟨_, _, cut⟩
    · rw [same]
      exact holds.2
    · rw [cut]
      exact (List.prefix_append _ _).trans holds.2) moves exec ⟨tidy, ordered⟩
  exact (List.prefix_append _ _).trans reached.2

theorem play_conveyed (moves : List ExecMove) :
    ∀ exec : Exec, exec.Tidy → ¬ exec.Overtaken moves →
      (exec.play moves).conveyed = exec.conveyed := by
  induction moves with
  | nil =>
      intro exec _ _
      rfl
  | cons move moves ih =>
      intro exec tidy unspoilt
      have moved := exec.moved move
      have later : ¬ (exec.move move).Overtaken moves := by
        rintro ⟨before, inside, reads, closed⟩
        exact unspoilt ⟨move :: before, (List.prefix_cons_inj move).mpr inside, reads, closed⟩
      rw [play_cons, ih _ (tidy.moved moved) later]
      rcases moved.conveyed tidy with same | ⟨reads, closed, _⟩
      · exact same
      · exact absurd ⟨[], List.nil_prefix, reads, closed⟩ unspoilt

theorem Stands.unspoilt {start : Host} (stands : Stands start false exec) (tidy : exec.Tidy) :
    exec.pump = .ended ∨ exec.handle.host.isOpen .master = true := by
  rcases stands.early with quiet | ⟨drained, _⟩
  · exact Or.inr (tidy.attended.opened quiet.unstarted)
  · exact Or.inl drained

/-- How the output of a shell that was started on a host is delivered in a list of moves. -/
structure Delivers (host : Host) (start : Exec) (moves : List ExecMove) : Prop where
  in_order : (start.play moves).stdout <+: Drain.stream host.output
  /-- Unless the master end was closed under the pump, nothing is lost. -/
  whole : ¬ start.Overtaken moves →
    (start.play moves).stdout ++
        Drain.rest (start.play moves).handle.host (start.play moves).pump =
      Drain.stream host.output
  /-- That happens only where the shell was called late. -/
  overtaken : start.Overtaken moves →
    timedOutMessage host.pid start.timeout ∈ said host (start.play moves)
  /-- At the end the pump has ended, unless the time limit could not be kept, or the shell was
  called late and the kill failed otherwise than by the system. -/
  delivered : ∀ ending, (start.play moves).ending? = some ending →
    ((start.play moves).pump = .ended ∧
        (¬ start.Overtaken moves → (start.play moves).stdout = Drain.stream host.output)) ∨
      (∃ fault, limitFault? start.timeout = some fault ∧ ending = .uncaught fault) ∨
      (timedOutMessage host.pid start.timeout ∈ said host (start.play moves) ∧
        ∃ fault, host.faults.kill = some fault ∧ fault.isSystem = false ∧
          ending = .uncaught fault)

section Start

variable {host : Host} {start : Exec}

theorem Stands.overtaken (stands : Stands host false start) (tidy : start.Tidy)
    {moves : List ExecMove} (spoilt : start.Overtaken moves) :
    timedOutMessage host.pid start.timeout ∈ said host (start.play moves) := by
  obtain ⟨before, ⟨rest, rfl⟩, reads, closed⟩ := spoilt
  obtain ⟨tidyThen, late, stood, _⟩ := stands.play tidy before
  have called : late = true := by
    cases late with
    | true => rfl
    | false =>
        rcases stood.unspoilt tidyThen with ended | opened
        · exact absurd ended reads
        · rw [closed] at opened
          cases opened
  obtain ⟨_, last, stands, stays⟩ := stood.play tidyThen rest
  rw [play_append, ← play_timeout before start, ← play_timeout rest (start.play before)]
  exact stands.said_iff.mpr (stays called)

theorem Stands.delivers (stands : Stands host false start) (tidy : start.Tidy)
    (conveyed : start.conveyed = Drain.stream host.output) (moves : List ExecMove) :
    Delivers host start moves := by
  have whole (unspoilt : ¬ start.Overtaken moves) :
      (start.play moves).conveyed = Drain.stream host.output :=
    (play_conveyed moves start tidy unspoilt).trans conveyed
  have ordered : start.conveyed <+: Drain.stream host.output :=
    ⟨[], (List.append_nil _).trans conveyed⟩
  refine ⟨play_ordered tidy ordered moves, whole, stands.overtaken tidy, ?_⟩
  intro ending found
  have delivered (ended : (start.play moves).pump = .ended) (unspoilt : ¬ start.Overtaken moves) :
      (start.play moves).stdout = Drain.stream host.output := by
    rw [← whole unspoilt, Exec.conveyed, ended]
    exact (List.append_nil _).symm
  obtain ⟨_, late, stood, _⟩ := stands.play tidy moves
  have limit := play_timeout moves start
  have called := stood.said_iff
  rw [limit] at called
  cases stood.ended found with
  | @refused fault refused early quiet notices =>
      rw [limit] at refused
      exact Or.inr (Or.inl ⟨fault, refused, rfl⟩)
  | @failed fault refused foreign drained notices =>
      cases late with
      | false => exact Or.inl ⟨drained rfl, delivered (drained rfl)⟩
      | true => exact Or.inr (Or.inr ⟨called.mpr rfl, fault, refused, foreign, rfl⟩)
  | announced found drained notices => exact Or.inl ⟨drained, delivered drained⟩

end Start

section Launched

variable {size : TerminalSize} {command : Option String} {opts : ShellOptions}
  {base : Option Env} {config : Config} {host started : Host}

/-- Following a shell that was started forwards its output in order, and to the end unless a reaper
overtakes the pump, which may happen only once the shell was called late. -/
theorem exec_delivers
    (launched : (Launch.shell size command opts base config).run host = .ok () started)
    (timeout : Option Binary64) :
    (∀ moves, Delivers host (ofHandle (Handle.ofHost started) timeout) moves) ∧
      (∀ fuel, ∃ moves, (ofHandle (Handle.ofHost started) timeout).complete fuel =
        (ofHandle (Handle.ofHost started) timeout).play moves) ∧
      ([] ∉ host.output → Drain.stream host.output = host.output.flatten) := by
  have launching := Launch.shell_started launched
  have stands := ofHandle_stands launching.pid launching.faults launching.kills launching.notices
    timeout
  have conveyed : (ofHandle (Handle.ofHost started) timeout).conveyed =
      Drain.stream host.output := by
    show [] ++ Drain.stream started.output = _
    rw [launching.output, List.nil_append]
  exact ⟨stands.delivers (ofHandle_tidy launching.isOpen timeout) conveyed,
    fun fuel => complete_play fuel _, Drain.stream_eq_flatten⟩

end Launched

theorem exec_delivers_talking :
    ∃ started, Launch.plainShell.run Host.talking = .ok () started ∧
      (∀ moves, Delivers Host.talking (ofHandle (Handle.ofHost started) none) moves) ∧
        ((ofHandle (Handle.ofHost started) none).play punctual).ending? = some (.exited 0) ∧
          ((ofHandle (Handle.ofHost started) none).play punctual).stdout = [97, 98] := by
  have launched :
      Launch.plainShell.run Host.talking = .ok () (Launch.afterShell Host.talking) := rfl
  unfold Launch.plainShell at launched
  refine ⟨Launch.afterShell Host.talking, rfl, (exec_delivers launched none).1, ?_, ?_⟩
  · decide +kernel
  · decide +kernel

/-- The time limit expires, and the reaper is done before the pump reads for the first time. -/
def hurried : List ExecMove :=
  [.step .main, .expire] ++ List.replicate 7 (.step .main) ++
    List.replicate 13 (.step (.reaper 0)) ++ .step .pump :: List.replicate 4 (.step .main)

/-- Output is lost when the reaper of a late shell closes the master end under the pump, and when
the time limit is no number, whether or not the pump has come to read. -/
theorem exec_not_delivers :
    ∃ started, Launch.plainShell.run Host.talking = .ok () started ∧
      ((ofHandle (Handle.ofHost started) (some (.finite false 1 0))).play hurried).ending? =
          some (.exited 1) ∧
        (ofHandle (Handle.ofHost started) (some (.finite false 1 0))).Overtaken hurried ∧
          ((ofHandle (Handle.ofHost started) (some (.finite false 1 0))).play hurried).stdout = [] ∧
            ((ofHandle (Handle.ofHost started) (some .nan)).play [.step .main]).ending? =
                some (.uncaught .timeoutNotANumber) ∧
              ((ofHandle (Handle.ofHost started) (some .nan)).play [.step .main]).stdout = [] ∧
                Host.talking.output.flatten = [97, 98] := by
  refine ⟨Launch.afterShell Host.talking, rfl, by decide +kernel, ?_, by decide +kernel,
    by decide +kernel, by decide +kernel, rfl⟩
  exact ⟨hurried.take 22, List.take_prefix _ _, by decide +kernel, by decide +kernel⟩

end PtyShell.Cli.Exec
