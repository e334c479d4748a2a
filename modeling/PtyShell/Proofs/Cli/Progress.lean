import Mathlib.Algebra.GroupWithZero.Nat
import PtyShell.Proofs.Cli.Patience
import PtyShell.Proofs.Handle.Progress

namespace PtyShell

theorem Drain.remaining_output {before after : Host} (same : after.output = before.output)
    (point : DrainPoint) : remaining after point = remaining before point := by
  cases point with
  | reading => simp only [remaining, Host.unread, same]
  | blocked | ended => rfl

namespace Cli.Exec

/-- How many steps the main thread and the threads it starts take at most from a point on. -/
def rank : ExecPoint → Nat
  | .starting => 26
  | .joining => 25
  | .checking => 24
  | .joiningPump none => 23
  | .waiting thread false => thread.rank + 20
  | .closing thread (some _) => thread.rank + 1
  | .closing thread none => thread.rank + 4
  | .waiting thread true => thread.rank + 2
  | .joiningPump (some _) => 2
  | .announcing _ => 1
  | .finished _ => 0

def leftOver (reapers : List (Option Thread)) : Nat :=
  (reapers.map Thread.left).sum

def remaining (exec : Exec) : Nat :=
  rank exec.main + Thread.left exec.reap + leftOver exec.reapers +
    Drain.remaining exec.handle.host exec.pump

def taken? (exec : Exec) : ExecMove → Option Exec
  | .step thread => exec.step thread
  | .expire => exec.expire
  | .exit _ => none

def steps (exec : Exec) : List ExecMove → Nat
  | [] => 0
  | move :: moves => (exec.taken? move).isSome.toNat + (exec.move move).steps moves

variable {exec after : Exec} {move : ExecMove}

section Rank

variable {progress : Progress} {thread : Thread}

theorem leftOver_absorb (exec : Exec) (progress : Progress) :
    leftOver (exec.absorb progress).reapers =
      leftOver exec.reapers + Thread.left progress.started := by
  unfold leftOver
  rw [reapers_absorb, List.map_append, List.sum_append]
  cases progress.started <;> simp

theorem leftOver_set {reapers : List (Option Thread)} {place : Nat} {old : Option Thread}
    (found : reapers[place]? = some old) (new : Option Thread) :
    leftOver (reapers.set place new) + Thread.left old =
      leftOver reapers + Thread.left new := by
  induction reapers generalizing place with
  | nil => cases found
  | cons first others ih =>
      cases place with
      | zero =>
          cases found
          simp only [leftOver, List.set_cons_zero, List.map_cons, List.sum_cons]
          omega
      | succ place =>
          have later := ih (List.getElem?_cons_succ ▸ found)
          simp only [leftOver, List.set_cons_succ, List.map_cons, List.sum_cons] at later ⊢
          omega

/-- A step on the handle pays for the thread it starts. -/
theorem absorb_rank (taken : exec.handle.Step thread progress) :
    Thread.left progress.next + leftOver (exec.absorb progress).reapers <
      thread.rank + leftOver exec.reapers := by
  have lower := Handle.step_rank taken
  rw [leftOver_absorb]
  omega

theorem rank_closing (thread : Thread) (known : Option Termination) :
    rank (.closing thread known) = thread.rank + rank (afterClosing known) := by
  cases known <;> rfl

theorem rank_waiting (thread : Thread) (timedOut : Bool) (result : Termination) :
    rank (.waiting thread timedOut) = thread.rank + rank (afterWaiting result timedOut) := by
  cases timedOut <;> rfl

theorem Goes.rank {before : ExecPoint} (taken : exec.Goes before after) :
    Exec.rank after.main + leftOver after.reapers < Exec.rank before + leftOver exec.reapers := by
  cases taken with
  | @close thread next known progress taken goesOn =>
      have lower := absorb_rank taken
      rw [goesOn, Thread.left_some] at lower
      show Exec.rank (.closing next known) + leftOver (exec.absorb progress).reapers < _
      rw [rank_closing, rank_closing]
      omega
  | @closeFailed thread known progress fault taken ended noted =>
      have lower := absorb_rank taken
      show 0 + leftOver (exec.absorb progress).reapers < _
      rw [rank_closing]
      omega
  | @closed thread known progress taken ended succeeded =>
      have lower := absorb_rank taken
      show Exec.rank (afterClosing known) + leftOver (exec.absorb progress).reapers < _
      rw [rank_closing]
      omega
  | @wait thread next timedOut progress taken goesOn =>
      have lower := absorb_rank taken
      rw [goesOn, Thread.left_some] at lower
      show Exec.rank (.waiting next timedOut) + leftOver (exec.absorb progress).reapers < _
      rw [rank_waiting next timedOut ⟨none⟩, rank_waiting thread timedOut ⟨none⟩]
      omega
  | @waited thread timedOut progress observer result taken ended noted =>
      have lower := absorb_rank taken
      show Exec.rank (afterWaiting result timedOut) + leftOver (exec.absorb progress).reapers < _
      rw [rank_waiting thread timedOut result]
      omega
  | @waitFailed thread timedOut progress _ taken | @waitLost thread timedOut progress taken =>
      have lower := absorb_rank taken
      show 0 + leftOver (exec.absorb progress).reapers < _
      rw [rank_waiting thread timedOut ⟨none⟩]
      omega
  | @joinPump known drained =>
      cases known <;> simp [Exec.rank, goTo, afterPump, Call.thread, Thread.rank]
  | begin kept | refuse refused | join ended | inTime done | tooLate undone | announce =>
      simp [Exec.rank, goTo, notice, Call.thread, Thread.rank]

theorem Goes.output {before : ExecPoint} (taken : exec.Goes before after) :
    after.pump = exec.pump ∧ after.handle.host.output = exec.handle.host.output := by
  cases taken with
  | close taken goesOn | closeFailed taken ended noted | closed taken ended succeeded
  | wait taken goesOn | waited taken ended noted | waitFailed taken ended noted
  | waitLost taken ended silent => exact ⟨rfl, Handle.step_output taken⟩
  | _ => exact ⟨rfl, rfl⟩

theorem remaining_main (taken : exec.stepMain = some after) :
    after.remaining < exec.remaining := by
  have goes := stepMain_cases taken
  have lower := goes.rank
  obtain ⟨pump, output⟩ := goes.output
  unfold remaining
  rw [goes.others.1, pump, Drain.remaining_output output]
  omega

theorem remaining_step {thread : ExecThread} (taken : exec.step thread = some after) :
    after.remaining < exec.remaining := by
  cases thread with
  | main => exact remaining_main taken
  | pump =>
      obtain ⟨progress, found, rfl⟩ := Option.map_eq_some_iff.mp taken
      exact Nat.add_lt_add_left (Drain.step_cases found).remaining _
  | reap =>
      simp only [step, stepReap] at taken
      split at taken
      · cases taken
      · next thread live =>
          obtain ⟨progress, found, rfl⟩ := Option.map_eq_some_iff.mp taken
          have rule := Handle.step_cases found
          have lower := absorb_rank rule
          have output := Drain.remaining_output (Handle.step_output rule) exec.pump
          show rank exec.main + Thread.left progress.next +
            leftOver (exec.absorb progress).reapers +
              Drain.remaining progress.handle.host exec.pump < _
          unfold remaining
          rw [live, Thread.left_some, output]
          omega
  | reaper place =>
      simp only [step, stepReaper] at taken
      split at taken
      · next thread live =>
          obtain ⟨progress, found, rfl⟩ := Option.map_eq_some_iff.mp taken
          have rule := Handle.step_cases found
          have lower := absorb_rank rule
          have output := Drain.remaining_output (Handle.step_output rule) exec.pump
          have still : (exec.absorb progress).reapers[place]? = some (some thread) := by
            rw [reapers_absorb]
            exact List.getElem?_append_left (List.getElem?_eq_some_iff.mp live).1 ▸ live
          have counted := leftOver_set still progress.next
          show rank exec.main + Thread.left exec.reap +
            leftOver ((exec.absorb progress).reapers.set place progress.next) +
              Drain.remaining progress.handle.host exec.pump < _
          rw [Thread.left_some] at counted
          unfold remaining
          rw [output]
          omega
      · cases taken

theorem remaining_expire (taken : exec.expire = some after) :
    after.remaining < exec.remaining := by
  unfold expire at taken
  split at taken
  · next possible =>
      cases taken
      unfold remaining
      rw [possible.1]
      show 24 + Thread.left exec.reap + leftOver exec.reapers +
        Drain.remaining exec.handle.host exec.pump < 25 + Thread.left exec.reap +
          leftOver exec.reapers + Drain.remaining exec.handle.host exec.pump
      omega
  · cases taken

end Rank

section Steps

theorem remaining_taken (taken : exec.taken? move = some after) :
    exec.move move = after ∧ after.remaining < exec.remaining := by
  cases move with
  | step thread => exact ⟨move_step taken, remaining_step taken⟩
  | expire =>
      have possible : exec.expire = some after := taken
      exact ⟨by simp [Exec.move, possible], remaining_expire possible⟩
  | exit code => cases taken

theorem remaining_idle (idle : exec.taken? move = none) :
    (exec.move move).remaining = exec.remaining := by
  cases move with
  | step thread =>
      have stuck : exec.step thread = none := idle
      simp [Exec.move, stuck]
  | expire =>
      have stuck : exec.expire = none := idle
      simp [Exec.move, stuck]
  | exit code => rfl

theorem steps_play (moves : List ExecMove) (exec : Exec) :
    exec.steps moves + (exec.play moves).remaining ≤ exec.remaining := by
  induction moves generalizing exec with
  | nil => exact Nat.le_of_eq (Nat.zero_add _)
  | cons move moves ih =>
      have later := ih (exec.move move)
      unfold steps
      rw [play_cons]
      cases taken : exec.taken? move with
      | none =>
          rw [remaining_idle taken] at later
          simpa using later
      | some next =>
          obtain ⟨same, closer⟩ := remaining_taken taken
          rw [same] at later ⊢
          simp only [Option.isSome_some, Bool.toNat_true]
          omega

theorem remaining_ofHandle (host : Host) (timeout : Option Binary64) :
    (ofHandle (Handle.ofHost host) timeout).remaining ≤
      (ofHandle (Handle.ofHost host) timeout).bound := by
  show 26 + 13 + 0 + (host.unread + 2) ≤ host.unread + host.output.length + 2 + 96
  omega

end Steps

/-- Whether no thread can go on. -/
def Stuck (exec : Exec) : Prop :=
  ∀ thread, exec.step thread = none

theorem stepClosing_ne_none {thread : Thread} {progress : Progress}
    (taken : exec.handle.step thread = some progress) (known : Option Termination) :
    exec.stepClosing thread known ≠ none := by
  unfold stepClosing
  rw [taken]
  cases ended : progress.next with
  | some next => simp [ended, goOn]
  | none =>
      cases noted : progress.note with
      | none => cases known <;> simp [ended, noted, goOn]
      | some note => cases note <;> cases known <;> simp [ended, noted, goOn]

theorem stepWaiting_ne_none {thread : Thread} {progress : Progress}
    (taken : exec.handle.step thread = some progress) (timedOut : Bool) :
    exec.stepWaiting thread timedOut ≠ none := by
  unfold stepWaiting
  rw [taken]
  cases ended : progress.next with
  | some next => simp [ended, goOn]
  | none =>
      cases noted : progress.note with
      | none => simp [ended, noted, goOn]
      | some note => cases note <;> cases timedOut <;> simp [ended, noted, goOn]

theorem Stuck.live (stuck : exec.Stuck) {place : Nat} {thread : Thread}
    (live : exec.session.Live place thread) : exec.handle.step thread = none := by
  match place, live with
  | 0, live =>
      have still : exec.stepMain = none := stuck .main
      have inside : exec.main.thread? = some thread := Option.some.inj live
      cases taken : exec.handle.step thread with
      | none => rfl
      | some progress =>
          unfold stepMain at still
          cases stands : exec.main with
          | closing own known =>
              rw [stands] at inside still
              cases inside
              exact absurd still (stepClosing_ne_none taken known)
          | waiting own timedOut =>
              rw [stands] at inside still
              cases inside
              exact absurd still (stepWaiting_ne_none taken timedOut)
          | _ =>
              rw [stands] at inside
              cases inside
  | 1, live =>
      have still : exec.stepReap = none := stuck .reap
      have found : exec.reap = some thread := Option.some.inj live
      simpa [stepReap, found] using still
  | place + 2, live =>
      have still : exec.stepReaper place = none := stuck (.reaper place)
      have found : exec.reapers[place]? = some (some thread) := live
      simpa [stepReaper, found] using still

theorem Stuck.unlocked (stuck : exec.Stuck) (orderly : exec.session.Orderly) :
    exec.handle.locked = false := by
  cases locked : exec.handle.locked with
  | false => rfl
  | true =>
      have counted : exec.session.number Thread.holdsLock = 1 := by
        rw [orderly.lock]
        exact congrArg Bool.toNat locked
      obtain ⟨place, thread, live, inside⟩ :=
        Session.exists_of_number_pos (Nat.lt_of_lt_of_eq Nat.one_pos counted.symm)
      exact absurd (stuck.live live) (Handle.step_inside inside)

theorem Moved.unexpired (moved : exec.Moved move after) (other : move ≠ .expire) :
    after.expired = exec.expired := by
  cases moved with
  | main taken => exact taken.others.2
  | expire joining limited => exact absurd rfl other
  | _ => rfl

theorem play_unexpired {moves : List ExecMove} (patient : .expire ∉ moves) :
    (exec.play moves).expired = exec.expired := by
  induction moves generalizing exec with
  | nil => rfl
  | cons move moves ih =>
      rw [List.mem_cons, not_or] at patient
      obtain ⟨other, later⟩ := patient
      rw [play_cons, ih later]
      exact (exec.moved move).unexpired (Ne.symm other)

section Settling

theorem Tidy.single_absorb (tidy : exec.Tidy) {thread : Thread} {progress : Progress}
    (relies : thread.Relies exec.handle) (taken : exec.handle.Step thread progress)
    (single : exec.reapers.length ≤ 1) : (exec.absorb progress).reapers.length ≤ 1 := by
  rw [reapers_absorb, List.length_append]
  rcases Handle.step_starts taken relies with ⟨nothing, _⟩ | ⟨started, absent, _⟩
  · simpa [nothing] using single
  · simp [started, tidy.attended.unstarted absent]

theorem Moved.single (moved : exec.Moved move after) (tidy : exec.Tidy)
    (single : exec.reapers.length ≤ 1) : after.reapers.length ≤ 1 := by
  cases moved with
  | main taken =>
      generalize stands : exec.main = before at taken
      cases taken with
      | close taken goesOn | closeFailed taken ended noted | closed taken ended succeeded
      | wait taken goesOn | waited taken ended noted | waitFailed taken ended noted
      | waitLost taken ended silent =>
          have inside : exec.main.thread? = some _ := congrArg ExecPoint.thread? stands
          exact tidy.single_absorb (tidy.relies_main inside) taken single
      | _ => exact single
  | reap live taken => exact tidy.single_absorb (tidy.relies_reap live) taken single
  | reaper live taken =>
      simp only [List.length_set]
      exact tidy.single_absorb (tidy.relies_reaper live) taken single
  | _ => exact single

structure Settling (host : Host) (exec : Exec) : Prop where
  follows : Follows host exec
  /-- The reaping thread waits for the result only once it was signalled. -/
  signalled : ∀ observer, exec.reap = some (.awaitingDone observer) → exec.handle.done = true
  single : exec.reapers.length ≤ 1

variable {host : Host}

theorem Settling.moved (settling : Settling host exec)
    (waits : ∀ fault ∈ host.waitFaults, fault.isSystem = true) (moved : exec.Moved move after) :
    Settling host after where
  follows := settling.follows.moved waits moved
  signalled := by
    intro observer awaits
    have keeps := (moved.keeps settling.follows.tidy).1
    cases moved with
    | main taken => exact keeps.done (settling.signalled observer (taken.others.1 ▸ awaits))
    | reap live taken =>
        exact Handle.step_awaits taken (settling.follows.tidy.relies_reap live) awaits
    | _ => exact keeps.done (settling.signalled observer awaits)
  single := moved.single settling.follows.tidy settling.single

theorem Settling.play (settling : Settling host exec)
    (waits : ∀ fault ∈ host.waitFaults, fault.isSystem = true) (moves : List ExecMove) :
    Settling host (exec.play moves) :=
  play_keeps (Settling host) (fun _ _ _ moved settling => settling.moved waits moved) moves exec
    settling

theorem Settling.ended (settling : Settling host exec) (stuck : exec.Stuck) {code : Int}
    (exited : exec.handle.host.returncode = some code) :
    ∃ ending, exec.ending? = some ending := by
  have tidy := settling.follows.tidy
  have free := stuck.unlocked tidy.orderly
  have waiting {place : Nat} {thread : Thread} (live : exec.session.Live place thread) :=
    Handle.step_free free exited (stuck.live live)
  have reaped : exec.reap = none := by
    cases live : exec.reap with
    | none => rfl
    | some thread =>
        have found : exec.session.Live 1 thread := congrArg some live
        obtain ⟨⟨observer, rfl⟩, undone⟩ := waiting found
        rw [settling.signalled observer live] at undone
        cases undone
  have done := settling.follows.timed.reaped reaped
  -- Now nobody waits for the result, so the main thread is between its calls.
  have idle : exec.main.thread? = none := by
    cases inside : exec.main.thread? with
    | none => rfl
    | some thread =>
        have found : exec.session.Live 0 thread := congrArg some inside
        have undone := (waiting found).2
        rw [done] at undone
        cases undone
  have drained : exec.pump = .ended := by
    rcases Drain.step_none (Option.map_eq_none_iff.mp (stuck .pump)) with ended | ⟨_, running⟩
    · exact ended
    · rw [exited] at running
      cases running
  have still : exec.stepMain = none := stuck .main
  unfold stepMain at still
  cases stands : exec.main with
  | finished ending => exact ⟨ending, by simp only [ending?, stands]⟩
  | starting => cases limited : limitFault? exec.timeout <;> simp [stands, limited, goOn] at still
  | joining => simp [stands, reaped, goOn] at still
  | checking => simp [stands, done, goOn] at still
  | joiningPump known => cases known <;> simp [stands, drained, goOn] at still
  | announcing result => simp [stands, goOn] at still
  | closing thread known | waiting thread timedOut =>
      rw [stands] at idle
      cases idle

theorem Settling.stuck (settling : Settling host exec) (main : exec.step .main = none)
    (pump : exec.step .pump = none) (reap : exec.step .reap = none)
    (reaper : exec.step (.reaper 0) = none) : exec.Stuck := by
  intro thread
  cases thread with
  | main => exact main
  | pump => exact pump
  | reap => exact reap
  | reaper place =>
      cases place with
      | zero => exact reaper
      | succ place =>
          have single := settling.single
          have absent : exec.reapers[place + 1]? = none :=
            List.getElem?_eq_none_iff.mpr (by omega)
          simp [step, stepReaper, absent]

theorem Settling.next (settling : Settling host exec) {code : Int}
    (exited : exec.handle.host.returncode = some code) {next : Exec}
    (chosen : exec.next? = some next) : ∃ thread, exec.step thread = some next := by
  simp only [next?, Option.orElse_eq_orElse, Option.orElse_eq_or, Option.or_eq_some_iff] at chosen
  rcases chosen with main | ⟨main, pump | ⟨pump, reap | ⟨reap, reaper | ⟨reaper, expires⟩⟩⟩⟩
  · exact ⟨_, main⟩
  · exact ⟨_, pump⟩
  · exact ⟨_, reap⟩
  · exact ⟨_, reaper⟩
  · obtain ⟨ending, ended⟩ := settling.ended (settling.stuck main pump reap reaper) exited
    have stands := ending_finished ended
    simp [expire, stands] at expires

/-- Once the process has exited, the program comes to its end before the time limit does. -/
theorem Settling.complete (settling : Settling host exec)
    (waits : ∀ fault ∈ host.waitFaults, fault.isSystem = true) {code : Int}
    (exited : exec.handle.host.returncode = some code) (fuel : Nat)
    (enough : exec.remaining ≤ fuel) :
    ∃ moves, exec.complete fuel = exec.play moves ∧ .expire ∉ moves ∧
      ∃ ending, (exec.play moves).ending? = some ending := by
  induction fuel generalizing exec with
  | zero =>
      have stuck : exec.Stuck := by
        intro thread
        cases taken : exec.step thread with
        | none => rfl
        | some next =>
            have closer := remaining_step taken
            omega
      exact ⟨[], rfl, List.not_mem_nil, settling.ended stuck exited⟩
  | succ fuel ih =>
      unfold Exec.complete
      cases chosen : exec.next? with
      | none =>
          simp only [next?, Option.orElse_eq_orElse, Option.orElse_eq_or,
            Option.or_eq_none_iff] at chosen
          obtain ⟨main, pump, reap, reaper, _⟩ := chosen
          exact ⟨[], rfl, List.not_mem_nil,
            settling.ended (settling.stuck main pump reap reaper) exited⟩
      | some next =>
          obtain ⟨thread, taken⟩ := settling.next exited chosen
          have moved := moved_step taken
          have closer := remaining_step taken
          have continues := (moved.keeps settling.follows.tidy).2
          obtain ⟨moves, played, patient, ended⟩ :=
            ih (settling.moved waits moved) (continues.returncode code exited) (by omega)
          have same : exec.play (.step thread :: moves) = next.play moves := by
            rw [play_cons, move_step taken]
          refine ⟨.step thread :: moves, played.trans same.symm, ?_, same ▸ ended⟩
          intro member
          rcases List.mem_cons.mp member with other | later
          · cases other
          · exact patient later

end Settling

end Cli.Exec

end PtyShell
