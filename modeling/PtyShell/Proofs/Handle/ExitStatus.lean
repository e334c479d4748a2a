import PtyShell.Proofs.Handle.Roles
import PtyShell.Proofs.Termination

/-! # What becomes of an exit

The wait of a thread ends once. What it gave is what the thread publishes, so the result that a reap
or the reaper has put on record tells how the process ended, or why that is not known. -/

namespace PtyShell

def Thread.isWaiting : Thread → Bool
  | .enteringWait _ | .awaitingExit _ => true
  | _ => false

def waitReport : Except Fault Int → Option Report
  | .ok code => (exitFault? code).map .fault
  | .error fault => some (.fault fault)

namespace Handle

variable {handle : Handle} {thread next : Thread} {progress : Progress}

theorem step_waited (taken : handle.Step thread progress) (waited : thread.isWaiting = false)
    (goesOn : progress.next = some next) : next.isWaiting = false := by
  cases taken with
  | @unlockLost errand => cases errand <;> cases goesOn <;> rfl
  | @logResult errand => cases errand <;> cases goesOn <;> rfl
  | wait able | waitRefused refused system | exited ended => cases waited
  | _ => cases goesOn <;> rfl

end Handle

namespace Session

/-- A thread whose wait ends with its next step. -/
inductive WaitEnds (session : Session) (place : Nat) : Except Fault Int → Prop
  | returned {errand : Errand} {code : Int} (live : session.Live place (.awaitingExit errand))
      (exited : session.handle.host.returncode = some code) : WaitEnds session place (.ok code)
  | failed {errand : Errand} {fault : Fault} (live : session.Live place (.enteringWait errand))
      (refused : session.handle.host.waitFaults.head? = some fault) :
      WaitEnds session place (.error fault)

def WaitEnded (host : Host) (moves : List Move) (place : Nat) (outcome : Except Fault Int) : Prop :=
  ∃ before after, moves = before ++ .advance place :: after ∧
    ((ofHost host).run before).WaitEnds place outcome

/-- In one of the moves a thread put its report on record. -/
def Recorded (host : Host) (moves : List Move) (place : Nat) (errand : Errand)
    (report : Option Report) : Prop :=
  ∃ before after, moves = before ++ .advance place :: after ∧
    ((ofHost host).run before).Live place (.recordingResult errand report)

structure Waited (session : Session) (place : Nat) (outcome : Except Fault Int) : Prop where
  inside : place < session.threads.length
  live : ∀ thread, session.Live place thread →
    thread.isWaiting = false ∧ ∀ fault, outcome = .error fault → fault.isSystem = true

section Waits

variable {session after : Session} {place : Nat} {outcome other : Except Fault Int}

theorem WaitEnds.waits (ends : session.WaitEnds place outcome) :
    ∃ thread, session.Live place thread ∧ thread.isWaiting = true := by
  cases ends with
  | returned live exited => exact ⟨_, live, rfl⟩
  | failed live refused => exact ⟨_, live, rfl⟩

theorem WaitEnds.unique (ends : session.WaitEnds place outcome)
    (also : session.WaitEnds place other) : outcome = other := by
  cases ends with
  | returned live exited =>
      cases also with
      | returned _ same => rw [Option.some.inj (exited.symm.trans same)]
      | failed second refused => cases live.symm.trans second
  | failed live refused =>
      cases also with
      | returned second exited => cases live.symm.trans second
      | failed _ same => rw [Option.some.inj (refused.symm.trans same)]

theorem waited_of_step {thread : Thread} {progress : Progress} (live : session.Live place thread)
    (taken : session.handle.step thread = some progress)
    (goesOn : ∀ next, progress.next = some next →
      next.isWaiting = false ∧ ∀ fault, outcome = .error fault → fault.isSystem = true) :
    (session.move (.advance place)).Waited place outcome := by
  obtain ⟨inside, _⟩ := List.getElem?_eq_some_iff.mp live
  rw [move_live live taken]
  constructor
  · rw [threads_applied, List.length_append, List.length_set]
    omega
  · intro next found
    rw [Live, slot_applied inside, if_pos rfl] at found
    exact goesOn next (Option.some.inj found)

theorem WaitEnds.waited (ends : session.WaitEnds place outcome) :
    (session.move (.advance place)).Waited place outcome := by
  cases ends with
  | @returned errand code live exited =>
      have taken : session.handle.step (.awaitingExit errand) =
          session.handle.goOn (.claimingResult errand ((exitFault? code).map .fault)) := by
        simp only [Handle.step, Handle.stepAwaitingExit, exited]
      refine waited_of_step live taken ?_
      intro next goesOn
      cases goesOn
      refine ⟨rfl, ?_⟩
      intro fault failed
      cases failed
  | @failed errand fault live refused =>
      cases kind : fault.isSystem with
      | true =>
          have taken : session.handle.step (.enteringWait errand) =
              (session.handle.withHost session.handle.host.enterWait.2).goOn
                (.claimingResult errand (some (.fault fault))) := by
            simp only [Handle.step, Handle.stepEnteringWait, Host.enterWait, refused, kind, if_true]
            rfl
          refine waited_of_step live taken ?_
          intro next goesOn
          cases goesOn
          refine ⟨rfl, ?_⟩
          intro other same
          cases same
          exact kind
      | false =>
          have taken : session.handle.step (.enteringWait errand) =
              (session.handle.withHost session.handle.host.enterWait.2).finish
                (.failed fault) := by
            simp only [Handle.step, Handle.stepEnteringWait, Host.enterWait, refused, kind,
              Bool.false_eq_true, if_false]
            rfl
          refine waited_of_step live taken ?_
          intro next goesOn
          cases goesOn

theorem Waited.moved {move : Move} (waited : session.Waited place outcome)
    (moved : session.Moved move after) : after.Waited place outcome where
  inside := Nat.lt_of_lt_of_le waited.inside (length_moved moved)
  live := by
    intro thread live
    rcases live_moved moved waited.inside live with
      old | ⟨before, progress, found, taken, goesOn, _⟩
    · exact waited.live thread old
    · obtain ⟨gone, system⟩ := waited.live before found
      exact ⟨Handle.step_waited taken gone goesOn, system⟩

end Waits

section Runs

variable {host : Host} {moves : List Move} {place : Nat} {errand : Errand}
  {report : Option Report} {outcome other : Except Fault Int}

theorem WaitEnded.append (ended : WaitEnded host moves place outcome) (later : List Move) :
    WaitEnded host (moves ++ later) place outcome := by
  obtain ⟨before, after, rfl, ends⟩ := ended
  exact ⟨before, after ++ later, by simp, ends⟩

theorem Recorded.append (recorded : Recorded host moves place errand report) (later : List Move) :
    Recorded host (moves ++ later) place errand report := by
  obtain ⟨before, after, rfl, live⟩ := recorded
  exact ⟨before, after ++ later, by simp, live⟩

theorem WaitEnded.waited (ended : WaitEnded host moves place outcome) :
    ((ofHost host).run moves).Waited place outcome := by
  obtain ⟨before, after, rfl, ends⟩ := ended
  rw [run_append, run_cons]
  exact run_keeps (fun session => session.Waited place outcome) after
    (fun _ _ _ _ moved waited => waited.moved moved) _ ends.waited

theorem WaitEnds.first (ends : ((ofHost host).run moves).WaitEnds place outcome) :
    ¬WaitEnded host moves place other := by
  intro ended
  obtain ⟨thread, live, waits⟩ := ends.waits
  rw [(ended.waited.live thread live).1] at waits
  cases waits

theorem WaitEnds.together {between after later : List Move}
    (ends : ((ofHost host).run moves).WaitEnds place outcome)
    (second : ((ofHost host).run (moves ++ between)).WaitEnds place other)
    (same : .advance place :: after = between ++ .advance place :: later) : outcome = other := by
  cases between with
  | nil =>
      rw [List.append_nil] at second
      exact ends.unique second
  | cons move between =>
      rw [List.cons_append, List.cons.injEq] at same
      obtain ⟨rfl, _⟩ := same
      exact absurd ⟨moves, between, rfl, ends⟩ second.first

/-- The wait of a thread ends once. -/
theorem WaitEnded.unique (ended : WaitEnded host moves place outcome)
    (also : WaitEnded host moves place other) : outcome = other := by
  obtain ⟨before, after, rfl, ends⟩ := ended
  obtain ⟨earlier, later, same, second⟩ := also
  rcases List.append_eq_append_iff.mp same with ⟨between, rfl, rest⟩ | ⟨between, rfl, rest⟩
  · exact ends.together second rest
  · exact (second.together ends rest).symm

theorem WaitGave.ended (gave : WaitGave host moves place errand report) :
    ∃ outcome, WaitEnded host moves place outcome ∧ report = waitReport outcome := by
  obtain ⟨before, after, thread, rfl, live, gives⟩ := gave
  rcases gives with ⟨rfl, fault, refused, rfl⟩ | ⟨rfl, code, exited, rfl⟩
  · exact ⟨.error fault, ⟨before, after, rfl, .failed live refused⟩, rfl⟩
  · exact ⟨.ok code, ⟨before, after, rfl, .returned live exited⟩, rfl⟩

theorem Recorded.result (recorded : Recorded host moves place errand report) :
    ((ofHost host).run moves).handle.result = some ⟨report⟩ := by
  obtain ⟨before, after, rfl, live⟩ := recorded
  have moved := ((ofHost host).run before).moved (.advance place)
  have orderly := (run_orderly host before).moved moved
  rw [run_append, run_cons]
  apply (orderly.keeps_run after).result
  rw [move_live live rfl]
  rfl

/-- A thread that puts a report on record on the account of its wait has that report from its wait,
which gave a return code or a fault of the system. -/
theorem Recorded.waited (recorded : Recorded host moves place errand report)
    (waits : errand ≠ .publish) :
    ∃ outcome, WaitEnded host moves place outcome ∧ report = waitReport outcome ∧
      ∀ fault, outcome = .error fault → fault.isSystem = true := by
  obtain ⟨before, after, rfl, live⟩ := recorded
  obtain ⟨outcome, ended, same⟩ :=
    ((run_reported host before).live place _ errand report live rfl waits).ended
  exact ⟨outcome, ended.append _, same, (ended.waited.live _ live).2⟩

theorem result_recorded (host : Host) (moves : List Move) {result : Termination}
    (found : ((ofHost host).run moves).handle.result = some result) :
    ∃ place errand, Recorded host moves place errand result.error := by
  induction moves using List.reverseRecOn with
  | nil => cases found
  | append_singleton moves move ih =>
      have old (same : ((ofHost host).run moves).handle.result = some result) :
          ∃ place errand, Recorded host (moves ++ [move]) place errand result.error := by
        obtain ⟨place, errand, recorded⟩ := ih same
        exact ⟨place, errand, recorded.append _⟩
      have moved := ((ofHost host).run moves).moved move
      rw [run_append, run_cons, run_nil] at found
      generalize ((ofHost host).run moves).move move = after at moved found
      cases moved with
      | call call => exact old found
      | exit code => exact old found
      | stay place => exact old found
      | @step place thread progress live taken =>
          rcases Handle.step_result taken with same | ⟨errand, report, rfl, recorded⟩
          · exact old (same.symm.trans found)
          · cases recorded.symm.trans found
            exact ⟨place, errand, moves, [], rfl, live⟩

/-- What the result of a session tells of the process. -/
structure TellsExit (host : Host) (moves : List Move) : Prop where
  recorded : ∀ result, ((ofHost host).run moves).handle.result = some result ↔
    ∃ place errand, Recorded host moves place errand result.error
  waited : ∀ place errand report, Recorded host moves place errand report → errand ≠ .publish →
    ∃ outcome, WaitEnded host moves place outcome
  returned : ∀ place errand report, Recorded host moves place errand report → errand ≠ .publish →
    ∀ code, WaitEnded host moves place (.ok code) → (⟨report⟩ : Termination).Tells code
  failed : ∀ place errand report, Recorded host moves place errand report → errand ≠ .publish →
    ∀ fault, WaitEnded host moves place (.error fault) →
      fault.isSystem = true ∧ report = some (.fault fault) ∧
        (⟨report⟩ : Termination).success = false ∧ (⟨report⟩ : Termination).exitCode = -1

/-- A result that was put on record after a wait tells the return code or the fault of that wait,
and no report of anyone is decoded to anything but the exit code that it stands for or -1. -/
theorem run_tellsExit :
    (∀ host moves, TellsExit host moves) ∧ ∀ result : Termination, result.Decodes := by
  refine ⟨fun host moves => ⟨?_, ?_, ?_, ?_⟩, Termination.decodes⟩
  · intro result
    constructor
    · exact result_recorded host moves
    · rintro ⟨place, errand, recorded⟩
      exact recorded.result
  · intro place errand report recorded waits
    obtain ⟨outcome, ended, _⟩ := recorded.waited waits
    exact ⟨outcome, ended⟩
  · intro place errand report recorded waits code returned
    obtain ⟨outcome, ended, rfl, _⟩ := recorded.waited waits
    cases ended.unique returned
    exact Termination.tells_exit code
  · intro place errand report recorded waits fault failed
    obtain ⟨outcome, ended, rfl, system⟩ := recorded.waited waits
    cases ended.unique failed
    exact ⟨system fault rfl, rfl, rfl, Termination.exitCode_system (system fault rfl)⟩

def closingUntil (steps : Nat) : List Move :=
  .call .close :: List.replicate 6 (.advance 0) ++ List.replicate steps (.advance 1)

/-- The reaper of a shell that was killed puts the signal on record, and the reaper of one that
cannot be waited for the fault of its wait. -/
theorem run_tellsExit_killed :
    (∃ report, Recorded Host.plain closingMoves 1 .reaper report ∧
      (⟨report⟩ : Termination).Tells (-9)) ∧
    ∃ fault, Recorded Host.refusing closingMoves 1 .reaper (some (.fault fault)) ∧
      (⟨some (.fault fault)⟩ : Termination).exitCode = -1 := by
  constructor
  · have recorded : Recorded Host.plain closingMoves 1 .reaper
        (some (.fault (.exited (-9)))) :=
      ⟨closingUntil 4, List.replicate 7 (.advance 1), rfl, rfl⟩
    have returned : WaitEnded Host.plain closingMoves 1 (.ok (-9)) :=
      ⟨closingUntil 1, List.replicate 10 (.advance 1), rfl, .returned rfl rfl⟩
    exact ⟨_, recorded, (run_tellsExit.1 _ _).returned _ _ _ recorded (by decide) _ returned⟩
  · have recorded : Recorded Host.refusing closingMoves 1 .reaper
        (some (.fault (.system 10 "No child processes" none))) :=
      ⟨closingUntil 3, List.replicate 8 (.advance 1), rfl, rfl⟩
    have failed : WaitEnded Host.refusing closingMoves 1
        (.error (.system 10 "No child processes" none)) :=
      ⟨closingUntil 0, List.replicate 11 (.advance 1), rfl, .failed rfl rfl⟩
    exact ⟨_, recorded,
      ((run_tellsExit.1 _ _).failed _ _ _ recorded (by decide) _ failed).2.2.2⟩

end Runs

end Session

end PtyShell
