import PtyShell.Proofs.Launch.Started
import PtyShell.Proofs.Runner.Step

/-! # A first wait that fails

The runner then kills the process, waits for it a second time and ends with the fault of the first
wait. A later call that fails puts its own fault in the place of that one, and a kill that fails
leaves out the second wait. -/

namespace PtyShell

namespace Run

structure Tried (start : Host) (kills waits : Nat) (host : Host) : Prop where
  faults : host.faults = start.faults
  killable : host.killable = start.killable
  kills : host.kills = start.kills + kills
  waits : host.waits = start.waits + waits

structure CleanedUp (start : Host) (cause : Fault) (later : List Fault) (host : Host)
    (fault : Fault) : Prop where
  fault : fault = (start.faults.kill <|> later.head?).getD cause
  tried : Tried start 1 (if start.faults.kill = none then 2 else 1) host
  /-- After a kill the process has ended, unless it cannot be killed and is not waited for. -/
  ended : start.faults.kill = none → start.killable = true ∨ later.head? = none →
    host.returncode ≠ none

/-- What was done where the waiting thread stands, if its first wait fails with a cause and `later`
holds the faults of later waits. -/
def CleansUp (start : Host) (cause : Fault) (later : List Fault) (host : Host) : RunPoint → Prop
  | .enteringWait => Tried start 0 0 host ∧ host.waitFaults = cause :: later
  | .killing own => own = cause ∧ Tried start 0 1 host ∧ host.waitFaults = later
  | .enteringSecondWait own =>
    own = cause ∧ Tried start 1 1 host ∧ host.waitFaults = later ∧ start.faults.kill = none ∧
      (start.killable = true → host.returncode ≠ none)
  | .awaitingSecondExit own =>
    own = cause ∧ Tried start 1 2 host ∧ later.head? = none ∧ start.faults.kill = none
  | .joining (.failed fault) | .closing (.failed fault) => CleanedUp start cause later host fault
  | .finished (.fault fault) =>
    ∃ own, CleanedUp start cause later host own ∧ fault = start.faults.close.getD own
  | _ => False

section

variable {start : Host} {cause : Fault} {later : List Fault} {run : Run}

theorem CleansUp.keeps {before after : Host} {point : RunPoint}
    (cleans : CleansUp start cause later before point)
    (tried : ∀ kills waits, Tried start kills waits before → Tried start kills waits after)
    (waitFaults : after.waitFaults = before.waitFaults)
    (ended : before.returncode ≠ none → after.returncode ≠ none) :
    CleansUp start cause later after point := by
  have cleaned {fault : Fault} (cleaned : CleanedUp start cause later before fault) :
      CleanedUp start cause later after fault :=
    ⟨cleaned.fault, tried _ _ cleaned.tried,
      fun possible how => ended (cleaned.ended possible how)⟩
  cases point with
  | enteringWait => exact ⟨tried _ _ cleans.1, waitFaults.trans cleans.2⟩
  | killing own => exact ⟨cleans.1, tried _ _ cleans.2.1, waitFaults.trans cleans.2.2⟩
  | enteringSecondWait own =>
      obtain ⟨same, once, left, possible, killed⟩ := cleans
      exact ⟨same, tried _ _ once, waitFaults.trans left, possible, fun able => ended (killed able)⟩
  | awaitingSecondExit own =>
      exact ⟨cleans.1, tried _ _ cleans.2.1, cleans.2.2.1, cleans.2.2.2⟩
  | joining verdict | closing verdict =>
      cases verdict with
      | returned code => cases cleans
      | failed fault => exact cleaned cleans
  | finished outcome =>
      cases outcome with
      | output bytes => cases cleans
      | fault fault =>
          obtain ⟨own, before, same⟩ := cleans
          exact ⟨own, cleaned before, same⟩
  | awaitingExit | deciding code => cases cleans

theorem Tried.wait {kills waits : Nat} {host : Host} (tried : Tried start kills waits host) :
    Tried start kills (waits + 1) host.enterWait.2 where
  faults := tried.faults
  killable := tried.killable
  kills := by rw [Host.kills_enterWait, tried.kills]
  waits := by rw [Host.waits_enterWait, tried.waits, Nat.add_assoc]

theorem Tried.killRefused {kills waits : Nat} {host : Host} (tried : Tried start kills waits host) :
    Tried start (kills + 1) waits (host.record .kill) where
  faults := tried.faults
  killable := tried.killable
  kills := by
    rw [Host.kills_record, tried.kills]
    rfl
  waits := by
    rw [Host.waits_record, tried.waits]
    rfl

theorem Tried.kill {kills waits : Nat} {host : Host} (tried : Tried start kills waits host) :
    Tried start (kills + 1) waits host.killed where
  faults := (Host.killed_faults host).trans tried.faults
  killable := (Host.killed_killable host).trans tried.killable
  kills := by rw [Host.kills_killed, tried.kills, Nat.add_assoc]
  waits := by rw [Host.waits_killed, tried.waits]

theorem CleanedUp.close {host : Host} {fault : Fault}
    (cleaned : CleanedUp start cause later host fault) :
    CleanedUp start cause later (host.closed .master) fault where
  fault := cleaned.fault
  tried :=
    { faults := cleaned.tried.faults
      killable := cleaned.tried.killable
      kills := (Host.kills_closed .master host).trans cleaned.tried.kills
      waits := (Host.waits_closed .master host).trans cleaned.tried.waits }
  ended := cleaned.ended

theorem Goes.cleansUp {before after : RunPoint} {next : Host} (taken : run.Goes before next after)
    (cleans : CleansUp start cause later run.host before) :
    CleansUp start cause later next after := by
  cases taken with
  | wait able =>
      rw [cleans.2] at able
      cases able
  | @waitFailed fault refused =>
      rw [cleans.2] at refused
      cases refused
      refine ⟨rfl, cleans.1.wait, ?_⟩
      show run.host.waitFaults.tail = later
      rw [cleans.2]
      rfl
  | kill possible =>
      obtain ⟨same, tried, left⟩ := cleans
      refine ⟨same, tried.kill, ?_, ?_, ?_⟩
      · rw [Host.killed_waitFaults]
        exact left
      · rw [← tried.faults]
        exact possible
      · intro killable
        exact Host.killed_ended run.host (tried.killable.trans killable)
  | @killFailed own fault refused =>
      obtain ⟨same, tried, left⟩ := cleans
      rw [tried.faults] at refused
      refine ⟨?_, ?_, ?_⟩
      · simp [refused]
      · rw [if_neg (by simp [refused])]
        exact tried.killRefused
      · intro possible
        rw [refused] at possible
        cases possible
  | waitAgain able =>
      obtain ⟨same, tried, left, possible, killed⟩ := cleans
      rw [left] at able
      exact ⟨same, tried.wait, able, possible⟩
  | @waitAgainFailed own fault refused =>
      obtain ⟨same, tried, left, possible, killed⟩ := cleans
      rw [left] at refused
      refine ⟨?_, ?_, ?_⟩
      · simp [possible, refused]
      · rw [if_pos possible]
        exact tried.wait
      · intro _ how
        rcases how with killable | none
        · exact killed killable
        · rw [refused] at none
          cases none
  | @exitedAgain own code ended =>
      obtain ⟨same, tried, last, possible⟩ := cleans
      refine ⟨?_, ?_, ?_⟩
      · simp [possible, last, same]
      · rw [if_pos possible]
        exact tried
      · intro _ _ running
        rw [ended] at running
        cases running
  | @join verdict drained =>
      cases verdict with
      | returned code => cases cleans
      | failed fault => exact cleans
  | @closeFailed verdict fault refused =>
      cases verdict with
      | returned code => cases cleans
      | failed own =>
          refine ⟨own, CleanedUp.close cleans, ?_⟩
          rw [← cleans.tried.faults, refused]
          rfl
  | @closeAfterFault own possible =>
      refine ⟨own, CleanedUp.close cleans, ?_⟩
      rw [← cleans.tried.faults, possible]
      rfl
  | exited ended | close possible | succeed | fail nonzero => cases cleans

theorem CleansUp.moved (cleans : CleansUp start cause later run.host run.main) {move : RunMove}
    {after : Run} (moved : run.Moved move after) :
    CleansUp start cause later after.host after.main := by
  cases moved with
  | main taken => exact taken.cleansUp cleans
  | @drain progress taken =>
      have same := taken.same
      refine CleansUp.keeps cleans ?_ ?_ ?_
      · intro kills waits tried
        refine ⟨?_, ?_, taken.kills.trans tried.kills, taken.waits.trans tried.waits⟩
        · show progress.host.faults = start.faults
          rw [same]
          exact tried.faults
        · show progress.host.killable = start.killable
          rw [same]
          exact tried.killable
      · show progress.host.waitFaults = run.host.waitFaults
        rw [same]
      · show _ → progress.host.returncode ≠ none
        rw [same]
        exact id
  | stay stuck => exact cleans
  | exit code =>
      refine CleansUp.keeps cleans ?_ rfl ?_
      · intro kills waits tried
        exact ⟨tried.faults, tried.killable, tried.kills, tried.waits⟩
      · intro ended
        obtain ⟨old, exited⟩ := Option.ne_none_iff_exists'.mp ended
        simp [Host.exit_returncode code run.host exited]

theorem CleansUp.play (cleans : CleansUp start cause later run.host run.main)
    (moves : List RunMove) :
    CleansUp start cause later (run.play moves).host (run.play moves).main :=
  play_keeps (fun run => CleansUp start cause later run.host run.main)
    (fun _ _ _ moved cleans => cleans.moved moved) moves run cleans

/-- With what a run ends whose first wait failed, and what became of the process by then. -/
structure Reports (start : Host) (cause : Fault) (later : List Fault) (final : Run)
    (outcome : RunOutcome) : Prop where
  /-- The fault of the last call that failed. -/
  outcome : outcome =
    .fault ((start.faults.close <|> start.faults.kill <|> later.head?).getD cause)
  kills : final.host.kills = start.kills + 1
  waits : final.host.waits = start.waits + (if start.faults.kill = none then 2 else 1)
  ended : start.faults.kill = none → start.killable = true ∨ later.head? = none →
    final.host.returncode ≠ none

theorem CleansUp.reports (cleans : CleansUp start cause later run.host run.main)
    {outcome : RunOutcome} (found : run.outcome? = some outcome) :
    Reports start cause later run outcome := by
  rw [outcome_finished found] at cleans
  cases outcome with
  | output bytes => cases cleans
  | fault fault =>
      obtain ⟨own, cleaned, same⟩ := cleans
      refine ⟨?_, cleaned.tried.kills, cleaned.tried.waits, cleaned.ended⟩
      rw [same, cleaned.fault]
      cases start.faults.close <;> rfl

end

end Run

namespace Runner

section Launched

variable {command : Command} {size : TerminalSize} {base : Option Env} {config : Config}
  {host started : Host} {cause : Fault} {later : List Fault}

theorem ofHost_cleansUp
    (launched : (Launch.command command size base config).run host = .ok () started)
    (refused : host.waitFaults = cause :: later) :
    Run.CleansUp host cause later (Run.ofHost command.argv.words started).host .enteringWait := by
  have launching := Launch.command_started launched
  refine ⟨⟨launching.faults, launching.killable, ?_, ?_⟩, launching.waitFaults.trans refused⟩
  · exact (Host.kills_record _ started).trans launching.kills
  · exact (Host.waits_record _ started).trans launching.waits

/-- A run whose first wait fails ends with the fault of the last call that failed. It has tried to
kill the process once, and where that did not fail it has waited for the process again. Where no
later call fails, it ends with the fault of the first wait, and the process has ended. -/
theorem run_reports
    (launched : (Launch.command command size base config).run host = .ok () started)
    (refused : host.waitFaults = cause :: later) (moves : List RunMove) :
    (∀ outcome, ((Run.ofHost command.argv.words started).play moves).outcome? = some outcome →
      Run.Reports host cause later ((Run.ofHost command.argv.words started).play moves) outcome ∧
        (host.faults.kill = none → later.head? = none → host.faults.close = none →
          outcome = .fault cause ∧
            ((Run.ofHost command.argv.words started).play moves).host.waits = host.waits + 2 ∧
            ((Run.ofHost command.argv.words started).play moves).host.returncode ≠ none)) ∧
      ∀ code, ((Run.ofHost command.argv.words started).play moves).host.returncode = some code →
        ((Run.ofHost command.argv.words started).play moves).Stuck →
          ∃ outcome, ((Run.ofHost command.argv.words started).play moves).outcome? =
            some outcome := by
  have start : Run.CleansUp host cause later (Run.ofHost command.argv.words started).host
      (Run.ofHost command.argv.words started).main := ofHost_cleansUp launched refused
  refine ⟨?_, fun code ended stuck => stuck.finished ended⟩
  intro outcome found
  have reports := (start.play moves).reports found
  refine ⟨reports, ?_⟩
  intro possible last closes
  refine ⟨?_, ?_, reports.ended possible (Or.inr last)⟩
  · rw [reports.outcome, closes, possible, last]
    rfl
  · rw [reports.waits, if_pos possible]

end Launched

def foreign : Host :=
  { Host.plain with
    faults :=
      { Host.plain.faults with kill := some (.system 1 "Operation not permitted" none) }
    waitFaults := [.interrupt "", .system 10 "No child processes" none]
    returncode := some 0 }

theorem run_reports_foreign :
    ∃ started,
      (Launch.command Launch.idle ⟨24, 80⟩ none Config.default).run foreign = .ok () started ∧
        foreign.waitFaults = [.interrupt "", .system 10 "No child processes" none] ∧
          ((Run.ofHost ["true"] started).play [.step .main, .step .main, .step .drain, .step .main,
            .step .main]).outcome? = some (.fault (.system 1 "Operation not permitted" none)) ∧
            Run.Reports foreign (.interrupt "") [.system 10 "No child processes" none]
              ((Run.ofHost ["true"] started).play [.step .main, .step .main, .step .drain,
                .step .main, .step .main])
              (.fault (.system 1 "Operation not permitted" none)) := by
  have launched : ∃ started,
      (Launch.command Launch.idle ⟨24, 80⟩ none Config.default).run foreign = .ok () started ∧
        ((Run.ofHost ["true"] started).play [.step .main, .step .main, .step .drain, .step .main,
          .step .main]).outcome? = some (.fault (.system 1 "Operation not permitted" none)) :=
    ⟨_, rfl, rfl⟩
  obtain ⟨started, launched, found⟩ := launched
  exact ⟨started, launched, rfl, found, ((run_reports launched rfl _).1 _ found).1⟩

/-- An interrupted wait is not what is reported if the kill fails, and no second wait is tried; nor
if the second wait fails, or closing the master end does. -/
theorem run_not_faithful :
    ((run Launch.idle ⟨24, 80⟩ none Config.default foreign).1 =
        some (.fault (.system 1 "Operation not permitted" none)) ∧
      (run Launch.idle ⟨24, 80⟩ none Config.default foreign).2.waits = 1) ∧
    (run Launch.idle ⟨24, 80⟩ none Config.default
        { foreign with faults := Host.plain.faults }).1 =
      some (.fault (.system 10 "No child processes" none)) ∧
    (run Launch.idle ⟨24, 80⟩ none Config.default
        { Host.plain with
          faults :=
            { Host.plain.faults with close := some (.system 5 "Input/output error" none) }
          waitFaults := [.interrupt ""]
          returncode := some 0 }).1 =
      some (.fault (.system 5 "Input/output error" none)) :=
  ⟨⟨rfl, rfl⟩, rfl, rfl⟩

end Runner

end PtyShell
