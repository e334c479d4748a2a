import PtyShell.Proofs.Launch.Stages
import PtyShell.Proofs.Runner.Step

namespace PtyShell

/-- The faults that calls to a host fail with. -/
inductive Host.Fails (host : Host) : Fault → Prop
  | openPty {fault : Fault} (failed : host.faults.openPty = some fault) : Fails host fault
  | resize {fault : Fault} (failed : host.faults.resize = some fault) : Fails host fault
  | start {fault : Fault} (failed : host.faults.start = some fault) : Fails host fault
  | kill {fault : Fault} (failed : host.faults.kill = some fault) : Fails host fault
  | close {fault : Fault} (failed : host.faults.close = some fault) : Fails host fault
  | wait {fault : Fault} (listed : fault ∈ host.waitFaults) : Fails host fault

/-- A fault that was not raised from another one, and not met in encoding a size. -/
structure Fault.Original (fault : Fault) : Prop where
  unraised : fault.cause? = none
  met : fault.isEncoding = false

/-- Calls to a host fail with nothing that their callers make. -/
def Host.FailsOriginally (host : Host) : Prop :=
  ∀ fault, host.Fails fault → fault.Original

theorem Host.Fails.earlier {before after : Host} {fault : Fault} (fails : after.Fails fault)
    (faults : after.faults = before.faults) (waitFaults : after.waitFaults <:+ before.waitFaults) :
    before.Fails fault := by
  cases fails with
  | openPty failed => exact .openPty (faults ▸ failed)
  | resize failed => exact .resize (faults ▸ failed)
  | start failed => exact .start (faults ▸ failed)
  | kill failed => exact .kill (faults ▸ failed)
  | close failed => exact .close (faults ▸ failed)
  | wait listed => exact .wait (waitFaults.mem listed)

theorem Host.Continues.fails {before after : Host} (continues : before.Continues after)
    {fault : Fault} (fails : after.Fails fault) : before.Fails fault :=
  fails.earlier continues.faults continues.waitFaults

namespace Run

/-- A fault of a call to the host, or the status of the process. -/
def Meets (start : Host) (fault : Fault) : Prop :=
  start.Fails fault ∨ ∃ code, fault = .exited code

def met? : RunPoint → Option Fault
  | .killing fault | .enteringSecondWait fault | .awaitingSecondExit fault
  | .joining (.failed fault) | .closing (.failed fault) | .finished (.fault fault) => some fault
  | _ => none

variable {start : Host} {run : Run}

/-- A step of the waiting thread keeps the fault it has met, or meets that of a call or the status
of the process. -/
theorem Goes.meets {before after : RunPoint} {host : Host} (taken : run.Goes before host after)
    (continues : start.Continues run.host)
    (meets : ∀ fault, met? before = some fault → Meets start fault) (fault : Fault)
    (found : met? after = some fault) : Meets start fault := by
  cases taken with
  | waitFailed refused | waitAgainFailed refused =>
      cases found
      exact .inl (continues.fails (.wait (List.mem_of_head? refused)))
  | killFailed refused =>
      cases found
      exact .inl (continues.fails (.kill refused))
  | closeFailed refused =>
      cases found
      exact .inl (continues.fails (.close refused))
  | @fail code nonzero =>
      cases found
      exact .inr ⟨code, rfl⟩
  | kill possible | waitAgain able | exitedAgain ended | closeAfterFault possible =>
      exact meets fault found
  | @join verdict drained =>
      cases verdict with
      | returned code => cases found
      | failed own => exact meets fault found
  | _ => cases found

structure Stems (start : Host) (run : Run) : Prop where
  continues : start.Continues run.host
  meets : ∀ fault, met? run.main = some fault → Meets start fault

theorem Stems.moved {move : RunMove} {after : Run} (moved : run.Moved move after)
    (stems : Stems start run) : Stems start after := by
  cases moved with
  | main taken =>
      exact ⟨stems.continues.trans taken.continues, taken.meets stems.continues stems.meets⟩
  | drain taken => exact ⟨stems.continues.trans taken.continues, stems.meets⟩
  | stay stuck => exact stems
  | exit code => exact ⟨stems.continues.trans (.exit code run.host), stems.meets⟩

theorem ofHost_stems (argv : List String) (host : Host) : Stems host (ofHost argv host) where
  continues := .record _ host
  meets := fun fault found => by cases found

theorem play_meets (argv : List String) (host : Host) (moves : List RunMove) {fault : Fault}
    (ended : ((ofHost argv host).play moves).outcome? = some (.fault fault)) :
    Meets host fault := by
  have stems : Stems host ((ofHost argv host).play moves) :=
    play_keeps (Stems host) (fun _ _ _ moved => Stems.moved moved) moves _ (ofHost_stems argv host)
  apply stems.meets
  rw [outcome_finished ended]
  rfl

end Run

theorem Runner.run_meets {prepared : Command} {size : TerminalSize} {base : Option Env}
    {config : Config} {host started after : Host} {fault : Fault}
    (launched : (Launch.command prepared size base config).run host = .ok () started)
    (ended : Runner.run prepared size base config host = (some (.fault fault), after)) :
    Run.Meets host fault := by
  have same := (Launch.command_sameMachine launched).1
  have faults : started.faults = host.faults := by rw [same]
  have waitFaults : started.waitFaults = host.waitFaults := by rw [same]
  unfold Runner.run at ended
  simp only [launched, Prod.mk.injEq] at ended
  obtain ⟨moves, played⟩ := (Run.complete_play _ _ (Run.remaining_ofHost _ started)).1
  rw [played] at ended
  apply (Run.play_meets prepared.argv.words started moves ended.1).imp_left
  intro fails
  exact fails.earlier faults ⟨[], waitFaults⟩

end PtyShell
