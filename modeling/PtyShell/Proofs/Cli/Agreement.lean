import PtyShell.Cli.Command
import PtyShell.Proofs.Cli.Status
import PtyShell.Proofs.Config.Standard
import PtyShell.Proofs.Launch.Faults
import PtyShell.Proofs.Runner.Capture

/-! # Two programs, one status

Running a command to its end and following a shell lead to the same status for the same return code
of the process, and to status 1 when nothing could be started. -/

namespace PtyShell

theorem Config.loadWith_same {services : Services} {path : Option String} {config : Config}
    {host loaded : Host} (only : OnlyEnvironment services.addVariables host)
    (loads : (loadWith services path).run host = .ok config loaded) :
    loaded = { host with environ := loaded.environ, trace := loaded.trace } := by
  have left := loadWith_leaves services path host
  rw [Sys.leaves_of_ok loads] at left
  unfold OnlyEnvironment at only
  rwa [← left] at only

theorem Run.Capturing.complete {stream : List UInt8} {start : Run}
    (capturing : start.Capturing stream) (enough : start.remaining ≤ start.bound) {code : Int}
    (exited : start.host.returncode = some code) :
    (start.complete start.bound).outcome? = some (Run.answer stream code) := by
  obtain ⟨⟨moves, played⟩, stuck⟩ := Run.complete_play start.bound start enough
  rw [played] at stuck ⊢
  exact (capturing.play moves).finished stuck (Run.play_returncode exited moves)

namespace Cli

open Exec (statusOf limitFault?)

section Running

def finishRun : Option RunOutcome → Host → Finish
  | none, host => ⟨none, [], host⟩
  | some (.output bytes), host => ⟨some (.exited 0), bytes, host⟩
  | some (.fault fault), host => failed (failureStatus fault) fault host

/-- A program has ended with the status for a return code, and has printed a stream of output if
that is zero. -/
structure Answers (stream : List UInt8) (code : Int) (finish : Finish) : Prop where
  ending : finish.ending = some (.exited (statusOf code))
  stdout : finish.stdout = if code = 0 then stream else []

theorem failureStatus_exited {code : Int} (nonzero : code ≠ 0) :
    failureStatus (.exited code) = statusOf code := by
  by_cases negative : code < 0
  · simp [failureStatus, statusOf, Fault.exitCode, Fault.exitStatus?, negative]
  · have positive : 0 < code := by omega
    simp [failureStatus, statusOf, Fault.exitCode, Fault.exitStatus?, negative, positive]

theorem finishRun_answer (stream : List UInt8) (code : Int) (host : Host) :
    Answers stream code (finishRun (some (Run.answer stream code)) host) := by
  unfold Run.answer
  by_cases zero : code = 0
  · subst zero
    exact ⟨rfl, rfl⟩
  · rw [if_neg zero]
    refine ⟨?_, by rw [if_neg zero]; rfl⟩
    rw [← failureStatus_exited zero]
    rfl

theorem finishRun_silent {outcome : Option RunOutcome} {host : Host}
    (other : (finishRun outcome host).ending ≠ some (.exited 0)) :
    (finishRun outcome host).stdout = [] := by
  cases outcome with
  | none => rfl
  | some outcome =>
      cases outcome with
      | output bytes => exact absurd rfl other
      | fault fault =>
          show (failed _ fault host).stdout = []
          unfold failed
          cases fault.isPackage <;> rfl

theorem failureStatus_other {fault : Fault} (other : ∀ code, fault ≠ .exited code) :
    failureStatus fault = 1 := by
  cases fault with
  | exited code => exact absurd rfl (other code)
  | _ => rfl

theorem failed_package {fault : Fault} (package : fault.isPackage = true) (status : Int)
    (host : Host) :
    (failed status fault host).ending = some (.exited status) ∧
      (failed status fault host).stdout = [] := by
  unfold failed
  rw [if_pos package]
  exact ⟨rfl, rfl⟩

def RunOptions.launch (options : RunOptions) (config : Config) : Sys Unit :=
  Launch.command options.prepared options.common.size none config

variable {services : Config.Services} {options : RunOptions} {config : Config}
  {host loaded after started : Host}

theorem run_loaded
    (loads : (Config.loadWith services options.common.config).run host = .ok config loaded) :
    runCommand services options host =
      finishRun (Runner.run options.prepared options.common.size none config loaded).1
        (Runner.run options.prepared options.common.size none config loaded).2 := by
  unfold runCommand
  simp only [loads]
  obtain ⟨outcome, left⟩ := Runner.run options.prepared options.common.size none config loaded
  cases outcome with
  | none => rfl
  | some outcome => cases outcome <;> rfl

theorem run_refused
    (loads : (Config.loadWith services options.common.config).run host = .ok config loaded)
    {fault : Fault} (refused : (options.launch config).run loaded = .error fault after) :
    runCommand services options host = failed (failureStatus fault) fault after := by
  unfold RunOptions.launch at refused
  rw [run_loaded loads]
  unfold Runner.run
  simp only [refused]
  rfl

theorem run_completed
    (loads : (Config.loadWith services options.common.config).run host = .ok config loaded)
    (launched : (options.launch config).run loaded = .ok () started) {start : Run}
    (begins : start = Run.ofHost options.prepared.argv.words started) {outcome : RunOutcome}
    (completes : (start.complete start.bound).outcome? = some outcome) :
    runCommand services options host =
      finishRun (some outcome) (start.complete start.bound).host := by
  subst begins
  unfold RunOptions.launch at launched
  rw [run_loaded loads]
  unfold Runner.run
  simp only [launched, completes]

/-- How a run of a command ends in a list of moves. -/
structure RunEnds (stream : List UInt8) (start : Run) (moves : List RunMove) : Prop where
  answers : ∀ outcome, (start.play moves).outcome? = some outcome →
    ∃ code, (start.play moves).host.returncode = some code ∧
      Answers stream code (finishRun (some outcome) (start.play moves).host)
  /-- Once the process has exited, neither thread waits forever. -/
  finishes : ∀ code, (start.play moves).host.returncode = some code →
    (start.play moves).Stuck → ∃ outcome, (start.play moves).outcome? = some outcome
  steps : start.steps moves ≤ start.bound

theorem RunEnds.ofCapturing {stream : List UInt8} {start : Run}
    (capturing : start.Capturing stream) (enough : start.remaining ≤ start.bound)
    (moves : List RunMove) : RunEnds stream start moves where
  answers := by
    intro outcome found
    obtain ⟨code, exited, rfl⟩ := (capturing.play moves).outcome found
    exact ⟨code, exited, finishRun_answer stream code _⟩
  finishes := fun _ exited stuck => ⟨_, (capturing.play moves).finished stuck exited⟩
  steps := by
    have taken := Run.steps_play moves start
    omega

/-- What running a command leads to, where loading the configuration turns a host into another. -/
structure RunStatus (services : Config.Services) (options : RunOptions) (config : Config)
    (host loaded : Host) : Prop where
  /-- A launch that fails with a fault of the package leads to status 1, unless a call of the launch
  itself fails with the status of a process. -/
  refused : ∀ fault after, (options.launch config).run loaded = .error fault after →
    fault.isPackage = true → (∀ code, ¬Launch.CallFails host (.exited code)) →
      (runCommand services options host).ending = some (.exited 1) ∧
        (runCommand services options host).stdout = []
  /-- In whatever order the threads take their steps, the status is that of the return code, and the
  whole output is printed if that is zero and nothing otherwise. -/
  schedules : ∀ started, (options.launch config).run loaded = .ok () started →
    host.waitFaults = [] → host.faults.close = none → ∀ moves,
      RunEnds (Drain.stream host.output) (Run.ofHost options.prepared.argv.words started) moves
  answers : ∀ started, (options.launch config).run loaded = .ok () started →
    host.waitFaults = [] → host.faults.close = none → ∀ code, host.returncode = some code →
      Answers (Drain.stream host.output) code (runCommand services options host)
  /-- Nothing is printed unless the status is 0. -/
  silent : (runCommand services options host).ending ≠ some (.exited 0) →
    (runCommand services options host).stdout = []

theorem run_capturing
    (same : loaded = { host with environ := loaded.environ, trace := loaded.trace })
    (launched : (options.launch config).run loaded = .ok () started)
    (waits : host.waitFaults = []) (closes : host.faults.close = none) :
    (Run.ofHost options.prepared.argv.words started).Capturing (Drain.stream host.output) := by
  have capturing := Runner.ofHost_capturing launched
  rw [same] at capturing
  exact capturing waits closes

theorem runStatus (only : Config.OnlyEnvironment services.addVariables host)
    (loads : (Config.loadWith services options.common.config).run host = .ok config loaded) :
    RunStatus services options config host loaded := by
  have same := Config.loadWith_same only loads
  refine ⟨?_, ?_, ?_, ?_⟩
  · intro fault after refused package apart
    have other (code : Int) : fault ≠ .exited code := by
      rintro rfl
      have fails := Launch.command_exited refused
      unfold Launch.CallFails at fails
      rw [same] at fails
      exact apart code fails
    rw [run_refused loads refused, failureStatus_other other]
    exact failed_package package 1 after
  · intro started launched waits closes moves
    have capturing := run_capturing same launched waits closes
    exact .ofCapturing capturing (Run.remaining_ofHost _ started) moves
  · intro started launched waits closes code exited
    have capturing := run_capturing same launched waits closes
    have begins : started.returncode = some code := by
      rw [(Launch.command_sameMachine launched).1, same]
      exact exited
    have completes := capturing.complete (Run.remaining_ofHost _ started) begins
    rw [run_completed loads launched rfl completes]
    exact finishRun_answer _ code _
  · intro other
    rw [run_loaded loads] at other ⊢
    exact finishRun_silent other

end Running

section Following

variable {services : Config.Services} {options : ExecOptions} {config : Config}
  {host loaded after started : Host}

def ExecOptions.launch (options : ExecOptions) (config : Config) : Sys Unit :=
  Launch.shell options.common.size (some options.command) options.shellOptions none config

theorem exec_refused
    (loads : (Config.loadWith services options.common.config).run host = .ok config loaded)
    {fault : Fault} (refused : (options.launch config).run loaded = .error fault after) :
    followShell services options host = failed 1 fault after := by
  unfold ExecOptions.launch at refused
  unfold followShell
  simp only [loads, refused]

theorem exec_started
    (loads : (Config.loadWith services options.common.config).run host = .ok config loaded)
    (launched : (options.launch config).run loaded = .ok () started) {start : Exec}
    (begins : start = Exec.ofHandle (Handle.ofHost started) options.timeout) :
    (followShell services options host).ending = (start.complete start.bound).ending? := by
  subst begins
  unfold ExecOptions.launch at launched
  unfold followShell
  simp only [loads, launched]

theorem Exec.Ends.ofFaults {start : Exec} {moves : List ExecMove}
    (ends : Exec.Ends loaded start moves) (faults : loaded.faults = host.faults)
    (waits : loaded.waitFaults = host.waitFaults) : Exec.Ends host start moves where
  ending := by
    intro ending found
    cases ends.ending ending found with
    | announced recorded status => exact .announced recorded status
    | refused refused => exact .refused refused
    | killFailed refused foreign => exact .killFailed (faults ▸ refused) foreign
  own := by
    rw [← faults, ← waits]
    exact ends.own
  finishes := by
    rw [← waits]
    exact ends.finishes
  steps := ends.steps

/-- What following a shell leads to, where loading the configuration turns a host into another. -/
structure ExecStatus (services : Config.Services) (options : ExecOptions) (config : Config)
    (host loaded : Host) : Prop where
  /-- A launch that fails with a fault of the package leads to status 1. -/
  refused : ∀ fault after, (options.launch config).run loaded = .error fault after →
    fault.isPackage = true →
      (followShell services options host).ending = some (.exited 1) ∧
        (followShell services options host).stdout = []
  schedules : ∀ started, (options.launch config).run loaded = .ok () started → ∀ moves,
    Exec.Ends host (Exec.ofHandle (Handle.ofHost started) options.timeout) moves
  /-- The status is that of the return code, unless the time limit cannot be kept. -/
  exits : ∀ started, (options.launch config).run loaded = .ok () started →
    host.waitFaults = [] → (∀ fault ∈ host.faults.kill, fault.isSystem = true) →
      limitFault? options.timeout = none → ∀ code, host.returncode = some code →
        (followShell services options host).ending = some (.exited (statusOf code))

theorem execStatus (only : Config.OnlyEnvironment services.addVariables host)
    (loads : (Config.loadWith services options.common.config).run host = .ok config loaded) :
    ExecStatus services options config host loaded := by
  have same := Config.loadWith_same only loads
  have faults : loaded.faults = host.faults := by rw [same]
  have waiting : loaded.waitFaults = host.waitFaults := by rw [same]
  refine ⟨?_, ?_, ?_⟩
  · intro fault after refused package
    rw [exec_refused loads refused]
    exact failed_package package 1 after
  · intro started launched moves
    have ends := Exec.ofHandle_ends (Launch.shell_started launched) options.timeout moves
    exact ends.ofFaults faults waiting
  · intro started launched waits kills kept code exited
    have launching := Launch.shell_started launched
    have settling := Exec.ofHandle_settling launching options.timeout
    have begins : started.returncode = some code := by
      rw [launching.returncode, same]
      exact exited
    rw [exec_started loads launched rfl]
    exact settling.exits rfl rfl (waiting.trans waits) (faults ▸ kills) kept begins
      (Exec.remaining_ofHandle started options.timeout)

end Following

/-- The two programs lead to the same status for the same return code, unless a time limit cannot be
kept. -/
theorem statuses_agree {services : Config.Services} {running : RunOptions}
    {following : ExecOptions} {runConfig execConfig : Config} {host runHost execHost : Host}
    (only : Config.OnlyEnvironment services.addVariables host)
    (runLoads : (Config.loadWith services running.common.config).run host =
      .ok runConfig runHost)
    (execLoads : (Config.loadWith services following.common.config).run host =
      .ok execConfig execHost) :
    RunStatus services running runConfig host runHost ∧
      ExecStatus services following execConfig host execHost ∧
      ∀ runStarted execStarted, (running.launch runConfig).run runHost = .ok () runStarted →
        (following.launch execConfig).run execHost = .ok () execStarted →
          host.waitFaults = [] → host.faults.close = none →
            (∀ fault ∈ host.faults.kill, fault.isSystem = true) →
              limitFault? following.timeout = none → ∀ code, host.returncode = some code →
                (runCommand services running host).ending =
                  (followShell services following host).ending := by
  have ran := runStatus only runLoads
  have followed := execStatus only execLoads
  refine ⟨ran, followed, ?_⟩
  intro runStarted execStarted runs execs waits closes kills kept code exited
  have one := (ran.answers runStarted runs waits closes code exited).ending
  exact one.trans (followed.exits execStarted execs waits kills kept code exited).symm

def exiting : Host :=
  { Host.talking with returncode := some 7 }

def bare : CommonOptions := ⟨0, 0, none, false, none⟩

theorem statuses_agree_exiting :
    Config.OnlyEnvironment Config.Services.standard.addVariables exiting ∧
      ∃ config loaded, (Config.load none).run exiting = .ok config loaded ∧
        RunStatus .standard ⟨bare, "true", []⟩ config exiting loaded ∧
          ExecStatus .standard ⟨bare, "x", false, false, none⟩ config exiting loaded ∧
            (runCommand .standard ⟨bare, "true", []⟩ exiting).ending = some (.exited 7) ∧
              (followShell .standard ⟨bare, "x", false, false, none⟩ exiting).ending =
                some (.exited 7) := by
  have only := Config.standard_only exiting
  obtain ⟨config, loaded, loads⟩ : ∃ config loaded,
      (Config.load none).run exiting = .ok config loaded := ⟨_, _, rfl⟩
  have agree := @statuses_agree .standard ⟨bare, "true", []⟩ ⟨bare, "x", false, false, none⟩
    _ _ _ _ _ only loads loads
  refine ⟨only, config, loaded, loads, agree.1, agree.2.1, ?_, ?_⟩
  · decide +kernel
  · decide +kernel

/-- With a time limit that is no number, or too large to be kept, following a shell does not lead to
the status of its return code. -/
theorem statuses_not_agree :
    (runCommand .standard ⟨bare, "true", []⟩ exiting).ending = some (.exited 7) ∧
      (followShell .standard ⟨bare, "x", false, false, some .nan⟩ exiting).ending =
          some (.uncaught .timeoutNotANumber) ∧
        (followShell .standard ⟨bare, "x", false, false, some (.finite false 1 1000)⟩
            exiting).ending =
          some (.uncaught .timeoutTooLarge) := by
  refine ⟨?_, ?_, ?_⟩
  · decide +kernel
  · decide +kernel
  · decide +kernel

end Cli

end PtyShell
