import PtyShell.Proofs.Description
import PtyShell.Proofs.Launch.Target

/-! # Which stage a launch fails at

A launch opens a terminal, sizes it and starts a process on it. The first stage that fails decides
the fault it ends with: a report of that stage around the fault that was met, or that fault itself
if the stage does not report such faults. Nothing is called for a later stage. -/

namespace PtyShell

namespace Launch

inductive Stage
  | opening
  | sizing
  | starting
  deriving DecidableEq, Repr

namespace Stage

def place : Stage → Nat
  | opening => 0
  | sizing => 1
  | starting => 2

def reports : Stage → Fault → Bool
  | opening, fault => fault.isSystem
  | sizing, fault => fault.isSystem || fault.isEncoding
  | starting, fault => fault.isSystem || fault.isChildProcess

def report (argv : List String) (size : TerminalSize) : Stage → Fault → Fault
  | opening, fault => .ptyOpen fault true
  | sizing, fault => .ptySize size.rows size.cols fault true
  | starting, fault => .processStart argv fault true

/-- The fault that a launch ends with when a stage meets one: a fault without a message cannot be
reported, and any other that the stage does not report is left as it is. -/
def ending (argv : List String) (size : TerminalSize) (stage : Stage) (fault : Fault) : Fault :=
  if stage.reports fault then Fault.wrap (stage.report argv size) fault else fault

def of? : Event → Option Stage
  | .openPty => some opening
  | .resize .. => some sizing
  | .start _ | .claimTerminal => some starting
  | _ => none

theorem report_cause (argv : List String) (size : TerminalSize) (stage : Stage) (fault : Fault) :
    (stage.report argv size fault).cause? = some fault := by
  cases stage <;> rfl

theorem report_stage {argv others : List String} {size sized : TerminalSize}
    {stage other : Stage} {fault met : Fault}
    (same : stage.report argv size fault = other.report others sized met) : stage = other := by
  cases stage <;> cases other <;> first | rfl | cases same

section

variable {argv : List String} {size : TerminalSize} {stage : Stage} {fault : Fault}

theorem ending_reported (reported : stage.reports fault = true) :
    stage.ending argv size fault = Fault.wrap (stage.report argv size) fault :=
  if_pos reported

theorem ending_passed (passed : stage.reports fault = false) :
    stage.ending argv size fault = fault :=
  if_neg (Bool.eq_false_iff.mp passed)

end

theorem ending_opening (argv : List String) (size : TerminalSize) (fault : Fault) :
    opening.ending argv size fault = openFault fault := by
  unfold ending reports openFault
  cases fault <;> rfl

theorem ending_sizing (argv : List String) (size : TerminalSize) (fault : Fault) :
    sizing.ending argv size fault = sizeFault size fault := by
  unfold ending reports sizeFault
  cases fault <;> rfl

end Stage

/-- A launch on a host fails at a stage, where it meets a fault: no stage before it fails. -/
inductive FailsAt (host : Host) : Stage → Fault → Prop
  | opening {fault : Fault} (failed : host.faults.openPty = some fault) :
      FailsAt host .opening fault
  | sizing {fault : Fault} (opened : host.faults.openPty = none)
      (failed : host.faults.resize = some fault) : FailsAt host .sizing fault
  | starting {fault : Fault} (opened : host.faults.openPty = none)
      (sized : host.faults.resize = none) (failed : host.faults.start = some fault) :
      FailsAt host .starting fault
  /-- Why the child cannot claim its terminal is not told. -/
  | claiming {fault : Fault} (opened : host.faults.openPty = none)
      (sized : host.faults.resize = none) (started : host.faults.start = none)
      (claims : Terminal.Claimable host.platform)
      (failed : host.faults.claimTerminal = some fault) : FailsAt host .starting .childSetup

/-- Everything that was called belongs to a stage or to one before it. -/
def Stops (stage : Stage) (before after : Host) : Prop :=
  ∃ calls, after.trace = before.trace ++ calls ∧
    ∀ event ∈ calls, ∀ reached, Stage.of? event = some reached → reached.place ≤ stage.place

namespace Stops

theorem trans {stage : Stage} {first second third : Host} (one : Stops stage first second)
    (two : Stops stage second third) : Stops stage first third := by
  obtain ⟨early, firstTrace, firstCalls⟩ := one
  obtain ⟨late, secondTrace, secondCalls⟩ := two
  refine ⟨early ++ late, ?_, ?_⟩
  · rw [secondTrace, firstTrace, List.append_assoc]
  · intro event member
    rcases List.mem_append.mp member with old | new
    · exact firstCalls event old
    · exact secondCalls event new

theorem later {stage other : Stage} {before after : Host} (stops : Stops stage before after)
    (order : stage.place ≤ other.place) : Stops other before after := by
  obtain ⟨calls, trace, all⟩ := stops
  refine ⟨calls, trace, ?_⟩
  intro event member reached belongs
  exact Nat.le_trans (all event member reached belongs) order

theorem record {stage : Stage} (event : Event)
    (belongs : ∀ reached, Stage.of? event = some reached → reached.place ≤ stage.place)
    (host : Host) : Stops stage host (host.record event) := by
  refine ⟨[event], rfl, ?_⟩
  intro other member
  rw [List.mem_singleton.mp member]
  exact belongs

theorem logged {before after : Host} (logged : before.Logged after) (stage : Stage) :
    Stops stage before after := by
  obtain ⟨logs, trace, all⟩ := logged.logs
  refine ⟨logs, trace, ?_⟩
  intro event member reached belongs
  have log := all event member
  cases event with
  | log level logger message => cases belongs
  | _ => cases log

theorem opened (host : Host) : Stops .opening host (host.record .openPty) := by
  apply record
  intro reached belongs
  cases belongs
  decide

theorem sized (bytes : List UInt8) (host : Host) : Stops .sizing host (host.sized bytes) := by
  have before : Stops .sizing host host.opened := (opened host).later (by decide)
  apply before.trans
  apply record
  intro reached belongs
  cases belongs
  decide

theorem asked (request : StartRequest) (host : Host) :
    Stops .starting host (host.asked request) := by
  refine ⟨_, rfl, ?_⟩
  intro event member reached belongs
  cases reached <;> decide

theorem closed (stage : Stage) (fd : Fd) (host : Host) : Stops stage host (host.closed fd) := by
  apply record (.close fd host.unread)
  intro reached belongs
  cases belongs

end Stops

section Spawning

variable {host : Host} {stage : Stage} {fault : Fault} {size : TerminalSize} {bytes : List UInt8}

theorem FailsAt.same {other : Host} (fails : FailsAt host stage fault)
    (faults : other.faults = host.faults) (platform : other.platform = host.platform) :
    FailsAt other stage fault := by
  cases fails with
  | opening failed => exact .opening (faults ▸ failed)
  | sizing opened failed => exact .sizing (faults ▸ opened) (faults ▸ failed)
  | starting opened sized failed =>
      exact .starting (faults ▸ opened) (faults ▸ sized) (faults ▸ failed)
  | claiming opened sized started claims failed =>
      exact .claiming (faults ▸ opened) (faults ▸ sized) (faults ▸ started) (platform ▸ claims)
        (faults ▸ failed)

theorem failsAt_logged {before : Host} (logged : before.Logged host) :
    FailsAt host stage fault ↔ FailsAt before stage fault := by
  have faults : host.faults = before.faults := by rw [logged.same]
  have platform : host.platform = before.platform := by rw [logged.same]
  constructor
  · intro fails
    exact fails.same faults.symm platform.symm
  · intro fails
    exact fails.same faults platform

theorem FailsAt.refused (fails : FailsAt host .starting fault) :
    host.faults.openPty = none ∧ host.faults.resize = none ∧
      startFault? host = some fault := by
  cases fails with
  | starting opened sized failed =>
      refine ⟨opened, sized, ?_⟩
      unfold startFault?
      rw [failed]
      rfl
  | claiming opened sized started claims failed =>
      refine ⟨opened, sized, ?_⟩
      unfold startFault?
      rw [started, if_pos (Terminal.canClaim_iff.mpr claims), failed]
      rfl

theorem startOn_fails (host : Host) (closes : ∀ fd, host.closeFault? fd = none)
    (refused : startFault? host = some fault) (argv : List String) (cwd : Option String)
    (env : Env) (size : TerminalSize) :
    ∃ after, (startOn argv cwd env).run host =
        .error (Stage.starting.ending argv size fault) after ∧ Stops .starting host after := by
  have asked := Stops.asked (request host.platform argv cwd env) host
  have run := startOn_run argv cwd env host
  simp only [refused, closes] at run
  rw [run, show (fault.isSystem || fault.isChildProcess) = Stage.starting.reports fault from rfl]
  cases reported : Stage.starting.reports fault with
  | true =>
      rw [Stage.ending_reported reported, if_pos rfl]
      exact ⟨_, rfl, (asked.trans (.closed _ .master _)).trans (.closed _ .slave _)⟩
  | false =>
      rw [Stage.ending_passed reported, if_neg Bool.false_ne_true]
      exact ⟨_, rfl, asked.trans (.closed _ .slave _)⟩

/-- A launch that fails at a stage ends with the fault of that stage, and calls nothing of a later
one. -/
theorem spawn_fails (encoded : Terminal.encode size.rows size.cols = .ok bytes)
    (closes : ∀ fd, host.closeFault? fd = none) (fails : FailsAt host stage fault)
    (argv : List String) (cwd : Option String) (env : Env) :
    ∃ after, (spawn argv cwd env size).run host = .error (stage.ending argv size fault) after ∧
      Stops stage host after := by
  have run := openSized_run encoded host
  unfold spawn
  rw [EStateM.run_bind]
  cases stage with
  | opening =>
      cases fails with
      | opening failed =>
          rw [failed] at run
          rw [run, Stage.ending_opening]
          exact ⟨_, rfl, .opened host⟩
  | sizing =>
      cases fails with
      | sizing opened failed =>
          simp only [opened, failed, closes] at run
          rw [run, Stage.ending_sizing]
          exact ⟨_, rfl, ((Stops.sized bytes host).trans (.closed _ .master _)).trans
            (.closed _ .slave _)⟩
  | starting =>
      obtain ⟨opened, sized, refused⟩ := fails.refused
      simp only [opened, sized] at run
      rw [run]
      have able : ∀ fd, (host.sized bytes).closeFault? fd = none := by
        simpa [Host.sized] using closes
      obtain ⟨after, ended, stops⟩ :=
        startOn_fails (host.sized bytes) able refused argv cwd env size
      exact ⟨after, ended, ((Stops.sized bytes host).later (by decide)).trans stops⟩

theorem spawn_proceeds (encoded : Terminal.encode size.rows size.cols = .ok bytes)
    (closes : ∀ fd, host.closeFault? fd = none)
    (proceeds : ∀ stage fault, ¬FailsAt host stage fault) (argv : List String)
    (cwd : Option String) (env : Env) :
    ∃ after, (spawn argv cwd env size).run host = .ok () after := by
  have opened : host.faults.openPty = none :=
    Option.eq_none_iff_forall_ne_some.mpr fun fault failed => proceeds _ _ (.opening failed)
  have sized : host.faults.resize = none :=
    Option.eq_none_iff_forall_ne_some.mpr fun fault failed => proceeds _ _ (.sizing opened failed)
  have started : host.faults.start = none :=
    Option.eq_none_iff_forall_ne_some.mpr fun fault failed =>
      proceeds _ _ (.starting opened sized failed)
  have granted : startFault? host = none := by
    unfold startFault?
    rw [started]
    by_cases claims : Terminal.canClaim host.platform = true
    · have claimed : host.faults.claimTerminal = none :=
        Option.eq_none_iff_forall_ne_some.mpr fun fault failed =>
          proceeds _ _
            (.claiming opened sized started (Terminal.canClaim_iff.mp claims) failed)
      rw [claimed]
      exact ite_self _
    · exact if_neg claims
  have run := openSized_run encoded host
  simp only [opened, sized] at run
  unfold spawn
  rw [EStateM.run_bind, run]
  simp only
  have able : (host.sized bytes).closeFault? .slave = none := by
    simpa [Host.sized] using closes .slave
  rw [startOn_run, show startFault? (host.sized bytes) = startFault? host from rfl, granted, able]
  exact ⟨_, rfl⟩

end Spawning

namespace Target

def Raises (size : TerminalSize) (base : Option Env) (config : Config) (host : Host)
    (fault : Fault) (after : Host) : Target → Prop
  | shell text opts => (Launch.shell size text opts base config).run host = .error fault after
  | command prepared =>
    Runner.run prepared size base config host = (some (.fault fault), after)

def Starts (size : TerminalSize) (base : Option Env) (config : Config) (host : Host) :
    Target → Prop
  | shell text opts => ∃ after, (Launch.shell size text opts base config).run host = .ok () after
  | command prepared =>
    ∃ started, (Launch.command prepared size base config).run host = .ok () started

end Target

section Calls

variable {size resolved : TerminalSize} {base : Option Env} {config : Config} {host : Host}
  {stage : Stage} {fault : Fault} {target : Target} {cwd : Option String}

def Target.spawning (target : Target) (size : TerminalSize) (base : Option Env) (config : Config)
    (host : Host) (cwd : Option String) : Sys Unit :=
  spawn (target.argv base config host) cwd
    (ChildEnv.build (base.getD host.environ) config target.overrides) size

theorem Target.spawns (resolves : size.resolve config.defaultSize = .ok resolved)
    (starts : target.StartsIn base host cwd) :
    ∃ before, host.Logged before ∧
      (∀ fault after, (target.spawning resolved base config host cwd).run before =
        .error fault after → target.Raises size base config host fault after) ∧
      ∀ after, (target.spawning resolved base config host cwd).run before = .ok () after →
        target.Starts size base config host := by
  cases target with
  | shell text opts =>
      obtain ⟨records, chosen⟩ := starts
      have detected := ShellSearch.detect_run base config host
      have searched := (ShellSearch.detect_onlyLogs base config).ok detected
      have settled := shell_settled resolves detected chosen text
      refine ⟨_, searched.trans (chosen.logged _), ?_, ?_⟩
      · intro fault after failed
        unfold spawning argv overrides at failed
        show (Launch.shell size text opts base config).run host = _
        rw [settled, EStateM.run_bind, failed]
      · intro after spawned
        unfold spawning argv overrides at spawned
        rw [EStateM.run_bind, spawned] at settled
        exact ⟨_, settled⟩
  | command prepared =>
      cases starts
      have run : (Launch.command prepared size base config).run host =
          ((command prepared).spawning resolved base config host prepared.cwd).run host := by
        unfold Launch.command
        rw [EStateM.run_bind, Sys.ofExcept_run, resolves]
        rfl
      refine ⟨host, .refl host, ?_, ?_⟩
      · intro fault after failed
        show Runner.run prepared size base config host = _
        unfold Runner.run
        rw [run, failed]
      · intro after spawned
        exact ⟨after, run.trans spawned⟩

theorem Target.raises_of_fails (resolves : size.resolve config.defaultSize = .ok resolved)
    (starts : target.StartsIn base host cwd) (closes : ∀ fd, host.closeFault? fd = none)
    (fails : FailsAt host stage fault) :
    ∃ after, target.Raises size base config host
        (stage.ending (target.argv base config host) resolved fault) after ∧
      Stops stage host after := by
  obtain ⟨bytes, encoded⟩ := TerminalSize.resolve_encodes resolves
  obtain ⟨before, logged, raises, _⟩ := Target.spawns resolves starts
  have able (fd : Fd) : before.closeFault? fd = none := by
    rw [logged.closeFault? fd]
    exact closes fd
  obtain ⟨after, failed, stops⟩ := spawn_fails encoded able ((failsAt_logged logged).mpr fails)
    (target.argv base config host) cwd
    (ChildEnv.build (base.getD host.environ) config target.overrides)
  exact ⟨after, raises _ after failed, (Stops.logged logged stage).trans stops⟩

theorem Target.starts_of_proceeds (resolves : size.resolve config.defaultSize = .ok resolved)
    (starts : target.StartsIn base host cwd) (closes : ∀ fd, host.closeFault? fd = none)
    (proceeds : ∀ stage fault, ¬FailsAt host stage fault) :
    target.Starts size base config host := by
  obtain ⟨bytes, encoded⟩ := TerminalSize.resolve_encodes resolves
  obtain ⟨before, logged, _, started⟩ := Target.spawns resolves starts
  have onward (stage : Stage) (fault : Fault) : ¬FailsAt before stage fault := by
    rw [failsAt_logged logged]
    exact proceeds stage fault
  have able (fd : Fd) : before.closeFault? fd = none := by
    rw [logged.closeFault? fd]
    exact closes fd
  obtain ⟨after, spawned⟩ := spawn_proceeds encoded able onward (target.argv base config host) cwd
    (ChildEnv.build (base.getD host.environ) config target.overrides)
  exact started after spawned

variable {after : Host}

theorem Target.Raises.unique {other : Fault} {left : Host}
    (raised : target.Raises size base config host fault after)
    (again : target.Raises size base config host other left) : fault = other ∧ after = left := by
  cases target with
  | shell text opts => exact EStateM.Result.error.inj (raised.symm.trans again)
  | command prepared =>
      have same := Prod.mk.inj (raised.symm.trans again)
      exact ⟨RunOutcome.fault.inj (Option.some.inj same.1), same.2⟩

theorem Target.Raises.meets (raised : target.Raises size base config host fault after)
    (started : target.Starts size base config host) : Run.Meets host fault := by
  cases target with
  | shell text opts =>
      obtain ⟨left, started⟩ := started
      cases raised.symm.trans started
  | command prepared =>
      obtain ⟨left, launched⟩ := started
      exact Runner.run_meets launched raised

theorem FailsAt.original (fails : FailsAt host stage fault)
    (originally : host.FailsOriginally) : fault.Original := by
  cases fails with
  | opening failed => exact originally fault (.openPty failed)
  | sizing opened failed => exact originally fault (.resize failed)
  | starting opened sized failed => exact originally fault (.start failed)
  | claiming opened sized started claims failed => exact ⟨rfl, rfl⟩

theorem Target.Raises.reported (resolves : size.resolve config.defaultSize = .ok resolved)
    (starts : target.StartsIn base host cwd) (closes : ∀ fd, host.closeFault? fd = none)
    (originally : host.FailsOriginally) (raised : target.Raises size base config host fault after)
    {reason : Fault} (cause : fault.cause? = some reason) :
    ∃ stage, FailsAt host stage reason ∧ stage.reports reason = true ∧
      reason.objection? = none ∧
        fault = stage.report (target.argv base config host) resolved reason := by
  by_cases proceeds : ∀ stage met, ¬FailsAt host stage met
  · -- No stage fails, so the fault is of a later call or the status of the process.
    have started := starts_of_proceeds resolves starts closes proceeds
    rcases raised.meets started with fails | ⟨code, rfl⟩
    · rw [(originally fault fails).unraised] at cause
      cases cause
    · cases cause
  · obtain ⟨stage, met, fails⟩ : ∃ stage met, FailsAt host stage met := by
      simpa using proceeds
    obtain ⟨left, ended, _⟩ := raises_of_fails resolves starts closes fails
    obtain ⟨same, _⟩ := raised.unique ended
    cases reported : stage.reports met with
    | false =>
        rw [Stage.ending_passed reported] at same
        rw [same, (fails.original originally).unraised] at cause
        cases cause
    | true =>
        rw [Stage.ending_reported reported] at same
        cases objected : met.objection? with
        | none =>
            rw [Fault.wrap_worded objected] at same
            rw [same, Stage.report_cause] at cause
            cases cause
            exact ⟨stage, fails, reported, objected, same⟩
        | some objection =>
            rw [Fault.wrap, objected] at same
            obtain ⟨_, ⟨complaint, rfl⟩ | rfl⟩ := Fault.objection_kind objected
            · rw [same] at cause
              cases cause
            · rw [same] at cause
              cases cause

/-- A stage raises its report exactly if it fails with a fault that it reports and that has a
message. -/
theorem Target.raises_report_iff (resolves : size.resolve config.defaultSize = .ok resolved)
    (starts : target.StartsIn base host cwd) (closes : ∀ fd, host.closeFault? fd = none)
    (originally : host.FailsOriginally) (stage : Stage) (argv : List String)
    (sized : TerminalSize) (reason : Fault) :
    (∃ after, target.Raises size base config host (stage.report argv sized reason) after) ↔
      FailsAt host stage reason ∧ stage.reports reason = true ∧ reason.objection? = none ∧
        stage.report argv sized reason =
          stage.report (target.argv base config host) resolved reason := by
  constructor
  · rintro ⟨after, raised⟩
    obtain ⟨other, fails, reports, worded, same⟩ :=
      raised.reported resolves starts closes originally (Stage.report_cause _ _ _ _)
    have one : other = stage := Stage.report_stage same.symm
    subst one
    exact ⟨fails, reports, worded, same⟩
  · rintro ⟨fails, reports, worded, same⟩
    obtain ⟨after, raised, _⟩ := raises_of_fails resolves starts closes fails
    rw [Stage.ending_reported reports, Fault.wrap_worded worded, ← same] at raised
    exact ⟨after, raised⟩

/-- How a call for a target tells its failing stages apart, with the size it has resolved. The
reason of a report is the fault that the stage met, and the cause of the report. -/
structure Classified (size resolved : TerminalSize) (base : Option Env) (config : Config)
    (host : Host) (target : Target) : Prop where
  opens : ∀ reason,
    (∃ after, target.Raises size base config host (.ptyOpen reason true) after) ↔
      host.faults.openPty = some reason ∧ reason.isSystem = true
  sizes : ∀ rows cols reason,
    (∃ after, target.Raises size base config host (.ptySize rows cols reason true) after) ↔
      FailsAt host .sizing reason ∧ reason.isSystem = true ∧
        rows = resolved.rows ∧ cols = resolved.cols
  starts : ∀ argv reason,
    (∃ after, target.Raises size base config host (.processStart argv reason true) after) ↔
      FailsAt host .starting reason ∧
        (reason.isSystem = true ∨ reason.isChildProcess = true) ∧
          argv = target.argv base config host
  /-- A fault of another kind is left as it is. -/
  passes : ∀ stage fault, FailsAt host stage fault → stage.reports fault = false →
    ∃ after, target.Raises size base config host fault after
  /-- Nothing is called for a stage after the one that fails. -/
  stops : ∀ stage fault, FailsAt host stage fault → ∀ raised after,
    target.Raises size base config host raised after → Stops stage host after
  proceeds : (∀ stage fault, ¬FailsAt host stage fault) → target.Starts size base config host

/-- The fault of a start can be put into words, as all can with which a system refuses one. -/
def Worded (host : Host) : Prop :=
  ∀ fault ∈ host.faults.start, fault.objection? = none

theorem FailsAt.worded (fails : FailsAt host .starting fault) (worded : Worded host) :
    fault.objection? = none := by
  cases fails with
  | starting opened sized failed => exact worded fault failed
  | claiming opened sized started claims failed => rfl

/-- Every launch whose size is resolved and whose directory is determined tells the stage that fails
by the fault it ends with. -/
theorem launch_classified (resolves : size.resolve config.defaultSize = .ok resolved)
    (starts : target.StartsIn base host cwd) (closes : ∀ fd, host.closeFault? fd = none)
    (originally : host.FailsOriginally) (worded : Worded host) :
    Classified size resolved base config host target where
  opens := by
    intro reason
    apply (Target.raises_report_iff resolves starts closes originally .opening [] resolved
      reason).trans
    constructor
    · rintro ⟨fails, system, _⟩
      cases fails with
      | opening failed => exact ⟨failed, system⟩
    · rintro ⟨failed, system⟩
      exact ⟨.opening failed, system, Fault.system_worded system, rfl⟩
  sizes := by
    intro rows cols reason
    apply (Target.raises_report_iff resolves starts closes originally .sizing [] ⟨rows, cols⟩
      reason).trans
    constructor
    · rintro ⟨fails, reports, _, same⟩
      have system : reason.isSystem = true := by
        rw [Stage.reports, (fails.original originally).met, Bool.or_false] at reports
        exact reports
      cases same
      exact ⟨fails, system, rfl, rfl⟩
    · rintro ⟨fails, system, rfl, rfl⟩
      refine ⟨fails, ?_, Fault.system_worded system, rfl⟩
      rw [Stage.reports, system, Bool.true_or]
  starts := by
    intro argv reason
    apply (Target.raises_report_iff resolves starts closes originally .starting argv resolved
      reason).trans
    constructor
    · rintro ⟨fails, reports, _, same⟩
      cases same
      exact ⟨fails, Bool.or_eq_true_iff.mp reports, rfl⟩
    · rintro ⟨fails, kind, rfl⟩
      exact ⟨fails, Bool.or_eq_true_iff.mpr kind, fails.worded worded, rfl⟩
  passes := by
    intro stage fault fails passed
    obtain ⟨after, raised, _⟩ := Target.raises_of_fails resolves starts closes fails
    rw [Stage.ending_passed passed] at raised
    exact ⟨after, raised⟩
  stops := by
    intro stage fault fails raised after ended
    obtain ⟨left, again, stops⟩ := Target.raises_of_fails resolves starts closes fails
    rw [(ended.unique again).2]
    exact stops
  proceeds := Target.starts_of_proceeds resolves starts closes

end Calls

def claimless : Host :=
  Description.host
    (.obj [("world", .obj [("ctty_error", .obj [("kind", .str "OSError"), ("errno", .int 1)])])])
    "linux"

theorem launch_classified_claimless :
    FailsAt claimless .starting .childSetup ∧
      Classified ⟨24, 80⟩ ⟨24, 80⟩ none Config.default claimless (.command idle) ∧
        ∃ after, Runner.run idle ⟨24, 80⟩ none Config.default claimless =
          (some (.fault (.processStart ["true"] .childSetup true)), after) := by
  have fails : FailsAt claimless .starting .childSetup :=
    .claiming rfl rfl rfl (Terminal.canClaim_iff.mp (by decide)) rfl
  have worded : Worded claimless := by
    have able : claimless.faults.start = none := rfl
    intro fault failed
    rw [able] at failed
    cases failed
  have classified : Classified ⟨24, 80⟩ ⟨24, 80⟩ none Config.default claimless (.command idle) :=
    launch_classified rfl rfl (fun fd => by cases fd <;> rfl)
      (Description.host_failsOriginally _ _) worded
  refine ⟨fails, classified, ?_⟩
  exact (classified.starts ["true"] .childSetup).mpr ⟨fails, .inr rfl, rfl⟩

end Launch

end PtyShell
