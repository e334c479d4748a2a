import PtyShell.Launch
import PtyShell.Proofs.Host

namespace PtyShell

theorem Terminal.field_fits {dimension : Int} (positive : 0 < dimension)
    (small : dimension ≤ TerminalSize.greatest) :
    Terminal.field dimension =
      .ok [UInt8.ofNat (dimension.toNat % 256), UInt8.ofNat (dimension.toNat / 256)] := by
  unfold TerminalSize.greatest at small
  have machine : isMachineInteger dimension = true := by
    unfold isMachineInteger leastMachineInteger greatestMachineInteger
    rw [Bool.and_eq_true]
    exact ⟨decide_eq_true (by omega), decide_eq_true (by omega)⟩
  have inside : ¬(dimension < 0 ∨ greatestDimension < dimension) := by
    unfold greatestDimension
    omega
  unfold field
  rw [machine, Bool.not_true, if_neg Bool.false_ne_true, if_neg inside]

/-- A platform, of whatever version, on which a child can claim its terminal. -/
def Terminal.Claimable (platform : String) : Prop :=
  ∃ family ∈ ["linux", "darwin", "freebsd", "openbsd", "netbsd"], ∃ version,
    platform = family ++ version

theorem Terminal.canClaim_iff {platform : String} :
    canClaim platform = true ↔ Claimable platform := by
  rw [canClaim, List.any_eq_true]
  apply exists_congr
  intro family
  apply and_congr_right
  intro listed
  rw [List.isPrefixOf_iff_prefix]
  constructor
  · rintro ⟨version, same⟩
    refine ⟨String.ofList version, String.toList_injective ?_⟩
    rw [String.toList_append, String.toList_ofList, same]
  · rintro ⟨version, rfl⟩
    exact ⟨version.toList, String.toList_append.symm⟩

theorem TerminalSize.settle_fits {size settled : TerminalSize} (found : size.settle = .ok settled) :
    (0 < settled.rows ∧ settled.rows ≤ greatest) ∧
      (0 < settled.cols ∧ settled.cols ≤ greatest) := by
  unfold settle at found
  by_cases refused : size.rows ≤ 0 ∨ size.cols ≤ 0
  · rw [if_pos refused] at found
    cases found
  · rw [if_neg refused] at found
    cases found
    unfold clamp greatest
    simp only
    omega

theorem TerminalSize.resolve_encodes {size defaults resolved : TerminalSize}
    (found : size.resolve defaults = .ok resolved) :
    ∃ bytes, Terminal.encode resolved.rows resolved.cols = .ok bytes := by
  obtain ⟨rows, cols⟩ := settle_fits found
  unfold Terminal.encode
  rw [Terminal.field_fits rows.1 rows.2, Terminal.field_fits cols.1 cols.2]
  exact ⟨_, rfl⟩

@[simp] theorem Host.asked_openFds (request : StartRequest) (host : Host) :
    (host.asked request).openFds = host.openFds := rfl

@[simp] theorem Host.closeFault?_opened (fd : Fd) (host : Host) :
    host.opened.closeFault? fd = host.closeFault? fd := by
  cases fd <;> rfl

@[simp] theorem Host.closeFault?_asked (fd : Fd) (request : StartRequest) (host : Host) :
    (host.asked request).closeFault? fd = host.closeFault? fd := by
  cases fd <;> rfl

def Host.sized (bytes : List UInt8) (host : Host) : Host :=
  host.opened.record (.resize .master bytes)

@[simp] theorem Host.sized_openFds (bytes : List UInt8) (host : Host) :
    (host.sized bytes).openFds = [.master, .slave] := rfl

def Host.SameMachine (before after : Host) : Prop :=
  after = { before with openFds := after.openFds, trace := after.trace }

namespace Host.SameMachine

theorem trans {first second third : Host} (one : first.SameMachine second)
    (two : second.SameMachine third) : first.SameMachine third := by
  unfold SameMachine at one two ⊢
  rw [two, one]

theorem sized (bytes : List UInt8) (host : Host) : host.SameMachine (host.sized bytes) := rfl

theorem asked (request : StartRequest) (host : Host) : host.SameMachine (host.asked request) := rfl

theorem closed (fd : Fd) (host : Host) : host.SameMachine (host.closed fd) := rfl

end Host.SameMachine

theorem Fault.commandObjection_kind {status command : Json} {objection : Fault}
    (found : commandObjection? status command = some objection) :
    (∃ complaint, objection = .badStatus complaint) ∨ objection = unwritable := by
  unfold commandObjection? at found
  split at found
  · exact .inl ⟨_, (Option.some.inj found).symm⟩
  · split at found
    · split at found
      · split at found
        · cases found
        · exact .inr (Option.some.inj found).symm
      · exact .inl ⟨_, (Option.some.inj found).symm⟩
    · exact .inr (Option.some.inj found).symm

/-- Only the failure of a checked command may be without a message. What is met instead of it is
that its status is no number, or that a number has too many digits. -/
theorem Fault.objection_kind {fault objection : Fault}
    (found : fault.objection? = some objection) :
    (∃ status command, fault = .commandFailed status command) ∧
      ((∃ complaint, objection = .badStatus complaint) ∨ objection = unwritable) := by
  unfold objection? at found
  split at found
  · next status command => exact ⟨⟨status, command, rfl⟩, commandObjection_kind found⟩
  · cases found

theorem Fault.system_worded {fault : Fault} (system : fault.isSystem = true) :
    fault.objection? = none := by
  cases objected : fault.objection? with
  | none => rfl
  | some objection =>
      obtain ⟨⟨status, command, rfl⟩, _⟩ := objection_kind objected
      cases system

theorem Fault.wrap_worded {fault : Fault} (worded : fault.objection? = none)
    (around : Fault → Fault) : wrap around fault = around fault := by
  rw [wrap, worded, Option.getD_none]

namespace Launch

def startFault? (host : Host) : Option Fault :=
  host.faults.start <|>
    (if Terminal.canClaim host.platform then host.faults.claimTerminal.map fun _ => .childSetup
      else none)

theorem openSized_run {size : TerminalSize} {bytes : List UInt8}
    (encoded : Terminal.encode size.rows size.cols = .ok bytes) (host : Host) :
    (openSized size).run host =
      match host.faults.openPty with
      | some fault => .error (openFault fault) (host.record .openPty)
      | none =>
        match host.faults.resize with
        | none => .ok () (host.sized bytes)
        | some fault =>
          match host.closeFault? .master with
          | none =>
            .error ((host.closeFault? .slave).getD (sizeFault size fault))
              (((host.sized bytes).closed .master).closed .slave)
          | some refusal => .error refusal ((host.sized bytes).closed .master) := by
  unfold openSized
  rw [EStateM.run_bind, Sys.tryCatch_run, Sys.openPty_run]
  cases possible : host.faults.openPty with
  | some fault => rfl
  | none =>
      simp only [Sys.tryCatch_run, Sys.resize_run encoded]
      rw [show host.opened.faults.resize = host.faults.resize from rfl]
      cases resized : host.faults.resize with
      | none => rfl
      | some fault =>
          simp only [EStateM.run_bind, Sys.close_run, Host.closeFault?_record,
            Host.closeFault?_opened]
          cases host.closeFault? .master with
          | some refusal => rfl
          | none =>
              simp only [Host.closeFault?_closed, Host.closeFault?_record, Host.closeFault?_opened]
              cases host.closeFault? .slave <;> rfl

theorem startOn_run (argv : List String) (cwd : Option String) (env : Env) (host : Host) :
    (startOn argv cwd env).run host =
      match startFault? host with
      | none =>
        match host.closeFault? .slave with
        | none => .ok () ((host.asked (request host.platform argv cwd env)).closed .slave)
        | some refusal =>
          .error refusal ((host.asked (request host.platform argv cwd env)).closed .slave)
      | some fault =>
        if fault.isSystem || fault.isChildProcess then
          .error
            ((host.closeFault? .slave).getD ((host.closeFault? .master).getD
              (Fault.wrap (fun reason => .processStart argv reason true) fault)))
            (((host.asked (request host.platform argv cwd env)).closed .master).closed .slave)
        else
          .error ((host.closeFault? .slave).getD fault)
            ((host.asked (request host.platform argv cwd env)).closed .slave) := by
  have fault : host.startFault? (request host.platform argv cwd env) = startFault? host := rfl
  unfold startOn refuseStart
  simp only [EStateM.run_bind, EStateM.run_get, Sys.tryFinally_run, Sys.tryCatch_run, Sys.start_run,
    fault]
  cases started : startFault? host with
  | none =>
      simp only [Sys.close_run, Host.closeFault?_asked]
      cases host.closeFault? .slave <;> rfl
  | some fault =>
      cases launcher : fault.isSystem || fault.isChildProcess with
      | false =>
          simp only [launcher, Bool.false_eq_true, if_false, Sys.throw_run, Sys.close_run,
            Host.closeFault?_asked]
          cases host.closeFault? .slave <;> rfl
      | true =>
          simp only [launcher, if_true, EStateM.run_bind, Sys.close_run, Host.closeFault?_asked]
          cases host.closeFault? .master <;>
            simp only [Sys.throw_run, Host.closeFault?_closed, Host.closeFault?_asked] <;>
              cases host.closeFault? .slave <;> rfl

theorem openSized_ok {size : TerminalSize} {bytes : List UInt8}
    (encoded : Terminal.encode size.rows size.cols = .ok bytes) {host after : Host}
    (opened : (openSized size).run host = .ok () after) :
    host.faults.openPty = none ∧ host.faults.resize = none ∧ after = host.sized bytes := by
  rw [openSized_run encoded] at opened
  cases possible : host.faults.openPty with
  | some refusal => simp [possible] at opened
  | none =>
      cases resized : host.faults.resize with
      | some refusal =>
          cases closed : host.closeFault? .master <;> simp [possible, resized, closed] at opened
      | none =>
          simp only [possible, resized] at opened
          cases opened
          exact ⟨rfl, rfl, rfl⟩

theorem startOn_ok {argv : List String} {cwd : Option String} {env : Env} {host after : Host}
    (started : (startOn argv cwd env).run host = .ok () after) :
    startFault? host = none ∧ host.closeFault? .slave = none ∧
        after = (host.asked (request host.platform argv cwd env)).closed .slave := by
  rw [startOn_run] at started
  cases refused : startFault? host with
  | none =>
      simp only [refused] at started
      cases closed : host.closeFault? .slave with
      | some refusal => simp [closed] at started
      | none =>
          simp only [closed] at started
          cases started
          exact ⟨rfl, rfl, rfl⟩
  | some fault =>
      simp only [refused] at started
      split at started <;> cases started

theorem spawn_ok {argv : List String} {cwd : Option String} {env : Env} {size : TerminalSize}
    {bytes : List UInt8} (encoded : Terminal.encode size.rows size.cols = .ok bytes)
    {host after : Host} (spawned : (spawn argv cwd env size).run host = .ok () after) :
    after = ((host.sized bytes).asked (request host.platform argv cwd env)).closed .slave := by
  obtain ⟨_, between, opened, started⟩ := Sys.bind_ok spawned
  obtain ⟨_, _, rfl⟩ := openSized_ok encoded opened
  exact (startOn_ok started).2.2

theorem command_ok {command : Command} {size : TerminalSize} {base : Option Env} {config : Config}
    {host after : Host}
    (launched : (Launch.command command size base config).run host = .ok () after) :
    ∃ bytes env, after = ((host.sized bytes).asked
      (request host.platform command.argv.words command.cwd env)).closed .slave := by
  unfold Launch.command at launched
  obtain ⟨resolved, afterSize, found, rest⟩ := Sys.bind_ok launched
  obtain ⟨resolves, rfl⟩ := Sys.ofExcept_ok found
  obtain ⟨current, before, read, spawned⟩ := Sys.bind_ok rest
  cases read
  obtain ⟨bytes, encoded⟩ := TerminalSize.resolve_encodes resolves
  exact ⟨bytes, _, spawn_ok encoded spawned⟩

theorem command_sameMachine {command : Command} {size : TerminalSize} {base : Option Env}
    {config : Config} {host after : Host}
    (launched : (Launch.command command size base config).run host = .ok () after) :
    host.SameMachine after ∧ after.openFds = [.master] := by
  obtain ⟨bytes, env, rfl⟩ := command_ok launched
  refine ⟨?_, by simp⟩
  exact ((Host.SameMachine.sized bytes host).trans (.asked _ _)).trans (.closed .slave _)

def idle : Command := ⟨⟨["true"], by simp⟩, none, Env.empty⟩

end Launch

end PtyShell
