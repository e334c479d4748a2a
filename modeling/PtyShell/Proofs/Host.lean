import PtyShell.FileTree
import PtyShell.Host

namespace PtyShell

namespace Event

def isKill (event : Event) : Bool :=
  event == .kill

def isWait (event : Event) : Bool :=
  event == .wait

def isClose (fd : Fd) : Event → Bool
  | .close other _ => fd == other
  | _ => false

def notice? : Event → Option String
  | .notice text => some text
  | _ => none

end Event

namespace Host

def kills (host : Host) : Nat :=
  host.trace.countP Event.isKill

def waits (host : Host) : Nat :=
  host.trace.countP Event.isWait

def closes (fd : Fd) (host : Host) : Nat :=
  host.trace.countP (Event.isClose fd)

def notices (host : Host) : List String :=
  host.trace.filterMap Event.notice?

@[simp] theorem record_faults (event : Event) (host : Host) :
    (host.record event).faults = host.faults := rfl

@[simp] theorem record_trace (event : Event) (host : Host) :
    (host.record event).trace = host.trace ++ [event] := rfl

@[simp] theorem kills_record (event : Event) (host : Host) :
    (host.record event).kills = host.kills + event.isKill.toNat := by
  cases seen : event.isKill <;> simp [kills, seen]

@[simp] theorem waits_record (event : Event) (host : Host) :
    (host.record event).waits = host.waits + event.isWait.toNat := by
  cases seen : event.isWait <;> simp [waits, seen]

@[simp] theorem closes_record (fd : Fd) (event : Event) (host : Host) :
    (host.record event).closes fd = host.closes fd + (event.isClose fd).toNat := by
  cases seen : event.isClose fd <;> simp [closes, seen]

@[simp] theorem notices_record (event : Event) (host : Host) :
    (host.record event).notices = host.notices ++ event.notice?.toList := by
  cases seen : event.notice? <;> simp [notices, seen]

def plain : Host where
  pid := 4242
  environ := Env.empty
  accountHome := none
  nesting := 900
  directory := "/"
  files := FileTree.system ⟨[]⟩
  dotenv := ".env"
  platform := "linux"
  faults := ⟨none, none, none, none, none, none, none⟩
  waitFaults := []
  returncode := none
  killable := true
  output := []
  readEnd := .error
  windowSize := []
  openFds := []
  trace := []

/-- The plain host, but killing the process, waiting for it and closing the master end fail. -/
def refusing : Host :=
  { plain with
    faults :=
      { plain.faults with
        kill := some (.system 1 "Operation not permitted" none)
        close := some (.system 5 "Input/output error" none) }
    waitFaults := [.system 10 "No child processes" none] }

def greeted : Host :=
  { plain with output := [[104, 105], [10]], returncode := some 0 }

def talking : Host :=
  { plain with accountHome := some "/h", output := [[97], [98]] }

/-- The talking host, but the process has exited and was waited for by others: waiting for it and
killing it fail. -/
def childless : Host :=
  { talking with
    faults := { plain.faults with kill := some (.system 3 "No such process" none) }
    waitFaults := [.system 10 "No child processes" none]
    returncode := some 3 }

def killed (host : Host) : Host :=
  if host.killable then (host.record .kill).exit (-(Signal.killNumber : Int))
  else host.record .kill

def closed (fd : Fd) (host : Host) : Host :=
  { host.record (.close fd host.unread) with openFds := host.openFds.erase fd }

def closeFault? (fd : Fd) (host : Host) : Option Fault :=
  match fd with
  | .master => host.faults.close
  | .slave => host.faults.closeSlave

def opened (host : Host) : Host :=
  { host.record .openPty with openFds := [.master, .slave] }

def startFault? (request : StartRequest) (host : Host) : Option Fault :=
  host.faults.start <|>
    (if request.claimTerminal then host.faults.claimTerminal.map fun _ => .childSetup else none)

def asked (request : StartRequest) (host : Host) : Host :=
  { host with
    trace :=
      host.trace ++ .start request ::
        (if host.faults.start = none ∧ request.claimTerminal = true then [.claimTerminal] else []) }

theorem exit_returncode (code : Int) (host : Host) {old : Int}
    (ended : host.returncode = some old) : (host.exit code).returncode = some old := by
  simp [exit, ended]

theorem exit_exited (code : Int) (host : Host) : (host.exit code).returncode ≠ none := by
  cases ended : host.returncode with
  | none => simp [exit, ended]
  | some old => simp [exit, ended]

@[simp] theorem killed_pid (host : Host) : host.killed.pid = host.pid := by
  unfold killed
  split <;> rfl

@[simp] theorem killed_faults (host : Host) : host.killed.faults = host.faults := by
  unfold killed
  split <;> rfl

@[simp] theorem killed_waitFaults (host : Host) : host.killed.waitFaults = host.waitFaults := by
  unfold killed
  split <;> rfl

@[simp] theorem killed_output (host : Host) : host.killed.output = host.output := by
  unfold killed
  split <;> rfl

@[simp] theorem killed_openFds (host : Host) : host.killed.openFds = host.openFds := by
  unfold killed
  split <;> rfl

@[simp] theorem killed_trace (host : Host) : host.killed.trace = host.trace ++ [.kill] := by
  unfold killed
  split <;> rfl

@[simp] theorem kills_killed (host : Host) : host.killed.kills = host.kills + 1 := by
  unfold kills
  rw [killed_trace, List.countP_append]
  rfl

@[simp] theorem waits_killed (host : Host) : host.killed.waits = host.waits := by
  unfold waits
  rw [killed_trace, List.countP_append]
  rfl

@[simp] theorem closes_killed (fd : Fd) (host : Host) : host.killed.closes fd = host.closes fd := by
  unfold closes
  rw [killed_trace, List.countP_append]
  rfl

@[simp] theorem notices_killed (host : Host) : host.killed.notices = host.notices := by
  unfold notices
  rw [killed_trace, List.filterMap_append]
  exact List.append_nil _

@[simp] theorem killed_killable (host : Host) : host.killed.killable = host.killable := by
  unfold killed
  split <;> rfl

theorem killed_ended (host : Host) (killable : host.killable = true) :
    host.killed.returncode ≠ none := by
  unfold killed exit
  rw [if_pos killable]
  cases host.returncode <;> simp

theorem killed_returncode (host : Host) {old : Int} (ended : host.returncode = some old) :
    host.killed.returncode = some old := by
  unfold killed
  split
  · exact exit_returncode _ (host.record .kill) ended
  · exact ended

@[simp] theorem closeFault?_record (fd : Fd) (event : Event) (host : Host) :
    (host.record event).closeFault? fd = host.closeFault? fd := by
  cases fd <;> rfl

@[simp] theorem closeFault?_closed (fd other : Fd) (host : Host) :
    (host.closed other).closeFault? fd = host.closeFault? fd := by
  cases fd <;> rfl

@[simp] theorem closed_openFds (fd : Fd) (host : Host) :
    (host.closed fd).openFds = host.openFds.erase fd := rfl

@[simp] theorem kills_enterWait (host : Host) : host.enterWait.2.kills = host.kills :=
  kills_record .wait host

@[simp] theorem waits_enterWait (host : Host) : host.enterWait.2.waits = host.waits + 1 :=
  waits_record .wait host

@[simp] theorem closes_enterWait (fd : Fd) (host : Host) :
    host.enterWait.2.closes fd = host.closes fd :=
  closes_record fd .wait host

@[simp] theorem notices_enterWait (host : Host) : host.enterWait.2.notices = host.notices :=
  (notices_record .wait host).trans (List.append_nil _)

@[simp] theorem notices_closed (fd : Fd) (host : Host) : (host.closed fd).notices = host.notices :=
  (notices_record (.close fd host.unread) host).trans (List.append_nil _)

@[simp] theorem kills_closed (fd : Fd) (host : Host) : (host.closed fd).kills = host.kills :=
  kills_record (.close fd host.unread) host

@[simp] theorem waits_closed (fd : Fd) (host : Host) : (host.closed fd).waits = host.waits :=
  waits_record (.close fd host.unread) host

@[simp] theorem closes_closed (fd other : Fd) (host : Host) :
    (host.closed other).closes fd = host.closes fd + (fd == other).toNat :=
  closes_record fd (.close other host.unread) host

theorem stat_ok {host : Host} {path : String} {entry : Entry} :
    host.stat path = .ok entry ↔
      Path.hasNul path = false ∧ host.files.find host.directory path = .ok entry := by
  unfold stat
  cases Path.hasNul path with
  | true => simp
  | false =>
      cases host.files.find host.directory path with
      | error refusal => simp
      | ok found => simp

theorem holds_iff {host : Host} {path : String} {property : Entry → Bool} :
    host.holds path property = true ↔
      ∃ entry, host.stat path = .ok entry ∧ property entry = true := by
  unfold holds
  cases host.stat path <;> simp

/-- What every call leaves of a host. -/
structure Continues (before after : Host) : Prop where
  pid : after.pid = before.pid
  faults : after.faults = before.faults
  waitFaults : after.waitFaults <:+ before.waitFaults
  returncode : ∀ code, before.returncode = some code → after.returncode = some code
  trace : before.trace <+: after.trace

namespace Continues

theorem refl (host : Host) : host.Continues host :=
  ⟨rfl, rfl, List.suffix_refl _, fun _ same => same, List.prefix_refl _⟩

theorem trans {first second third : Host} (one : first.Continues second)
    (two : second.Continues third) : first.Continues third where
  pid := two.pid.trans one.pid
  faults := two.faults.trans one.faults
  waitFaults := two.waitFaults.trans one.waitFaults
  returncode := fun code ended => two.returncode code (one.returncode code ended)
  trace := one.trace.trans two.trace

theorem record (event : Event) (host : Host) : host.Continues (host.record event) :=
  ⟨rfl, rfl, List.suffix_refl _, fun _ same => same, List.prefix_append _ _⟩

theorem exit (code : Int) (host : Host) : host.Continues (host.exit code) :=
  ⟨rfl, rfl, List.suffix_refl _, fun _ ended => exit_returncode code host ended, List.prefix_refl _⟩

theorem killed (host : Host) : host.Continues host.killed where
  pid := killed_pid host
  faults := killed_faults host
  waitFaults := ⟨[], killed_waitFaults host⟩
  returncode := fun _ ended => killed_returncode host ended
  trace := by
    rw [killed_trace]
    exact List.prefix_append _ _

theorem enterWait (host : Host) : host.Continues host.enterWait.2 :=
  ⟨rfl, rfl, List.tail_suffix _, fun _ same => same, List.prefix_append _ _⟩

theorem closed (fd : Fd) (host : Host) : host.Continues (host.closed fd) :=
  ⟨rfl, rfl, List.suffix_refl _, fun _ same => same, List.prefix_append _ _⟩

end Continues

end Host

namespace Sys

@[simp] theorem record_run (event : Event) (host : Host) :
    (record event).run host = .ok () (host.record event) := rfl

@[simp] theorem log_run (level : Level) (logger : Logger) (message : String) (host : Host) :
    (log level logger message).run host = .ok () (host.record (.log level logger message)) := rfl

@[simp] theorem throw_run {α : Type} (fault : Fault) (host : Host) :
    (throw fault : Sys α).run host = .error fault host := rfl

@[simp] theorem failIf_run (fault : Option Fault) (host : Host) :
    (failIf fault).run host =
      match fault with
      | none => .ok () host
      | some fault => .error fault host := by
  cases fault <;> rfl

theorem kill_run (host : Host) :
    kill.run host =
      match host.faults.kill with
      | none => .ok () host.killed
      | some fault => .error fault (host.record .kill) := by
  cases possible : host.faults.kill with
  | none =>
      simp only [kill, EStateM.run_bind, record_run, EStateM.run_get, Host.record_faults, possible,
        failIf_run, EStateM.run_modify]
      rfl
  | some fault =>
      simp only [kill, EStateM.run_bind, record_run, EStateM.run_get, Host.record_faults, possible,
        failIf_run]

theorem close_run (fd : Fd) (host : Host) :
    (close fd).run host =
      match host.closeFault? fd with
      | none => .ok () (host.closed fd)
      | some fault => .error fault (host.closed fd) := by
  cases fd <;> simp only [close, EStateM.run_bind, EStateM.run_modify, EStateM.run_get, failIf_run]
    <;> rfl

@[simp] theorem ofExcept_run {α : Type} (value : Except Fault α) (host : Host) :
    (ofExcept value).run host =
      match value with
      | .ok value => .ok value host
      | .error fault => .error fault host := by
  cases value <;> rfl

theorem ofExcept_ok {α : Type} {value : Except Fault α} {result : α} {host after : Host}
    (returned : (ofExcept value).run host = .ok result after) :
    value = .ok result ∧ after = host := by
  rw [ofExcept_run] at returned
  cases value <;> cases returned
  exact ⟨rfl, rfl⟩

theorem bind_ok {α β : Type} {first : Sys α} {next : α → Sys β} {host after : Host} {result : β}
    (returned : (first >>= next).run host = .ok result after) :
    ∃ value between, first.run host = .ok value between ∧
      (next value).run between = .ok result after := by
  rw [EStateM.run_bind] at returned
  cases ran : first.run host with
  | error fault between => simp [ran] at returned
  | ok value between =>
      simp only [ran] at returned
      exact ⟨value, between, rfl, returned⟩

theorem bind_error {α β : Type} {first : Sys α} {next : α → Sys β} {host after : Host}
    {fault : Fault} (failed : (first >>= next).run host = .error fault after) :
    first.run host = .error fault after ∨ ∃ value between,
      first.run host = .ok value between ∧ (next value).run between = .error fault after := by
  rw [EStateM.run_bind] at failed
  cases ran : first.run host with
  | error early last =>
      simp only [ran] at failed
      cases failed
      exact .inl rfl
  | ok value between =>
      simp only [ran] at failed
      exact .inr ⟨value, between, rfl, failed⟩

def leaves {α : Type} (action : Sys α) (host : Host) : Host :=
  match action.run host with
  | .ok _ after | .error _ after => after

def outcome {α : Type} (action : Sys α) (host : Host) : Except Fault α :=
  match action.run host with
  | .ok value _ => .ok value
  | .error fault _ => .error fault

theorem leaves_of_ok {α : Type} {action : Sys α} {value : α} {host after : Host}
    (ran : action.run host = .ok value after) : action.leaves host = after := by
  unfold leaves
  rw [ran]

theorem leaves_bind {α β : Type} (first : Sys α) (next : α → Sys β) (host : Host) :
    (first >>= next).leaves host =
      match first.run host with
      | .ok value between => (next value).leaves between
      | .error _ after => after := by
  unfold leaves
  rw [EStateM.run_bind]
  cases first.run host <;> rfl

@[simp] theorem leaves_ofExcept {α : Type} (value : Except Fault α) (host : Host) :
    (ofExcept value).leaves host = host := by
  cases value <;> rfl

@[simp] theorem outcome_ofExcept {α : Type} (value : Except Fault α) (host : Host) :
    (ofExcept value).outcome host = value := by
  cases value <;> rfl

theorem tryCatch_run {α : Type} (action : Sys α) (handler : Fault → Sys α) (host : Host) :
    (tryCatch action handler).run host =
      match action.run host with
      | .ok value after => .ok value after
      | .error fault after => (handler fault).run after := by
  show EStateM.tryCatch action handler host = _
  unfold EStateM.tryCatch EStateM.run
  cases action host <;> rfl

/-- A finalizer is run however the action ends, and its own fault wins. -/
theorem tryFinally_run {α : Type} (action : Sys α) (finalizer : Sys Unit) (host : Host) :
    (tryFinally action finalizer).run host =
      match action.run host with
      | .ok value after =>
        match finalizer.run after with
        | .ok _ last => .ok value last
        | .error other last => .error other last
      | .error fault after =>
        match finalizer.run after with
        | .ok _ last => .error fault last
        | .error other last => .error other last := by
  show EStateM.map Prod.fst (tryFinally' action fun _ => finalizer) host = _
  unfold EStateM.run
  cases ran : action host with
  | ok value after => cases last : finalizer after <;> simp [EStateM.map, tryFinally', ran, last]
  | error fault after => cases last : finalizer after <;> simp [EStateM.map, tryFinally', ran, last]

theorem openPty_run (host : Host) :
    openPty.run host =
      match host.faults.openPty with
      | none => .ok () host.opened
      | some fault => .error fault (host.record .openPty) := by
  cases possible : host.faults.openPty with
  | none =>
      simp only [openPty, EStateM.run_bind, record_run, EStateM.run_get, Host.record_faults,
        possible, failIf_run, EStateM.run_modify]
      rfl
  | some fault =>
      simp only [openPty, EStateM.run_bind, record_run, EStateM.run_get, Host.record_faults,
        possible, failIf_run]

theorem resize_run {rows cols : Int} {size : List UInt8}
    (encoded : Terminal.encode rows cols = .ok size) (fd : Fd) (host : Host) :
    (resize (some fd) rows cols).run host =
      match host.faults.resize with
      | none => .ok () (host.record (.resize fd size))
      | some fault => .error fault (host.record (.resize fd size)) := by
  simp only [resize, EStateM.run_bind, ofExcept_run, encoded, record_run, EStateM.run_get,
    Host.record_faults, failIf_run]

theorem claimTerminal_run (host : Host) :
    claimTerminal.run host =
      match host.faults.claimTerminal with
      | none => .ok () (host.record .claimTerminal)
      | some fault => .error fault (host.record .claimTerminal) := by
  simp only [claimTerminal, EStateM.run_bind, record_run, EStateM.run_get, Host.record_faults,
    failIf_run]

theorem start_run (request : StartRequest) (host : Host) :
    (start request).run host =
      match host.startFault? request with
      | none => .ok () (host.asked request)
      | some fault => .error fault (host.asked request) := by
  unfold start Host.startFault? Host.asked
  cases possible : host.faults.start with
  | some fault =>
      simp [EStateM.run_bind, possible, Host.record]
  | none =>
      cases claims : request.claimTerminal with
      | false => simp [EStateM.run_bind, possible, Host.record]
      | true =>
          simp only [EStateM.run_bind, record_run, EStateM.run_get, Host.record_faults, possible,
            failIf_run, if_true, tryCatch_run, claimTerminal_run]
          cases host.faults.claimTerminal <;> simp [Host.record]

end Sys

end PtyShell
