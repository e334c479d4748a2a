import PtyShell.Proofs.Launch.Preparation

namespace PtyShell

def Host.recordAll (events : List Event) (host : Host) : Host :=
  { host with trace := host.trace ++ events }

namespace Host

@[simp] theorem recordAll_nil (host : Host) : host.recordAll [] = host := by
  unfold recordAll
  rw [List.append_nil]

theorem record_recordAll (event : Event) (events : List Event) (host : Host) :
    (host.record event).recordAll events = host.recordAll (event :: events) := by
  unfold record recordAll
  rw [List.append_assoc, List.singleton_append]

end Host

namespace ShellSearch

def records (host : Host) (names : List String) : List Event :=
  (names.takeWhile fun name => (resolve host name).isNone).map fun name =>
    .log .debug .shellSearch (rejection name)

def first (host : Host) (names : List String) : String :=
  (names.findSome? (resolve host)).getD lastResort

theorem firstOf_run (names : List String) (host : Host) :
    (firstOf names).run host =
      .ok (first host names) (host.recordAll (records host names)) := by
  induction names generalizing host with
  | nil => rw [records, List.takeWhile_nil, List.map_nil, Host.recordAll_nil]; rfl
  | cons name names ih =>
      unfold firstOf
      rw [EStateM.run_bind, EStateM.run_get]
      cases found : resolve host name with
      | some path =>
          simp [first, records, found]
      | none =>
          -- The record of the refusal changes nothing that the others depend on.
          have later : first (host.record (.log .debug .shellSearch (rejection name))) names =
              first host (name :: names) := by
            rw [first, first, List.findSome?_cons, found]
            rfl
          have recorded : .log .debug .shellSearch (rejection name) ::
              records (host.record (.log .debug .shellSearch (rejection name))) names =
                records host (name :: names) := by
            rw [records, records, List.takeWhile_cons, found]
            rfl
          simp only [found, EStateM.run_bind, Sys.log_run]
          rw [ih, later, Host.record_recordAll, recorded]

theorem detect_run (base : Option Env) (config : Config) (host : Host) :
    (detect base config).run host =
      .ok (first host (candidates (base.getD host.environ) config))
        (host.recordAll (records host (candidates (base.getD host.environ) config))) := by
  unfold detect
  rw [EStateM.run_bind, EStateM.run_get]
  exact firstOf_run _ host

theorem detect_records {base : Option Env} {config : Config} {host after : Host} {path : String}
    (detected : (detect base config).run host = .ok path after) :
    ∃ records, after = host.recordAll records ∧
      ∀ event ∈ records, ∃ message, event = .log .debug .shellSearch message := by
  rw [detect_run] at detected
  cases detected
  refine ⟨_, rfl, ?_⟩
  intro event member
  obtain ⟨name, _, rfl⟩ := List.mem_map.mp member
  exact ⟨_, rfl⟩

end ShellSearch

namespace WorkingDirectory

def fallbackMessage (directory reason : String) : String :=
  "Using home dir " ++ directory ++ " (" ++ reason ++ ")"

/-- The directory that is chosen to start in, and what is recorded: a directory without an objection
is taken as it is, and else the home directory is. -/
inductive Chosen (host : Host) (base : Option Env) (cwd : Option String) :
    Option String → List Event → Prop
  | requested (accepted : objection host cwd = .ok none) : Chosen host base cwd cwd []
  | home {reason directory : String} (refused : objection host cwd = .ok (some reason))
      (found : WorkingDirectory.home host base = .ok directory) :
      Chosen host base cwd (some directory)
        [.log .debug .launcher (fallbackMessage directory reason)]

theorem chosen_recordAll {host : Host} {base : Option Env} {cwd directory : Option String}
    {early records : List Event} :
    Chosen (host.recordAll early) base cwd directory records ↔
      Chosen host base cwd directory records := by
  constructor
  · intro chosen
    cases chosen with
    | requested accepted => exact .requested accepted
    | home refused found => exact .home refused found
  · intro chosen
    cases chosen with
    | requested accepted => exact .requested accepted
    | home refused found => exact .home refused found

theorem Chosen.logged {host : Host} {base : Option Env} {cwd directory : Option String}
    {records : List Event} (chosen : Chosen host base cwd directory records) (before : Host) :
    before.Logged (before.recordAll records) := by
  cases chosen with
  | requested accepted =>
      rw [Host.recordAll_nil]
      exact .refl before
  | home refused found => exact .log _ _ _ before

theorem choose_ok_iff {host after : Host} {base : Option Env} {cwd directory : Option String} :
    (choose base cwd).run host = .ok directory after ↔
      ∃ records, Chosen host base cwd directory records ∧ after = host.recordAll records := by
  unfold choose
  rw [EStateM.run_bind, EStateM.run_get]
  simp only [EStateM.run_bind, Sys.ofExcept_run]
  constructor
  · intro chosen
    cases objected : objection host cwd with
    | error fault => simp [objected] at chosen
    | ok reason =>
        cases reason with
        | none =>
            simp only [objected] at chosen
            cases chosen
            exact ⟨[], .requested objected, (Host.recordAll_nil host).symm⟩
        | some reason =>
            simp only [objected, EStateM.run_bind, EStateM.run_get, Sys.ofExcept_run] at chosen
            cases found : home host base with
            | error fault => simp [found] at chosen
            | ok directory =>
                simp only [found, Sys.log_run] at chosen
                cases chosen
                exact ⟨_, .home objected found, rfl⟩
  · rintro ⟨records, chosen, rfl⟩
    cases chosen with
    | requested accepted =>
        simp only [accepted, Host.recordAll_nil]
        rfl
    | home refused found =>
        simp only [refused, EStateM.run_bind, EStateM.run_get, Sys.ofExcept_run, found, Sys.log_run]
        rfl

end WorkingDirectory

/-- What is left of the launch of a shell once its size, its path and its directory are settled. -/
theorem Launch.shell_settled {size resolved : TerminalSize} {base : Option Env} {config : Config}
    {host : Host} {path : String} {cwd : Option String} {searched settled : List Event}
    {opts : ShellOptions} (resolves : size.resolve config.defaultSize = .ok resolved)
    (detected : (ShellSearch.detect base config).run host = .ok path (host.recordAll searched))
    (chosen : WorkingDirectory.Chosen host base opts.cwd cwd settled) (command : Option String) :
    (shell size command opts base config).run host =
      (do
        spawn (argvOf path command opts) cwd
          (ChildEnv.build (base.getD host.environ) config opts.env) resolved
        Sys.log .info .launcher
          (startedMessage host.pid resolved cwd (argvOf path command opts)) : Sys Unit).run
            ((host.recordAll searched).recordAll settled) := by
  have directory : (WorkingDirectory.choose base opts.cwd).run (host.recordAll searched) =
      .ok cwd ((host.recordAll searched).recordAll settled) :=
    WorkingDirectory.choose_ok_iff.mpr
      ⟨settled, WorkingDirectory.chosen_recordAll.mpr chosen, rfl⟩
  unfold shell
  rw [EStateM.run_bind, Sys.ofExcept_run, resolves]
  simp only
  rw [EStateM.run_bind, detected]
  simp only
  rw [EStateM.run_bind, directory]
  simp only
  rw [EStateM.run_bind, EStateM.run_get]
  rfl

end PtyShell
