import PtyShell.Proofs.Launch.Target

/-! # The directory to start in

A shell starts in the directory that was asked for, if it is there, and else in the home directory,
which is put on record. Only a path that cannot be handed to the system fails the launch. -/

namespace PtyShell

theorem Host.stat_fault {host : Host} {path : String} {fault : Fault}
    (failed : host.stat path = .error fault) :
    if Path.hasNul path then fault = .embeddedNul else fault.isSystem = true := by
  unfold stat at failed
  split at failed
  · next nul =>
      cases failed
      rw [if_pos nul]
  · next askable =>
      rw [if_neg askable]
      split at failed
      · cases failed
      · cases failed
        rfl

theorem Host.stat_nul {path : String} (nul : Path.hasNul path = true) (host : Host) :
    host.stat path = .error .embeddedNul := by
  unfold stat
  rw [if_pos nul]

namespace WorkingDirectory

def Usable (host : Host) (cwd : Option String) : Prop :=
  ∃ path entry, cwd = some path ∧ path ≠ "" ∧ host.stat path = .ok entry ∧
    entry.isDirectory = true

/-- The path that was asked for cannot be handed to the system. -/
def Unaskable (cwd : Option String) : Prop :=
  ∃ path, cwd = some path ∧ Path.hasNul path = true

/-- The directory that a shell starts in, and what is recorded of the choice. -/
inductive Decided (host : Host) (home : String) (cwd : Option String) :
    Option String → List Event → Prop
  | requested (usable : Usable host cwd) : Decided host home cwd cwd []
  | home (unusable : ¬Usable host cwd) (reason : String) :
      Decided host home cwd (some home)
        [.log .debug .launcher (fallbackMessage home reason)]

section Objection

variable {host : Host} {cwd : Option String}

theorem objection_path {path : String} (some : path ≠ "") (host : Host) :
    objection host (.some path) =
      match host.stat path with
      | .ok entry =>
        .ok (if entry.isDirectory then none
          else .some ("cwd " ++ Text.quoted path ++ " is not a directory"))
      | .error fault =>
        if fault.isSystem then
          .ok (.some ("error statting cwd " ++ Text.quoted path ++ ": " ++ fault.message))
        else .error fault := by
  unfold objection
  split
  · next absent => cases absent
  · next empty => exact absurd (Option.some.inj empty) some
  · next found =>
      cases found
      rfl

theorem objection_none : objection host cwd = .ok none ↔ Usable host cwd := by
  constructor
  · intro accepted
    cases cwd with
    | none => cases accepted
    | some path =>
        by_cases empty : path = ""
        · subst empty
          cases accepted
        · rw [objection_path empty] at accepted
          cases found : host.stat path with
          | ok entry =>
              refine ⟨path, entry, rfl, empty, found, ?_⟩
              cases directory : entry.isDirectory with
              | true => rfl
              | false => simp [found, directory] at accepted
          | error fault => cases system : fault.isSystem <;> simp [found, system] at accepted
  · rintro ⟨path, entry, rfl, some, found, directory⟩
    rw [objection_path some, found]
    simp only [directory, if_true]

theorem objection_ok (askable : ¬Unaskable cwd) : ∃ reason, objection host cwd = .ok reason := by
  cases cwd with
  | none => exact ⟨_, rfl⟩
  | some path =>
      by_cases empty : path = ""
      · subst empty
        exact ⟨_, rfl⟩
      · rw [objection_path empty]
        cases found : host.stat path with
        | ok entry => exact ⟨_, rfl⟩
        | error fault =>
            have plain : ¬Path.hasNul path = true := fun nul => askable ⟨path, rfl, nul⟩
            have system := Host.stat_fault found
            rw [if_neg plain] at system
            exact ⟨_, if_pos system⟩

theorem objection_unaskable (unaskable : Unaskable cwd) (host : Host) :
    objection host cwd = .error .embeddedNul := by
  obtain ⟨path, rfl, nul⟩ := unaskable
  have some : path ≠ "" := by
    rintro rfl
    cases nul
  rw [objection_path some, Host.stat_nul nul]
  rfl

end Objection

theorem home_named {base : Option Env} {host : Host}
    (named : (base.getD host.environ).getD "HOME" ≠ "") :
    home host base = .ok ((base.getD host.environ).getD "HOME") :=
  if_neg named

section Choice

variable {base : Option Env} {cwd : Option String} {host : Host}

theorem chosen_decided (named : (base.getD host.environ).getD "HOME" ≠ "")
    (askable : ¬Unaskable cwd) :
    ∃ directory records, Chosen host base cwd directory records ∧
      Decided host ((base.getD host.environ).getD "HOME") cwd directory records := by
  obtain ⟨objected, found⟩ : ∃ objected, objection host cwd = .ok objected := objection_ok askable
  cases objected with
  | none => exact ⟨cwd, [], .requested found, .requested (objection_none.mp found)⟩
  | some reason =>
      have unusable : ¬Usable host cwd := by
        intro usable
        rw [objection_none.mpr usable] at found
        cases found
      exact ⟨_, _, .home found (home_named named), .home unusable reason⟩

theorem Chosen.unique {first second : Option String} {early late : List Event}
    (one : Chosen host base cwd first early) (two : Chosen host base cwd second late) :
    first = second ∧ early = late := by
  cases one with
  | requested accepted =>
      cases two with
      | requested again => exact ⟨rfl, rfl⟩
      | home refused found => cases accepted.symm.trans refused
  | home refused found =>
      cases two with
      | requested accepted => cases refused.symm.trans accepted
      | home again other =>
          cases refused.symm.trans again
          cases found.symm.trans other
          exact ⟨rfl, rfl⟩

theorem choose_unaskable (unaskable : Unaskable cwd) (base : Option Env) (host : Host) :
    (choose base cwd).run host = .error .embeddedNul host := by
  unfold choose
  rw [EStateM.run_bind, EStateM.run_get]
  simp only [EStateM.run_bind, Sys.ofExcept_run, objection_unaskable unaskable]

end Choice

end WorkingDirectory

namespace Launch

open WorkingDirectory

/-- How the directory of a shell is decided. -/
structure DecidesDirectory (base : Option Env) (opts : ShellOptions) (host : Host) : Prop where
  /-- There is a directory for every path that can be handed to the system, the choice is one step
  of the launch that always succeeds, and the process is asked for in that directory. -/
  askable : ¬Unaskable opts.cwd → ∃ directory records,
    Decided host ((base.getD host.environ).getD "HOME") opts.cwd directory records ∧
      (choose base opts.cwd).run host = .ok directory (host.recordAll records) ∧
        ∀ size command config after,
          Target.Reaches size base config host (.shell command opts) after →
            ∃ setup, host.Gains after setup ∧
              ∀ wanted, .start wanted ∈ setup → wanted.cwd = directory
  /-- Any other path fails the launch before its terminal is opened. -/
  unaskable : Unaskable opts.cwd → ∀ size command config resolved,
    size.resolve config.defaultSize = .ok resolved →
      ∃ after, (shell size command opts base config).run host = .error .embeddedNul after ∧
        host.Logged after

/-- Only a path that cannot be handed to the system fails the choice of a directory. -/
theorem shell_directory {base : Option Env} {host : Host}
    (named : (base.getD host.environ).getD "HOME" ≠ "") (opts : ShellOptions) :
    DecidesDirectory base opts host where
  askable := by
    intro askable
    obtain ⟨directory, records, chosen, decided⟩ := chosen_decided named askable
    refine ⟨directory, records, decided, choose_ok_iff.mpr ⟨records, chosen, rfl⟩, ?_⟩
    intro size command config after reached
    obtain ⟨setup, gains, asks⟩ := reached.asks
    refine ⟨setup, gains, ?_⟩
    intro wanted member
    obtain ⟨cwd, ⟨others, found⟩, rfl⟩ := asks wanted member
    exact (found.unique chosen).1
  unaskable := by
    intro unaskable size command config resolved resolves
    have detected := ShellSearch.detect_run base config host
    have searched := (ShellSearch.detect_onlyLogs base config).ok detected
    refine ⟨_, ?_, searched⟩
    unfold shell
    rw [EStateM.run_bind, Sys.ofExcept_run, resolves]
    simp only
    rw [EStateM.run_bind, detected]
    simp only
    rw [EStateM.run_bind, choose_unaskable unaskable]

def homely : Env := Env.empty.set "HOME" "/h"

def startingIn (cwd : String) : ShellOptions :=
  { ShellOptions.default with cwd := some cwd }

theorem shell_directory_missing :
    ((some homely).getD Host.plain.environ).getD "HOME" ≠ "" ∧
      DecidesDirectory (some homely) (startingIn "/w") Host.plain ∧
        ¬Unaskable (some "/w") ∧
          (choose (some homely) (some "/w")).run Host.plain = .ok (some "/h") (Host.plain.record
            (.log .debug .launcher (fallbackMessage "/h"
              "error statting cwd '/w': [Errno 2] No such file or directory: '/w'"))) := by
  have named : ((some homely).getD Host.plain.environ).getD "HOME" ≠ "" := by decide
  refine ⟨named, shell_directory named (startingIn "/w"), ?_, by rfl⟩
  rintro ⟨path, same, nul⟩
  cases same
  cases nul

def nulPath : String := String.ofList ['/', 'w', Char.ofNat 0]

/-- Such a path fails the choice and the launch, although there is a home to fall back on. -/
theorem shell_directory_nul :
    ((some homely).getD Host.plain.environ).getD "HOME" ≠ "" ∧
      (choose (some homely) (some nulPath)).run Host.plain = .error .embeddedNul Host.plain ∧
        (¬∃ directory records, (choose (some homely) (some nulPath)).run Host.plain =
          .ok directory (Host.plain.recordAll records)) ∧
          ∃ after, (shell ⟨24, 80⟩ none (startingIn nulPath) (some homely) Config.default).run
            Host.plain = .error .embeddedNul after := by
  have failed : (choose (some homely) (some nulPath)).run Host.plain =
      .error .embeddedNul Host.plain := rfl
  refine ⟨by decide, failed, ?_, _, rfl⟩
  rintro ⟨directory, records, chosen⟩
  rw [failed] at chosen
  cases chosen

end Launch

end PtyShell
