import Mathlib.Logic.Function.Iterate
import PtyShell.Proofs.Config.Standard

/-! # Loading the configuration again

Loading a configuration writes to the environment that it then reads. It adds only names of the
environment file, and once all of them are set, loading the same files again comes to the same
configuration, or to the same fault, and leaves the environment as it is. -/

namespace PtyShell

namespace Config

section Repeating

variable {services : Services} {named : String → String → Prop} {path : Option String} {host : Host}

theorem loadWith_outcome (sets : SetsMissing services.addVariables named host) :
    (loadWith services path).outcome host = (do
      let file ← fileValue host path
      ofSources services.validate (services.addVariables.leaves host).environ file) := by
  have run := @loadWith_run services path host _ sets.completes sets.only
  unfold Sys.outcome
  rw [run]
  exact Sys.outcome_ofExcept _ _

theorem loadWith_next (sets : SetsMissing services.addVariables named host)
    (again : SetsMissing services.addVariables named (services.addVariables.leaves host)) :
    (services.addVariables.leaves (services.addVariables.leaves host)).environ =
        (services.addVariables.leaves host).environ ∧
      (loadWith services path).outcome (services.addVariables.leaves host) =
        (loadWith services path).outcome host := by
  have only : services.addVariables.leaves host = { host with
    environ := (services.addVariables.leaves host).environ
    trace := (services.addVariables.leaves host).trace } := sets.only
  have sameFile : (services.addVariables.leaves host).dotenv = host.dotenv := by rw [only]
  have steady := again.steady fun name listed => sets.covers (sameFile ▸ listed)
  refine ⟨steady, ?_⟩
  rw [loadWith_outcome sets, loadWith_outcome again, steady, fileValue_same only]

end Repeating

/-- However often a configuration is loaded, it comes to the same. -/
structure Repeats (services : Services) (path : Option String) (host : Host) : Prop where
  outcome : ∀ times,
    (loadWith services path).outcome ((loadWith services path).leaves^[times] host) =
      (loadWith services path).outcome host
  environ : ∀ times, ((loadWith services path).leaves^[times + 1] host).environ =
    ((loadWith services path).leaves host).environ

theorem leaves_succ (services : Services) (path : Option String) (host : Host) (times : Nat) :
    (loadWith services path).leaves^[times + 1] host =
      services.addVariables.leaves ((loadWith services path).leaves^[times] host) := by
  rw [Function.iterate_succ_apply', loadWith_leaves]

theorem repeats_of_sets {services : Services} {named : String → String → Prop}
    {path : Option String} {host : Host}
    (sets : ∀ times, SetsMissing services.addVariables named
      ((loadWith services path).leaves^[times] host)) : Repeats services path host := by
  have again (times : Nat) : SetsMissing services.addVariables named
      (services.addVariables.leaves ((loadWith services path).leaves^[times] host)) := by
    rw [← leaves_succ]
    exact sets (times + 1)
  constructor
  · intro times
    induction times with
    | zero => rfl
    | succ times ih => rw [leaves_succ, (loadWith_next (sets times) (again times)).2, ih]
  · intro times
    induction times with
    | zero => rfl
    | succ times ih =>
        have steady := (@loadWith_next services named path _ (sets times) (again times)).1
        rw [leaves_succ, leaves_succ, steady, ← leaves_succ, ih]

/-- Loading a configuration, whether it succeeds or fails, changes no variable that was set and adds
only names of the environment file. Loading it again comes to the same, if each load sets exactly
the missing ones of those names. -/
theorem load_repeats {services : Services} {named : String → String → Prop} {path : Option String}
    {host : Host} (sets : ∀ times, SetsMissing services.addVariables named
      ((loadWith services path).leaves^[times] host)) :
    Extends named host ((loadWith services path).leaves host) ∧ Repeats services path host := by
  refine ⟨?_, repeats_of_sets sets⟩
  rw [loadWith_leaves]
  exact (sets 0).adds.extends

/-- The plain host with an environment file in which the rows refer to a variable that is set after
them. -/
def forwardHost : Host :=
  { Host.plain with
    environ := Env.ofList [("SHELLEXEC_LANG", "")]
    dotenv := "SHELLEXEC_ROWS=$\x7bLINES:-70\x7d\nSHELLEXEC_LANG=C\nLINES=50" }

def forwarded : Host :=
  Services.standard.addVariables.leaves forwardHost

theorem forwarded_steady : Services.standard.addVariables.leaves forwarded = forwarded := by
  have only : Services.standard.addVariables.leaves forwarded = { forwarded with
    environ := (Services.standard.addVariables.leaves forwarded).environ
    trace := (Services.standard.addVariables.leaves forwarded).trace } := standard_only forwarded
  have environ : (Services.standard.addVariables.leaves forwarded).environ = forwarded.environ := by
    decide +kernel
  have trace : (Services.standard.addVariables.leaves forwarded).trace = forwarded.trace := by
    decide +kernel
  rw [only, environ, trace]

theorem forward_sets (times : Nat) : SetsMissing Services.standard.addVariables Valued
    ((load none).leaves^[times] forwardHost) := by
  have later (times : Nat) : (load none).leaves^[times + 1] forwardHost = forwarded := by
    induction times with
    | zero => exact loadWith_leaves .standard none forwardHost
    | succ times ih =>
        rw [Function.iterate_succ_apply', ih]
        exact (loadWith_leaves .standard none forwarded).trans forwarded_steady
  cases times with
  | zero => exact @standard_sets forwardHost forwarded rfl (by decide)
  | succ times =>
      rw [later times]
      exact @standard_sets forwarded (Services.standard.addVariables.leaves forwarded) rfl
        (by decide)

/-- The second time the reference would give another number, but the rows are set by then. -/
theorem load_repeats_forward :
    (∀ times, SetsMissing Services.standard.addVariables Valued
        ((load none).leaves^[times] forwardHost)) ∧
      (load none).outcome ((load none).leaves forwardHost) =
        .ok ⟨⟨70, 80, "xterm-256color"⟩, none, "en_US.UTF-8"⟩ ∧
      ((load none).leaves ((load none).leaves forwardHost)).environ =
        Env.ofList [("SHELLEXEC_LANG", ""), ("SHELLEXEC_ROWS", "70"), ("LINES", "50")] := by
  obtain ⟨_, repeats⟩ := load_repeats forward_sets
  exact ⟨forward_sets, (repeats.outcome 1).trans rfl, (repeats.environ 1).trans rfl⟩

end Config

end PtyShell
