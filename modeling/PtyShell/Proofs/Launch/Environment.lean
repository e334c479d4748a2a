import PtyShell.Proofs.ChildEnv
import PtyShell.Proofs.Launch.Target

namespace PtyShell

theorem Host.Gains.start_mem {before after : Host} {setup : List Event}
    (gains : before.Gains after setup) :
    ∃ calls, after.trace = before.trace ++ calls ∧
      ∀ request, .start request ∈ calls ↔ .start request ∈ setup := by
  obtain ⟨calls, grown, same⟩ := gains.trace
  refine ⟨calls, grown, ?_⟩
  intro request
  rw [← same, List.mem_filter]
  exact (and_iff_left rfl).symm

namespace Launch

/-- What a call for a target has made of the environments by the time it has left a host. -/
structure Target.Equips (target : Target) (size : TerminalSize) (base : Option Env)
    (config : Config) (host after : Host) : Prop where
  /-- The environment of the program is left alone. -/
  environ : after.environ = host.environ
  requests : ∃ calls, after.trace = host.trace ++ calls ∧
    (∀ wanted, .start wanted ∈ calls →
      (∀ name, ChildEnv.Decides (base.getD host.environ) config target.overrides wanted.env name) ∧
        ChildEnv.build wanted.env config target.overrides = wanted.env) ∧
    -- A process is asked for unless an earlier stage has failed.
    (∀ resolved cwd, size.resolve config.defaultSize = .ok resolved →
      target.StartsIn base host cwd → host.faults.openPty = none → host.faults.resize = none →
        ∃ wanted, .start wanted ∈ calls)

/-- A process is asked for with the environment that is decided for it, variable by variable. -/
theorem Target.Reaches.equipped {target : Target} {size : TerminalSize} {base : Option Env}
    {config : Config} {host after : Host}
    (reached : target.Reaches size base config host after) :
    target.Equips size base config host after := by
  obtain ⟨setup, gains, own⟩ := reached.asks
  obtain ⟨calls, grown, same⟩ := gains.start_mem
  refine ⟨gains.environ, calls, grown, ?_, ?_⟩
  · intro wanted asked
    obtain ⟨cwd, _, rfl⟩ := own wanted ((same wanted).mp asked)
    exact ⟨ChildEnv.build_decides _ _ _, ChildEnv.build_build _ _ _⟩
  · intro resolved cwd resolves starts opens sizes
    obtain ⟨bytes, encoded⟩ := TerminalSize.resolve_encodes resolves
    have whole : setup = [.openPty, .resize .master bytes,
        .start (target.request base config host cwd)] := by
      rw [gains.unique (reached.gains resolves encoded starts), Launch.setup,
        if_neg (not_not_intro opens), if_neg (not_not_intro sizes)]
    refine ⟨target.request base config host cwd, (same _).mpr ?_⟩
    rw [whole]
    simp

def sparse : Command :=
  ⟨⟨["true"], List.cons_ne_nil "true" []⟩, none, Env.ofList [("SHLVL", ""), ("PS1", "> ")]⟩

def dumb : Env :=
  Env.ofList [("SHLVL", "1"), ("LANG", ""), ("TERM", "dumb")]

theorem Target.Reaches.equipped_sparse :
    (Target.command sparse).Equips ⟨24, 80⟩ (some dumb) Config.default Host.greeted
        (Runner.run sparse ⟨24, 80⟩ (some dumb) Config.default Host.greeted).2 ∧
      (ChildEnv.build dumb Config.default sparse.env).entries =
        [("LANG", "en_US.UTF-8"), ("TERM", "dumb"), ("COLORTERM", "truecolor"), ("PS1", "> ")] :=
  ⟨(Target.Reaches.run sparse).equipped, by decide⟩

end Launch

end PtyShell
