import PtyShell.Proofs.Launch.Stages

namespace PtyShell

def Event.isLog : Event → Bool
  | .log .. => true
  | _ => false

/-- Nothing but log records came to a host. -/
structure Host.Logged (before after : Host) : Prop where
  same : after = { before with trace := after.trace }
  logs : ∃ logs, after.trace = before.trace ++ logs ∧ ∀ event ∈ logs, event.isLog = true

namespace Host.Logged

theorem refl (host : Host) : host.Logged host :=
  ⟨rfl, [], (List.append_nil _).symm, fun _ member => absurd member List.not_mem_nil⟩

theorem trans {first second third : Host} (one : first.Logged second) (two : second.Logged third) :
    first.Logged third where
  same := by
    rw [two.same, one.same]
  logs := by
    obtain ⟨early, firstTrace, firstLogs⟩ := one.logs
    obtain ⟨late, secondTrace, secondLogs⟩ := two.logs
    refine ⟨early ++ late, ?_, ?_⟩
    · rw [secondTrace, firstTrace, List.append_assoc]
    · intro event member
      rcases List.mem_append.mp member with old | new
      · exact firstLogs event old
      · exact secondLogs event new

theorem log (level : Level) (logger : Logger) (message : String) (host : Host) :
    host.Logged (host.record (.log level logger message)) :=
  ⟨rfl, _, rfl, fun _ member => by rw [List.mem_singleton.mp member]; rfl⟩

theorem closeFault? {before after : Host} (logged : before.Logged after) (fd : Fd) :
    after.closeFault? fd = before.closeFault? fd := by
  rw [logged.same]
  cases fd <;> rfl

theorem count {before after : Host} (logged : before.Logged after) {property : Event → Bool}
    (silent : ∀ event, event.isLog = true → property event = false) :
    after.trace.countP property = before.trace.countP property := by
  obtain ⟨logs, trace, records⟩ := logged.logs
  have none : logs.countP property = 0 := by
    rw [List.countP_eq_zero]
    intro event member holds
    rw [silent event (records event member)] at holds
    cases holds
  rw [trace, List.countP_append, none, Nat.add_zero]

end Host.Logged

/-- An action that logs at most, however it ends. -/
def Sys.OnlyLogs {α : Type} (action : Sys α) : Prop :=
  ∀ host, match action.run host with
    | .ok _ after | .error _ after => host.Logged after

namespace Sys.OnlyLogs

theorem pure {α : Type} (value : α) : OnlyLogs (Pure.pure value : Sys α) :=
  fun host => Host.Logged.refl host

theorem ofExcept {α : Type} (value : Except Fault α) : OnlyLogs (Sys.ofExcept value) := by
  intro host
  rw [ofExcept_run]
  cases value <;> exact Host.Logged.refl host

theorem log (level : Level) (logger : Logger) (message : String) :
    OnlyLogs (Sys.log level logger message) :=
  fun host => Host.Logged.log level logger message host

theorem get : OnlyLogs (MonadState.get : Sys Host) :=
  fun host => Host.Logged.refl host

theorem ok {α : Type} {action : Sys α} (logs : action.OnlyLogs) {host after : Host} {value : α}
    (returned : action.run host = .ok value after) : host.Logged after := by
  have outcome := logs host
  rw [returned] at outcome
  exact outcome

theorem error {α : Type} {action : Sys α} (logs : action.OnlyLogs) {host after : Host}
    {fault : Fault} (failed : action.run host = .error fault after) : host.Logged after := by
  have outcome := logs host
  rw [failed] at outcome
  exact outcome

theorem bind {α β : Type} {first : Sys α} {next : α → Sys β} (one : first.OnlyLogs)
    (two : ∀ value, (next value).OnlyLogs) : (first >>= next).OnlyLogs := by
  intro host
  rw [EStateM.run_bind]
  cases ran : first.run host with
  | error fault after => exact one.error ran
  | ok value after =>
      cases ended : (next value).run after with
      | error fault last =>
          simp only [ended]
          exact (one.ok ran).trans ((two value).error ended)
      | ok result last =>
          simp only [ended]
          exact (one.ok ran).trans ((two value).ok ended)

theorem bind_error {α β : Type} {first : Sys α} {next : α → Sys β} (logs : first.OnlyLogs)
    {host after : Host} {fault : Fault}
    (failed : (first >>= next).run host = .error fault after) :
    host.Logged after ∨ ∃ value between, first.run host = .ok value between ∧
      host.Logged between ∧ (next value).run between = .error fault after := by
  rcases Sys.bind_error failed with early | ⟨value, between, ran, rest⟩
  · exact Or.inl (logs.error early)
  · exact Or.inr ⟨value, between, ran, logs.ok ran, rest⟩

end Sys.OnlyLogs

theorem ShellSearch.firstOf_onlyLogs (names : List String) : (firstOf names).OnlyLogs := by
  induction names with
  | nil => exact .pure lastResort
  | cons name names ih =>
      unfold firstOf
      apply Sys.OnlyLogs.bind .get
      intro host
      cases resolve host name with
      | some path => exact .pure path
      | none => exact .bind (.log _ _ _) fun _ => ih

theorem ShellSearch.detect_onlyLogs (base : Option Env) (config : Config) :
    (detect base config).OnlyLogs :=
  .bind .get fun _ => firstOf_onlyLogs _

theorem WorkingDirectory.choose_onlyLogs (base : Option Env) (cwd : Option String) :
    (choose base cwd).OnlyLogs := by
  unfold choose
  apply Sys.OnlyLogs.bind .get
  intro host
  apply Sys.OnlyLogs.bind (.ofExcept _)
  intro reason
  cases reason with
  | none => exact .pure cwd
  | some reason =>
      apply Sys.OnlyLogs.bind .get
      intro later
      apply Sys.OnlyLogs.bind (.ofExcept _)
      intro directory
      exact .bind (.log _ _ _) fun _ => .pure _

end PtyShell
