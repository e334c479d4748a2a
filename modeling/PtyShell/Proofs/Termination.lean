import PtyShell.Termination

namespace PtyShell

/-- The reports that stand for an exit code: a success, a process that exited by itself, and a
checked command whose status is an integer or a truth value. -/
inductive Report.Exits : Option Report → Int → Prop
  | success : Exits none 0
  | status {code : Int} (positive : 0 ≤ code) : Exits (some (.fault (.exited code))) code
  | command {code : Int} (positive : 0 ≤ code) (command : Json) :
      Exits (some (.fault (.commandFailed (.int code) command))) code
  | truth (value : Bool) (command : Json) :
      Exits (some (.fault (.commandFailed (.bool value) command))) value.toInt

namespace CommandStatus

/-- The exit code of a status is that of a checked command with this status. -/
theorem exitCode?_exits (status command : Json) :
    match exitCode? status with
    | some code => 0 ≤ code ∧ Report.Exits (some (.fault (.commandFailed status command))) code
    | none => ∀ code, ¬Report.Exits (some (.fault (.commandFailed status command))) code := by
  cases status with
  | int value =>
      by_cases positive : 0 ≤ value
      · simp only [exitCode?, if_pos positive]
        exact ⟨positive, .command positive command⟩
      · simp only [exitCode?, if_neg positive]
        intro code exits
        cases exits
        contradiction
  | bool value => cases value <;> exact ⟨by decide, .truth _ command⟩
  | _ =>
      intro code exits
      cases exits

end CommandStatus

namespace Termination

/-- A result is decoded to the exit code that its report stands for, or to -1 if that stands for
none. -/
def Decodes (result : Termination) : Prop :=
  (0 ≤ result.exitCode ∧ Report.Exits result.error result.exitCode) ∨
    (result.exitCode = -1 ∧ ∀ code, ¬Report.Exits result.error code)

theorem exitCode_exited (code : Int) :
    exitCode ⟨some (.fault (.exited code))⟩ = if 0 ≤ code then code else -1 := by
  by_cases negative : code < 0
  · have below : ¬0 ≤ code := by omega
    simp [exitCode, Fault.exitCode, Fault.exitStatus?, negative, below]
  · have positive : 0 ≤ code := by omega
    simp [exitCode, Fault.exitCode, Fault.exitStatus?, negative, positive]

theorem decodes_exited (code : Int) : Decodes ⟨some (.fault (.exited code))⟩ := by
  unfold Decodes
  rw [exitCode_exited]
  by_cases positive : 0 ≤ code
  · rw [if_pos positive]
    exact Or.inl ⟨positive, .status positive⟩
  · rw [if_neg positive]
    refine Or.inr ⟨rfl, ?_⟩
    intro other exits
    cases exits
    contradiction

theorem decodes_commandFailed (status command : Json) :
    Decodes ⟨some (.fault (.commandFailed status command))⟩ := by
  have exits := CommandStatus.exitCode?_exits status command
  unfold Decodes exitCode Fault.exitCode
  cases found : CommandStatus.exitCode? status with
  | some code =>
      simp only [found] at exits ⊢
      exact Or.inl exits
  | none =>
      simp only [found] at exits ⊢
      exact Or.inr ⟨rfl, exits⟩

theorem decodes (result : Termination) : result.Decodes := by
  obtain ⟨error⟩ := result
  cases error with
  | none => exact Or.inl ⟨by decide, .success⟩
  | some report =>
      cases report with
      | value value => exact Or.inr ⟨rfl, fun code exits => nomatch exits⟩
      | fault fault =>
          cases fault with
          | exited code => exact decodes_exited code
          | commandFailed status command => exact decodes_commandFailed status command
          | _ => exact Or.inr ⟨rfl, fun code exits => nomatch exits⟩

theorem exitCode_system {fault : Fault} (system : fault.isSystem = true) :
    exitCode ⟨some (.fault fault)⟩ = -1 := by
  cases fault with
  | system code text path => rfl
  | _ => cases system

/-- A result tells with which return code a process ended. -/
structure Tells (result : Termination) (code : Int) : Prop where
  success : result.success = true ↔ code = 0
  exitCode_zero : result.exitCode = 0 ↔ code = 0
  exitCode : result.exitCode = if 0 ≤ code then code else -1
  /-- A failure has a status or a signal and never both, and either gives the return code back. -/
  error : code ≠ 0 → ∃ fault, result.error = some (.fault fault) ∧
    ((fault.exitStatus? = some code ∧ fault.signal? = none) ∨
      (fault.exitStatus? = none ∧ fault.signal? = some (-code)))

theorem tells_exit (code : Int) : Tells ⟨(exitFault? code).map .fault⟩ code := by
  by_cases zero : code = 0
  · subst zero
    exact ⟨by decide, by decide, by decide, fun nonzero => absurd rfl nonzero⟩
  · have failed : (exitFault? code).map Report.fault = some (.fault (.exited code)) := by
      simp [exitFault?, zero]
    rw [failed]
    refine ⟨by simp [Termination.success, zero], ?_, exitCode_exited code,
      fun _ => ⟨_, rfl, ?_⟩⟩
    · rw [exitCode_exited]
      split <;> omega
    · by_cases negative : code < 0
      · exact Or.inr ⟨if_pos negative, if_pos negative⟩
      · exact Or.inl ⟨if_neg negative, if_neg negative⟩

end Termination

end PtyShell
