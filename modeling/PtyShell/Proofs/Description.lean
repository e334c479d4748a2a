import PtyShell.Description
import PtyShell.Proofs.Runner.Origin

namespace PtyShell

namespace Description

/-- The fault that a description comes to, if it comes to one, is original. -/
def Tells (described : Except Fault (Option Report)) : Prop :=
  ∀ fault, described = .error fault ∨ described = .ok (some (.fault fault)) → fault.Original

theorem tells_error {fault : Fault} (original : fault.Original) : Tells (.error fault) := by
  rintro other (same | same)
  · cases same
    exact original
  · cases same

theorem tells_fault {fault : Fault} (original : fault.Original) :
    Tells (.ok (some (.fault fault))) := by
  rintro other (same | same)
  · cases same
  · cases same
    exact original

theorem tells_value (value? : Option Json) : Tells (.ok (value?.map .value)) := by
  rintro other (same | same)
  · cases same
  · cases value? <;> cases same

theorem around_tells {build : Fault → Fault} (builds : ∀ fault, (build fault).Original)
    {reason : Except Fault (Option Report)} (tells : Tells reason) :
    Tells (around build reason) := by
  cases reason with
  | error own => exact tells_error (tells own (.inl rfl))
  | ok report =>
      unfold around
      simp only [bind, Except.bind]
      cases objected : (reasonFault report).objection? with
      | none => exact tells_fault (builds _)
      | some objection =>
          obtain ⟨_, ⟨complaint, rfl⟩ | rfl⟩ := Fault.objection_kind objected
          · exact tells_error ⟨rfl, rfl⟩
          · exact tells_error ⟨rfl, rfl⟩

theorem reportOf_tells (kind : String) (value : Json) {reason : Except Fault (Option Report)}
    (tells : Tells reason) : Tells (reportOf kind value reason) := by
  unfold reportOf
  split
  all_goals first
    | exact tells_value _
    | exact tells_value none
    | exact tells_fault ⟨rfl, rfl⟩
    | exact around_tells (fun _ => ⟨rfl, rfl⟩) tells

mutual

theorem report?_tells (value : Json) : Tells (report? value) := by
  cases value with
  | obj members => exact reportOf_tells _ _ (reason?_tells members)
  | _ => exact tells_value none

theorem reason?_tells (members : List (String × Json)) : Tells (reason? members) := by
  cases members with
  | nil => exact tells_value none
  | cons member members =>
      obtain ⟨name, value⟩ := member
      unfold reason?
      split
      · exact report?_tells value
      · exact reason?_tells members

end

theorem fault?_original {value : Json} {fault : Fault} (described : fault? value = some fault) :
    fault.Original := by
  apply report?_tells value
  unfold fault? at described
  split at described
  · next told => exact .inl (Option.some.inj described ▸ told)
  · next told => exact .inr (Option.some.inj described ▸ told)
  · cases described

theorem host_failsOriginally (value : Json) (platform : String) :
    (host value platform).FailsOriginally := by
  intro fault fails
  cases fails with
  | openPty failed | resize failed | start failed | kill failed | close failed =>
      obtain ⟨_, _, described⟩ := Option.bind_eq_some_iff.mp failed
      exact fault?_original described
  | wait listed =>
      obtain ⟨_, _, described⟩ := List.mem_filterMap.mp listed
      exact fault?_original described

end Description

end PtyShell
