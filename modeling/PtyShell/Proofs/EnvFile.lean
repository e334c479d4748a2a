import PtyShell.EnvFile.Load
import PtyShell.Proofs.Env
import PtyShell.Proofs.Host

namespace PtyShell

namespace EnvFile

/-- What extending an environment sets was listed and missing, and if nothing is in the way, all of
that is set. -/
theorem extend_sets (environ : Env) (entries : List (String × String)) :
    ∃ added, (extend environ entries).1 = environ.setAll added ∧
      (∀ name ∈ added.map Prod.fst, name ∈ entries.map Prod.fst ∧ environ.get? name = none) ∧
        ((extend environ entries).2 = none → ∀ name ∈ entries.map Prod.fst,
          environ.get? name = none → name ∈ added.map Prod.fst) := by
  induction entries generalizing environ with
  | nil =>
      refine ⟨[], rfl, ?_, ?_⟩
      · exact fun _ member => absurd member List.not_mem_nil
      · exact fun _ _ member => absurd member List.not_mem_nil
  | cons entry others ih =>
      obtain ⟨key, text⟩ := entry
      simp only [List.map_cons, List.mem_cons]
      unfold extend
      by_cases known : (environ.get? key).isSome
      · rw [if_pos known]
        obtain ⟨added, left, missing, all⟩ := ih environ
        refine ⟨added, left, fun name member => ?_, fun ended name listed absent => ?_⟩
        · exact ⟨.inr (missing name member).1, (missing name member).2⟩
        · rcases listed with rfl | later
          · rw [absent] at known
            cases known
          · exact all ended name later absent
      · rw [if_neg known]
        have free : environ.get? key = none := Option.not_isSome_iff_eq_none.mp known
        cases objection? key text with
        | some fault =>
            refine ⟨[], rfl, ?_, ?_⟩
            · exact fun _ member => absurd member List.not_mem_nil
            · intro ended
              cases ended
        | none =>
            obtain ⟨added, left, missing, all⟩ := ih (environ.set key text)
            refine ⟨(key, text) :: added, left, fun name member => ?_,
              fun ended name listed absent => ?_⟩
            · rcases List.mem_cons.mp member with rfl | later
              · exact ⟨.inl rfl, free⟩
              · obtain ⟨listed, absent⟩ := missing name later
                rw [Env.get?_set] at absent
                split at absent
                · cases absent
                · exact ⟨.inr listed, absent⟩
            · by_cases same : name = key
              · rw [same]
                exact List.mem_cons_self
              · refine List.mem_cons_of_mem _ (all ended name (listed.resolve_left same) ?_)
                rw [Env.get?_set, if_neg same, absent]

def extended (host : Host) (environ : Env) : Host :=
  { host with environ := environ, trace := host.trace ++ warnings (statements host.dotenv) }

theorem load_run (host : Host) :
    load.run host =
      if isDisabled host.environ then
        .ok () (host.record (.log .debug .environmentFile disabledMessage))
      else
        match extend host.environ (assignments host.environ (statements host.dotenv)) with
        | (environ, none) => .ok () (extended host environ)
        | (environ, some fault) => .error fault (extended host environ) := by
  unfold load
  rw [EStateM.run_bind, EStateM.run_get]
  by_cases disabled : isDisabled host.environ
  · simp only [disabled, if_true, Sys.log_run]
  · simp only [disabled]
    generalize extend host.environ (assignments host.environ (statements host.dotenv)) = outcome
    obtain ⟨environ, fault⟩ := outcome
    cases fault <;> rfl

theorem load_empty {host : Host} (none : host.dotenv = "")
    (enabled : isDisabled host.environ = false) :
    load.run host = .ok () (extended host host.environ) := by
  have nothing : assignments host.environ (statements "") = [] := rfl
  rw [load_run, enabled, if_neg Bool.false_ne_true, none, nothing]
  rfl

theorem load_leaves (host : Host) :
    load.leaves host =
      if isDisabled host.environ then host.record (.log .debug .environmentFile disabledMessage)
      else extended host
        (extend host.environ (assignments host.environ (statements host.dotenv))).1 := by
  unfold Sys.leaves
  rw [load_run]
  by_cases disabled : isDisabled host.environ
  · simp only [disabled, if_true]
  · simp only [disabled]
    generalize extend host.environ (assignments host.environ (statements host.dotenv)) = outcome
    obtain ⟨environ, fault⟩ := outcome
    cases fault <;> rfl

section Names

/-- Whether the last statement about a name gives it a value. -/
def hasValue (dotenv : String) (name : String) : Bool :=
  ((bindings (statements dotenv)).reverse.find? (·.name == name)).any (·.value.isSome)

theorem resolve_names (environ : Env) (bindings : List Binding) :
    (resolve environ bindings).map (fun entry => (entry.1, entry.2.isSome)) =
      bindings.reverse.map fun binding => (binding.name, binding.value.isSome) := by
  have onTop (values : Values) :
      (bindings.foldl (fun values binding =>
          (binding.name, binding.value.map (expand environ values)) :: values) values).map
          (fun entry => (entry.1, entry.2.isSome)) =
        bindings.reverse.map (fun binding => (binding.name, binding.value.isSome)) ++
          values.map fun entry => (entry.1, entry.2.isSome) := by
    induction bindings generalizing values with
    | nil => rfl
    | cons binding rest ih => simp [ih]
  exact (onTop []).trans (List.append_nil _)

theorem mem_latest {values : Values} {name value : String} :
    (name, value) ∈ latest values ↔ values.find? (·.1 == name) = some (name, some value) := by
  unfold latest
  rw [List.mem_filterMap]
  constructor
  · rintro ⟨other, _, listed⟩
    split at listed
    · rename_i same found found'
      cases listed
      have named := List.find?_some found'
      rw [found', ← beq_iff_eq.mp named]
    · cases listed
  · intro found
    refine ⟨name, ?_, by simp [found]⟩
    rw [List.mem_eraseDups, List.map_reverse, List.mem_reverse]
    exact List.mem_map_of_mem (List.mem_of_find?_eq_some found)

theorem find_resolve (environ : Env) (bindings : List Binding) (name : String) :
    (∃ value, (resolve environ bindings).find? (·.1 == name) = some (name, some value)) ↔
      (bindings.reverse.find? (·.name == name)).any (·.value.isSome) = true := by
  have alike : ((resolve environ bindings).find? (·.1 == name)).map
        (fun entry => (entry.1, entry.2.isSome)) =
      (bindings.reverse.find? (·.name == name)).map
        fun binding => (binding.name, binding.value.isSome) := by
    have both := congrArg (List.find? (·.1 == name)) (resolve_names environ bindings)
    rw [List.find?_map, List.find?_map] at both
    exact both
  constructor
  · rintro ⟨value, found⟩
    rw [found, Option.map_some] at alike
    obtain ⟨binding, last, same⟩ := Option.map_eq_some_iff.mp alike.symm
    rw [last]
    exact congrArg Prod.snd same
  · intro given
    cases last : bindings.reverse.find? (·.name == name) with
    | none =>
        rw [last] at given
        cases given
    | some binding =>
        rw [last] at alike given
        obtain ⟨⟨key, value⟩, found, same⟩ := Option.map_eq_some_iff.mp alike
        have named : key = name := by simpa using List.find?_some found
        have present : value.isSome = true := (congrArg Prod.snd same).trans given
        obtain ⟨text, rfl⟩ := Option.isSome_iff_exists.mp present
        exact ⟨text, by rw [found, ← named]⟩

/-- The names with a value in a file do not depend on what its references refer to. -/
theorem mem_assignments {environ : Env} {dotenv name : String} :
    name ∈ (assignments environ (statements dotenv)).map Prod.fst ↔
      hasValue dotenv name = true := by
  unfold assignments hasValue
  rw [← find_resolve environ]
  constructor
  · intro member
    obtain ⟨⟨_, value⟩, listed, rfl⟩ := List.mem_map.mp member
    exact ⟨value, mem_latest.mp listed⟩
  · rintro ⟨value, found⟩
    exact List.mem_map_of_mem (mem_latest.mpr found)

end Names

end EnvFile

end PtyShell
