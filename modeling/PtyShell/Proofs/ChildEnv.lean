import PtyShell.ChildEnv
import PtyShell.Proofs.Env

/-! # What a child finds in its environment

Each variable of a child is decided on its own, by the first of its override, its value in the base
environment and what the configuration has for it. To build an environment again from the result
changes nothing. -/

namespace PtyShell.ChildEnv

def preset? (config : Config) (name : String) : Option String :=
  if name = "LANG" then some config.lang
  else if name = "COLORTERM" then some "truecolor"
  else if name = "TERM" then some config.term.termType
  else none

theorem get?_baseline (base : Env) (config : Config) (name : String) :
    (baseline base config).get? name =
      if name = "LANG" then some (language base config) else preset? config name := by
  unfold baseline shellVariables preset?
  simp only [Env.get?_set]
  split <;> rfl

theorem mem_baseline {base : Env} {config : Config} {name : String} :
    name ∈ (baseline base config).names ↔ preset? config name ≠ none := by
  rw [Env.mem_names, get?_baseline]
  by_cases lang : name = "LANG"
  · simp [preset?, lang]
  · rw [if_neg lang]

theorem get?_filled (base : Env) (config : Config) (name : String) :
    (base.merge (baseline base config) false).get? name =
      Env.filled (preset? config name) (base.get? name) := by
  rw [Env.get?_merge_fill, get?_baseline]
  by_cases lang : name = "LANG"
  · subst lang
    unfold Env.filled language Env.getD preset?
    split <;> rfl
  · rw [if_neg lang]

/-- The value of a variable of a child: its override, which removes it when it is empty, and else
its value in the base environment, where an empty one gives way to what the configuration has for
it. -/
theorem get?_build (base : Env) (config : Config) (overrides : Env) (name : String) :
    (build base config overrides).get? name =
      Env.overridden (overrides.get? name)
        (Env.filled (preset? config name) (base.get? name)) := by
  unfold build
  rw [Env.get?_merge_override, get?_filled]

/-- What decides a variable of a child: its override, then a text in the base environment, then what
is set for every terminal, and at last whether the base environment has it empty or not at all. -/
structure Decides (base : Env) (config : Config) (overrides child : Env) (name : String) :
    Prop where
  removed : overrides.get? name = some "" → child.get? name = none
  overridden : ∀ text, overrides.get? name = some text → text ≠ "" → child.get? name = some text
  kept : overrides.get? name = none → ∀ text, base.get? name = some text → text ≠ "" →
    child.get? name = some text
  terminal : overrides.get? name = none → base.getD name = "" →
    (name = "TERM" → child.get? name = some config.term.termType) ∧
      (name = "COLORTERM" → child.get? name = some "truecolor") ∧
        (name = "LANG" → child.get? name = some config.lang)
  untouched : overrides.get? name = none → base.getD name = "" →
    name ≠ "TERM" → name ≠ "COLORTERM" → name ≠ "LANG" → child.get? name = base.get? name

theorem build_decides (base : Env) (config : Config) (overrides : Env) (name : String) :
    Decides base config overrides (build base config overrides) name where
  removed := by
    intro removed
    rw [get?_build, removed]
    rfl
  overridden := by
    intro text given some
    rw [get?_build, given]
    exact if_neg some
  kept := by
    intro free text held some
    rw [get?_build, free, held]
    exact if_neg some
  terminal := by
    intro free empty
    rw [get?_build, free]
    have filled : Env.overridden none (Env.filled (preset? config name) (base.get? name)) =
        (preset? config name <|> base.get? name) := if_pos empty
    rw [filled]
    refine ⟨?_, ?_, ?_⟩ <;> rintro rfl <;> rfl
  untouched := by
    intro free empty notTerm notColor notLang
    rw [get?_build, free, preset?, if_neg notLang, if_neg notColor, if_neg notTerm]
    exact Env.filled_none _

private theorem get?_rebuilt (base : Env) (config : Config) (overrides : Env) (name : String) :
    (build (build base config overrides) config overrides).get? name =
      (build base config overrides).get? name := by
  simp only [get?_build]
  cases overrides.get? name with
  | none => exact Env.filled_filled _ _
  | some text => rfl

private theorem names_rebuilt (base : Env) (config : Config) (overrides : Env) :
    (build (build base config overrides) config overrides).names =
      (build base config overrides).names := by
  have value := get?_build base config overrides
  generalize build base config overrides = built at value ⊢
  have given : ∀ name text, overrides.get? name = some text → text ≠ "" → name ∈ built.names := by
    intro name text found some
    rw [Env.mem_names, value, found]
    simp [Env.overridden, some]
  have kept : ∀ name ∈ built.names, overrides.get? name ≠ some "" := by
    intro name held removed
    rw [Env.mem_names, value, removed] at held
    exact held rfl
  have gone : ∀ name ∈ (baseline built config).names, name ∉ built.names →
      overrides.get? name = some "" := by
    intro name preset absent
    rw [Env.mem_names, value, Classical.not_not] at absent
    cases found : overrides.get? name with
    | none =>
        rw [found, Env.overridden_none] at absent
        exact absurd absent (Env.filled_ne_none (mem_baseline.mp preset) _)
    | some text =>
        by_cases removed : text = ""
        · rw [removed]
        · simp [found, Env.overridden, removed] at absent
  unfold build
  rw [Env.names_merge_override, Env.names_merge_fill, List.filter_append]
  · have old : built.names.filter (fun name => overrides.get? name ≠ some "") = built.names :=
      List.filter_eq_self.mpr fun name held => decide_eq_true (kept name held)
    have new : ((baseline built config).names.filter (· ∉ built.names)).filter
        (fun name => overrides.get? name ≠ some "") = [] := by
      rw [List.filter_eq_nil_iff]
      intro name member
      obtain ⟨preset, absent⟩ := List.mem_filter.mp member
      simpa using gone name preset (of_decide_eq_true absent)
    rw [old, new, List.append_nil]
  · intro name text found some
    rw [Env.names_merge_fill]
    exact List.mem_append_left _ (given name text found some)

theorem build_build (base : Env) (config : Config) (overrides : Env) :
    build (build base config overrides) config overrides = build base config overrides :=
  Env.ext_names (names_rebuilt base config overrides) (get?_rebuilt base config overrides)

end PtyShell.ChildEnv
