import PtyShell.Config.Standard
import PtyShell.Proofs.Config.Services
import PtyShell.Proofs.EnvFile
import PtyShell.Proofs.Validation

namespace PtyShell

namespace Config

section Validation

def standardTypes : LaxTypes where
  integer value := (Checked.integer value).verdict
  text value := (Checked.text value).verdict
  integer_int _ := rfl
  text_str _ := rfl

theorem optionalText_verdict (value : Json) :
    (Checked.optionalText value).verdict = standardTypes.optionalText value := by
  cases value <;> rfl

variable {α : Type} {members : Members} {name : String} {default : α}
  {check : Json → Checked α} {verdict : Json → Except ProblemKind α}

theorem field_valid (single : ∀ value, (check value).Single)
    (same : ∀ value, (check value).verdict = verdict value) {value : α}
    (found : field members name default verdict = .ok value) :
    Checked.field members name default check = .valid value := by
  unfold field at found
  unfold Checked.field
  cases held : Json.member? members name with
  | none =>
      rw [held] at found
      cases found
      rfl
  | some given =>
      rw [held] at found
      exact Checked.under_eq_valid.mpr
        ((single given).valid_of_verdict ((same given).trans found))

theorem field_problems (single : ∀ value, (check value).Single)
    (same : ∀ value, (check value).verdict = verdict value) :
    (Checked.field members name default check).problems =
      problemsAt [.key name] (kind? (field members name default verdict)) := by
  unfold field Checked.field
  cases Json.member? members name with
  | none => rfl
  | some given =>
      have whole := single given
      simp only [← same]
      generalize check given = outcome at whole ⊢
      cases whole <;> rfl

theorem field_term (hasTerm : HasTerm members) :
    Checked.field members "term" TerminalSettings.default TerminalSettings.check =
      Checked.under (.key "term") (TerminalSettings.check (.obj (termMembers members))) := by
  unfold Checked.field termMembers
  cases held : Json.member? members "term" with
  | none => rfl
  | some value =>
      obtain ⟨inner, rfl⟩ := hasTerm value held
      rfl

theorem check_problems (members : Members) :
    (Config.check (.obj members)).problems =
      (Checked.field members "term" TerminalSettings.default TerminalSettings.check).problems ++
        problemsAt [.key "shell"] (kind? (standardTypes.verdicts members).shell) ++
          problemsAt [.key "lang"] (kind? (standardTypes.verdicts members).lang) := by
  have shell : (Checked.field members "shell" none Checked.optionalText).problems = _ :=
    field_problems Checked.optionalText_single optionalText_verdict
  have lang : (Checked.field members "lang" "en_US.UTF-8" Checked.text).problems = _ :=
    field_problems Checked.text_single fun _ => rfl
  calc (Config.check (.obj members)).problems
      = (Checked.field members "term" TerminalSettings.default TerminalSettings.check).problems ++
          (Checked.field members "shell" none Checked.optionalText).problems ++
            (Checked.field members "lang" "en_US.UTF-8" Checked.text).problems := by
        show (_ <*> _ <*> _ : Checked Config).problems = _
        rw [Checked.problems_ap, Checked.problems_ap, Checked.problems_map]
        rfl
    _ = _ := by
        rw [shell, lang]
        rfl

theorem term_problems (members : Members) :
    (TerminalSettings.check (.obj members)).problems =
      problemsAt [.key "rows"] (kind? (field members "rows" 24 standardTypes.integer)) ++
        problemsAt [.key "cols"] (kind? (field members "cols" 80 standardTypes.integer)) ++
          problemsAt [.key "term_type"]
            (kind? (field members "term_type" "xterm-256color" standardTypes.text)) := by
  have rows : (Checked.field members "rows" 24 Checked.integer).problems = _ :=
    field_problems Checked.integer_single fun _ => rfl
  have cols : (Checked.field members "cols" 80 Checked.integer).problems = _ :=
    field_problems Checked.integer_single fun _ => rfl
  have termType : (Checked.field members "term_type" "xterm-256color" Checked.text).problems = _ :=
    field_problems Checked.text_single fun _ => rfl
  calc (TerminalSettings.check (.obj members)).problems
      = (Checked.field members "rows" 24 Checked.integer).problems ++
          (Checked.field members "cols" 80 Checked.integer).problems ++
            (Checked.field members "term_type" "xterm-256color" Checked.text).problems := by
        show (_ <*> _ <*> _ : Checked TerminalSettings).problems = _
        rw [Checked.problems_ap, Checked.problems_ap, Checked.problems_map]
        rfl
    _ = _ := by
        rw [rows, cols, termType]
        rfl

theorem check_problems_eq (hasTerm : HasTerm members) :
    (Config.check (.obj members)).problems = (standardTypes.verdicts members).problems := by
  rw [check_problems, field_term hasTerm, Checked.problems_under, term_problems]
  unfold Verdicts.problems Verdicts.places
  simp only [List.flatMap_cons, List.flatMap_nil, List.map_append, List.append_assoc,
    List.append_nil, problemsAt_under]
  rfl

theorem check_valid (hasTerm : HasTerm members) {config : Config}
    (gives : (standardTypes.verdicts members).Gives config) :
    Config.check (.obj members) = .valid config := by
  have rows : Checked.field (termMembers members) "rows" 24 Checked.integer = _ :=
    field_valid Checked.integer_single (fun _ => rfl) gives.rows
  have cols : Checked.field (termMembers members) "cols" 80 Checked.integer = _ :=
    field_valid Checked.integer_single (fun _ => rfl) gives.cols
  have termType : Checked.field (termMembers members) "term_type" "xterm-256color" Checked.text =
      _ := field_valid Checked.text_single (fun _ => rfl) gives.termType
  have shell : Checked.field members "shell" none Checked.optionalText = _ :=
    field_valid Checked.optionalText_single optionalText_verdict gives.shell
  have lang : Checked.field members "lang" "en_US.UTF-8" Checked.text = _ :=
    field_valid Checked.text_single (fun _ => rfl) gives.lang
  have term : TerminalSettings.check (.obj (termMembers members)) = .valid config.term := by
    show TerminalSettings.mk <$> Checked.field _ "rows" 24 _ <*> Checked.field _ "cols" 80 _
      <*> Checked.field _ "term_type" "xterm-256color" _ = _
    rw [rows, cols, termType]
    rfl
  show Config.mk <$> Checked.field _ "term" TerminalSettings.default _ <*>
    Checked.field _ "shell" none _ <*> Checked.field _ "lang" "en_US.UTF-8" _ = _
  rw [field_term hasTerm, term, shell, lang]
  rfl

theorem check_faulty {value : Json} {problems : List Problem}
    (found : (Config.check value).problems = problems) (some : problems ≠ []) :
    (Config.check value).orFault .config = .error (.badModel .config problems) := by
  rcases (Config.check value).valid_or_faulty with ⟨config, valid⟩ | faulty
  · rw [valid] at found
    exact absurd found.symm some
  · rw [faulty, found]
    rfl

theorem standard_isLax : IsLax standardTypes Services.standard.validate where
  accepts := by
    intro members config hasTerm gives
    show (Config.check _).orFault .config = _
    rw [check_valid hasTerm gives]
    rfl
  rejects := by
    intro members hasTerm some
    exact check_faulty (check_problems_eq hasTerm) some
  noObject := by
    intro members term held noObject
    refine check_faulty ?_ (List.cons_ne_nil _ _)
    have reported : Checked.field members "term" TerminalSettings.default TerminalSettings.check =
        .faulty [⟨.modelType, [.key "term"]⟩] := by
      unfold Checked.field
      rw [held]
      cases term with
      | obj inner => exact absurd ⟨inner, rfl⟩ noObject
      | _ => rfl
    -- Nothing is wrong with settings that are not there.
    have absent : termMembers members = [] := termMembers_noObject held noObject
    rw [check_problems, reported]
    unfold Verdicts.problems Verdicts.places LaxTypes.verdicts
    rw [absent]
    simp only [List.flatMap_cons, List.flatMap_nil, List.append_nil]
    rfl

end Validation

section Variables

def Valued (dotenv name : String) : Prop :=
  EnvFile.hasValue dotenv name = true

theorem standard_only (host : Host) : OnlyEnvironment Services.standard.addVariables host := by
  have left := EnvFile.load_leaves host
  unfold OnlyEnvironment
  show EnvFile.load.leaves host = { host with
    environ := (EnvFile.load.leaves host).environ, trace := (EnvFile.load.leaves host).trace }
  split at left <;> rw [left] <;> rfl

theorem standard_adds (host : Host) :
    AddsMissing Services.standard.addVariables Valued host where
  only := standard_only host
  sets := by
    show ∃ entries, (EnvFile.load.leaves host).environ = _ ∧ _
    rw [EnvFile.load_leaves]
    by_cases disabled : EnvFile.isDisabled host.environ
    · rw [if_pos disabled]
      exact ⟨[], rfl, fun _ member => absurd member List.not_mem_nil⟩
    · rw [if_neg disabled]
      obtain ⟨added, left, missing, _⟩ := EnvFile.extend_sets host.environ
        (EnvFile.assignments host.environ (EnvFile.statements host.dotenv))
      refine ⟨added, left, fun name member => ?_⟩
      exact (missing name member).imp_left EnvFile.mem_assignments.mp

theorem standard_sets {host after : Host}
    (loaded : Services.standard.addVariables.run host = .ok () after)
    (enabled : EnvFile.isDisabled host.environ = false) :
    SetsMissing Services.standard.addVariables Valued host where
  completes := by rw [Sys.leaves_of_ok loaded, loaded]
  only := standard_only host
  sets := by
    have ran : EnvFile.load.run host = .ok () after := loaded
    show ∃ entries, (EnvFile.load.leaves host).environ = _ ∧ _
    rw [EnvFile.load_leaves, enabled, if_neg Bool.false_ne_true]
    rw [EnvFile.load_run, enabled, if_neg Bool.false_ne_true] at ran
    obtain ⟨added, left, missing, all⟩ := EnvFile.extend_sets host.environ
      (EnvFile.assignments host.environ (EnvFile.statements host.dotenv))
    have ended : (EnvFile.extend host.environ
        (EnvFile.assignments host.environ (EnvFile.statements host.dotenv))).2 = none := by
      generalize EnvFile.extend host.environ _ = outcome at ran
      obtain ⟨environ, fault⟩ := outcome
      cases fault with
      | none => rfl
      | some fault => cases ran
    refine ⟨added, left, fun name => ⟨fun member => ?_, fun given => ?_⟩⟩
    · exact (missing name member).imp_left EnvFile.mem_assignments.mp
    · exact all ended name (EnvFile.mem_assignments.mpr given.1) given.2

end Variables

end Config

end PtyShell
