import PtyShell.Validation.Checked

namespace PtyShell

namespace Checked

variable {α β : Type}

theorem valid_or_faulty (outcome : Checked α) :
    (∃ value, outcome = .valid value) ∨ outcome = .faulty outcome.problems := by
  cases outcome with
  | valid value => exact Or.inl ⟨value, rfl⟩
  | faulty problems => exact Or.inr rfl

theorem problems_ap (f : Checked (α → β)) (outcome : Checked α) :
    (f <*> outcome).problems = f.problems ++ outcome.problems := by
  cases f <;> cases outcome <;> rfl

theorem problems_map (f : α → β) (outcome : Checked α) :
    (f <$> outcome).problems = outcome.problems := by
  cases outcome <;> rfl

theorem problems_under (step : Locator) (outcome : Checked α) :
    (under step outcome).problems = outcome.problems.map (Problem.under step) := by
  cases outcome <;> rfl

theorem under_eq_valid {step : Locator} {outcome : Checked α} {value : α} :
    under step outcome = .valid value ↔ outcome = .valid value := by
  cases outcome with
  | valid own => exact Iff.rfl
  | faulty problems => simp [under]

/-- What is found of a value that is checked as a whole: it is valid or has one problem. -/
inductive Single : Checked α → Prop
  | valid (value : α) : Single (.valid value)
  | problem (kind : ProblemKind) : Single (Checked.problem kind)

theorem Single.map {outcome : Checked α} (single : outcome.Single) (f : α → β) :
    (outcome.map f).Single := by
  cases single with
  | valid value => exact .valid (f value)
  | problem kind => exact .problem kind

def verdict : Checked α → Except ProblemKind α
  | .valid value => .ok value
  | .faulty (problem :: _) => .error problem.kind
  | .faulty [] => .error .missing

theorem Single.valid_of_verdict {outcome : Checked α} (single : outcome.Single) {value : α}
    (found : outcome.verdict = .ok value) : outcome = .valid value := by
  cases single with
  | valid own =>
      cases found
      rfl
  | problem kind => cases found

theorem integerOfFloat_single (number : Binary64) : (integerOfFloat number).Single := by
  unfold integerOfFloat
  by_cases infinite : (!number.isFinite) = true
  · rw [if_pos infinite]
    exact .problem _
  · rw [if_neg infinite]
    cases number.toInt? with
    | none => exact .problem _
    | some value =>
        simp only
        split
        · exact .valid value
        · exact .problem _

theorem integerOfText_single (text : String) : (integerOfText text).Single := by
  unfold integerOfText
  cases Text.lenientInt text.toList with
  | ok value => exact .valid value
  | error reason => cases reason <;> exact .problem _

theorem integer_single (value : Json) : (integer value).Single := by
  cases value with
  | int value => exact .valid value
  | bool value => exact .valid _
  | float number => exact integerOfFloat_single number
  | str text => exact integerOfText_single text
  | null | arr items | obj members => exact .problem _

theorem text_single (value : Json) : (text value).Single := by
  cases value with
  | str text => exact .valid text
  | _ => exact .problem _

theorem optionalText_single (value : Json) : (optionalText value).Single := by
  by_cases null : value = .null
  · rw [null]
    exact .valid none
  · have whole : optionalText value = map some (text value) := by
      cases value <;> first | rfl | exact absurd rfl null
    rw [whole]
    exact (text_single value).map some

end Checked

end PtyShell
