import PtyShell.Path

namespace PtyShell.Path

section Parts

theorem splitBy_eq_splitOn (separator : Char) (text : List Char) :
    splitBy separator text = text.splitOn separator := by
  induction text with
  | nil => rfl
  | cons c rest ih =>
      rw [splitBy, List.splitOn_cons_eq_if_modifyHead, ih]
      by_cases same : c = separator
      · rw [if_pos same, if_pos (beq_iff_eq.mpr same)]
      · rw [if_neg same, if_neg (mt beq_iff_eq.mp same)]
        cases found : rest.splitOn separator with
        | nil => exact absurd found (List.splitOn_ne_nil separator rest)
        | cons part others => rfl

theorem separator_not_mem {separator : Char} {text part : List Char}
    (member : part ∈ splitBy separator text) : separator ∉ part := by
  induction text generalizing part with
  | nil =>
      cases List.mem_singleton.mp member
      exact List.not_mem_nil
  | cons c rest ih =>
      unfold splitBy at member
      split at member
      · rcases List.mem_cons.mp member with rfl | later
        · exact List.not_mem_nil
        · exact ih later
      · next other =>
          cases found : splitBy separator rest with
          | nil =>
              simp only [found] at member
              cases List.mem_singleton.mp member
              exact fun held => other (List.mem_singleton.mp held).symm
          | cons first others =>
              rw [found] at ih
              simp only [found] at member
              rcases List.mem_cons.mp member with rfl | later
              · intro held
                rcases List.mem_cons.mp held with same | held
                · exact other same.symm
                · exact ih List.mem_cons_self held
              · exact ih (List.mem_cons_of_mem _ later)

theorem parts_joinParts {names : List (List Char)} (whole : ∀ name ∈ names, '/' ∉ name)
    (some : names ≠ []) : parts (joinParts names) = names := by
  unfold parts joinParts
  rw [splitBy_eq_splitOn]
  exact List.splitOn_intercalate '/' whole some

theorem parts_root (root : Nat) (path : List Char) :
    parts (List.replicate root '/' ++ path) = List.replicate root [] ++ parts path := by
  induction root with
  | zero => rfl
  | succ root ih =>
      rw [List.replicate_succ, List.cons_append, List.replicate_succ, List.cons_append, ← ih]
      rfl

theorem parts_append (before after : List Char) :
    parts (before ++ '/' :: after) = parts before ++ parts after := by
  unfold parts
  rw [splitBy_eq_splitOn, splitBy_eq_splitOn, splitBy_eq_splitOn, List.splitOn_append_cons_self]

theorem parts_whole {name : List Char} (whole : '/' ∉ name) : parts name = [name] := by
  unfold parts
  rw [splitBy_eq_splitOn, List.splitOn_eq_singleton whole]

theorem steps_root (root : Nat) (path : List Char) :
    steps (List.replicate root '/' ++ path) = steps path := by
  have none : (List.replicate root ([] : List Char)).filter (fun part => !isCurrent part) = [] := by
    simp [isCurrent]
  rw [steps, parts_root, List.filter_append, none]
  rfl

end Parts

structure Plain (part : List Char) : Prop where
  current : isCurrent part = false
  parent : isParent part = false
  whole : '/' ∉ part

theorem Plain.ne_nil {part : List Char} (plain : Plain part) : part ≠ [] := by
  rintro rfl
  cases plain.current

section Following

variable {followed names : List (List Char)}

theorem follow_plain (plain : ∀ part ∈ followed, Plain part) {name : List Char}
    (whole : '/' ∉ name) : ∀ part ∈ follow true followed name, Plain part := by
  unfold follow
  cases current : isCurrent name with
  | true => exact plain
  | false =>
      cases parent : isParent name with
      | true =>
          cases followed with
          | nil => exact fun _ member => absurd member List.not_mem_nil
          | cons last others =>
              have inner := (plain last List.mem_cons_self).parent
              simp only [inner]
              exact fun part member => plain part (List.mem_cons_of_mem _ member)
      | false =>
          rintro part (_ | ⟨_, member⟩)
          · exact ⟨current, parent, whole⟩
          · exact plain part member

theorem foldl_follow_plain (whole : ∀ name ∈ names, '/' ∉ name)
    (plain : ∀ part ∈ followed, Plain part) :
    ∀ part ∈ names.foldl (follow true) followed, Plain part := by
  induction names generalizing followed with
  | nil => exact plain
  | cons name names ih =>
      exact ih (fun name member => whole name (List.mem_cons_of_mem _ member))
        (follow_plain plain (whole name List.mem_cons_self))

theorem foldl_follow_of_plain (plain : ∀ name ∈ names, Plain name) (rooted : Bool)
    (followed : List (List Char)) :
    names.foldl (follow rooted) followed = names.reverse ++ followed := by
  induction names generalizing followed with
  | nil => rfl
  | cons name names ih =>
      have here := plain name List.mem_cons_self
      have taken : follow rooted followed name = name :: followed := by
        unfold follow
        rw [here.current, here.parent]
        rfl
      rw [List.foldl_cons, taken, List.reverse_cons, List.append_assoc]
      exact ih (fun name member => plain name (List.mem_cons_of_mem _ member)) _

theorem foldl_follow_filter (rooted : Bool) :
    (names.filter fun name => !isCurrent name).foldl (follow rooted) followed =
      names.foldl (follow rooted) followed := by
  induction names generalizing followed with
  | nil => rfl
  | cons name names ih =>
      cases current : isCurrent name with
      | true =>
          have stays : follow rooted followed name = followed := if_pos current
          rw [List.filter_cons_of_neg (by simp [current]), List.foldl_cons, stays, ih]
      | false =>
          rw [List.filter_cons_of_pos (by simp [current]), List.foldl_cons, List.foldl_cons, ih]

end Following

/-- A path from the root that has the form which normalizing gives. -/
inductive Normal : List Char → Prop
  | intro {root : Nat} {names : List (List Char)} (rooted : root = 1 ∨ root = 2)
      (plain : ∀ name ∈ names, Plain name) : Normal (assemble root names)

section Normal

variable {root : Nat} {names : List (List Char)} {path : List Char}

theorem assemble_rooted (rooted : root ≠ 0) (names : List (List Char)) :
    assemble root names = List.replicate root '/' ++ joinParts names := by
  unfold assemble
  cases root with
  | zero => exact absurd rfl rooted
  | succ root => rfl

theorem rootWidth_rooted (absolute : path.head? = some '/') :
    rootWidth path = 1 ∨ rootWidth path = 2 := by
  obtain ⟨rest, rfl⟩ := List.head?_eq_some_iff.mp absolute
  unfold rootWidth
  split
  · next none => simp at none
  · exact .inr rfl
  · exact .inl rfl

theorem head?_joinParts (plain : ∀ name ∈ names, Plain name) :
    (joinParts names).head? ≠ some '/' := by
  cases names with
  | nil => simp [joinParts]
  | cons name names =>
      have here := plain name List.mem_cons_self
      obtain ⟨c, rest, rfl⟩ := List.exists_cons_of_ne_nil here.ne_nil
      have first : (joinParts ((c :: rest) :: names)).head? = some c := by
        cases names <;> rfl
      rw [first]
      rintro ⟨⟩
      exact here.whole List.mem_cons_self

theorem rootWidth_assemble (rooted : root = 1 ∨ root = 2)
    (plain : ∀ name ∈ names, Plain name) : rootWidth (assemble root names) = root := by
  have nonzero : root ≠ 0 := by omega
  have stops : (joinParts names).takeWhile (· = '/') = [] := by
    have first := head?_joinParts plain
    cases text : joinParts names with
    | nil => rfl
    | cons c rest =>
        rw [text] at first
        exact List.takeWhile_cons_of_neg (by simpa using first)
  unfold rootWidth
  rw [assemble_rooted nonzero, List.takeWhile_append_of_pos (by simp), stops, List.append_nil,
    List.length_replicate]
  rcases rooted with rfl | rfl <;> rfl

theorem Normal.head? (normal : Normal path) : path.head? = some '/' := by
  cases normal with
  | intro rooted plain => rcases rooted with rfl | rfl <;> rfl

theorem steps_assemble (rooted : root = 1 ∨ root = 2) (plain : ∀ name ∈ names, Plain name) :
    steps (assemble root names) = names := by
  have nonzero : root ≠ 0 := by omega
  rw [assemble_rooted nonzero, steps_root]
  by_cases some : names = []
  · rw [some]
    rfl
  · unfold steps
    rw [parts_joinParts (fun part member => (plain part member).whole) some, List.filter_eq_self]
    intro name member
    rw [(plain name member).current, Bool.not_false]

/-- Where the parts of a path lead from the root. -/
def reached (path : List Char) : List (List Char) :=
  ((steps path).foldl (follow true) []).reverse

theorem reached_plain (path : List Char) : ∀ name ∈ reached path, Plain name := by
  intro name member
  refine foldl_follow_plain ?_ (fun _ member => absurd member List.not_mem_nil) name
    (List.mem_reverse.mp member)
  intro part held
  exact separator_not_mem (List.mem_filter.mp held).1

theorem reached_direct (direct : ∀ part ∈ parts path, isParent part = false) :
    reached path = steps path := by
  unfold reached
  rw [foldl_follow_of_plain, List.append_nil, List.reverse_reverse]
  intro name member
  obtain ⟨held, other⟩ := List.mem_filter.mp member
  exact ⟨by simpa using other, direct name held, separator_not_mem held⟩

theorem normalize_rooted (absolute : path.head? = some '/') :
    normalize path = assemble (rootWidth path) (reached path) := by
  have nonzero : (rootWidth path != 0) = true := by
    rcases rootWidth_rooted absolute with width | width <;> rw [width] <;> rfl
  unfold normalize reached steps
  simp only [nonzero, foldl_follow_filter]

theorem normalize_normal (absolute : path.head? = some '/') : Normal (normalize path) := by
  rw [normalize_rooted absolute]
  exact .intro (rootWidth_rooted absolute) (reached_plain path)

end Normal

section Absolute

variable {directory path : String}

theorem join_absolute (absolute : isAbsolute path = true) (directory : String) :
    join directory path = path := by
  unfold join
  rw [absolute]
  rfl

theorem isAbsolute_join (relative : isAbsolute path = false) (directory : String) :
    isAbsolute (join directory path) = isAbsolute directory := by
  unfold join
  rw [relative, Bool.false_or]
  by_cases empty : directory = ""
  · subst empty
    exact relative
  · have nonempty : directory.toList ≠ [] := by simpa using empty
    rw [if_neg (by simpa using empty)]
    obtain ⟨c, rest, text⟩ := List.exists_cons_of_ne_nil nonempty
    unfold isAbsolute
    split <;> simp [String.toList_append, text]

theorem join_rooted (anchored : isAbsolute directory = true) (path : String) :
    isAbsolute (join directory path) = true := by
  cases relative : isAbsolute path with
  | true => rw [join_absolute relative, relative]
  | false => rw [isAbsolute_join relative, anchored]

theorem absolute_normal (anchored : isAbsolute directory = true) (path : String) :
    Normal (absolute directory path).toList := by
  unfold absolute
  rw [String.toList_ofList]
  exact normalize_normal (beq_iff_eq.mp (join_rooted anchored path))

theorem isAbsolute_absolute (anchored : isAbsolute directory = true) (path : String) :
    isAbsolute (absolute directory path) = true :=
  beq_iff_eq.mpr (absolute_normal anchored path).head?

theorem location_rooted (rooted : isAbsolute (join directory path) = true) :
    location directory path =
      String.ofList ('/' :: joinParts (reached (join directory path).toList)) := by
  have absolute := beq_iff_eq.mp rooted
  unfold location Path.absolute
  rw [String.toList_ofList, normalize_rooted absolute]
  have plain := reached_plain (join directory path).toList
  rcases rootWidth_rooted absolute with width | width
  · simp only [width, rootWidth_assemble (.inl rfl) plain]
    rfl
  · simp only [width, rootWidth_assemble (.inr rfl) plain]
    rfl

end Absolute

section Last

variable {directory path : String} {before last : List Char}

theorem exists_last (separated : hasSeparator path = true) :
    ∃ before last, path.toList = before ++ '/' :: last ∧ '/' ∉ last := by
  have member : '/' ∈ path.toList.reverse := by simpa [hasSeparator] using separated
  obtain ⟨last, before, text, whole⟩ := List.eq_append_cons_of_mem member
  refine ⟨before.reverse, last.reverse, ?_, by simpa using whole⟩
  rw [← List.reverse_reverse path.toList, text]
  simp

theorem asksDirectory_last (text : path.toList = before ++ '/' :: last) (whole : '/' ∉ last) :
    asksDirectory path = isCurrent last := by
  obtain ⟨turned, rfl⟩ : ∃ turned, last = turned.reverse := ⟨last.reverse, by simp⟩
  unfold asksDirectory
  rw [text, List.reverse_append, List.reverse_cons, List.reverse_reverse, List.append_assoc]
  match turned with
  | [] => rfl
  | [c] =>
      have other : c ≠ '/' := by simpa [eq_comm] using whole
      by_cases point : c = '.' <;> simp [isCurrent, point, other]
  | c :: d :: rest =>
      have others : c ≠ '/' ∧ d ≠ '/' := by
        constructor <;> rintro rfl <;> simp at whole
      have long : (c :: d :: rest).reverse ≠ ['.'] := by
        intro same
        simpa using congrArg List.length same
      have named : isCurrent (c :: d :: rest).reverse = false := by
        unfold isCurrent
        rw [beq_false_of_ne long]
        simp
      rw [named]
      simp [others]

theorem parts_last (text : path.toList = before ++ '/' :: last) (whole : '/' ∉ last) :
    parts path.toList = parts before ++ [last] := by
  rw [text, parts_append, parts_whole whole]

theorem join_suffix (directory path : String) :
    ∃ front, (join directory path).toList = front ++ path.toList := by
  unfold join
  split
  · exact ⟨[], rfl⟩
  · split
    · exact ⟨directory.toList, String.toList_append⟩
    · exact ⟨directory.toList ++ ['/'], by simp [String.toList_append]⟩

theorem steps_join_ne_nil (separated : hasSeparator path = true)
    (unasked : asksDirectory path = false) : steps (join directory path).toList ≠ [] := by
  obtain ⟨before, last, text, whole⟩ := exists_last separated
  obtain ⟨front, joined⟩ := join_suffix directory path
  rw [asksDirectory_last text whole] at unasked
  rw [joined, text, ← List.append_assoc, steps, parts_append, parts_whole whole]
  simp [unasked]

theorem asksDirectory_absolute (anchored : isAbsolute directory = true)
    (some : reached (join directory path).toList ≠ []) :
    asksDirectory (absolute directory path) = false := by
  have rooted := beq_iff_eq.mp (join_rooted anchored path)
  have plain := reached_plain (join directory path).toList
  have shown : (absolute directory path).toList =
      assemble (rootWidth (join directory path).toList) (reached (join directory path).toList) := by
    rw [absolute, String.toList_ofList, normalize_rooted rooted]
  have separated : hasSeparator (absolute directory path) = true := by
    obtain ⟨rest, text⟩ := List.head?_eq_some_iff.mp (absolute_normal anchored path).head?
    simp [hasSeparator, text]
  obtain ⟨before, last, text, whole⟩ := exists_last separated
  rw [asksDirectory_last text whole]
  -- The last part is the last of the plain ones.
  have ends : parts before ++ [last] =
      List.replicate (rootWidth (join directory path).toList) [] ++
        reached (join directory path).toList := by
    rw [← parts_last text whole, shown, assemble_rooted, parts_root,
      parts_joinParts (fun part member => (plain part member).whole) some]
    rcases rootWidth_rooted rooted with width | width <;> omega
  have final : last ∈ reached (join directory path).toList := by
    have same := congrArg List.getLast? ends
    rw [List.getLast?_concat, List.getLast?_append, List.getLast?_eq_some_getLast some] at same
    rw [Option.some.inj same]
    exact List.getLast_mem some
  exact (plain last final).current

end Last

end PtyShell.Path
