import PtyShell.Env

namespace PtyShell.Env

def names (env : Env) : List String :=
  env.entries.map Prod.fst

section Values

theorem find_entry {α : Type} (set : List (String × α) → List (String × α)) {name : String}
    {value : α} (empty : set [] = [(name, value)])
    (step : ∀ other old rest, set ((other, old) :: rest) =
      if other = name then (name, value) :: rest else (other, old) :: set rest)
    (entries : List (String × α)) (other : String) :
    ((set entries).find? (·.1 == other)).map (·.2) =
      if other = name then some value else (entries.find? (·.1 == other)).map (·.2) := by
  induction entries with
  | nil =>
      by_cases same : other = name
      · simp [empty, same]
      · simp [empty, same, Ne.symm same]
  | cons entry rest ih =>
      obtain ⟨key, old⟩ := entry
      by_cases found : key = name
      · subst found
        by_cases same : other = key
        · simp [step, same]
        · simp [step, same, Ne.symm same]
      · by_cases same : key = other
        · subst same
          simp [step, found]
        · simp only [step, found, if_false, List.find?_cons, beq_eq_false_iff_ne.mpr same]
          exact ih

theorem get?_set (env : Env) (name value other : String) :
    (env.set name value).get? other = if other = name then some value else env.get? other :=
  find_entry (setEntry name value) rfl (fun _ _ _ => rfl) env.entries other

def setAll (env : Env) (entries : List (String × String)) : Env :=
  entries.foldl (fun env entry => env.set entry.1 entry.2) env

theorem get?_setAll_of_not_mem {entries : List (String × String)} {name : String}
    (unlisted : name ∉ entries.map Prod.fst) (env : Env) :
    (env.setAll entries).get? name = env.get? name := by
  induction entries generalizing env with
  | nil => rfl
  | cons entry others ih =>
      rw [List.map_cons, List.mem_cons, not_or] at unlisted
      have later := ih unlisted.2 (env.set entry.1 entry.2)
      rw [get?_set, if_neg unlisted.1] at later
      exact later

theorem get?_setAll_ne_none {entries : List (String × String)} (env : Env) {name : String} :
    (env.setAll entries).get? name ≠ none ↔
      env.get? name ≠ none ∨ name ∈ entries.map Prod.fst := by
  induction entries generalizing env with
  | nil => simp [setAll]
  | cons entry others ih =>
      have later := ih (env.set entry.1 entry.2)
      rw [get?_set] at later
      rw [List.map_cons, List.mem_cons]
      refine later.trans ?_
      by_cases same : name = entry.1 <;> simp [same]

private theorem find_erased (name other : String) (entries : List (String × String)) :
    ((entries.filter (·.1 != name)).find? (·.1 == other)).map (·.2) =
      if other = name then none else (entries.find? (·.1 == other)).map (·.2) := by
  induction entries with
  | nil => simp
  | cons entry rest ih =>
      obtain ⟨key, old⟩ := entry
      by_cases gone : key = name
      · subst gone
        rw [List.filter_cons_of_neg (by simp), ih]
        by_cases same : other = key
        · rw [if_pos same, if_pos same]
        · rw [if_neg same, if_neg same, List.find?_cons_of_neg (by simpa using Ne.symm same)]
      · rw [List.filter_cons_of_pos (by simpa using gone)]
        by_cases same : key = other
        · subst same
          simp [gone]
        · simp only [List.find?_cons, beq_eq_false_iff_ne.mpr same]
          exact ih

theorem get?_erase (env : Env) (name other : String) :
    (env.erase name).get? other = if other = name then none else env.get? other :=
  find_erased name other env.entries

/-- What a filling merge makes of a value: one that is absent or empty gives way to a text, if there
is one for it. -/
def filled (text? old : Option String) : Option String :=
  if old.getD "" = "" then text? <|> old else old

/-- What an overriding merge makes of a value: a text for it takes its place, an empty one removes
it. -/
def overridden (text? old : Option String) : Option String :=
  match text? with
  | none => old
  | some text => if text = "" then none else some text

@[simp] theorem filled_none (old : Option String) : filled none old = old :=
  ite_self old

@[simp] theorem overridden_none (old : Option String) : overridden none old = old := rfl

theorem filled_ne_none {text? : Option String} (some : text? ≠ none) (old : Option String) :
    filled text? old ≠ none := by
  unfold filled
  split
  · cases text? with
    | none => exact absurd rfl some
    | some text => exact Option.some_ne_none text
  · rename_i held
    rintro rfl
    exact held rfl

theorem filled_filled (text? old : Option String) :
    filled text? (filled text? old) = filled text? old := by
  unfold filled
  by_cases empty : old.getD "" = ""
  · simp only [if_pos empty]
    cases text? <;> simp
  · simp only [if_neg empty]

theorem get?_fill (env : Env) (name value other : String) :
    (env.fill name value).get? other =
      if other = name then filled (some value) (env.get? other) else env.get? other := by
  unfold fill getD filled
  by_cases same : other = name
  · subst same
    split <;> simp [*, get?_set]
  · split <;> simp [same, get?_set]

theorem get?_override (env : Env) (name value other : String) :
    (env.override name value).get? other =
      if other = name then overridden (some value) (env.get? other) else env.get? other := by
  unfold override overridden
  by_cases removed : value = ""
  · simp only [if_pos removed, get?_erase]
  · simp only [if_neg removed, get?_set]

theorem get?_foldl {step : Env → String × String → Env}
    {change : Option String → Option String → Option String}
    (changes : ∀ env entry other, (step env entry).get? other =
      if other = entry.1 then change (some entry.2) (env.get? other) else env.get? other)
    (keeps : ∀ old, change none old = old)
    {entries : List (String × String)} (distinct : (entries.map Prod.fst).Nodup) (env : Env)
    (name : String) :
    (entries.foldl step env).get? name =
      change ((entries.find? (·.1 == name)).map (·.2)) (env.get? name) := by
  induction entries generalizing env with
  | nil => exact (keeps _).symm
  | cons entry rest ih =>
      rw [List.map_cons, List.nodup_cons] at distinct
      rw [List.foldl_cons, ih distinct.2, changes]
      by_cases same : name = entry.1
      · subst same
        have later : rest.find? (·.1 == entry.1) = none := by
          rw [List.find?_eq_none]
          intro other member found
          exact distinct.1 (List.mem_map.mpr ⟨other, member, beq_iff_eq.mp found⟩)
        simp [later, keeps]
      · rw [if_neg same, List.find?_cons_of_neg (by simpa using Ne.symm same)]

theorem get?_merge_fill (env additions : Env) (name : String) :
    (env.merge additions false).get? name = filled (additions.get? name) (env.get? name) :=
  get?_foldl (fun env entry other => get?_fill env entry.1 entry.2 other) filled_none
    additions.distinct env name

theorem get?_merge_override (env additions : Env) (name : String) :
    (env.merge additions true).get? name = overridden (additions.get? name) (env.get? name) :=
  get?_foldl (fun env entry other => get?_override env entry.1 entry.2 other) overridden_none
    additions.distinct env name

end Values

section Names

theorem mem_names {env : Env} {name : String} : name ∈ env.names ↔ env.get? name ≠ none := by
  unfold names get?
  rw [ne_eq, Option.map_eq_none_iff, ← ne_eq, Option.ne_none_iff_isSome, List.find?_isSome,
    List.mem_map]
  constructor
  · rintro ⟨entry, member, same⟩
    exact ⟨entry, member, beq_iff_eq.mpr same⟩
  · rintro ⟨entry, member, same⟩
    exact ⟨entry, member, beq_iff_eq.mp same⟩

private theorem entries_eq {entries : List (String × String)}
    (distinct : (entries.map Prod.fst).Nodup) :
    entries = (entries.map Prod.fst).map fun name =>
      (name, ((entries.find? (·.1 == name)).map (·.2)).getD "") := by
  induction entries with
  | nil => rfl
  | cons entry rest ih =>
      rw [List.map_cons, List.nodup_cons] at distinct
      rw [List.map_cons, List.map_cons]
      congr 1
      · simp
      · refine (ih distinct.2).trans (List.map_congr_left ?_)
        intro name member
        have other : entry.1 ≠ name := by
          rintro rfl
          exact distinct.1 member
        rw [List.find?_cons_of_neg (by simpa using other)]

theorem get?_of_mem {env : Env} {entry : String × String} (member : entry ∈ env.entries) :
    env.get? entry.1 = some entry.2 := by
  have held := member
  rw [entries_eq env.distinct] at held
  obtain ⟨name, named, rfl⟩ := List.mem_map.mp held
  obtain ⟨text, found⟩ := Option.ne_none_iff_exists'.mp (mem_names.mp named)
  unfold get? at found ⊢
  rw [found]
  rfl

theorem ext_names {first second : Env} (names : first.names = second.names)
    (values : ∀ name, first.get? name = second.get? name) : first = second := by
  have entries : first.entries = second.entries := by
    rw [entries_eq first.distinct, entries_eq second.distinct]
    change first.names.map (fun name => (name, first.getD name)) =
      second.names.map fun name => (name, second.getD name)
    rw [names]
    apply List.map_congr_left
    intro name _
    rw [getD, getD, values]
  cases first
  cases second
  cases entries
  rfl

private theorem names_setEntry (name value : String) (entries : List (String × String)) :
    (setEntry name value entries).map Prod.fst =
      if name ∈ entries.map Prod.fst then entries.map Prod.fst
      else entries.map Prod.fst ++ [name] := by
  induction entries with
  | nil => simp [setEntry]
  | cons entry rest ih =>
      obtain ⟨key, old⟩ := entry
      by_cases found : key = name
      · simp [setEntry, found]
      · simp only [setEntry, found, if_false, List.map_cons, ih, List.mem_cons, Ne.symm found,
          false_or]
        split <;> rfl

theorem names_set (env : Env) (name value : String) :
    (env.set name value).names = if name ∈ env.names then env.names else env.names ++ [name] :=
  names_setEntry name value env.entries

theorem names_erase (env : Env) (name : String) :
    (env.erase name).names = env.names.filter (· != name) := by
  unfold names erase
  rw [List.filter_map]
  rfl

theorem names_fill (env : Env) (name value : String) :
    (env.fill name value).names = if name ∈ env.names then env.names else env.names ++ [name] := by
  unfold fill
  split
  · exact names_set env name value
  · rename_i held
    rw [if_pos]
    rw [mem_names]
    intro absent
    exact held (by rw [getD, absent]; rfl)

private theorem names_fills {entries : List (String × String)}
    (distinct : (entries.map Prod.fst).Nodup) (env : Env) :
    (entries.foldl (fun env entry => env.fill entry.1 entry.2) env).names =
      env.names ++ (entries.map Prod.fst).filter (· ∉ env.names) := by
  induction entries generalizing env with
  | nil => simp
  | cons entry rest ih =>
      rw [List.map_cons, List.nodup_cons] at distinct
      rw [List.foldl_cons, ih distinct.2, names_fill, List.map_cons]
      by_cases known : entry.1 ∈ env.names
      · rw [if_pos known, List.filter_cons_of_neg (by simpa using known)]
      · rw [if_neg known, List.filter_cons_of_pos (by simpa using known), List.append_assoc,
          List.singleton_append]
        congr 2
        apply List.filter_congr
        intro name member
        have other : name ≠ entry.1 := by
          rintro rfl
          exact distinct.1 member
        simp [other]

theorem names_merge_fill (env additions : Env) :
    (env.merge additions false).names =
      env.names ++ additions.names.filter (· ∉ env.names) :=
  names_fills additions.distinct env

private theorem names_overrides {entries : List (String × String)}
    (distinct : (entries.map Prod.fst).Nodup) {env : Env}
    (known : ∀ entry ∈ entries, entry.2 ≠ "" → entry.1 ∈ env.names) :
    (entries.foldl (fun env entry => env.override entry.1 entry.2) env).names =
      env.names.filter fun name => (entries.find? (·.1 == name)).map (·.2) ≠ some "" := by
  induction entries generalizing env with
  | nil => exact (List.filter_eq_self.mpr (by simp)).symm
  | cons entry rest ih =>
      rw [List.map_cons, List.nodup_cons] at distinct
      have later : ∀ other ∈ rest, other.1 ≠ entry.1 := by
        intro other member same
        exact distinct.1 (List.mem_map.mpr ⟨other, member, same⟩)
      by_cases removed : entry.2 = ""
      · have names : (env.override entry.1 entry.2).names = env.names.filter (· != entry.1) := by
          rw [override, if_pos removed, names_erase]
        rw [List.foldl_cons, ih distinct.2, names, List.filter_filter]
        · apply List.filter_congr
          intro name _
          by_cases same : entry.1 = name
          · simp [same, removed]
          · rw [List.find?_cons_of_neg (by simpa using same)]
            simp [Ne.symm same]
        · intro other member some
          rw [names, List.mem_filter]
          exact ⟨known other (List.mem_cons_of_mem _ member) some,
            by simpa using later other member⟩
      · have names : (env.override entry.1 entry.2).names = env.names := by
          rw [override, if_neg removed, names_set, if_pos (known entry List.mem_cons_self removed)]
        rw [List.foldl_cons, ih distinct.2, names]
        · apply List.filter_congr
          intro name _
          by_cases same : entry.1 = name
          · subst same
            have absent : rest.find? (·.1 == entry.1) = none := by
              rw [List.find?_eq_none]
              intro other member found
              exact later other member (beq_iff_eq.mp found)
            simp [absent, removed]
          · simp [same]
        · intro other member some
          rw [names]
          exact known other (List.mem_cons_of_mem _ member) some

theorem names_merge_override {env additions : Env}
    (known : ∀ name text, additions.get? name = some text → text ≠ "" → name ∈ env.names) :
    (env.merge additions true).names = env.names.filter fun name =>
      additions.get? name ≠ some "" := by
  apply names_overrides additions.distinct
  intro entry member
  exact known entry.1 entry.2 (get?_of_mem member)

end Names

end PtyShell.Env
