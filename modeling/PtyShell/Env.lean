/-!
# Environments

An environment gives each name at most one value. Merging fills in variables that are absent or
empty; an overriding merge sets every variable it names, and removes those it gives no text.
-/

namespace PtyShell

namespace Env

def setEntry (name value : String) : List (String × String) → List (String × String)
  | [] => [(name, value)]
  | (other, old) :: rest =>
    if other = name then (name, value) :: rest else (other, old) :: setEntry name value rest

theorem mem_names_setEntry {name value other : String} {entries : List (String × String)} :
    other ∈ (setEntry name value entries).map Prod.fst ↔
      other = name ∨ other ∈ entries.map Prod.fst := by
  induction entries with
  | nil => simp [setEntry]
  | cons entry rest ih =>
    obtain ⟨key, old⟩ := entry
    by_cases same : key = name
    · simp [setEntry, same]
    · simp only [setEntry, same, if_false, List.map_cons, List.mem_cons, ih]
      constructor
      · rintro (h | h | h) <;> simp [h]
      · rintro (h | h | h) <;> simp [h]

theorem names_setEntry_nodup {name value : String} {entries : List (String × String)}
    (distinct : (entries.map Prod.fst).Nodup) :
    ((setEntry name value entries).map Prod.fst).Nodup := by
  induction entries with
  | nil => simp [setEntry]
  | cons entry rest ih =>
    obtain ⟨key, old⟩ := entry
    rw [List.map_cons, List.nodup_cons] at distinct
    by_cases same : key = name
    · subst same
      simpa [setEntry] using distinct
    · simp only [setEntry, same, if_false, List.map_cons, List.nodup_cons, mem_names_setEntry]
      exact ⟨fun h => h.elim False.elim distinct.1, ih distinct.2⟩

end Env

structure Env where
  entries : List (String × String)
  distinct : (entries.map Prod.fst).Nodup
  deriving DecidableEq, Repr

namespace Env

def empty : Env := ⟨[], List.nodup_nil⟩

instance : Inhabited Env := ⟨empty⟩

def get? (env : Env) (name : String) : Option String :=
  (env.entries.find? (·.1 == name)).map (·.2)

def getD (env : Env) (name : String) : String :=
  (env.get? name).getD ""

def set (env : Env) (name value : String) : Env :=
  ⟨setEntry name value env.entries, names_setEntry_nodup env.distinct⟩

def erase (env : Env) (name : String) : Env :=
  ⟨env.entries.filter (·.1 != name),
    env.distinct.sublist (List.filter_sublist.map Prod.fst)⟩

def ofList (entries : List (String × String)) : Env :=
  entries.foldl (fun env entry => env.set entry.1 entry.2) empty

/-- Gives a variable a value unless it has one that is not empty. -/
def fill (env : Env) (name value : String) : Env :=
  if env.getD name = "" then env.set name value else env

/-- Gives a variable a value, or removes it when the value is empty. -/
def override (env : Env) (name value : String) : Env :=
  if value = "" then env.erase name else env.set name value

def merge (env additions : Env) (overwrite : Bool) : Env :=
  additions.entries.foldl
    (fun env entry =>
      if overwrite then env.override entry.1 entry.2 else env.fill entry.1 entry.2)
    env

end Env

end PtyShell
