import Mathlib.Data.List.Forall2
import Mathlib.Data.List.GetD
import PtyShell.Proofs.Env

/-! # Sequences of merges

What a sequence of merges makes of a variable depends on the value it had and on what each merge
offers it, and on nothing else. Sequences that make the same of every offer are alike, so that
consecutive merges of one kind can be made as one. -/

namespace PtyShell.Env

structure Merge where
  additions : Env
  overwrite : Bool
  deriving DecidableEq, Repr

def Merge.apply (env : Env) (merge : Merge) : Env :=
  env.merge merge.additions merge.overwrite

def mergeAll (env : Env) (merges : List Merge) : Env :=
  merges.foldl Merge.apply env

def stages (env : Env) (merges : List Merge) : List Env :=
  merges.scanl Merge.apply env

/-- A merge where environments stand in a memory, each at its place: one of them is copied to the
end, and the entries of another one are written to the copy, one by one. -/
def mergeAt (memory : List Env) (source additions : Nat) (overwrite : Bool) : List Env :=
  (memory.getD additions empty).entries.foldl
    (fun written entry => written.modify memory.length fun env =>
      if overwrite then env.override entry.1 entry.2 else env.fill entry.1 entry.2)
    (memory ++ [memory.getD source empty])

/-- A sequence of such merges, each into a copy of what the one before it has made. -/
def mergeAllAt (memory : List Env) (source : Nat) : List (Nat × Bool) → List Env
  | [] => memory
  | (additions, overwrite) :: steps =>
    mergeAllAt (mergeAt memory source additions overwrite) memory.length steps

def Merge.ofPlace (memory : List Env) (step : Nat × Bool) : Merge :=
  ⟨memory.getD step.1 empty, step.2⟩

structure Offer where
  text : String
  overwrite : Bool
  deriving DecidableEq, Repr

/-- What a variable becomes by an offer. An overriding offer decides it, and removes it by an empty
text; any other one is taken only where there is no text yet. -/
def Offer.taken (old : Option String) (offer : Offer) : Option String :=
  if offer.overwrite then
    if offer.text = "" then none else some offer.text
  else if old = none ∨ old = some "" then some offer.text
  else old

def Merge.offer? (name : String) (merge : Merge) : Option Offer :=
  (merge.additions.get? name).map fun text => ⟨text, merge.overwrite⟩

def offers (name : String) (merges : List Merge) : List Offer :=
  merges.filterMap (Merge.offer? name)

def update (env changes : Env) : Env :=
  changes.entries.foldl (fun env entry => env.set entry.1 entry.2) env

section Steps

theorem getD_eq_empty {old : Option String} :
    old.getD "" = "" ↔ old = none ∨ old = some "" := by
  cases old <;> simp

theorem taken_fill (text : String) (old : Option String) :
    Offer.taken old ⟨text, false⟩ = filled (some text) old := by
  simp only [Offer.taken, filled, getD_eq_empty]
  rfl

theorem get?_apply (env : Env) (merge : Merge) (name : String) :
    (merge.apply env).get? name =
      (merge.offer? name).elim (env.get? name) (Offer.taken (env.get? name)) := by
  obtain ⟨additions, overwrite⟩ := merge
  cases overwrite with
  | false =>
      rw [Merge.apply, get?_merge_fill, Merge.offer?]
      cases additions.get? name with
      | none => exact filled_none _
      | some text => exact (taken_fill text _).symm
  | true =>
      rw [Merge.apply, get?_merge_override, Merge.offer?]
      cases additions.get? name <;> rfl

/-- The value of a variable after a sequence of merges is its first value, changed by one offer
after the other. -/
theorem get?_mergeAll (env : Env) (merges : List Merge) (name : String) :
    (env.mergeAll merges).get? name = (offers name merges).foldl Offer.taken (env.get? name) := by
  induction merges generalizing env with
  | nil => rfl
  | cons merge merges ih =>
      rw [mergeAll, List.foldl_cons, ← mergeAll, ih, get?_apply, offers, offers,
        List.filterMap_cons]
      cases merge.offer? name <;> rfl

theorem get?_update (env changes : Env) (name : String) :
    (env.update changes).get? name = (changes.get? name).or (env.get? name) := by
  apply get?_foldl _ (fun _ => rfl) changes.distinct
  intro env entry other
  rw [get?_set]
  rfl

theorem get?_eq_some {env : Env} {name value : String} :
    env.get? name = some value ↔ (name, value) ∈ env.entries := by
  constructor
  · intro held
    obtain ⟨entry, found, rfl⟩ := Option.map_eq_some_iff.mp held
    have same : entry.1 = name := by simpa using List.find?_some found
    rw [← same]
    exact List.mem_of_find?_eq_some found
  · intro member
    exact get?_of_mem member

theorem get?_perm {first second : Env} (same : first.entries.Perm second.entries) (name : String) :
    first.get? name = second.get? name := by
  apply Option.ext
  intro value
  rw [get?_eq_some, get?_eq_some]
  exact same.mem_iff

end Steps

/-- Two sequences of merges give every variable of every environment the same value. -/
def Alike (first second : List Merge) : Prop :=
  ∀ env name, (mergeAll env first).get? name = (mergeAll env second).get? name

section Fusing

theorem offers_append (name : String) (first second : List Merge) :
    offers name (first ++ second) = offers name first ++ offers name second :=
  List.filterMap_append

theorem Alike.ofOffers {first second : List Merge}
    (same : ∀ name old, (offers name first).foldl Offer.taken old =
      (offers name second).foldl Offer.taken old) : Alike first second := by
  intro env name
  rw [get?_mergeAll, get?_mergeAll, same]

theorem Alike.offers {first second : List Merge} (alike : Alike first second) (name : String)
    (old : Option String) :
    (offers name first).foldl Offer.taken old = (offers name second).foldl Offer.taken old := by
  obtain ⟨env, held⟩ : ∃ env : Env, env.get? name = old := by
    cases old with
    | none => exact ⟨empty, rfl⟩
    | some text => exact ⟨empty.set name text, by rw [get?_set, if_pos rfl]⟩
  have same := alike env name
  rwa [get?_mergeAll, get?_mergeAll, held] at same

theorem Alike.within {first second : List Merge} (alike : Alike first second)
    (before after : List Merge) : Alike (before ++ first ++ after) (before ++ second ++ after) := by
  apply ofOffers
  intro name old
  simp only [offers_append, List.foldl_append, alike.offers]

theorem filled_after (later earlier old : Option String) :
    filled later (filled earlier old) = filled (filled later earlier) old := by
  by_cases empty : old.getD "" = ""
  · cases earlier with
    | none =>
        have nothing : filled later none = later := by
          cases later <;> rfl
        rw [filled_none, nothing]
    | some text =>
        have taken : filled (some text) old = some text := if_pos empty
        have some : filled later (some text) ≠ none := by
          unfold filled
          split
          · cases later <;> simp
          · simp
        obtain ⟨other, found⟩ := Option.ne_none_iff_exists'.mp some
        rw [taken, found]
        exact (if_pos empty).symm
  · have held (text? : Option String) : filled text? old = old := if_neg empty
    rw [held, held, held]

theorem overridden_after (later earlier old : Option String) :
    overridden later (overridden earlier old) = overridden (later.or earlier) old := by
  cases later <;> rfl

theorem Alike.again (merge : Merge) : Alike [merge, merge] [merge] := by
  intro env name
  obtain ⟨additions, overwrite⟩ := merge
  show ((env.merge additions overwrite).merge additions overwrite).get? name =
    (env.merge additions overwrite).get? name
  cases overwrite with
  | false => rw [get?_merge_fill, get?_merge_fill, filled_filled]
  | true => rw [get?_merge_override, get?_merge_override, overridden_after, Option.or_self]

theorem Alike.fills (first second : Env) :
    Alike [⟨first, false⟩, ⟨second, false⟩] [⟨first.merge second false, false⟩] := by
  intro env name
  calc ((env.merge first false).merge second false).get? name
      = filled (second.get? name) (filled (first.get? name) (env.get? name)) := by
        rw [get?_merge_fill, get?_merge_fill]
    _ = filled (filled (second.get? name) (first.get? name)) (env.get? name) := filled_after _ _ _
    _ = (env.merge (first.merge second false) false).get? name := by
        rw [get?_merge_fill, get?_merge_fill]

theorem Alike.overrides (first second : Env) :
    Alike [⟨first, true⟩, ⟨second, true⟩] [⟨first.update second, true⟩] := by
  intro env name
  calc ((env.merge first true).merge second true).get? name
      = overridden (second.get? name) (overridden (first.get? name) (env.get? name)) := by
        rw [get?_merge_override, get?_merge_override]
    _ = overridden ((second.get? name).or (first.get? name)) (env.get? name) :=
        overridden_after _ _ _
    _ = (env.merge (first.update second) true).get? name := by
        rw [get?_merge_override, get?_update]

structure Merge.Reordered (first second : Merge) : Prop where
  overwrite : first.overwrite = second.overwrite
  additions : first.additions.entries.Perm second.additions.entries

theorem offers_reordered {first second : List Merge}
    (reordered : List.Forall₂ Merge.Reordered first second) (name : String) :
    offers name first = offers name second := by
  induction reordered with
  | nil => rfl
  | @cons merge other merges others same reordered ih =>
      have offered : merge.offer? name = other.offer? name := by
        rw [Merge.offer?, Merge.offer?, get?_perm same.additions, same.overwrite]
      rw [offers, offers, List.filterMap_cons, List.filterMap_cons, offered, ← offers, ← offers, ih]

end Fusing

section Copying

theorem stages_cons (env : Env) (merge : Merge) (merges : List Merge) :
    stages env (merge :: merges) = env :: stages (merge.apply env) merges :=
  List.scanl_cons

theorem stages_eq (env : Env) (merges : List Merge) :
    stages env merges = env :: (stages env merges).tail := by
  cases merges with
  | nil => rw [stages, List.scanl_nil, List.tail_cons]
  | cons merge merges => rw [stages_cons, List.tail_cons]

theorem modify_last (memory : List Env) (env : Env) (change : Env → Env) :
    (memory ++ [env]).modify memory.length change = memory ++ [change env] := by
  induction memory with
  | nil => rfl
  | cons first memory ih =>
      rw [List.cons_append, List.length_cons, List.modify_succ_cons, ih, List.cons_append]

theorem mergeAt_eq (memory : List Env) (source additions : Nat) (overwrite : Bool) :
    mergeAt memory source additions overwrite =
      memory ++ [(memory.getD source empty).merge (memory.getD additions empty) overwrite] := by
  unfold mergeAt merge
  generalize (memory.getD additions empty).entries = entries
  generalize memory.getD source empty = env
  induction entries generalizing env with
  | nil => rfl
  | cons entry entries ih => rw [List.foldl_cons, modify_last, ih, List.foldl_cons]

/-- Each merge adds the environment that it makes, and nothing else is written to. -/
theorem mergeAllAt_eq {memory : List Env} {steps : List (Nat × Bool)}
    (within : ∀ step ∈ steps, step.1 < memory.length) (source : Nat) :
    mergeAllAt memory source steps =
      memory ++ (stages (memory.getD source empty) (steps.map (Merge.ofPlace memory))).tail := by
  induction steps generalizing memory source with
  | nil => exact (List.append_nil _).symm
  | cons step steps ih =>
      obtain ⟨additions, overwrite⟩ := step
      rw [List.forall_mem_cons] at within
      let made := (Merge.ofPlace memory (additions, overwrite)).apply (memory.getD source empty)
      have grown : mergeAt memory source additions overwrite = memory ++ [made] :=
        mergeAt_eq memory source additions overwrite
      have last : (memory ++ [made]).getD memory.length empty = made := by
        rw [List.getD_append_right _ _ _ _ (Nat.le_refl _), Nat.sub_self]
        rfl
      -- What the later merges add was not written to.
      have same : steps.map (Merge.ofPlace (memory ++ [made])) =
          steps.map (Merge.ofPlace memory) := by
        apply List.map_congr_left
        intro step member
        rw [Merge.ofPlace, List.getD_append _ _ _ _ (within.2 step member)]
        rfl
      have longer : ∀ step ∈ steps, step.1 < (memory ++ [made]).length := by
        intro step member
        rw [List.length_append]
        exact Nat.lt_add_right _ (within.2 step member)
      calc mergeAllAt memory source ((additions, overwrite) :: steps)
          = mergeAllAt (memory ++ [made]) memory.length steps := by rw [mergeAllAt, grown]
        _ = memory ++ [made] ++ (stages made (steps.map (Merge.ofPlace memory))).tail := by
          rw [ih longer, last, same]
        _ = memory ++ stages made (steps.map (Merge.ofPlace memory)) := by
          rw [List.append_assoc, List.singleton_append, ← stages_eq]
        _ = _ := by rw [List.map_cons, stages_cons, List.tail_cons]

end Copying

/-- What a sequence of merges comes to, and which merges of it can be made in another way. -/
structure Sequential (before after : List Merge) : Prop where
  /-- Each variable depends on its first value and its offers alone. -/
  value : ∀ env name, (mergeAll env before).get? name =
    (offers name before).foldl Offer.taken (env.get? name)
  order : ∀ others, List.Forall₂ Merge.Reordered before others → Alike before others
  again : ∀ merge, Alike (before ++ [merge, merge] ++ after) (before ++ [merge] ++ after)
  fills : ∀ first second,
    Alike (before ++ [⟨first, false⟩, ⟨second, false⟩] ++ after)
      (before ++ [⟨first.merge second false, false⟩] ++ after)
  overrides : ∀ first second,
    Alike (before ++ [⟨first, true⟩, ⟨second, true⟩] ++ after)
      (before ++ [⟨first.update second, true⟩] ++ after)
  /-- Where the merges read their environments from a memory, they add one environment each and
  change none that was there. -/
  keeps : ∀ memory source steps, (∀ step ∈ steps, step.1 < memory.length) →
    steps.map (Merge.ofPlace memory) = before →
      mergeAllAt memory source steps =
        memory ++ (stages (memory.getD source empty) before).tail

/-- Sequences of merges act on each variable by folding its offers. -/
theorem mergeAll_sequential (before after : List Merge) : Sequential before after where
  value := fun env name => get?_mergeAll env before name
  order := by
    intro others reordered
    apply Alike.ofOffers
    intro name old
    rw [offers_reordered reordered]
  again := fun merge => (Alike.again merge).within before after
  fills := fun first second => (Alike.fills first second).within before after
  overrides := fun first second => (Alike.overrides first second).within before after
  keeps := by
    intro memory source steps within read
    rw [← read]
    exact mergeAllAt_eq within source

-- A variable that was removed is filled in again.
example : (mergeAll (ofList [("A", "1")])
    [⟨ofList [("A", "")], true⟩, ⟨ofList [("A", "2")], false⟩]).get? "A" = some "2" := by decide

end PtyShell.Env
