import PtyShell.Json.Reader
import PtyShell.Proofs.Env

namespace PtyShell.Json

theorem member?_setMember (name : String) (value : Json) (members : List (String × Json))
    (other : String) :
    member? (setMember name value members) other =
      if other = name then some value else member? members other :=
  Env.find_entry (setMember name value) rfl (fun _ _ _ => rfl) members other

inductive Limits.Refuses (limits : Limits) : ReadFault → Prop
  | digits {count : Nat} (refused : limits.refuseDigits count = true) :
      Refuses limits (.tooManyDigits count)
  | depth (nest : Nest) (limited : limits.depth ≠ Option.none) : Refuses limits (.tooDeep nest)

/-- What is read within limits is what is read without them, or the fault of a limit. -/
def Limits.Follows (limits : Limits) {α : Type} (limited unlimited : Except ReadFault α) : Prop :=
  limited = unlimited ∨ ∃ fault, limited = .error fault ∧ limits.Refuses fault

namespace Limits

variable {limits : Limits} {α β : Type}

theorem Follows.refl (outcome : Except ReadFault α) : limits.Follows outcome outcome :=
  .inl rfl

theorem Follows.refused {fault : ReadFault} (refuses : limits.Refuses fault)
    (unlimited : Except ReadFault α) : limits.Follows (.error fault) unlimited :=
  .inr ⟨fault, rfl, refuses⟩

theorem Refuses.outside {fault : ReadFault} (refuses : limits.inside.Refuses fault) :
    limits.Refuses fault := by
  cases refuses with
  | digits refused => exact .digits refused
  | depth nest limited =>
      refine .depth nest fun none => limited ?_
      rw [inside, none]
      rfl

theorem Follows.outside {limited unlimited : Except ReadFault α}
    (follows : limits.inside.Follows limited unlimited) : limits.Follows limited unlimited :=
  follows.imp_right fun ⟨fault, failed, refuses⟩ => ⟨fault, failed, refuses.outside⟩

theorem isExhausted_none : Limits.none.isExhausted = false :=
  rfl

theorem depth_of_isExhausted (exhausted : limits.isExhausted = true) :
    limits.depth ≠ Option.none := by
  intro none
  rw [isExhausted, none] at exhausted
  cases exhausted

end Limits

section Reading

theorem readMagnitude_follows (limits : Limits) (start : List Char) (negative : Bool)
    (text : List Char) :
    limits.Follows (readMagnitude limits start negative text)
      (readMagnitude .none start negative text) := by
  unfold readMagnitude
  cases wholePart? text with
  | none => exact .refl _
  | some found =>
      obtain ⟨whole, rest⟩ := found
      simp only
      split
      · exact .refl _
      · split
        · exact .refl _
        · cases refused : limits.refuseDigits whole.length with
          | true => exact .refused (.digits refused) _
          | false => exact .refl _

theorem readNumber_follows (limits : Limits) (text : List Char) :
    limits.Follows (readNumber limits text) (readNumber .none text) := by
  unfold readNumber
  split <;> exact readMagnitude_follows limits _ _ _

structure ReadersFollow (fuel : Nat) : Prop where
  value (limits : Limits) (text : List Char) :
    limits.Follows (readValue limits fuel text) (readValue .none fuel text)
  items (limits : Limits) (text : List Char) :
    limits.Follows (readItems limits fuel text) (readItems .none fuel text)
  members (limits : Limits) (read : List (String × Json)) (text : List Char) :
    limits.Follows (readMembers limits read fuel text) (readMembers .none read fuel text)

variable {fuel : Nat}

theorem ReadersFollow.readValue (follow : ReadersFollow fuel) (limits : Limits)
    (text : List Char) :
    limits.Follows (readValue limits (fuel + 1) text) (readValue .none (fuel + 1) text) := by
  cases text with
  | nil => exact .refl _
  | cons c rest =>
      unfold Json.readValue
      split
      · exact .refl _
      · split
        · cases exhausted : limits.isExhausted with
          | true => exact .refused (.depth .array (Limits.depth_of_isExhausted exhausted)) _
          | false =>
              simp only [Limits.isExhausted_none, Bool.false_eq_true, if_false]
              split
              · exact .refl _
              · rcases (follow.items limits.inside (skipGap rest)).outside with
                  same | ⟨fault, failed, refuses⟩
                · rw [same]
                  exact .refl _
                · rw [failed]
                  exact .refused refuses _
        · split
          · cases exhausted : limits.isExhausted with
            | true => exact .refused (.depth .object (Limits.depth_of_isExhausted exhausted)) _
            | false =>
                simp only [Limits.isExhausted_none, Bool.false_eq_true, if_false]
                split
                · exact .refl _
                · rcases (follow.members limits.inside [] (skipGap rest)).outside with
                    same | ⟨fault, failed, refuses⟩
                  · rw [same]
                    exact .refl _
                  · rw [failed]
                    exact .refused refuses _
          · split
            · exact .refl _
            · exact readNumber_follows limits _

theorem ReadersFollow.readItems (follow : ReadersFollow fuel) (limits : Limits)
    (text : List Char) :
    limits.Follows (readItems limits (fuel + 1) text) (readItems .none (fuel + 1) text) := by
  unfold Json.readItems
  rcases follow.value limits text with same | ⟨fault, failed, refuses⟩
  · rw [same]
    cases Json.readValue .none fuel text with
    | error fault => exact .refl _
    | ok found =>
        dsimp only
        cases skipGap found.2 with
        | nil => exact .refl _
        | cons c after =>
            dsimp only
            split
            · exact .refl _
            · split
              · rcases follow.items limits (skipGap after) with same | ⟨fault, failed, refuses⟩
                · rw [same]
                  exact .refl _
                · rw [failed]
                  exact .refused refuses _
              · exact .refl _
  · rw [failed]
    exact .refused refuses _

theorem ReadersFollow.readMembers (follow : ReadersFollow fuel) (limits : Limits)
    (read : List (String × Json)) (text : List Char) :
    limits.Follows (readMembers limits read (fuel + 1) text)
      (readMembers .none read (fuel + 1) text) := by
  unfold Json.readMembers
  split
  · split
    · exact .refl _
    · dsimp only
      split
      · rename_i after _
        rcases follow.value limits (skipGap after) with same | ⟨fault, failed, refuses⟩
        · rw [same]
          split
          · exact .refl _
          · split
            · exact .refl _
            · split
              · exact .refl _
              · split
                · exact follow.members limits _ _
                · exact .refl _
        · rw [failed]
          exact .refused refuses _
      · exact .refl _
  · exact .refl _

theorem readersFollow (fuel : Nat) : ReadersFollow fuel := by
  induction fuel with
  | zero =>
      refine ⟨?_, ?_, ?_⟩
      · intro limits text
        unfold readValue
        exact .refl _
      · intro limits text
        unfold readItems
        exact .refl _
      · intro limits read text
        unfold readMembers
        exact .refl _
  | succ fuel ih => exact ⟨ih.readValue, ih.readItems, ih.readMembers⟩

/-- A text is read within limits as it is without them, unless a limit refuses it. -/
theorem parseWithin_follows (limits : Limits) (text : List Char) :
    limits.Follows (parseWithin limits text) (parse text) := by
  unfold parse parseWithin
  split
  · exact .refl _
  · rcases (readersFollow _).value limits (skipGap text) with same | ⟨fault, failed, refuses⟩
    · rw [same]
      exact .refl _
    · rw [failed]
      exact .refused refuses _

end Reading

section Digits

def nines (count : Nat) : List Char :=
  '\x7b' :: '"' :: 'x' :: '"' :: ':' :: ' ' :: (List.replicate count '9' ++ ['\x7d'])

def ninesValue (count : Nat) : Json :=
  .obj [("x", .int (Text.digitsValue (List.replicate count 9)))]

theorem spanDigits_nines (count : Nat) :
    Text.spanDigits (List.replicate count '9' ++ ['\x7d']) =
      (List.replicate count 9, ['\x7d']) := by
  have digits : ∀ c ∈ List.replicate count '9', c.isDigit = true := by
    intro c member
    rw [List.eq_of_mem_replicate member]
    rfl
  unfold Text.spanDigits
  rw [List.takeWhile_append_of_pos digits, List.dropWhile_append_of_pos digits]
  have stops : ['\x7d'].takeWhile Char.isDigit = [] := rfl
  rw [stops, List.append_nil,
    List.filterMap_replicate_of_some (by rfl : Text.asciiDigit? '9' = some 9)]
  rfl

theorem readMagnitude_nines (limits : Limits) (count : Nat) (start : List Char) :
    readMagnitude limits start false (List.replicate (count + 1) '9' ++ ['\x7d']) =
      if limits.refuseDigits (count + 1) then .error (.tooManyDigits (count + 1))
      else .ok (.int (Text.digitsValue (List.replicate (count + 1) 9)), ['\x7d']) := by
  have whole : wholePart? (List.replicate (count + 1) '9' ++ ['\x7d']) =
      some (List.replicate (count + 1) 9, ['\x7d']) := by
    have spans := spanDigits_nines (count + 1)
    rw [List.replicate_succ, List.cons_append] at spans ⊢
    unfold wholePart?
    split
    · next rest zero => simp at zero
    · simp only [spans]
      rfl
  unfold readMagnitude
  simp only [whole]
  simp [fractionPart, exponentPart?, Text.signed]

theorem readValue_nines (limits : Limits) (fuel count : Nat) :
    readValue limits (fuel + 1) (List.replicate (count + 1) '9' ++ ['\x7d']) =
      if limits.refuseDigits (count + 1) then .error (.tooManyDigits (count + 1))
      else .ok (.int (Text.digitsValue (List.replicate (count + 1) 9)), ['\x7d']) := by
  have reads := readMagnitude_nines limits count (List.replicate (count + 1) '9' ++ ['\x7d'])
  have noWord : readWord? (List.replicate (count + 1) '9' ++ ['\x7d']) = none := rfl
  have noSign : readNumber limits (List.replicate (count + 1) '9' ++ ['\x7d']) =
      readMagnitude limits (List.replicate (count + 1) '9' ++ ['\x7d']) false
        (List.replicate (count + 1) '9' ++ ['\x7d']) := rfl
  rw [← noSign] at reads
  rw [List.replicate_succ, List.cons_append] at reads noWord ⊢
  unfold readValue
  rw [if_neg (by decide), if_neg (by decide), if_neg (by decide), noWord]
  exact reads

theorem readMembers_nines (limits : Limits) (fuel count : Nat) :
    readMembers limits [] (fuel + 2)
        ('"' :: 'x' :: '"' :: ':' :: ' ' :: (List.replicate (count + 1) '9' ++ ['\x7d'])) =
      if limits.refuseDigits (count + 1) then .error (.tooManyDigits (count + 1))
      else .ok ([("x", .int (Text.digitsValue (List.replicate (count + 1) 9)))], []) := by
  have reads := readValue_nines limits fuel count
  generalize tail : List.replicate (count + 1) '9' ++ ['\x7d'] = digits at reads ⊢
  have gap : skipGap (' ' :: digits) = digits := by
    rw [← tail]
    rfl
  have name : readString ('"' :: 'x' :: '"' :: ':' :: ' ' :: digits) []
      (('x' :: '"' :: ':' :: ' ' :: digits).length + 1) ('x' :: '"' :: ':' :: ' ' :: digits) =
        .ok ("x", ':' :: ' ' :: digits) := rfl
  have colon : skipGap (':' :: ' ' :: digits) = ':' :: ' ' :: digits := rfl
  unfold readMembers
  simp only [name, colon, gap, reads]
  cases limits.refuseDigits (count + 1) <;> rfl

theorem parseWithin_nines {limits : Limits} (count : Nat) (unlimited : limits.isExhausted = false) :
    parseWithin limits (nines (count + 1)) =
      if limits.refuseDigits (count + 1) then .error (.tooManyDigits (count + 1))
      else .ok (ninesValue (count + 1)) := by
  have reads := readMembers_nines limits.inside (2 * count + 15) count
  have fuel : 2 * (nines (count + 1)).length + 2 = 2 * count + 15 + 2 + 1 := by
    simp only [nines, List.length_cons, List.length_append, List.length_replicate, List.length_nil]
    omega
  have first : (nines (count + 1)).head?.map Char.toNat = some 0x7B := rfl
  have start : skipGap (nines (count + 1)) = nines (count + 1) := rfl
  unfold parseWithin
  rw [fuel, first, if_neg (by decide), start]
  unfold nines
  generalize List.replicate (count + 1) '9' ++ ['\x7d'] = digits at reads ⊢
  have inner : skipGap ('"' :: 'x' :: '"' :: ':' :: ' ' :: digits) =
    '"' :: 'x' :: '"' :: ':' :: ' ' :: digits := rfl
  unfold readValue
  rw [if_neg (by decide), if_neg (by decide), if_pos rfl, unlimited, if_neg Bool.false_ne_true,
    inner, if_neg (by simp), reads]
  have same : limits.inside.refuseDigits (count + 1) = limits.refuseDigits (count + 1) := rfl
  rw [same]
  cases limits.refuseDigits (count + 1) <;> rfl

end Digits

end PtyShell.Json
