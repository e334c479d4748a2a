import PtyShell.Handle.Session
import PtyShell.Proofs.Handle.Step

namespace PtyShell

namespace Session

def Live (session : Session) (place : Nat) (thread : Thread) : Prop :=
  session.threads[place]? = some (some thread)

inductive Moved (session : Session) : Move → Session → Prop
  | call (call : Call) : Moved session (.call call) (session.call call)
  | exit (code : Int) : Moved session (.exit code) (session.exit code)
  | stay (place : Nat) : Moved session (.advance place) session
  | step {place : Nat} {thread : Thread} {progress : Progress}
      (live : session.Live place thread) (taken : session.handle.Step thread progress) :
      Moved session (.advance place) (session.applied place progress)

theorem move_live {session : Session} {place : Nat} {thread : Thread} {progress : Progress}
    (live : session.Live place thread) (taken : session.handle.step thread = some progress) :
    session.move (.advance place) = session.applied place progress := by
  unfold Live at live
  simp only [move, advance?, live, taken, Option.map_some, Option.getD_some]

theorem moved (session : Session) (move : Move) : session.Moved move (session.move move) := by
  cases move with
  | call call => exact .call call
  | exit code => exact .exit code
  | advance place =>
      cases live : session.threads[place]? with
      | none =>
          simp only [Session.move, advance?, live, Option.getD_none]
          exact .stay place
      | some slot =>
          cases slot with
          | none =>
              simp only [Session.move, advance?, live, Option.getD_none]
              exact .stay place
          | some thread =>
              cases taken : session.handle.step thread with
              | none =>
                  simp only [Session.move, advance?, live, taken, Option.map_none,
                    Option.getD_none]
                  exact .stay place
              | some progress =>
                  rw [move_live live taken]
                  exact .step live (Handle.step_cases taken)

@[simp] theorem run_nil (session : Session) : session.run [] = session := rfl

@[simp] theorem run_cons (session : Session) (move : Move) (moves : List Move) :
    session.run (move :: moves) = (session.move move).run moves := rfl

theorem run_append (session : Session) (first second : List Move) :
    session.run (first ++ second) = (session.run first).run second :=
  List.foldl_append

theorem run_keeps (property : Session → Prop) (moves : List Move)
    (kept : ∀ session, ∀ move ∈ moves, ∀ after, session.Moved move after →
      property session → property after)
    (session : Session) (holds : property session) : property (session.run moves) := by
  induction moves generalizing session with
  | nil => exact holds
  | cons move moves ih =>
      apply ih
      · intro session other member
        exact kept session other (List.mem_cons_of_mem move member)
      · exact kept session move List.mem_cons_self _ (session.moved move) holds

theorem threads_applied (session : Session) (place : Nat) (progress : Progress) :
    (session.applied place progress).threads =
      session.threads.set place progress.next ++ progress.started.toList.map some := by
  cases started : progress.started <;> simp [applied, started]

theorem notes_applied (session : Session) (place : Nat) (progress : Progress) :
    (session.applied place progress).notes =
      session.notes ++ progress.note.toList.map (Prod.mk place) := by
  cases noted : progress.note <;> simp [applied, noted]

theorem reapers_applied (session : Session) (place : Nat) (progress : Progress) :
    (session.applied place progress).reapers =
      session.reapers ++ progress.started.toList.map fun _ => session.threads.length := by
  cases started : progress.started <;> simp [applied, started]

theorem slot_applied {session : Session} {other : Nat} (inside : other < session.threads.length)
    (place : Nat) (progress : Progress) :
    (session.applied place progress).threads[other]? =
      if other = place then some progress.next else session.threads[other]? := by
  rw [threads_applied, List.getElem?_append_left (by simpa using inside)]
  by_cases same : other = place
  · subst same
    rw [List.getElem?_set_self inside, if_pos rfl]
  · rw [List.getElem?_set_ne (Ne.symm same), if_neg same]

theorem slot_call {session : Session} {other : Nat} (inside : other < session.threads.length)
    (call : Call) : (session.call call).threads[other]? = session.threads[other]? :=
  List.getElem?_append_left inside

theorem live_applied {session : Session} {place other : Nat} {progress : Progress}
    {thread : Thread} (live : (session.applied place progress).Live other thread) :
    (other ≠ place ∧ session.Live other thread) ∨
      (other = place ∧ progress.next = some thread) ∨
        (other = session.threads.length ∧ progress.started = some thread) := by
  unfold Live at live
  by_cases inside : other < session.threads.length
  · rw [slot_applied inside] at live
    by_cases same : other = place
    · rw [if_pos same] at live
      exact Or.inr (Or.inl ⟨same, Option.some.inj live⟩)
    · rw [if_neg same] at live
      exact Or.inl ⟨same, live⟩
  · have beyond := Nat.le_of_not_lt inside
    rw [threads_applied, List.getElem?_append_right (by simpa using beyond),
      List.length_set] at live
    cases started : progress.started with
    | none => simp [started] at live
    | some new =>
        obtain ⟨first, equal⟩ := List.getElem?_eq_some_iff.mp live
        simp only [started, Option.toList_some, List.map_singleton, List.length_singleton] at first
        have last : other = session.threads.length := by omega
        simp only [started, Option.toList_some, List.map_singleton, List.getElem_singleton,
          Option.some.injEq] at equal
        exact Or.inr (Or.inr ⟨last, by rw [equal]⟩)

theorem slot_started {session : Session} {progress : Progress} {thread : Thread}
    (started : progress.started = some thread) (place : Nat) :
    (session.applied place progress).threads[session.threads.length]? = some (some thread) := by
  rw [threads_applied, started, List.getElem?_append_right (by simp)]
  simp

theorem live_call {session : Session} {call : Call} {place : Nat} {thread : Thread}
    (live : (session.call call).Live place thread) :
    session.Live place thread ∨ thread = call.thread := by
  by_cases inside : place < session.threads.length
  · exact Or.inl ((slot_call inside call).symm.trans live)
  · right
    unfold Live at live
    rw [Session.call, List.getElem?_append_right (Nat.le_of_not_lt inside)] at live
    simpa using List.mem_of_getElem? live

section Moved

variable {session after : Session} {move : Move}

theorem length_moved (moved : session.Moved move after) :
    session.threads.length ≤ after.threads.length := by
  cases moved with
  | call call => simp [Session.call]
  | exit code => exact Nat.le_refl _
  | stay place => exact Nat.le_refl _
  | step live taken =>
      rw [threads_applied, List.length_append, List.length_set]
      exact Nat.le_add_right _ _

theorem live_moved (moved : session.Moved move after) {place : Nat} {thread : Thread}
    (inside : place < session.threads.length) (live : after.Live place thread) :
    session.Live place thread ∨
      ∃ before progress, session.Live place before ∧ session.handle.Step before progress ∧
        progress.next = some thread ∧ after = session.applied place progress := by
  cases moved with
  | call call =>
      left
      exact (slot_call inside call).symm.trans live
  | exit code => exact Or.inl live
  | stay other => exact Or.inl live
  | @step other before progress found taken =>
      unfold Live at live
      rw [slot_applied inside] at live
      by_cases same : place = other
      · rw [if_pos same] at live
        subst same
        exact Or.inr ⟨before, progress, found, taken, Option.some.inj live, rfl⟩
      · rw [if_neg same] at live
        exact Or.inl live

theorem notes_moved (moved : session.Moved move after) {place : Nat} {note : Note}
    (member : (place, note) ∈ after.notes) :
    (place, note) ∈ session.notes ∨
      ∃ thread progress, session.Live place thread ∧ session.handle.Step thread progress ∧
        progress.note = some note ∧ after = session.applied place progress := by
  cases moved with
  | call call => exact Or.inl member
  | exit code => exact Or.inl member
  | stay other => exact Or.inl member
  | @step other thread progress live taken =>
      rw [notes_applied] at member
      rcases List.mem_append.mp member with old | new
      · exact Or.inl old
      · obtain ⟨own, present, equal⟩ := List.mem_map.mp new
        cases equal
        exact Or.inr ⟨thread, progress, live, taken, Option.mem_toList.mp present, rfl⟩

end Moved

def number (property : Thread → Bool) (session : Session) : Nat :=
  session.threads.countP fun slot => slot.any property

theorem number_call (property : Thread → Bool) (session : Session) (call : Call) :
    (session.call call).number property =
      session.number property + (property call.thread).toNat := by
  cases chosen : property call.thread <;> simp [number, Session.call, chosen]

theorem number_pos (property : Thread → Bool) {session : Session} {place : Nat} {thread : Thread}
    (live : session.Live place thread) : (property thread).toNat ≤ session.number property := by
  cases chosen : property thread with
  | false => exact Nat.zero_le _
  | true =>
      apply Nat.succ_le_of_lt
      exact List.countP_pos_iff.mpr ⟨some thread, List.mem_of_getElem? live, by simp [chosen]⟩

theorem exists_of_number_pos {property : Thread → Bool} {session : Session}
    (positive : 0 < session.number property) :
    ∃ place thread, session.Live place thread ∧ property thread = true := by
  obtain ⟨slot, member, chosen⟩ := List.countP_pos_iff.mp positive
  obtain ⟨place, found⟩ := List.getElem?_of_mem member
  cases slot with
  | none => simp at chosen
  | some thread => exact ⟨place, thread, found, by simpa using chosen⟩

theorem number_applied (property : Thread → Bool) {session : Session} {place : Nat}
    {thread : Thread} (live : session.Live place thread) (progress : Progress) :
    (session.applied place progress).number property + (property thread).toNat =
      session.number property + (progress.next.any property).toNat +
        (progress.started.any property).toNat := by
  obtain ⟨inside, found⟩ := List.getElem?_eq_some_iff.mp live
  have counted := number_pos property live
  have started : (progress.started.toList.map some).countP (fun slot => slot.any property) =
      (progress.started.any property).toNat := by
    cases progress.started with
    | none => rfl
    | some new => cases chosen : property new <;> simp [chosen]
  have replaced := List.countP_set (p := fun slot => slot.any property) (a := progress.next) inside
  simp only [found, Option.any_some] at replaced
  unfold number at counted ⊢
  rw [threads_applied, List.countP_append, started, replaced]
  cases before : property thread <;> cases after : progress.next.any property <;>
    simp only [before, if_true, Bool.false_eq_true, if_false, Bool.toNat_true,
      Bool.toNat_false] at counted ⊢ <;>
    omega

/-- If at most one thread has a property, and a thread has it, then no thread has a second property
that implies the first and that this thread lacks. -/
theorem number_eq_zero {session : Session} {first second : Thread → Bool} {place : Nat}
    {thread : Thread} (live : session.Live place thread)
    (single : session.number first ≤ 1) (has : first thread = true)
    (lacks : second thread = false) (implies : ∀ other, second other = true → first other = true) :
    session.number second = 0 := by
  have without := number_applied first live ⟨session.handle, none, none, none⟩
  have same := number_applied second live ⟨session.handle, none, none, none⟩
  simp only [has, lacks, Option.any_none, Bool.toNat_true, Bool.toNat_false] at without same
  have below : (session.applied place ⟨session.handle, none, none, none⟩).number second ≤
      (session.applied place ⟨session.handle, none, none, none⟩).number first := by
    apply List.countP_mono_left
    intro slot _ chosen
    cases slot with
    | none => simp at chosen
    | some other => simpa using implies other (by simpa using chosen)
  omega

end Session

end PtyShell
