import PtyShell.Proofs.Handle.Order

/-! # Single publication

However the threads of a session interleave, one report at most is accepted, and it is the result
that every observer gets from then on. -/

namespace PtyShell

def Thread.wonReport? : Thread → Option (Option Report)
  | .signalling _ report | .leavingResult _ report true | .loggingResult _ report => some report
  | _ => none

def Note.accepted? : Note → Option (Option Report)
  | .published _ report true => some report
  | _ => none

namespace Handle

variable {handle : Handle} {thread : Thread} {progress : Progress}

/-- A report goes on record by a thread that then has won, and ceases to be such a thread when it
makes known that its report was accepted. -/
theorem step_won (taken : handle.Step thread progress) (relies : thread.Relies handle) :
    (progress.note.bind Note.accepted?).isSome.toNat +
            (progress.next.any fun next => next.wonReport?.isSome).toNat +
          handle.result.isSome.toNat =
        thread.wonReport?.isSome.toNat + progress.handle.result.isSome.toNat ∧
      (progress.started.any fun new => new.wonReport?.isSome) = false := by
  cases taken with
  | recordResult =>
      have absent : handle.result = none := relies
      simp [Thread.wonReport?, absent]
  | noResult absent =>
      have present := relies.1
      rw [absent] at present
      cases present
  | @unlockLost errand report =>
      cases errand <;>
        simp [Handle.unlock, Thread.wonReport?, Note.accepted?, afterErrand]
  | @logResult errand report result present =>
      cases errand <;>
        simp [Handle.log, Handle.record, Thread.wonReport?, Note.accepted?, afterErrand, present]
  | _ =>
    simp [Thread.wonReport?, Note.accepted?, Handle.withHost, Handle.record, Handle.log,
      Handle.lock, Handle.unlock]

theorem wonReport_recorded (relies : thread.Relies handle) {report : Option Report}
    (won : thread.wonReport? = some report) : handle.result = some ⟨report⟩ := by
  cases thread with
  | signalling errand own =>
      cases won
      exact relies
  | leavingResult errand own accepted =>
      cases accepted <;> cases won
      exact relies.1
  | loggingResult errand own =>
      cases won
      exact relies.1
  | _ => cases won

end Handle

namespace Session

def accepted (session : Session) : List (Option Report) :=
  session.notes.filterMap fun entry => entry.2.accepted?

theorem accepted_applied (session : Session) (place : Nat) (progress : Progress) :
    (session.applied place progress).accepted =
      session.accepted ++ (progress.note.bind Note.accepted?).toList := by
  unfold accepted
  rw [notes_applied, List.filterMap_append]
  cases progress.note with
  | none => rfl
  | some note => cases accepted : note.accepted? <;> simp [accepted]

/-- Every result on record has one winner, which has made that known or is about to. -/
def Balanced (session : Session) : Prop :=
  session.accepted.length + session.number (fun thread => thread.wonReport?.isSome) =
    session.handle.result.isSome.toNat

theorem balanced_moved {session after : Session} {move : Move} (orderly : session.Orderly)
    (balanced : session.Balanced) (moved : session.Moved move after) : after.Balanced := by
  cases moved with
  | call call =>
      unfold Balanced
      rw [number_call]
      cases call <;> exact balanced
  | exit code => exact balanced
  | stay place => exact balanced
  | @step place thread progress live taken =>
      have counted := number_applied (fun thread => thread.wonReport?.isSome) live progress
      have handed := Handle.step_won taken (orderly.relies place thread live)
      have before : _ = _ := balanced
      simp only [handed.2, Bool.toNat_false] at counted
      show (session.applied place progress).accepted.length + _ =
        progress.handle.result.isSome.toNat
      rw [accepted_applied, List.length_append, Option.length_toList]
      have answered : (if (progress.note.bind Note.accepted?).isSome then 1 else 0) =
          (progress.note.bind Note.accepted?).isSome.toNat := by
        cases progress.note.bind Note.accepted? <;> rfl
      rw [answered]
      omega

theorem run_balanced (host : Host) (moves : List Move) :
    ((ofHost host).run moves).Orderly ∧ ((ofHost host).run moves).Balanced := by
  apply run_keeps (fun session => session.Orderly ∧ session.Balanced) moves
  · intro session move _ after moved holds
    exact ⟨holds.1.moved moved, balanced_moved holds.1 holds.2 moved⟩
  · exact ⟨ofHost_orderly host, rfl⟩

/-- A place where a caller publishes a report, or has published it. -/
structure Publishing (session : Session) (place : Nat) (report : Option Report) : Prop where
  inside : place < session.threads.length
  live : ∀ thread, session.Live place thread → thread.publication? = some (.publish, report)
  notes : ∀ note, (place, note) ∈ session.notes → ∃ won, note = .published .publish report won

theorem publishing_call {session : Session} (orderly : session.Orderly)
    (report : Option Report) :
    (session.call (.publish report)).Publishing session.threads.length report where
  inside := by simp [Session.call]
  live := by
    intro thread live
    simp only [Live, Session.call, List.getElem?_concat_length, Option.some.injEq] at live
    rw [← live]
    rfl
  notes := by
    intro note member
    have before := orderly.placed _ note member
    omega

theorem publishing_moved {session after : Session} {move : Move} (orderly : session.Orderly)
    {place : Nat} {report : Option Report} (publishing : session.Publishing place report)
    (moved : session.Moved move after) : after.Publishing place report where
  inside := Nat.lt_of_lt_of_le publishing.inside (length_moved moved)
  live := by
    intro thread live
    rcases live_moved moved publishing.inside live with
      old | ⟨before, progress, found, taken, goesOn, _⟩
    · exact publishing.live thread old
    · have publishes := publishing.live before found
      rcases (Handle.step_publication taken (orderly.relies place before found) publishes).2 with
        ⟨_, next, same, still⟩ | ⟨ended, _⟩
      · rw [goesOn] at same
        cases same
        exact still
      · rw [goesOn] at ended
        cases ended
  notes := by
    intro note member
    rcases notes_moved moved member with
      old | ⟨thread, progress, live, taken, noted, _⟩
    · exact publishing.notes note old
    · have publishes := publishing.live thread live
      rcases (Handle.step_publication taken (orderly.relies place thread live) publishes).2 with
        ⟨silent, _⟩ | ⟨_, _, won, said⟩
      · rw [noted] at silent
        cases silent
      · rw [noted] at said
        exact ⟨won, Option.some.inj said⟩

/-- What holds of the publication of a result in every session that can be reached. -/
structure PublishedOnce (session : Session) : Prop where
  /-- At most one publication is told that its report was accepted. -/
  one_accepted : session.accepted.length ≤ 1
  accepted_recorded : ∀ report ∈ session.accepted, session.handle.result = some ⟨report⟩
  /-- A result on record is the report of the one publication that was accepted, or that is about to
  be told so. -/
  recorded_won : ∀ result, session.handle.result = some result →
    session.accepted = [result.error] ∨
      ∃ place thread, session.Live place thread ∧ thread.wonReport? = some result.error
  unchanged : ∀ result, session.handle.result = some result →
    ∀ later, (session.run later).handle.result = some result
  done_recorded : session.handle.done = true → ∃ result, session.handle.result = some result
  /-- A thread that was woken finds a result. -/
  reading : ∀ place observer, session.Live place (.readingResult observer) →
    ∃ result, session.handle.result = some result ∧
      session.move (.advance place) =
        session.applied place ⟨session.handle, none, none, some (.waited observer result)⟩
  waited : ∀ place observer result, (place, .waited observer result) ∈ session.notes →
    session.handle.result = some result
  /-- A poll ends at once where the result is not signalled, and else reads the result. -/
  polling : ∀ place, session.Live place .polling →
    session.move (.advance place) =
      session.applied place
        (if session.handle.done then ⟨session.handle, some .pollingResult, none, none⟩
        else ⟨session.handle, none, none, some (.polled false none)⟩)
  pollingResult : ∀ place, session.Live place .pollingResult →
    ∃ result, session.handle.result = some result ∧
      session.move (.advance place) =
        session.applied place ⟨session.handle, none, none, some (.polled true (some result))⟩
  polled : ∀ place done found, (place, .polled done found) ∈ session.notes →
    if done then ∃ result, found = some result ∧ session.handle.result = some result
    else found = none

theorem Orderly.recorded_result {session : Session} (orderly : session.Orderly)
    (done : session.handle.done = true) : ∃ result, session.handle.result = some result :=
  Option.isSome_iff_exists.mp (orderly.recorded done)

theorem Orderly.accepted_recorded {session : Session} (orderly : session.Orderly)
    {report : Option Report} (member : report ∈ session.accepted) :
    session.handle.result = some ⟨report⟩ := by
  obtain ⟨⟨place, note⟩, noted, accepted⟩ := List.mem_filterMap.mp member
  have attests := orderly.attests place note noted
  cases note with
  | published errand own won =>
      cases won <;> cases accepted
      exact attests
  | _ => cases accepted

theorem Balanced.won {session : Session} (orderly : session.Orderly) (balanced : session.Balanced)
    {result : Termination} (found : session.handle.result = some result) :
    session.accepted = [result.error] ∨
      ∃ place thread, session.Live place thread ∧ thread.wonReport? = some result.error := by
  have balance : _ = _ := balanced
  rw [found, Option.isSome_some, Bool.toNat_true] at balance
  cases accepted : session.accepted with
  | nil =>
      rw [accepted, List.length_nil, Nat.zero_add] at balance
      obtain ⟨place, thread, live, has⟩ := exists_of_number_pos (Nat.lt_of_sub_eq_succ balance)
      obtain ⟨report, won⟩ := Option.isSome_iff_exists.mp has
      have recorded := Handle.wonReport_recorded (orderly.relies place thread live) won
      rw [found] at recorded
      cases recorded
      exact Or.inr ⟨place, thread, live, won⟩
  | cons report rest =>
      have recorded := orderly.accepted_recorded (accepted ▸ List.mem_cons_self)
      rw [found] at recorded
      cases recorded
      rw [accepted, List.length_cons] at balance
      have none : rest = [] := List.length_eq_zero_iff.mp (by omega)
      left
      rw [none]

theorem Orderly.publishedOnce {session : Session} (orderly : session.Orderly)
    (balanced : session.Balanced) : session.PublishedOnce where
  one_accepted := by
    have balance : _ = _ := balanced
    have bound := Bool.toNat_le session.handle.result.isSome
    omega
  accepted_recorded := fun report member => orderly.accepted_recorded member
  recorded_won := fun result found => balanced.won orderly found
  unchanged := fun result found later => (orderly.keeps_run later).result result found
  done_recorded := orderly.recorded_result
  reading := by
    intro place observer live
    obtain ⟨result, found⟩ := orderly.recorded_result (orderly.relies place _ live)
    refine ⟨result, found, move_live live ?_⟩
    simp only [Handle.step, Handle.stepReadingResult, found, Handle.finish]
  waited := fun place observer result member => orderly.attests place _ member
  polling := by
    intro place live
    apply move_live live
    cases done : session.handle.done with
    | true => simp only [Handle.step, done, if_true, Handle.goOn]
    | false => simp only [Handle.step, done, Bool.false_eq_true, if_false, Handle.finish]
  pollingResult := by
    intro place live
    obtain ⟨result, found⟩ := orderly.recorded_result (orderly.relies place _ live)
    refine ⟨result, found, move_live live ?_⟩
    simp only [Handle.step, found, Handle.finish]
  polled := by
    intro place done found member
    have attests := orderly.attests place _ member
    cases done with
    | true =>
        obtain ⟨same, present⟩ := attests
        obtain ⟨result, rfl⟩ := Option.isSome_iff_exists.mp present
        exact ⟨result, rfl, same⟩
    | false => exact attests

/-- In every run one report at most is accepted, and it is the result for good; a call that
publishes is answered about the report it was given. -/
theorem run_publishedOnce (host : Host) (moves : List Move) :
    ((ofHost host).run moves).PublishedOnce ∧
      ∀ before report after, moves = before ++ .call (.publish report) :: after →
        ∀ note, (((ofHost host).run before).threads.length, note) ∈
            ((ofHost host).run moves).notes →
          ∃ won, note = .published .publish report won := by
  have reached := run_balanced host moves
  refine ⟨reached.1.publishedOnce reached.2, ?_⟩
  rintro before report after rfl
  have start := run_orderly host before
  have publishing := run_keeps
    (fun session => session.Orderly ∧
      session.Publishing ((ofHost host).run before).threads.length report) after
    (fun _ _ _ _ moved holds => ⟨holds.1.moved moved, publishing_moved holds.1 holds.2 moved⟩)
    (((ofHost host).run before).call (.publish report))
    ⟨start.call _, publishing_call start report⟩
  rw [run_append]
  exact publishing.2.notes

end Session

end PtyShell
