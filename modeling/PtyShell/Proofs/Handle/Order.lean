import PtyShell.Proofs.Handle.Session

/-! # The order of a session

At most one thread is inside the sections that the lock protects. What a thread has learned there
stays true until it leaves, and what was published stays published. -/

namespace PtyShell

namespace Thread

def holdsLock : Thread → Bool
  | .checkingReaper | .startingReaper | .leavingReaper | .checkingResult .. | .recordingResult ..
  | .signalling .. | .leavingResult .. | .takingMaster | .clearingMaster _ | .leavingMaster _ =>
    true
  | _ => false

def isSignalling : Thread → Bool
  | .signalling .. => true
  | _ => false

/-- On whose account a thread publishes which report. -/
def publication? : Thread → Option (Errand × Option Report)
  | .claimingResult errand report | .checkingResult errand report
  | .recordingResult errand report | .signalling errand report
  | .leavingResult errand report _ | .loggingResult errand report => some (errand, report)
  | _ => none

theorem holdsLock_of_isSignalling (thread : Thread) (signals : thread.isSignalling = true) :
    thread.holdsLock = true := by
  cases thread with
  | signalling errand report => rfl
  | _ => cases signals

/-- What a thread has learned of the handle by the point where it stands. -/
def Relies (handle : Handle) : Thread → Prop
  | .startingReaper => handle.hasReaper = false
  | .recordingResult .. => handle.result = none
  | .signalling _ report => handle.result = some ⟨report⟩
  | .leavingResult _ report true | .loggingResult _ report =>
    handle.result = some ⟨report⟩ ∧ handle.done = true
  | .leavingResult _ _ false => handle.result.isSome = true ∧ handle.done = true
  | .readingResult _ | .pollingResult => handle.done = true
  | .clearingMaster fd => handle.master = fd
  | _ => True

end Thread

def Note.Attests (handle : Handle) : Note → Prop
  | .published _ report true => handle.result = some ⟨report⟩
  | .published _ _ false => handle.result.isSome = true
  | .waited _ result => handle.result = some result
  | .polled true result => handle.result = result ∧ result.isSome = true
  | .polled false result => result = none
  | _ => True

namespace Handle

/-- What is never taken back. -/
structure Keeps (before after : Handle) : Prop where
  result : ∀ result, before.result = some result → after.result = some result
  done : before.done = true → after.done = true
  hasReaper : before.hasReaper = true → after.hasReaper = true
  master : before.master = none → after.master = none

theorem Keeps.refl (handle : Handle) : handle.Keeps handle :=
  ⟨fun _ same => same, id, id, id⟩

theorem Keeps.trans {first second third : Handle} (one : first.Keeps second)
    (two : second.Keeps third) : first.Keeps third where
  result := fun result found => two.result result (one.result result found)
  done := fun set => two.done (one.done set)
  hasReaper := fun present => two.hasReaper (one.hasReaper present)
  master := fun given => two.master (one.master given)

theorem Keeps.isSome {before after : Handle} (keeps : before.Keeps after)
    (present : before.result.isSome = true) : after.result.isSome = true := by
  obtain ⟨result, found⟩ := Option.isSome_iff_exists.mp present
  rw [keeps.result result found]
  rfl

theorem Keeps.attests {before after : Handle} (keeps : before.Keeps after) {note : Note}
    (attests : note.Attests before) : note.Attests after := by
  cases note with
  | published errand report won =>
      cases won with
      | true => exact keeps.result _ attests
      | false => exact keeps.isSome attests
  | waited observer result => exact keeps.result result attests
  | polled done result =>
      cases done with
      | true =>
          obtain ⟨same, present⟩ := attests
          obtain ⟨found, rfl⟩ := Option.isSome_iff_exists.mp present
          exact ⟨keeps.result found same, rfl⟩
      | false => exact attests
  | closed => trivial
  | released => trivial
  | failed fault => trivial

structure SameGuarded (before after : Handle) : Prop where
  result : after.result = before.result
  hasReaper : after.hasReaper = before.hasReaper
  master : after.master = before.master

theorem Keeps.relies {before after : Handle} (keeps : before.Keeps after) {thread : Thread}
    (guarded : thread.holdsLock = true → before.SameGuarded after)
    (relies : thread.Relies before) : thread.Relies after := by
  cases thread with
  | startingReaper => exact (guarded rfl).hasReaper.trans relies
  | recordingResult errand report => exact (guarded rfl).result.trans relies
  | signalling errand report => exact keeps.result _ relies
  | leavingResult errand report won =>
      cases won with
      | true => exact ⟨keeps.result _ relies.1, keeps.done relies.2⟩
      | false => exact ⟨keeps.isSome relies.1, keeps.done relies.2⟩
  | loggingResult errand report => exact ⟨keeps.result _ relies.1, keeps.done relies.2⟩
  | readingResult observer => exact keeps.done relies
  | pollingResult => exact keeps.done relies
  | clearingMaster fd => exact (guarded rfl).master.trans relies
  | _ => trivial

section Steps

variable {handle : Handle} {thread : Thread} {progress : Progress}

theorem step_keeps (taken : handle.Step thread progress) (relies : thread.Relies handle) :
    handle.Keeps progress.handle := by
  cases taken with
  | recordResult =>
      refine ⟨?_, id, id, id⟩
      intro result found
      rw [show handle.result = none from relies] at found
      cases found
  | signal => exact ⟨fun _ same => same, fun _ => rfl, id, id⟩
  | startReaper => exact ⟨fun _ same => same, id, fun _ => rfl, id⟩
  | clearMaster => exact ⟨fun _ same => same, id, id, fun _ => rfl⟩
  | _ => exact ⟨fun _ same => same, id, id, id⟩

theorem step_sameGuarded (taken : handle.Step thread progress)
    (outside : thread.holdsLock = false) : handle.SameGuarded progress.handle := by
  cases taken with
  | recordResult => cases outside
  | startReaper => cases outside
  | clearMaster => cases outside
  | _ => exact ⟨rfl, rfl, rfl⟩

/-- A step hands the lock on, takes it when it is free, or gives it back. -/
theorem step_lock (taken : handle.Step thread progress)
    (held : thread.holdsLock = true → handle.locked = true) :
    progress.handle.locked.toNat + thread.holdsLock.toNat =
        handle.locked.toNat + (progress.next.any Thread.holdsLock).toNat ∧
      progress.started.any Thread.holdsLock = false := by
  cases taken with
  | lockReaper free => simp [Handle.lock, Thread.holdsLock, free]
  | lockResult free => simp [Handle.lock, Thread.holdsLock, free]
  | lockMaster free => simp [Handle.lock, Thread.holdsLock, free]
  | unlockReaper => simp [Handle.unlock, Thread.holdsLock, held rfl]
  | unlockWon => simp [Handle.unlock, Thread.holdsLock, held rfl]
  | @unlockLost errand report =>
      cases errand <;> simp [Handle.unlock, Thread.holdsLock, held rfl, afterErrand]
  | @logResult errand report result present =>
      cases errand <;> simp [Handle.log, Handle.record, Thread.holdsLock, afterErrand]
  | unlockNothing => simp [Handle.unlock, Thread.holdsLock, held rfl]
  | unlockMaster => simp [Handle.unlock, Thread.holdsLock, held rfl]
  | _ =>
    simp [Thread.holdsLock, Handle.withHost, Handle.record, Handle.log]

theorem step_signalled (taken : handle.Step thread progress) (relies : thread.Relies handle)
    (balance : handle.done.toNat + thread.isSignalling.toNat ≤ handle.result.isSome.toNat) :
    progress.handle.done.toNat + (progress.next.any Thread.isSignalling).toNat +
          handle.result.isSome.toNat =
        handle.done.toNat + thread.isSignalling.toNat + progress.handle.result.isSome.toNat ∧
      progress.started.any Thread.isSignalling = false := by
  cases taken with
  | recordResult =>
      have absent : handle.result = none := relies
      simp [Thread.isSignalling, absent]
  | signal =>
      have present : handle.result = some _ := relies
      simp [Thread.isSignalling, present] at balance ⊢
      omega
  | @unlockLost errand report =>
      cases errand <;> simp [Handle.unlock, Thread.isSignalling, afterErrand]
  | @logResult errand report result present =>
      cases errand <;> simp [Handle.log, Handle.record, Thread.isSignalling, afterErrand]
  | _ =>
    simp [Thread.isSignalling, Handle.withHost, Handle.record, Handle.log, Handle.lock,
      Handle.unlock]

/-- Where a thread goes on, it has learned what it relies on there. -/
theorem step_relies (taken : handle.Step thread progress) (relies : thread.Relies handle)
    (settled : thread.holdsLock = true → thread.isSignalling = false →
      handle.result.isSome = true → handle.done = true)
    {next : Thread} (goesOn : progress.next = some next ∨ progress.started = some next) :
    next.Relies progress.handle := by
  cases taken with
  | missReaper absent =>
      rcases goesOn with found | found <;> cases found
      exact absent
  | startReaper => rcases goesOn with found | found <;> cases found <;> trivial
  | findResult present =>
      rcases goesOn with found | found <;> cases found
      exact ⟨present, settled rfl rfl present⟩
  | missResult absent =>
      rcases goesOn with found | found <;> cases found
      exact absent
  | recordResult =>
      rcases goesOn with found | found <;> cases found
      rfl
  | signal =>
      rcases goesOn with found | found <;> cases found
      exact ⟨relies, rfl⟩
  | unlockWon =>
      rcases goesOn with found | found <;> cases found
      exact relies
  | @unlockLost errand report =>
      cases errand <;> rcases goesOn with found | found <;> cases found <;> trivial
  | @logResult errand report result present =>
      cases errand <;> rcases goesOn with found | found <;> cases found <;> trivial
  | awake done =>
      rcases goesOn with found | found <;> cases found
      exact done
  | pollDone done =>
      rcases goesOn with found | found <;> cases found
      exact done
  | takeMaster =>
      rcases goesOn with found | found <;> cases found
      rfl
  | _ => rcases goesOn with found | found <;> cases found <;> trivial

theorem step_attests (taken : handle.Step thread progress) (relies : thread.Relies handle)
    (recorded : handle.done = true → handle.result.isSome = true) {note : Note}
    (noted : progress.note = some note) : note.Attests progress.handle := by
  cases taken with
  | unlockLost =>
      cases noted
      exact relies.1
  | logResult present =>
      cases noted
      exact relies.1
  | observe present =>
      cases noted
      exact present
  | pollUndone undone =>
      cases noted
      rfl
  | poll =>
      cases noted
      exact ⟨rfl, recorded relies⟩
  | _ => cases noted <;> trivial

theorem step_publication (taken : handle.Step thread progress) (relies : thread.Relies handle)
    {errand : Errand} {report : Option Report}
    (publishes : thread.publication? = some (errand, report)) :
    progress.started = none ∧
      ((progress.note = none ∧
          ∃ next, progress.next = some next ∧ next.publication? = some (errand, report)) ∨
        (progress.next = afterErrand errand ∧ progress.handle.done = true ∧
          ∃ won, progress.note = some (.published errand report won))) := by
  cases taken with
  | lockResult free =>
      cases publishes
      exact ⟨rfl, Or.inl ⟨rfl, _, rfl, rfl⟩⟩
  | findResult present =>
      cases publishes
      exact ⟨rfl, Or.inl ⟨rfl, _, rfl, rfl⟩⟩
  | missResult absent =>
      cases publishes
      exact ⟨rfl, Or.inl ⟨rfl, _, rfl, rfl⟩⟩
  | recordResult =>
      cases publishes
      exact ⟨rfl, Or.inl ⟨rfl, _, rfl, rfl⟩⟩
  | signal =>
      cases publishes
      exact ⟨rfl, Or.inl ⟨rfl, _, rfl, rfl⟩⟩
  | unlockWon =>
      cases publishes
      exact ⟨rfl, Or.inl ⟨rfl, _, rfl, rfl⟩⟩
  | unlockLost =>
      cases publishes
      exact ⟨rfl, Or.inr ⟨rfl, relies.2, false, rfl⟩⟩
  | logResult present =>
      cases publishes
      exact ⟨rfl, Or.inr ⟨rfl, relies.2, true, rfl⟩⟩
  | noResult absent =>
      have present := relies.1
      rw [absent] at present
      cases present
  | _ => cases publishes

end Steps

end Handle

namespace Session

/-- What keeps the threads of a session in order. -/
structure Orderly (session : Session) : Prop where
  lock : session.number Thread.holdsLock = session.handle.locked.toNat
  signalled : session.handle.done.toNat + session.number Thread.isSignalling =
    session.handle.result.isSome.toNat
  relies : ∀ place thread, session.Live place thread → thread.Relies session.handle
  attests : ∀ place note, (place, note) ∈ session.notes → note.Attests session.handle
  placed : ∀ place note, (place, note) ∈ session.notes → place < session.threads.length

theorem ofHost_orderly (host : Host) : (ofHost host).Orderly where
  lock := rfl
  signalled := rfl
  relies := by
    intro place thread live
    simp [Live, ofHost] at live
  attests := by
    intro place note member
    simp [ofHost] at member
  placed := by
    intro place note member
    simp [ofHost] at member

namespace Orderly

variable {session : Session}

theorem recorded (orderly : session.Orderly) (done : session.handle.done = true) :
    session.handle.result.isSome = true := by
  have balance := orderly.signalled
  cases present : session.handle.result.isSome with
  | true => rfl
  | false => simp [done, present] at balance

theorem single (orderly : session.Orderly) : session.number Thread.holdsLock ≤ 1 := by
  rw [orderly.lock]
  exact Bool.toNat_le _

theorem settled (orderly : session.Orderly) {place : Nat} {thread : Thread}
    (live : session.Live place thread) (inside : thread.holdsLock = true)
    (silent : thread.isSignalling = false) (present : session.handle.result.isSome = true) :
    session.handle.done = true := by
  have none : session.number Thread.isSignalling = 0 :=
    number_eq_zero live orderly.single inside silent Thread.holdsLock_of_isSignalling
  have balance := orderly.signalled
  rw [none, present] at balance
  simpa using balance

theorem held (orderly : session.Orderly) {place : Nat} {thread : Thread}
    (live : session.Live place thread) (inside : thread.holdsLock = true) :
    session.handle.locked = true := by
  have counted := number_pos Thread.holdsLock live
  rw [orderly.lock, inside] at counted
  cases locked : session.handle.locked with
  | true => rfl
  | false => simp [locked] at counted

/-- Two threads are never inside the sections at once. -/
theorem exclusive (orderly : session.Orderly) {first second : Nat} {one other : Thread}
    (apart : first ≠ second) (firstLive : session.Live first one)
    (secondLive : session.Live second other) (inside : one.holdsLock = true) :
    other.holdsLock = false := by
  cases found : other.holdsLock with
  | false => rfl
  | true =>
      have without := number_applied Thread.holdsLock firstLive ⟨session.handle, none, none, none⟩
      have single := orderly.single
      have still : 0 < (session.applied first ⟨session.handle, none, none, none⟩).number
          Thread.holdsLock := by
        apply List.countP_pos_iff.mpr
        refine ⟨some other, ?_, by simpa using found⟩
        apply List.mem_of_getElem? (i := second)
        simpa [Live, applied, List.getElem?_set_ne apart] using secondLive
      simp only [inside, Option.any_none, Bool.toNat_true, Bool.toNat_false] at without
      omega

theorem call (orderly : session.Orderly) (call : Call) : (session.call call).Orderly where
  lock := by
    rw [number_call, orderly.lock]
    cases call <;> rfl
  signalled := by
    rw [number_call]
    cases call <;> exact orderly.signalled
  relies := by
    intro place thread live
    rcases live_call live with old | rfl
    · exact orderly.relies place thread old
    · cases call <;> trivial
  attests := orderly.attests
  placed := by
    intro place note member
    have before := orderly.placed place note member
    simp only [Session.call, List.length_append]
    omega

theorem step (orderly : session.Orderly) {place : Nat} {thread : Thread} {progress : Progress}
    (live : session.Live place thread) (taken : session.handle.Step thread progress) :
    (session.applied place progress).Orderly where
  lock := by
    have balance := number_applied Thread.holdsLock live progress
    have handed := Handle.step_lock taken (orderly.held live)
    simp only [handed.2, Bool.toNat_false, orderly.lock] at balance
    show _ = progress.handle.locked.toNat
    omega
  signalled := by
    have balance := number_applied Thread.isSignalling live progress
    have handed := Handle.step_signalled taken (orderly.relies place thread live) (by
      have counted := number_pos Thread.isSignalling live
      have before := orderly.signalled
      omega)
    have before := orderly.signalled
    simp only [handed.2, Bool.toNat_false] at balance
    show progress.handle.done.toNat + _ = progress.handle.result.isSome.toNat
    omega
  relies := by
    intro other next found
    rcases live_applied found with ⟨apart, old⟩ | ⟨rfl, goesOn⟩ | ⟨_, started⟩
    · apply (Handle.step_keeps taken (orderly.relies place thread live)).relies
      · intro inside
        exact Handle.step_sameGuarded taken (orderly.exclusive apart old live inside)
      · exact orderly.relies other next old
    · exact Handle.step_relies taken (orderly.relies _ thread live) (orderly.settled live)
        (Or.inl goesOn)
    · exact Handle.step_relies taken (orderly.relies _ thread live) (orderly.settled live)
        (Or.inr started)
  attests := by
    intro other note member
    rw [notes_applied] at member
    rcases List.mem_append.mp member with old | new
    · exact (Handle.step_keeps taken (orderly.relies place thread live)).attests
        (orderly.attests other note old)
    · obtain ⟨same, present, equal⟩ := List.mem_map.mp new
      cases equal
      exact Handle.step_attests taken (orderly.relies place thread live) orderly.recorded
        (Option.mem_toList.mp present)
  placed := by
    intro other note member
    rw [threads_applied, List.length_append, List.length_set]
    rw [notes_applied] at member
    rcases List.mem_append.mp member with old | new
    · exact Nat.lt_add_right _ (orderly.placed other note old)
    · obtain ⟨same, present, equal⟩ := List.mem_map.mp new
      cases equal
      exact Nat.lt_add_right _ (List.getElem?_eq_some_iff.mp live).1

theorem moved (orderly : session.Orderly) {move : Move} {after : Session}
    (moved : session.Moved move after) : after.Orderly := by
  cases moved with
  | call call => exact orderly.call call
  | exit code => exact { orderly with }
  | stay place => exact orderly
  | step live taken => exact orderly.step live taken

theorem keeps_moved (orderly : session.Orderly) {move : Move} {after : Session}
    (moved : session.Moved move after) : session.handle.Keeps after.handle := by
  cases moved with
  | call call => exact Handle.Keeps.refl _
  | exit code => exact ⟨fun _ same => same, id, id, id⟩
  | stay place => exact Handle.Keeps.refl _
  | step live taken => exact Handle.step_keeps taken (orderly.relies _ _ live)

theorem keeps_run (orderly : session.Orderly) (later : List Move) :
    session.handle.Keeps (session.run later).handle := by
  refine (run_keeps (fun other => other.Orderly ∧ session.handle.Keeps other.handle) later ?_
    session ⟨orderly, Handle.Keeps.refl _⟩).2
  intro other move _ after moved holds
  exact ⟨holds.1.moved moved, holds.2.trans (holds.1.keeps_moved moved)⟩

end Orderly

theorem run_orderly (host : Host) (moves : List Move) : ((ofHost host).run moves).Orderly :=
  run_keeps Orderly moves (fun _ _ _ _ moved orderly => orderly.moved moved) _
    (ofHost_orderly host)

end Session

end PtyShell
