import PtyShell.Proofs.Handle.Kills
import PtyShell.Proofs.Handle.Report

/-! # Ownership of the master end

The master end is held by the handle, by one thread, or it is closed. The reaper alone takes it from
the handle, once it has waited for the process and a result is published. -/

namespace PtyShell

/-- A host on which kill, wait and close fail with system faults only. -/
structure Host.FailsBySystem (host : Host) : Prop where
  kill : ∀ fault ∈ host.faults.kill, fault.isSystem = true
  wait : ∀ fault ∈ host.waitFaults, fault.isSystem = true
  close : ∀ fault ∈ host.faults.close, fault.isSystem = true

theorem Host.FailsBySystem.continues {before after : Host} (fails : before.FailsBySystem)
    (continues : before.Continues after) : after.FailsBySystem where
  kill := by
    rw [continues.faults]
    exact fails.kill
  wait := fun fault member => fails.wait fault (continues.waitFaults.subset member)
  close := by
    rw [continues.faults]
    exact fails.close

namespace Thread

def isReleasing : Thread → Bool
  | .claimingMaster | .takingMaster | .clearingMaster _ | .leavingMaster _
  | .closingMaster _ => true
  | _ => false

def hasTaken : Thread → Bool
  | .leavingMaster _ | .closingMaster _ => true
  | _ => false

/-- Whether the master end is in the hands of a thread. -/
def carriesMaster : Thread → Bool
  | .leavingMaster (some .master) | .closingMaster .master => true
  | _ => false

def isReaper : Thread → Bool
  | .enteringWait errand | .awaitingExit errand => errand == .reaper
  | .claimingResult errand _ | .checkingResult errand _ | .recordingResult errand _
  | .signalling errand _ | .leavingResult errand _ _ | .loggingResult errand _ =>
    errand == .reaper
  | thread => thread.isReleasing

theorem isReaper_of_carriesMaster (thread : Thread) (carries : thread.carriesMaster = true) :
    thread.isReaper = true := by
  cases thread with
  | leavingMaster fd => rfl
  | closingMaster fd => rfl
  | _ => cases carries

end Thread

def Handle.hasMaster (handle : Handle) : Bool :=
  handle.master == some .master

namespace Handle

variable {handle : Handle} {thread : Thread} {progress : Progress}

/-- The master end is neither lost nor doubled by a step: it passes from the handle to the thread
that holds the lock, and then is closed. -/
theorem step_master (taken : handle.Step thread progress) (relies : thread.Relies handle) :
    progress.handle.host.closes .master + progress.handle.hasMaster.toNat +
          (progress.next.any Thread.carriesMaster).toNat =
        handle.host.closes .master + handle.hasMaster.toNat + thread.carriesMaster.toNat ∧
      progress.started.any Thread.carriesMaster = false := by
  cases taken with
  | kill possible | wait able | waitRefused refused system | waitFailed refused foreign =>
      simp [Handle.withHost, hasMaster, Thread.carriesMaster]
  | @unlockLost errand report =>
      cases errand <;> simp [Handle.unlock, hasMaster, Thread.carriesMaster, afterErrand]
  | @logResult errand report result present =>
      cases errand <;>
        simp [Handle.log, Handle.record, Event.isClose, hasMaster, Thread.carriesMaster,
          afterErrand]
  | @clearMaster fd =>
      have held : handle.master = fd := relies
      cases fd with
      | none => simp [hasMaster, held, Thread.carriesMaster]
      | some fd => cases fd <;> simp [hasMaster, held, Thread.carriesMaster]
  | @unlockMaster fd =>
      cases fd <;> simp [Handle.unlock, hasMaster, Thread.carriesMaster]
  | @close fd quiet =>
      cases fd with
      | master =>
          simp [Handle.withHost, hasMaster, Thread.carriesMaster]
          omega
      | slave => simp [Handle.withHost, hasMaster, Thread.carriesMaster]
  | @closeFailed fd fault refused foreign =>
      cases fd with
      | master =>
          simp [Handle.withHost, hasMaster, Thread.carriesMaster]
          omega
      | slave => simp [Handle.withHost, hasMaster, Thread.carriesMaster]
  | _ =>
    simp [Handle.record, Handle.log, Handle.lock, Handle.unlock, Event.isClose, hasMaster,
      Thread.carriesMaster]

theorem step_starts (taken : handle.Step thread progress) (relies : thread.Relies handle) :
    (progress.started = none ∧ progress.handle.hasReaper = handle.hasReaper) ∨
      (progress.started = some (.enteringWait .reaper) ∧ handle.hasReaper = false ∧
        progress.handle.hasReaper = true) := by
  cases taken with
  | startReaper => exact Or.inr ⟨rfl, relies, rfl⟩
  | _ => exact Or.inl ⟨rfl, rfl⟩

theorem step_caller (taken : handle.Step thread progress) (caller : thread.isReaper = false)
    {next : Thread} (goesOn : progress.next = some next) : next.isReaper = false := by
  cases taken with
  | @unlockLost errand report =>
      cases errand <;> cases goesOn
      · rfl
      · cases caller
  | @logResult errand report result present =>
      cases errand <;> cases goesOn
      · rfl
      · cases caller
  | _ => cases goesOn <;> first | rfl | exact caller

theorem step_stays (taken : handle.Step thread progress) (reaper : thread.isReaper = true)
    {next : Thread} (goesOn : progress.next = some next) : next.isReaper = true := by
  cases taken with
  | wait able | waitRefused refused system | exited ended | lockResult free | findResult present
  | missResult absent | recordResult | signal | unlockWon =>
      cases goesOn
      exact reaper
  | @unlockLost errand report =>
      cases errand <;> cases reaper
      cases goesOn
      rfl
  | @logResult errand report result present =>
      cases errand <;> cases reaper
      cases goesOn
      rfl
  | lockMaster free | takeMaster | clearMaster | unlockMaster =>
      cases goesOn
      rfl
  | waitFailed refused foreign | noResult absent | unlockNothing | close quiet
  | closeFailed refused foreign => cases goesOn
  | _ => cases reaper

theorem step_releasing (taken : handle.Step thread progress) (reaper : thread.isReaper = true)
    (fails : handle.host.FailsBySystem) (relies : thread.Relies handle)
    (releases : progress.next.all Thread.isReleasing = true) :
    thread.isReleasing = true ∨ (progress.handle.done = true ∧
      ∃ report won, progress.note = some (.published .reaper report won)) := by
  cases taken with
  | waitFailed refused foreign =>
      have system := fails.wait _ (List.mem_of_mem_head? refused)
      rw [system] at foreign
      cases foreign
  | noResult absent =>
      have present := relies.1
      rw [absent] at present
      cases present
  | @unlockLost errand report =>
      cases errand <;> cases reaper
      exact Or.inr ⟨relies.2, report, false, rfl⟩
  | @logResult errand report result present =>
      cases errand <;> cases reaper
      exact Or.inr ⟨relies.2, report, true, rfl⟩
  | lockMaster free | takeMaster | clearMaster | unlockNothing | unlockMaster | close quiet
  | closeFailed refused foreign => exact Or.inl rfl
  | wait able | waitRefused refused system | exited ended | lockResult free | findResult present
  | missResult absent | recordResult | signal | unlockWon => cases releases
  | _ => cases reaper

theorem step_taken (taken : handle.Step thread progress) (reaper : thread.isReaper = true)
    (fails : handle.host.FailsBySystem) (relies : thread.Relies handle)
    (takes : progress.next.all Thread.hasTaken = true) :
    thread.hasTaken = true ∨ progress.handle.master = none := by
  cases taken with
  | waitFailed refused foreign =>
      have system := fails.wait _ (List.mem_of_mem_head? refused)
      rw [system] at foreign
      cases foreign
  | noResult absent =>
      have present := relies.1
      rw [absent] at present
      cases present
  | @unlockLost errand report =>
      cases errand <;> cases reaper
      cases takes
  | @logResult errand report result present =>
      cases errand <;> cases reaper
      cases takes
  | clearMaster => exact Or.inr rfl
  | unlockNothing | unlockMaster | close quiet | closeFailed refused foreign => exact Or.inl rfl
  | wait able | waitRefused refused system | exited ended | lockResult free | findResult present
  | missResult absent | recordResult | signal | unlockWon | lockMaster free | takeMaster =>
      cases takes
  | _ => cases reaper

theorem step_cell (taken : handle.Step thread progress) :
    progress.handle.master = handle.master ∨ progress.handle.master = none := by
  cases taken with
  | clearMaster => exact Or.inr rfl
  | _ => exact Or.inl rfl

theorem step_closes (taken : handle.Step thread progress)
    (closes : progress.handle.host.closes .master ≠ handle.host.closes .master) :
    thread = .closingMaster .master := by
  cases taken with
  | kill possible => exact absurd (Host.closes_killed .master handle.host) closes
  | @close fd quiet =>
      cases fd with
      | master => rfl
      | slave => exact absurd (Host.closes_closed .master .slave handle.host) closes
  | @closeFailed fd fault refused foreign =>
      cases fd with
      | master => rfl
      | slave => exact absurd (Host.closes_closed .master .slave handle.host) closes
  | killRefused refused system | killFailed refused foreign | logKill level message =>
      exact absurd (Host.closes_record .master _ handle.host) closes
  | wait able | waitRefused refused system | waitFailed refused foreign =>
      exact absurd (Host.closes_enterWait .master handle.host) closes
  | logResult present => exact absurd (Host.closes_record .master _ handle.host) closes
  | _ => exact absurd rfl closes

end Handle

namespace Session

def Reaped (session : Session) (place : Nat) : Prop :=
  session.handle.done = true ∧
    ∃ report won, (place, .published .reaper report won) ∈ session.notes

/-- What a reaper has done by the point where it stands, or by its end. -/
structure ReaperAt (session : Session) (place : Nat) (slot : Option Thread) : Prop where
  stays : ∀ thread, slot = some thread → thread.isReaper = true
  reaped : slot.all Thread.isReleasing = true → session.Reaped place
  taken : slot.all Thread.hasTaken = true → session.handle.master = none

/-- What keeps the master end in order in a session that began on a host. -/
structure Owned (start : Host) (session : Session) : Prop where
  started : session.reapers.length = session.handle.hasReaper.toNat
  reaper : ∀ place ∈ session.reapers,
    ∃ slot, session.threads[place]? = some slot ∧ session.ReaperAt place slot
  callers : ∀ place thread, session.Live place thread → thread.isReaper = true →
    place ∈ session.reapers
  /-- The master end is in the handle, in the hands of one thread, or closed. -/
  balance : session.handle.host.closes .master + session.handle.hasMaster.toNat +
    session.number Thread.carriesMaster = start.closes .master + 1
  cell : session.handle.master = some .master ∨ session.handle.master = none

theorem ofHost_owned (host : Host) : (ofHost host).Owned host where
  started := rfl
  reaper := by
    intro place member
    cases member
  callers := by
    intro place thread live
    simp [Live, ofHost] at live
  balance := rfl
  cell := Or.inl rfl

theorem ReaperAt.first {session : Session} {place : Nat} :
    session.ReaperAt place (some (.enteringWait .reaper)) where
  stays := by
    intro thread equal
    cases equal
    rfl
  reaped := by
    intro releases
    cases releases
  taken := by
    intro takes
    cases takes

theorem ReaperAt.keeps {before after : Session} {place : Nat} {slot : Option Thread}
    (here : before.ReaperAt place slot) (keeps : before.handle.Keeps after.handle)
    (notes : before.notes ⊆ after.notes) : after.ReaperAt place slot where
  stays := here.stays
  reaped := by
    intro releases
    obtain ⟨done, report, won, member⟩ := here.reaped releases
    exact ⟨keeps.done done, report, won, notes member⟩
  taken := fun takes => keeps.master (here.taken takes)

theorem ReaperAt.step {session : Session} {place : Nat} {thread : Thread} {progress : Progress}
    (here : session.ReaperAt place (some thread))
    (taken : session.handle.Step thread progress) (relies : thread.Relies session.handle)
    (fails : session.handle.host.FailsBySystem) :
    (session.applied place progress).ReaperAt place progress.next where
  stays := fun next goesOn => Handle.step_stays taken (here.stays thread rfl) goesOn
  reaped := by
    intro releases
    rcases Handle.step_releasing taken (here.stays thread rfl) fails relies releases with
      before | ⟨done, report, won, noted⟩
    · obtain ⟨done, report, won, member⟩ := here.reaped before
      refine ⟨(Handle.step_keeps taken relies).done done, report, won, ?_⟩
      rw [notes_applied]
      exact List.mem_append_left _ member
    · refine ⟨done, report, won, ?_⟩
      rw [notes_applied, noted]
      exact List.mem_append_right _ (List.mem_singleton.mpr rfl)
  taken := by
    intro takes
    rcases Handle.step_taken taken (here.stays thread rfl) fails relies takes with before | given
    · exact (Handle.step_keeps taken relies).master (here.taken before)
    · exact given

namespace Owned

variable {start : Host} {session : Session}

theorem call (owned : session.Owned start) {call : Call} (unreleased : call ≠ .release) :
    (session.call call).Owned start where
  started := owned.started
  reaper := by
    intro place member
    obtain ⟨slot, found, here⟩ := owned.reaper place member
    refine ⟨slot, ?_, here.stays, here.reaped, here.taken⟩
    rw [slot_call (List.getElem?_eq_some_iff.mp found).1]
    exact found
  callers := by
    intro place thread live reaper
    rcases live_call live with old | rfl
    · exact owned.callers place thread old reaper
    · cases call with
      | release => exact absurd rfl unreleased
      | _ => cases reaper
  balance := by
    rw [number_call]
    have before := owned.balance
    cases call <;> exact before
  cell := owned.cell

theorem reaper_step (owned : session.Owned start) (orderly : session.Orderly)
    (fails : session.handle.host.FailsBySystem) {place : Nat} {thread : Thread}
    {progress : Progress} (live : session.Live place thread)
    (taken : session.handle.Step thread progress) {other : Nat}
    (member : other ∈ session.reapers) :
    ∃ slot, (session.applied place progress).threads[other]? = some slot ∧
      (session.applied place progress).ReaperAt other slot := by
  have relies := orderly.relies place thread live
  obtain ⟨slot, found, here⟩ := owned.reaper other member
  rw [slot_applied (List.getElem?_eq_some_iff.mp found).1]
  by_cases same : other = place
  · subst same
    rw [if_pos rfl]
    cases Option.some.inj (found.symm.trans live)
    exact ⟨progress.next, rfl, here.step taken relies fails⟩
  · rw [if_neg same]
    refine ⟨slot, found, here.keeps (Handle.step_keeps taken relies) ?_⟩
    rw [notes_applied]
    exact List.subset_append_left _ _

theorem step (owned : session.Owned start) (orderly : session.Orderly)
    (fails : session.handle.host.FailsBySystem) {place : Nat} {thread : Thread}
    {progress : Progress} (live : session.Live place thread)
    (taken : session.handle.Step thread progress) :
    (session.applied place progress).Owned start where
  started := by
    rw [reapers_applied]
    have before := owned.started
    rcases Handle.step_starts taken (orderly.relies place thread live) with
      ⟨nothing, same⟩ | ⟨started, absent, present⟩
    · rw [nothing, Option.toList_none, List.map_nil, List.append_nil, before]
      exact congrArg Bool.toNat same.symm
    · rw [started, Option.toList_some, List.map_singleton, List.length_append, before, absent]
      exact (congrArg Bool.toNat present).symm
  reaper := by
    intro other member
    rw [reapers_applied] at member
    rcases List.mem_append.mp member with old | new
    · exact owned.reaper_step orderly fails live taken old
    · rcases Handle.step_starts taken (orderly.relies place thread live) with
        ⟨nothing, _⟩ | ⟨started, _, _⟩
      · simp [nothing] at new
      · simp only [started, Option.toList_some, List.map_singleton, List.mem_singleton] at new
        subst new
        exact ⟨_, slot_started started place, ReaperAt.first⟩
  callers := by
    intro other next found reaper
    rw [reapers_applied]
    rcases live_applied found with ⟨_, old⟩ | ⟨rfl, goesOn⟩ | ⟨rfl, started⟩
    · exact List.mem_append_left _ (owned.callers other next old reaper)
    · apply List.mem_append_left
      apply owned.callers other thread live
      cases before : thread.isReaper with
      | true => rfl
      | false =>
          have caller := Handle.step_caller taken before goesOn
          rw [reaper] at caller
          cases caller
    · rw [started]
      exact List.mem_append_right _ (List.mem_singleton.mpr rfl)
  balance := by
    have counted := number_applied Thread.carriesMaster live progress
    have handed := Handle.step_master taken (orderly.relies place thread live)
    have before := owned.balance
    simp only [handed.2, Bool.toNat_false] at counted
    show progress.handle.host.closes .master + progress.handle.hasMaster.toNat + _ = _
    omega
  cell := by
    rcases Handle.step_cell taken with same | given
    · rw [show (session.applied place progress).handle.master = _ from same]
      exact owned.cell
    · exact Or.inr given

theorem moved (owned : session.Owned start) (orderly : session.Orderly)
    (fails : session.handle.host.FailsBySystem) {move : Move} {after : Session}
    (moved : session.Moved move after) (unreleased : move ≠ .call .release) :
    after.Owned start := by
  cases moved with
  | call call => exact owned.call fun same => unreleased (congrArg Move.call same)
  | exit code =>
      refine { owned with reaper := ?_ }
      intro place member
      obtain ⟨slot, found, here⟩ := owned.reaper place member
      exact ⟨slot, found, here.stays, here.reaped, here.taken⟩
  | stay place => exact owned
  | step live taken => exact owned.step orderly fails live taken

theorem closes_moved (owned : session.Owned start) {move : Move} {after : Session}
    (moved : session.Moved move after)
    (closes : after.handle.host.closes .master ≠ session.handle.host.closes .master) :
    ∃ place, move = .advance place ∧ place ∈ session.reapers ∧ session.Reaped place := by
  cases moved with
  | call call => exact absurd rfl closes
  | exit code => exact absurd rfl closes
  | stay place => exact absurd rfl closes
  | @step place thread progress live taken =>
      have closing := Handle.step_closes taken closes
      subst closing
      have member := owned.callers place _ live rfl
      obtain ⟨slot, found, here⟩ := owned.reaper place member
      cases Option.some.inj (found.symm.trans live)
      exact ⟨place, rfl, member, here.reaped rfl⟩

/-- A thread that carries the master end is the reaper, so none does once the reaper has ended. -/
theorem carries_ended (owned : session.Owned start) {place : Nat} (member : place ∈ session.reapers)
    (ended : session.threads[place]? = some none) : session.number Thread.carriesMaster = 0 := by
  rcases Nat.eq_zero_or_pos (session.number Thread.carriesMaster) with zero | positive
  · exact zero
  · obtain ⟨other, thread, live, carries⟩ := exists_of_number_pos positive
    have otherMember :=
      owned.callers other thread live (Thread.isReaper_of_carriesMaster thread carries)
    have single : session.reapers.length ≤ 1 := by
      rw [owned.started]
      exact Bool.toNat_le _
    obtain ⟨only, found⟩ := List.length_eq_one_iff.mp
      (Nat.le_antisymm single (List.length_pos_of_mem member))
    rw [found, List.mem_singleton] at member otherMember
    subst member otherMember
    cases ended.symm.trans live

end Owned

theorem run_owned {host : Host} (fails : host.FailsBySystem) {moves : List Move}
    (unreleased : .call .release ∉ moves) : ((ofHost host).run moves).Owned host := by
  refine (run_keeps (fun session => session.Orderly ∧
    session.handle.host.FailsBySystem ∧ session.Owned host) moves ?_ (ofHost host)
    ⟨ofHost_orderly host, fails, ofHost_owned host⟩).2.2
  rintro session move member after moved ⟨orderly, fails, owned⟩
  refine ⟨orderly.moved moved, fails.continues (moved_continues moved), ?_⟩
  apply owned.moved orderly fails moved
  intro same
  rw [same] at member
  exact unreleased member

/-- How the master end is treated in a run of moves. -/
structure MasterOwned (host : Host) (moves : List Move) (final : Session) : Prop where
  one_reaper : final.reapers.length ≤ 1
  /-- A call that closes tries to kill the process once, as soon as it goes on. -/
  one_kill : ∀ before after, moves = before ++ .call .close :: after →
    killsBy ((ofHost host).run before).threads.length
          (((ofHost host).run before).call .close) after +
        (final.killsNext ((ofHost host).run before).threads.length).toNat = 1
  /-- Nothing else tries to. -/
  kills : final.handle.host.kills + final.number (· == .killing) =
    host.kills + moves.count (.call .close)
  closed_once : final.handle.host.closes .master ≤ host.closes .master + 1
  closed_by_reaper : ∀ move,
    (final.move move).handle.host.closes .master ≠ final.handle.host.closes .master →
      final.handle.result.isSome = true ∧ final.handle.done = true ∧
        ∃ place ∈ final.reapers, move = .advance place ∧
          ∃ report, WaitGave host moves place .reaper report ∧
            ∃ won, (place, .published .reaper report won) ∈ final.notes
  cell : final.handle.master = some .master ∨ final.handle.master = none
  given_up : final.handle.master = none → ∀ later, (final.run later).handle.master = none
  finished : ∀ place ∈ final.reapers, final.threads[place]? = some none →
    final.handle.result.isSome = true ∧ final.handle.master = none ∧
      final.handle.host.closes .master = host.closes .master + 1

/-- Where kill, wait and close fail with system faults only, the master end is closed by the one
reaper alone, after the reaper's own wait and after a publication, and it is closed by its end. -/
theorem run_masterOwned {host : Host} (fails : host.FailsBySystem) {moves : List Move}
    (unreleased : .call .release ∉ moves) :
    MasterOwned host moves ((ofHost host).run moves) where
  one_reaper := by
    rw [(run_owned fails unreleased).started]
    exact Bool.toNat_le _
  one_kill := by
    rintro before after rfl
    rw [run_append, run_cons]
    have kills := killsBy_run ((ofHost host).run before).threads.length after
      (((ofHost host).run before).call .close) (by simp [Session.call])
    have begins : (((ofHost host).run before).call .close).killsNext
        ((ofHost host).run before).threads.length = true := by
      simp [killsNext, Session.call, Call.thread]
    rw [begins] at kills
    exact kills
  kills := kills_run moves (ofHost host)
  closed_once := by
    have balance := (run_owned fails unreleased).balance
    omega
  closed_by_reaper := by
    intro move closes
    obtain ⟨place, same, member, done, report, won, noted⟩ :=
      (run_owned fails unreleased).closes_moved (Session.moved _ move) closes
    have gave := (run_reported host moves).notes place .reaper report won noted (by decide)
    exact ⟨(run_orderly host moves).recorded done, done, place, member, same, report, gave, won,
      noted⟩
  cell := (run_owned fails unreleased).cell
  given_up := fun given later => ((run_orderly host moves).keeps_run later).master given
  finished := by
    intro place member ended
    have owned := run_owned fails unreleased
    obtain ⟨slot, found, here⟩ := owned.reaper place member
    cases Option.some.inj (found.symm.trans ended)
    have given := here.taken rfl
    have balance := owned.balance
    have released : ((ofHost host).run moves).handle.hasMaster = false := by
      simp [Handle.hasMaster, given]
    rw [owned.carries_ended member ended, released] at balance
    exact ⟨(run_orderly host moves).recorded (here.reaped rfl).1, given, balance⟩

def closingMoves : List Move :=
  .call .close :: List.replicate 6 (.advance 0) ++ List.replicate 12 (.advance 1)

theorem closingMoves_masterOwned :
    MasterOwned Host.refusing closingMoves ((ofHost Host.refusing).run closingMoves) ∧
      ((ofHost Host.refusing).run closingMoves).reapers = [1] ∧
        ((ofHost Host.refusing).run closingMoves).threads = [none, none] ∧
          ((ofHost Host.refusing).run closingMoves).handle.host.closes .master = 1 := by
  refine ⟨run_masterOwned ⟨?_, ?_, ?_⟩ (by decide), rfl, rfl, rfl⟩
  · decide
  · decide
  · decide

end Session

end PtyShell
