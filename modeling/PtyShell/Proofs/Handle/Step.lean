import PtyShell.Handle.Basic
import PtyShell.Proofs.Host

namespace PtyShell

namespace Handle

def withHost (handle : Handle) (host : Host) : Handle :=
  { handle with host := host }

def afterErrand : Errand → Option Thread
  | .publish => none
  | .reap => some (.awaitingDone .reap)
  | .reaper => some .claimingMaster

/-- The rules for the steps of a thread: where it stands, and its progress. -/
inductive Step (handle : Handle) : Thread → Progress → Prop
  | kill (possible : handle.host.faults.kill = none) :
      Step handle .killing
        ⟨handle.withHost handle.host.killed, some (.killed none), none, none⟩
  | killRefused {fault : Fault} (refused : handle.host.faults.kill = some fault)
      (system : fault.isSystem = true) :
      Step handle .killing ⟨handle.record .kill, some (.killed (some fault)), none, none⟩
  | killFailed {fault : Fault} (refused : handle.host.faults.kill = some fault)
      (foreign : fault.isSystem = false) :
      Step handle .killing ⟨handle.record .kill, none, none, some (.failed fault)⟩
  | logKill {failure : Option Fault} (level : Level) (message : String) :
      Step handle (.killed failure)
        ⟨handle.log level message, some .seekingReaper, none, none⟩
  | lockReaper (free : handle.locked = false) :
      Step handle .seekingReaper ⟨handle.lock, some .checkingReaper, none, none⟩
  | findReaper (present : handle.hasReaper = true) :
      Step handle .checkingReaper ⟨handle, some .leavingReaper, none, none⟩
  | missReaper (absent : handle.hasReaper = false) :
      Step handle .checkingReaper ⟨handle, some .startingReaper, none, none⟩
  | startReaper :
      Step handle .startingReaper
        ⟨{ handle with hasReaper := true }, some .leavingReaper, some (.enteringWait .reaper),
          none⟩
  | unlockReaper : Step handle .leavingReaper ⟨handle.unlock, none, none, some .closed⟩
  | wait {errand : Errand} (able : handle.host.waitFaults.head? = none) :
      Step handle (.enteringWait errand)
        ⟨handle.withHost handle.host.enterWait.2, some (.awaitingExit errand), none, none⟩
  | waitRefused {errand : Errand} {fault : Fault}
      (refused : handle.host.waitFaults.head? = some fault) (system : fault.isSystem = true) :
      Step handle (.enteringWait errand)
        ⟨handle.withHost handle.host.enterWait.2,
          some (.claimingResult errand (some (.fault fault))), none, none⟩
  | waitFailed {errand : Errand} {fault : Fault}
      (refused : handle.host.waitFaults.head? = some fault) (foreign : fault.isSystem = false) :
      Step handle (.enteringWait errand)
        ⟨handle.withHost handle.host.enterWait.2, none, none, some (.failed fault)⟩
  | exited {errand : Errand} {code : Int} (ended : handle.host.returncode = some code) :
      Step handle (.awaitingExit errand)
        ⟨handle, some (.claimingResult errand ((exitFault? code).map .fault)), none, none⟩
  | lockResult {errand : Errand} {report : Option Report} (free : handle.locked = false) :
      Step handle (.claimingResult errand report)
        ⟨handle.lock, some (.checkingResult errand report), none, none⟩
  | findResult {errand : Errand} {report : Option Report}
      (present : handle.result.isSome = true) :
      Step handle (.checkingResult errand report)
        ⟨handle, some (.leavingResult errand report false), none, none⟩
  | missResult {errand : Errand} {report : Option Report} (absent : handle.result = none) :
      Step handle (.checkingResult errand report)
        ⟨handle, some (.recordingResult errand report), none, none⟩
  | recordResult {errand : Errand} {report : Option Report} :
      Step handle (.recordingResult errand report)
        ⟨{ handle with result := some ⟨report⟩ }, some (.signalling errand report), none, none⟩
  | signal {errand : Errand} {report : Option Report} :
      Step handle (.signalling errand report)
        ⟨{ handle with done := true }, some (.leavingResult errand report true), none, none⟩
  | unlockWon {errand : Errand} {report : Option Report} :
      Step handle (.leavingResult errand report true)
        ⟨handle.unlock, some (.loggingResult errand report), none, none⟩
  | unlockLost {errand : Errand} {report : Option Report} :
      Step handle (.leavingResult errand report false)
        ⟨handle.unlock, afterErrand errand, none, some (.published errand report false)⟩
  | logResult {errand : Errand} {report : Option Report} {result : Termination}
      (present : handle.result = some result) :
      Step handle (.loggingResult errand report)
        ⟨handle.log .debug (doneMessage handle.host.pid result), afterErrand errand, none,
          some (.published errand report true)⟩
  | noResult {errand : Errand} {report : Option Report} (absent : handle.result = none) :
      Step handle (.loggingResult errand report)
        ⟨handle, none, none, some (.failed .missingResult)⟩
  | awake {observer : Observer} (done : handle.done = true) :
      Step handle (.awaitingDone observer) ⟨handle, some (.readingResult observer), none, none⟩
  | observe {observer : Observer} {result : Termination}
      (present : handle.result = some result) :
      Step handle (.readingResult observer)
        ⟨handle, none, none, some (.waited observer result)⟩
  | observeNothing {observer : Observer} (absent : handle.result = none) :
      Step handle (.readingResult observer)
        ⟨handle, none, none, some (.failed .missingResult)⟩
  | pollDone (done : handle.done = true) :
      Step handle .polling ⟨handle, some .pollingResult, none, none⟩
  | pollUndone (undone : handle.done = false) :
      Step handle .polling ⟨handle, none, none, some (.polled false none)⟩
  | poll : Step handle .pollingResult ⟨handle, none, none, some (.polled true handle.result)⟩
  | lockMaster (free : handle.locked = false) :
      Step handle .claimingMaster ⟨handle.lock, some .takingMaster, none, none⟩
  | takeMaster :
      Step handle .takingMaster ⟨handle, some (.clearingMaster handle.master), none, none⟩
  | clearMaster {fd : Option Fd} :
      Step handle (.clearingMaster fd)
        ⟨{ handle with master := none }, some (.leavingMaster fd), none, none⟩
  | unlockNothing : Step handle (.leavingMaster none) ⟨handle.unlock, none, none, some .released⟩
  | unlockMaster {fd : Fd} :
      Step handle (.leavingMaster (some fd))
        ⟨handle.unlock, some (.closingMaster fd), none, none⟩
  | close {fd : Fd} (quiet : ∀ fault ∈ handle.host.closeFault? fd, fault.isSystem = true) :
      Step handle (.closingMaster fd)
        ⟨handle.withHost (handle.host.closed fd), none, none, some .released⟩
  | closeFailed {fd : Fd} {fault : Fault} (refused : handle.host.closeFault? fd = some fault)
      (foreign : fault.isSystem = false) :
      Step handle (.closingMaster fd)
        ⟨handle.withHost (handle.host.closed fd), none, none, some (.failed fault)⟩

private theorem goOn_eq {handle : Handle} {next : Thread} {progress : Progress}
    (taken : handle.goOn next = some progress) : progress = ⟨handle, some next, none, none⟩ :=
  (Option.some.inj taken).symm

private theorem finish_eq {handle : Handle} {note : Note} {progress : Progress}
    (taken : handle.finish note = some progress) : progress = ⟨handle, none, none, some note⟩ :=
  (Option.some.inj taken).symm

private theorem acquire_eq {handle : Handle} {next : Thread} {progress : Progress}
    (taken : handle.acquire next = some progress) :
    handle.locked = false ∧ progress = ⟨handle.lock, some next, none, none⟩ := by
  unfold acquire at taken
  cases held : handle.locked with
  | true => simp [held] at taken
  | false =>
      simp only [held, Bool.false_eq_true, if_false] at taken
      exact ⟨rfl, goOn_eq taken⟩

private theorem stepKilling_cases {handle : Handle} {progress : Progress}
    (taken : handle.stepKilling = some progress) : handle.Step .killing progress := by
  unfold stepKilling at taken
  rw [Sys.kill_run] at taken
  cases possible : handle.host.faults.kill with
  | none =>
      simp only [possible] at taken
      rw [goOn_eq taken]
      exact .kill possible
  | some fault =>
      simp only [possible] at taken
      cases kind : fault.isSystem with
      | true =>
          simp only [kind, if_true] at taken
          rw [goOn_eq taken]
          exact .killRefused possible kind
      | false =>
          simp only [kind, Bool.false_eq_true, if_false] at taken
          rw [finish_eq taken]
          exact .killFailed possible kind

private theorem stepKilled_cases {handle : Handle} {failure : Option Fault} {progress : Progress}
    (taken : handle.stepKilled failure = some progress) :
    handle.Step (.killed failure) progress := by
  cases failure with
  | none =>
      rw [goOn_eq taken]
      exact .logKill _ _
  | some fault =>
      rw [goOn_eq taken]
      exact .logKill _ _

private theorem stepCheckingReaper_cases {handle : Handle} {progress : Progress}
    (taken : handle.stepCheckingReaper = some progress) :
    handle.Step .checkingReaper progress := by
  unfold stepCheckingReaper at taken
  cases present : handle.hasReaper with
  | true =>
      simp only [present, if_true] at taken
      rw [goOn_eq taken]
      exact .findReaper present
  | false =>
      simp only [present, Bool.false_eq_true, if_false] at taken
      rw [goOn_eq taken]
      exact .missReaper present

private theorem stepEnteringWait_cases {handle : Handle} {errand : Errand} {progress : Progress}
    (taken : handle.stepEnteringWait errand = some progress) :
    handle.Step (.enteringWait errand) progress := by
  unfold stepEnteringWait at taken
  simp only [Host.enterWait] at taken
  cases able : handle.host.waitFaults.head? with
  | none =>
      simp only [able] at taken
      rw [goOn_eq taken]
      exact .wait able
  | some fault =>
      simp only [able] at taken
      cases kind : fault.isSystem with
      | true =>
          simp only [kind, if_true] at taken
          rw [goOn_eq taken]
          exact .waitRefused able kind
      | false =>
          simp only [kind, Bool.false_eq_true, if_false] at taken
          rw [finish_eq taken]
          exact .waitFailed able kind

private theorem stepAwaitingExit_cases {handle : Handle} {errand : Errand} {progress : Progress}
    (taken : handle.stepAwaitingExit errand = some progress) :
    handle.Step (.awaitingExit errand) progress := by
  unfold stepAwaitingExit at taken
  cases ended : handle.host.returncode with
  | none => simp [ended] at taken
  | some code =>
      simp only [ended] at taken
      rw [goOn_eq taken]
      exact .exited ended

private theorem stepCheckingResult_cases {handle : Handle} {errand : Errand}
    {report : Option Report} {progress : Progress}
    (taken : handle.stepCheckingResult errand report = some progress) :
    handle.Step (.checkingResult errand report) progress := by
  unfold stepCheckingResult at taken
  cases present : handle.result with
  | none =>
      simp only [present, Option.isSome_none, Bool.false_eq_true, if_false] at taken
      rw [goOn_eq taken]
      exact .missResult present
  | some result =>
      simp only [present, Option.isSome_some, if_true] at taken
      rw [goOn_eq taken]
      exact .findResult (by simp [present])

private theorem stepLeavingResult_cases {handle : Handle} {errand : Errand}
    {report : Option Report} {won : Bool} {progress : Progress}
    (taken : handle.stepLeavingResult errand report won = some progress) :
    handle.Step (.leavingResult errand report won) progress := by
  unfold stepLeavingResult at taken
  cases won with
  | true =>
      simp only [if_true] at taken
      rw [goOn_eq taken]
      exact .unlockWon
  | false =>
      simp only [Bool.false_eq_true, if_false, Option.some.injEq] at taken
      subst taken
      cases errand <;> exact .unlockLost

private theorem stepLoggingResult_cases {handle : Handle} {errand : Errand}
    {report : Option Report} {progress : Progress}
    (taken : handle.stepLoggingResult errand report = some progress) :
    handle.Step (.loggingResult errand report) progress := by
  unfold stepLoggingResult at taken
  cases present : handle.result with
  | none =>
      simp only [present] at taken
      rw [finish_eq taken]
      exact .noResult present
  | some result =>
      simp only [present, Option.some.injEq] at taken
      subst taken
      cases errand <;> exact .logResult present

private theorem stepReadingResult_cases {handle : Handle} {observer : Observer}
    {progress : Progress} (taken : handle.stepReadingResult observer = some progress) :
    handle.Step (.readingResult observer) progress := by
  unfold stepReadingResult at taken
  cases present : handle.result with
  | none =>
      simp only [present] at taken
      rw [finish_eq taken]
      exact .observeNothing present
  | some result =>
      simp only [present] at taken
      rw [finish_eq taken]
      exact .observe present

private theorem stepClosingMaster_cases {handle : Handle} {fd : Fd} {progress : Progress}
    (taken : handle.stepClosingMaster fd = some progress) :
    handle.Step (.closingMaster fd) progress := by
  unfold stepClosingMaster at taken
  rw [Sys.close_run] at taken
  cases possible : handle.host.closeFault? fd with
  | none =>
      simp only [possible] at taken
      rw [finish_eq taken]
      exact .close (by simp [possible])
  | some fault =>
      simp only [possible] at taken
      cases kind : fault.isSystem with
      | true =>
          simp only [kind, if_true] at taken
          rw [finish_eq taken]
          exact .close (by simp [possible, kind])
      | false =>
          simp only [kind, Bool.false_eq_true, if_false] at taken
          rw [finish_eq taken]
          exact .closeFailed possible kind

theorem step_cases {handle : Handle} {thread : Thread} {progress : Progress}
    (taken : handle.step thread = some progress) : handle.Step thread progress := by
  cases thread with
  | killing => exact stepKilling_cases taken
  | killed failure => exact stepKilled_cases taken
  | seekingReaper =>
      obtain ⟨free, rfl⟩ := acquire_eq taken
      exact .lockReaper free
  | checkingReaper => exact stepCheckingReaper_cases taken
  | startingReaper =>
      rw [← Option.some.inj taken]
      exact .startReaper
  | leavingReaper =>
      rw [finish_eq taken]
      exact .unlockReaper
  | enteringWait errand => exact stepEnteringWait_cases taken
  | awaitingExit errand => exact stepAwaitingExit_cases taken
  | claimingResult errand report =>
      obtain ⟨free, rfl⟩ := acquire_eq taken
      exact .lockResult free
  | checkingResult errand report => exact stepCheckingResult_cases taken
  | recordingResult errand report =>
      rw [goOn_eq taken]
      exact .recordResult
  | signalling errand report =>
      rw [goOn_eq taken]
      exact .signal
  | leavingResult errand report won => exact stepLeavingResult_cases taken
  | loggingResult errand report => exact stepLoggingResult_cases taken
  | awaitingDone observer =>
      cases done : handle.done with
      | true =>
          simp only [step, done, if_true] at taken
          rw [goOn_eq taken]
          exact .awake done
      | false => simp [step, done] at taken
  | readingResult observer => exact stepReadingResult_cases taken
  | polling =>
      cases done : handle.done with
      | true =>
          simp only [step, done, if_true] at taken
          rw [goOn_eq taken]
          exact .pollDone done
      | false =>
          simp only [step, done, Bool.false_eq_true, if_false] at taken
          rw [finish_eq taken]
          exact .pollUndone done
  | pollingResult =>
      rw [finish_eq taken]
      exact .poll
  | claimingMaster =>
      obtain ⟨free, rfl⟩ := acquire_eq taken
      exact .lockMaster free
  | takingMaster =>
      rw [goOn_eq taken]
      exact .takeMaster
  | clearingMaster fd =>
      rw [goOn_eq taken]
      exact .clearMaster
  | leavingMaster fd =>
      cases fd with
      | none =>
          rw [finish_eq taken]
          exact .unlockNothing
      | some fd =>
          rw [goOn_eq taken]
          exact .unlockMaster
  | closingMaster fd => exact stepClosingMaster_cases taken

end Handle

end PtyShell
