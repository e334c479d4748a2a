import Mathlib.Data.List.Induction
import PtyShell.Proofs.Handle.Order

namespace PtyShell

namespace Handle

variable {handle : Handle} {thread : Thread} {progress : Progress}

theorem step_continues (taken : handle.Step thread progress) :
    handle.host.Continues progress.handle.host := by
  cases taken with
  | kill possible => exact Host.Continues.killed handle.host
  | killRefused refused system | killFailed refused foreign | logKill level message
  | logResult present => exact Host.Continues.record _ handle.host
  | wait able | waitRefused refused system | waitFailed refused foreign =>
      exact Host.Continues.enterWait handle.host
  | close quiet | closeFailed refused foreign => exact Host.Continues.closed _ handle.host
  | _ => exact Host.Continues.refl handle.host

/-- A wait that ends gives a report: it failed, or the process has exited. -/
def WaitGives (handle : Handle) (thread : Thread) (errand : Errand) (report : Option Report) :
    Prop :=
  (thread = .enteringWait errand ∧
      ∃ fault, handle.host.waitFaults.head? = some fault ∧ report = some (.fault fault)) ∨
    (thread = .awaitingExit errand ∧
      ∃ code, handle.host.returncode = some code ∧ report = (exitFault? code).map .fault)

theorem step_waitGives (taken : handle.Step thread progress)
    (waiting : thread.publication? = none) {next : Thread} (goesOn : progress.next = some next)
    {errand : Errand} {report : Option Report}
    (publishes : next.publication? = some (errand, report)) :
    handle.WaitGives thread errand report := by
  cases taken with
  | waitRefused refused system =>
      cases goesOn
      cases publishes
      exact Or.inl ⟨rfl, _, refused, rfl⟩
  | exited ended =>
      cases goesOn
      cases publishes
      exact Or.inr ⟨rfl, _, ended, rfl⟩
  | unlockLost | logResult present | lockResult free | findResult present | missResult absent
  | recordResult | signal | unlockWon => cases waiting
  | _ => cases goesOn <;> cases publishes

end Handle

namespace Session

theorem moved_continues {session after : Session} {move : Move} (moved : session.Moved move after) :
    session.handle.host.Continues after.handle.host := by
  cases moved with
  | call call => exact Host.Continues.refl _
  | exit code => exact Host.Continues.exit code _
  | stay place => exact Host.Continues.refl _
  | step live taken => exact Handle.step_continues taken

def WaitGave (host : Host) (moves : List Move) (place : Nat) (errand : Errand)
    (report : Option Report) : Prop :=
  ∃ before after thread, moves = before ++ .advance place :: after ∧
    ((ofHost host).run before).Live place thread ∧
      ((ofHost host).run before).handle.WaitGives thread errand report

theorem WaitGave.append {host : Host} {moves : List Move} {place : Nat} {errand : Errand}
    {report : Option Report} (gave : WaitGave host moves place errand report) (move : Move) :
    WaitGave host (moves ++ [move]) place errand report := by
  obtain ⟨before, after, thread, rfl, live, gives⟩ := gave
  exact ⟨before, after ++ [move], thread, by simp, live, gives⟩

/-- Every report that is published after a wait is what the wait of the same thread gave. -/
structure Reported (host : Host) (moves : List Move) : Prop where
  live : ∀ place thread errand report, ((ofHost host).run moves).Live place thread →
    thread.publication? = some (errand, report) → errand ≠ .publish →
      WaitGave host moves place errand report
  notes : ∀ place errand report won,
    (place, .published errand report won) ∈ ((ofHost host).run moves).notes →
      errand ≠ .publish → WaitGave host moves place errand report

/-- A step publishes what was to be published before it, or what its wait gave. -/
theorem step_reported {host : Host} {moves : List Move} (reported : Reported host moves)
    {place : Nat} {thread next : Thread} {progress : Progress}
    (live : ((ofHost host).run moves).Live place thread)
    (taken : ((ofHost host).run moves).handle.Step thread progress)
    (goesOn : progress.next = some next) {errand : Errand} {report : Option Report}
    (publishes : next.publication? = some (errand, report)) (waited : errand ≠ .publish) :
    WaitGave host (moves ++ [.advance place]) place errand report := by
  cases before : thread.publication? with
  | none =>
      have gives := Handle.step_waitGives taken before goesOn publishes
      exact ⟨moves, [], thread, rfl, live, gives⟩
  | some publication =>
      obtain ⟨same, argument⟩ := publication
      rcases (Handle.step_publication taken ((run_orderly host moves).relies place thread live)
        before).2 with ⟨_, still, goesOn', kept⟩ | ⟨ended, _⟩
      · rw [goesOn] at goesOn'
        cases goesOn'
        rw [publishes] at kept
        cases kept
        exact (reported.live place thread errand report live before waited).append _
      · rw [goesOn] at ended
        cases same <;> cases ended <;> cases publishes

theorem reported_moved {host : Host} {moves : List Move} (reported : Reported host moves)
    {move : Move} {after : Session} (moved : ((ofHost host).run moves).Moved move after)
    {place : Nat} {next : Thread} {errand : Errand} {report : Option Report}
    (found : after.Live place next) (publishes : next.publication? = some (errand, report))
    (waited : errand ≠ .publish) : WaitGave host (moves ++ [move]) place errand report := by
  cases moved with
  | call call =>
      rcases live_call found with old | rfl
      · exact (reported.live place next errand report old publishes waited).append _
      · cases call with
        | publish argument =>
            cases publishes
            exact absurd rfl waited
        | _ => cases publishes
  | exit code => exact (reported.live place next errand report found publishes waited).append _
  | stay other => exact (reported.live place next errand report found publishes waited).append _
  | step live taken =>
      rcases live_applied found with ⟨_, old⟩ | ⟨rfl, goesOn⟩ | ⟨_, started⟩
      · exact (reported.live place next errand report old publishes waited).append _
      · exact step_reported reported live taken goesOn publishes waited
      · cases taken <;> cases started
        cases publishes

theorem run_reported (host : Host) (moves : List Move) : Reported host moves := by
  induction moves using List.reverseRecOn with
  | nil =>
      constructor
      · intro place thread errand report live
        simp [Live, ofHost] at live
      · intro place errand report won member
        simp [ofHost] at member
  | append_singleton moves move ih =>
      have moved := ((ofHost host).run moves).moved move
      have last : (ofHost host).run (moves ++ [move]) = ((ofHost host).run moves).move move := by
        rw [run_append, run_cons, run_nil]
      constructor
      · intro place next errand report found publishes waited
        rw [last] at found
        exact reported_moved ih moved found publishes waited
      · intro place errand report won member waited
        rw [last] at member
        rcases notes_moved moved member with old | ⟨thread, progress, live, taken, noted, _⟩
        · exact (ih.notes place errand report won old waited).append _
        · cases taken with
          | unlockLost =>
              cases noted
              exact (ih.live place _ errand report live rfl waited).append _
          | logResult present =>
              cases noted
              exact (ih.live place _ errand report live rfl waited).append _
          | _ => cases noted

end Session

end PtyShell
