import PtyShell.Proofs.Handle.Session

namespace PtyShell

namespace Handle

theorem step_kills {handle : Handle} {thread : Thread} {progress : Progress}
    (taken : handle.Step thread progress) :
    progress.handle.host.kills = handle.host.kills + (thread == .killing).toNat ∧
      progress.next ≠ some .killing ∧ progress.started ≠ some .killing := by
  cases taken with
  | kill possible =>
      refine ⟨Host.kills_killed handle.host, ?_, ?_⟩ <;> intro same <;> cases same
  | killRefused refused system | killFailed refused foreign =>
      refine ⟨Host.kills_record .kill handle.host, ?_, ?_⟩ <;> intro same <;> cases same
  | logKill level message =>
      refine ⟨Host.kills_record _ handle.host, ?_, ?_⟩ <;> intro same <;> cases same
  | wait able | waitRefused refused system | waitFailed refused foreign =>
      refine ⟨Host.kills_enterWait handle.host, ?_, ?_⟩ <;> intro same <;> cases same
  | @unlockLost errand report =>
      refine ⟨rfl, ?_, ?_⟩ <;> intro same <;> cases errand <;> cases same
  | @logResult errand report result present =>
      refine ⟨Host.kills_record _ handle.host, ?_, ?_⟩ <;> intro same <;> cases errand <;>
        cases same
  | close quiet | closeFailed refused foreign =>
      refine ⟨Host.kills_closed _ handle.host, ?_, ?_⟩ <;> intro same <;> cases same
  | _ => refine ⟨rfl, ?_, ?_⟩ <;> intro same <;> cases same

end Handle

namespace Session

/-- How often a thread tries to kill the process while the moves are made. -/
def killsBy (place : Nat) (session : Session) : List Move → Nat
  | [] => 0
  | move :: moves =>
    (if move = .advance place then
        (session.move move).handle.host.kills - session.handle.host.kills
      else 0) +
      killsBy place (session.move move) moves

def killsNext (session : Session) (place : Nat) : Bool :=
  session.threads[place]? == some (some .killing)

theorem killsNext_moved {session after : Session} {move : Move} (moved : session.Moved move after)
    {place : Nat} (inside : place < session.threads.length) :
    (if move = .advance place then after.handle.host.kills - session.handle.host.kills else 0) +
        (after.killsNext place).toNat =
      (session.killsNext place).toNat := by
  unfold killsNext
  cases moved with
  | call call => rw [slot_call inside, if_neg (by intro same; cases same), Nat.zero_add]
  | exit code =>
      rw [if_neg (by intro same; cases same), Nat.zero_add]
      rfl
  | stay other => rw [Nat.sub_self, ite_self, Nat.zero_add]
  | @step other thread progress live taken =>
      obtain ⟨kills, goesOn, _⟩ := Handle.step_kills taken
      rw [slot_applied inside]
      by_cases same : place = other
      · subst same
        have grown : (session.applied place progress).handle.host.kills -
            session.handle.host.kills = (thread == .killing).toNat := by
          rw [show (session.applied place progress).handle.host.kills = _ from kills,
            Nat.add_sub_cancel_left]
        have slot : session.threads[place]? = some (some thread) := live
        rw [if_pos rfl, if_pos rfl, grown, slot]
        have gone : (some progress.next == some (some Thread.killing)) = false := by
          simpa using goesOn
        rw [gone]
        simp
      · rw [if_neg same, if_neg (by intro equal; cases equal; exact same rfl), Nat.zero_add]

theorem killsBy_run (place : Nat) (moves : List Move) :
    ∀ session : Session, place < session.threads.length →
      session.killsBy place moves + ((session.run moves).killsNext place).toNat =
        (session.killsNext place).toNat := by
  induction moves with
  | nil =>
      intro session _
      exact Nat.zero_add _
  | cons move moves ih =>
      intro session inside
      have rest := ih (session.move move)
        (Nat.lt_of_lt_of_le inside (length_moved (session.moved move)))
      have here := killsNext_moved (session.moved move) inside
      rw [run_cons]
      simp only [killsBy]
      omega

theorem kills_moved {session after : Session} {move : Move} (moved : session.Moved move after) :
    after.handle.host.kills + after.number (· == .killing) =
      session.handle.host.kills + session.number (· == .killing) +
        (if move == .call .close then 1 else 0) := by
  cases moved with
  | call call =>
      rw [number_call]
      cases call <;> rfl
  | exit code => rfl
  | stay place => rfl
  | @step place thread progress live taken =>
      obtain ⟨kills, goesOn, starts⟩ := Handle.step_kills taken
      have counted := number_applied (· == .killing) live progress
      have next : progress.next.any (· == Thread.killing) = false := by
        cases found : progress.next with
        | none => rfl
        | some next => simpa [found] using goesOn
      have started : progress.started.any (· == Thread.killing) = false := by
        cases found : progress.started with
        | none => rfl
        | some new => simpa [found] using starts
      have other : (Move.advance place == Move.call Call.close) = false := rfl
      rw [next, started] at counted
      rw [other, if_neg Bool.false_ne_true]
      show progress.handle.host.kills + _ = _
      simp only [Bool.toNat_false] at counted
      omega

/-- Together the threads kill the process once for each call that closes, but for the calls that
have yet to do so. -/
theorem kills_run (moves : List Move) :
    ∀ session : Session,
      (session.run moves).handle.host.kills + (session.run moves).number (· == .killing) =
        session.handle.host.kills + session.number (· == .killing) +
          moves.count (.call .close) := by
  induction moves with
  | nil =>
      intro session
      rfl
  | cons move moves ih =>
      intro session
      have here := kills_moved (session.moved move)
      rw [run_cons, ih, List.count_cons]
      omega

end Session

end PtyShell
