import PtyShell.Proofs.Cli.Step
import PtyShell.Proofs.Handle.Roles

namespace PtyShell.Cli

def ExecPoint.thread? : ExecPoint → Option Thread
  | .closing thread _ | .waiting thread _ => some thread
  | _ => none

def ExecPoint.InRole : ExecPoint → Prop
  | .closing thread _ => thread.role = .close
  | .waiting thread _ => thread.role = .wait
  | _ => True

namespace Exec

def session (exec : Exec) : Session :=
  ⟨exec.handle, exec.main.thread? :: exec.reap :: exec.reapers, [], []⟩

end Exec

end PtyShell.Cli

namespace PtyShell.Session.Orderly

variable {session : Session}

theorem rehost (orderly : session.Orderly) (host : Host) :
    Orderly { session with handle := { session.handle with host := host } } :=
  { orderly with }

theorem forget (orderly : session.Orderly) :
    Orderly { session with notes := [], reapers := [] } :=
  { orderly with
    attests := fun _ _ member => absurd member List.not_mem_nil
    placed := fun _ _ member => absurd member List.not_mem_nil }

theorem resume (orderly : session.Orderly) {others : List (Option Thread)}
    (ended : session.threads = none :: others) (call : Call) :
    Orderly { session with threads := some call.thread :: others } where
  lock := by
    rw [← orderly.lock]
    unfold number
    rw [ended]
    cases call <;> rfl
  signalled := by
    rw [← orderly.signalled]
    unfold number
    rw [ended]
    cases call <;> rfl
  relies := by
    intro place thread live
    cases place with
    | zero =>
        cases live
        cases call <;> trivial
    | succ place =>
        apply orderly.relies (place + 1)
        unfold Live
        rw [ended]
        exact live
  attests := orderly.attests
  placed := by
    intro place note member
    have inside := orderly.placed place note member
    rw [ended] at inside
    exact inside

end PtyShell.Session.Orderly

namespace PtyShell.Cli.Exec

/-- The reapers, and what they leave alone until there is one. -/
structure Attended (handle : Handle) (reapers : List (Option Thread)) : Prop where
  roles : ∀ thread, some thread ∈ reapers → thread.role = .reaper
  unstarted : handle.hasReaper = false → reapers = []
  opened : handle.hasReaper = false → handle.host.isOpen .master = true

/-- What holds of the threads at any time. -/
structure Tidy (exec : Exec) : Prop where
  orderly : exec.session.Orderly
  source : exec.source = some .master
  main : exec.main.InRole
  reap : ∀ thread, exec.reap = some thread → thread.role = .reap
  attended : Attended exec.handle exec.reapers

variable {exec : Exec}

theorem reapers_absorb (exec : Exec) (progress : Progress) :
    (exec.absorb progress).reapers = exec.reapers ++ progress.started.toList.map some := by
  unfold absorb
  cases progress.started <;> simp

theorem Attended.absorb (attended : Attended exec.handle exec.reapers) {thread : Thread}
    {progress : Progress} (taken : exec.handle.Step thread progress)
    (relies : thread.Relies exec.handle) (role : thread.role ≠ .reaper) :
    Attended progress.handle (exec.absorb progress).reapers where
  roles := by
    intro other member
    rw [reapers_absorb] at member
    rcases List.mem_append.mp member with old | new
    · exact attended.roles other old
    · obtain ⟨started, found, same⟩ := List.mem_map.mp new
      cases same
      exact Handle.step_started_role taken (Option.mem_toList.mp found)
  unstarted := by
    intro absent
    rcases Handle.step_starts taken relies with ⟨none, same⟩ | ⟨_, _, present⟩
    · rw [reapers_absorb, none, attended.unstarted (same.symm.trans absent)]
      rfl
    · rw [present] at absent
      cases absent
  opened := by
    intro absent
    rcases Handle.step_starts taken relies with ⟨_, same⟩ | ⟨_, _, present⟩
    · unfold Host.isOpen
      rw [Handle.step_unclosed taken role]
      exact attended.opened (same.symm.trans absent)
    · rw [present] at absent
      cases absent

theorem Attended.step (attended : Attended exec.handle exec.reapers) {place : Nat}
    {thread : Thread} (live : exec.reapers[place]? = some (some thread)) {progress : Progress}
    (taken : exec.handle.Step thread progress) :
    Attended progress.handle ((exec.absorb progress).reapers.set place progress.next) := by
  have role := attended.roles thread (List.mem_of_getElem? live)
  have present : progress.handle.hasReaper ≠ false := by
    intro absent
    rw [(Handle.step_unstarted taken (by rw [role]; decide)).2] at absent
    rw [attended.unstarted absent] at live
    cases live
  refine ⟨?_, fun absent => absurd absent present, fun absent => absurd absent present⟩
  intro other member
  rcases List.mem_or_eq_of_mem_set member with old | same
  · rw [reapers_absorb] at old
    rcases List.mem_append.mp old with old | new
    · exact attended.roles other old
    · obtain ⟨started, found, same⟩ := List.mem_map.mp new
      cases same
      exact Handle.step_started_role taken (Option.mem_toList.mp found)
  · exact (Handle.step_role taken same.symm).trans role

section Orderly

variable {thread : Thread} {progress : Progress} {point : ExecPoint}

theorem orderly_absorb (orderly : exec.session.Orderly) (stands : exec.main.thread? = some thread)
    (taken : exec.handle.Step thread progress) (goesOn : point.thread? = progress.next) :
    ((exec.absorb progress).goTo point).session.Orderly := by
  have live : exec.session.Live 0 thread := congrArg some stands
  have stepped := (orderly.step live taken).forget
  have same : ((exec.absorb progress).goTo point).session =
      { exec.session.applied 0 progress with notes := [], reapers := [] } := by
    simp only [session, goTo, Session.applied, goesOn, reapers_absorb, List.set_cons_zero]
    cases started : progress.started <;> simp [absorb, started]
  rw [same]
  exact stepped

theorem orderly_reap (orderly : exec.session.Orderly) (live : exec.reap = some thread)
    (taken : exec.handle.Step thread progress) :
    { exec.absorb progress with reap := progress.next }.session.Orderly := by
  have found : exec.session.Live 1 thread := congrArg some live
  have stepped := (orderly.step found taken).forget
  have same : { exec.absorb progress with reap := progress.next }.session =
      { exec.session.applied 1 progress with notes := [], reapers := [] } := by
    simp only [session, Session.applied, reapers_absorb]
    cases started : progress.started <;> simp [absorb, started]
  rw [same]
  exact stepped

theorem orderly_reaper (orderly : exec.session.Orderly) {place : Nat}
    (live : exec.reapers[place]? = some (some thread))
    (taken : exec.handle.Step thread progress) :
    { exec.absorb progress with
      reapers := (exec.absorb progress).reapers.set place progress.next }.session.Orderly := by
  have found : exec.session.Live (place + 2) thread := live
  have inside := (List.getElem?_eq_some_iff.mp live).1
  have stepped := (orderly.step found taken).forget
  have same : { exec.absorb progress with
        reapers := (exec.absorb progress).reapers.set place progress.next }.session =
      { exec.session.applied (place + 2) progress with notes := [], reapers := [] } := by
    simp only [session, Session.applied, reapers_absorb, List.set_append_left _ _ inside]
    cases started : progress.started <;> simp [absorb, started]
  rw [same]
  exact stepped

theorem orderly_goTo (orderly : exec.session.Orderly) (idle : exec.main.thread? = none)
    (begins : ∀ thread, point.thread? = some thread → ∃ call : Call, thread = call.thread) :
    (exec.goTo point).session.Orderly := by
  have ended : exec.session.threads = none :: exec.reap :: exec.reapers := by
    simp only [session, idle]
  cases found : point.thread? with
  | none =>
      have same : (exec.goTo point).session = exec.session := by
        simp only [session, goTo, found, idle]
      rw [same]
      exact orderly
  | some thread =>
      obtain ⟨call, rfl⟩ := begins thread found
      have same : (exec.goTo point).session =
          { exec.session with threads := some call.thread :: exec.reap :: exec.reapers } := by
        simp only [session, goTo, found]
      rw [same]
      exact orderly.resume ended call

end Orderly

namespace Tidy

theorem relies_main (tidy : exec.Tidy) {thread : Thread}
    (stands : exec.main.thread? = some thread) :
    thread.Relies exec.handle :=
  tidy.orderly.relies 0 thread (congrArg some stands)

theorem relies_reap (tidy : exec.Tidy) {thread : Thread} (live : exec.reap = some thread) :
    thread.Relies exec.handle :=
  tidy.orderly.relies 1 thread (congrArg some live)

theorem relies_reaper (tidy : exec.Tidy) {place : Nat} {thread : Thread}
    (live : exec.reapers[place]? = some (some thread)) : thread.Relies exec.handle :=
  tidy.orderly.relies (place + 2) thread live

theorem recorded (tidy : exec.Tidy) (done : exec.handle.done = true) :
    ∃ result, exec.handle.result = some result :=
  Option.isSome_iff_exists.mp (tidy.orderly.recorded done)

theorem absorb (tidy : exec.Tidy) {thread : Thread} (stands : exec.main.thread? = some thread)
    (role : thread.role ≠ .reaper) {progress : Progress}
    (taken : exec.handle.Step thread progress) {point : ExecPoint}
    (goesOn : point.thread? = progress.next) (inRole : point.InRole) :
    ((exec.absorb progress).goTo point).Tidy where
  orderly := orderly_absorb tidy.orderly stands taken goesOn
  source := tidy.source
  main := inRole
  reap := tidy.reap
  attended := tidy.attended.absorb taken (tidy.relies_main stands) role

theorem goTo (tidy : exec.Tidy) (idle : exec.main.thread? = none) {point : ExecPoint}
    (inRole : point.InRole)
    (begins : ∀ thread, point.thread? = some thread → ∃ call : Call, thread = call.thread) :
    (exec.goTo point).Tidy where
  orderly := orderly_goTo tidy.orderly idle begins
  source := tidy.source
  main := inRole
  reap := tidy.reap
  attended := tidy.attended

theorem rehost (tidy : exec.Tidy) (host : Host) (same : host.openFds = exec.handle.host.openFds)
    (pump : DrainPoint) (stdout : List UInt8) :
    { exec with
      handle := { exec.handle with host := host }
      pump := pump
      stdout := stdout }.Tidy where
  orderly := tidy.orderly.rehost host
  source := tidy.source
  main := tidy.main
  reap := tidy.reap
  attended :=
    { roles := tidy.attended.roles
      unstarted := tidy.attended.unstarted
      opened := by
        intro absent
        unfold Host.isOpen
        rw [same]
        exact tidy.attended.opened absent }

theorem notice (tidy : exec.Tidy) (text : String) : (exec.notice text).Tidy :=
  tidy.rehost (exec.handle.host.record (.notice text)) rfl exec.pump exec.stdout

theorem leave (tidy : exec.Tidy) {thread : Thread} (stands : exec.main.thread? = some thread)
    (role : thread.role ≠ .reaper) {progress : Progress}
    (taken : exec.handle.Step thread progress) (ended : progress.next = none) {point : ExecPoint}
    (inRole : point.InRole)
    (begins : ∀ thread, point.thread? = some thread → ∃ call : Call, thread = call.thread) :
    ((exec.absorb progress).goTo point).Tidy := by
  have between : ((exec.absorb progress).goTo .starting).Tidy :=
    tidy.absorb stands role taken ended.symm trivial
  exact between.goTo rfl inRole begins

end Tidy

theorem Goes.tidy (tidy : exec.Tidy) {before : ExecPoint} (stands : exec.main = before)
    {after : Exec} (taken : exec.Goes before after) : after.Tidy := by
  have main := tidy.main
  rw [stands] at main
  have idle {point : ExecPoint} (nothing : point.thread? = none) (thread : Thread)
      (found : point.thread? = some thread) : ∃ call : Call, thread = call.thread := by
    rw [nothing] at found
    cases found
  cases taken with
  | begin kept | refuse refused | join ended | inTime done =>
      exact tidy.goTo (by rw [stands]; rfl) trivial (idle rfl)
  | tooLate undone =>
      refine (tidy.notice _).goTo ?_ rfl ?_
      · exact congrArg ExecPoint.thread? stands
      · intro thread found
        exact ⟨.close, (Option.some.inj found).symm⟩
  | close taken goesOn =>
      have role : _ = Role.close := main
      refine tidy.absorb (by rw [stands]; rfl) (by rw [role]; decide) taken goesOn.symm ?_
      exact (Handle.step_role taken goesOn).trans role
  | closeFailed taken ended noted =>
      have role : _ = Role.close := main
      exact tidy.leave (by rw [stands]; rfl) (by rw [role]; decide) taken ended trivial (idle rfl)
  | @closed thread known progress taken ended succeeded =>
      have role : _ = Role.close := main
      refine tidy.leave (by rw [stands]; rfl) (by rw [role]; decide) taken ended ?_ ?_
      · cases known <;> trivial
      · cases known with
        | none =>
            intro thread found
            exact ⟨.wait, (Option.some.inj found).symm⟩
        | some result => exact idle rfl
  | wait taken goesOn =>
      have role : _ = Role.wait := main
      refine tidy.absorb (by rw [stands]; rfl) (by rw [role]; decide) taken goesOn.symm ?_
      exact (Handle.step_role taken goesOn).trans role
  | @waited thread timedOut progress observer result taken ended noted =>
      have role : _ = Role.wait := main
      refine tidy.leave (by rw [stands]; rfl) (by rw [role]; decide) taken ended ?_ ?_
      · cases timedOut <;> trivial
      · cases timedOut with
        | true => exact idle rfl
        | false =>
            intro thread found
            exact ⟨.close, (Option.some.inj found).symm⟩
  | waitFailed taken ended noted | waitLost taken ended silent =>
      have role : _ = Role.wait := main
      exact tidy.leave (by rw [stands]; rfl) (by rw [role]; decide) taken ended trivial (idle rfl)
  | @joinPump known drained =>
      refine tidy.goTo (by rw [stands]; rfl) ?_ ?_
      · cases known <;> trivial
      · cases known with
        | none =>
            intro thread found
            exact ⟨.wait, (Option.some.inj found).symm⟩
        | some result => exact idle rfl
  | announce =>
      exact (tidy.notice _).goTo (congrArg ExecPoint.thread? stands) trivial (idle rfl)

theorem Tidy.moved (tidy : exec.Tidy) {move : ExecMove} {after : Exec}
    (moved : exec.Moved move after) : after.Tidy := by
  cases moved with
  | main taken => exact taken.tidy tidy rfl
  | pump taken =>
      refine tidy.rehost _ ?_ _ _
      rw [taken.same]
  | @reap thread progress live taken =>
      have role := tidy.reap thread live
      exact
        { orderly := orderly_reap tidy.orderly live taken
          source := tidy.source
          main := tidy.main
          reap := fun next goesOn => (Handle.step_role taken goesOn).trans role
          attended := tidy.attended.absorb taken (tidy.relies_reap live) (by rw [role]; decide) }
  | reaper live taken =>
      exact
        { orderly := orderly_reaper tidy.orderly live taken
          source := tidy.source
          main := tidy.main
          reap := tidy.reap
          attended := tidy.attended.step live taken }
  | expire joining limited =>
      have checked : (exec.goTo .checking).Tidy :=
        tidy.goTo (by rw [joining]; rfl) trivial (by intro thread found; cases found)
      exact { checked with }
  | exit code => exact tidy.rehost (exec.handle.host.exit code) rfl exec.pump exec.stdout
  | stay move => exact tidy

theorem Goes.keeps (tidy : exec.Tidy) {before : ExecPoint} (stands : exec.main = before)
    {after : Exec} (taken : exec.Goes before after) :
    exec.handle.Keeps after.handle ∧ exec.handle.host.Continues after.handle.host := by
  have step {thread : Thread} {progress : Progress} (inside : before.thread? = some thread)
      (stepped : exec.handle.Step thread progress) :
      exec.handle.Keeps progress.handle ∧ exec.handle.host.Continues progress.handle.host :=
    ⟨Handle.step_keeps stepped (tidy.relies_main (stands ▸ inside)), Handle.step_continues stepped⟩
  cases taken with
  | close taken goesOn | closeFailed taken ended noted | closed taken ended succeeded
  | wait taken goesOn | waited taken ended noted | waitFailed taken ended noted
  | waitLost taken ended silent => exact step rfl taken
  | tooLate undone | announce =>
      exact ⟨⟨fun _ same => same, id, id, id⟩, Host.Continues.record _ _⟩
  | _ => exact ⟨Handle.Keeps.refl _, Host.Continues.refl _⟩

theorem Moved.keeps (tidy : exec.Tidy) {move : ExecMove} {after : Exec}
    (moved : exec.Moved move after) :
    exec.handle.Keeps after.handle ∧ exec.handle.host.Continues after.handle.host := by
  cases moved with
  | main taken => exact taken.keeps tidy rfl
  | pump taken => exact ⟨⟨fun _ same => same, id, id, id⟩, taken.continues⟩
  | reap live taken =>
      exact ⟨Handle.step_keeps taken (tidy.relies_reap live), Handle.step_continues taken⟩
  | reaper live taken =>
      exact ⟨Handle.step_keeps taken (tidy.relies_reaper live), Handle.step_continues taken⟩
  | expire joining limited | stay move => exact ⟨Handle.Keeps.refl _, Host.Continues.refl _⟩
  | exit code => exact ⟨⟨fun _ same => same, id, id, id⟩, Host.Continues.exit code _⟩

theorem Tidy.play (tidy : exec.Tidy) (moves : List ExecMove) :
    (exec.play moves).Tidy ∧ exec.handle.Keeps (exec.play moves).handle := by
  refine play_keeps (fun after => after.Tidy ∧ exec.handle.Keeps after.handle) ?_ moves exec
    ⟨tidy, Handle.Keeps.refl _⟩
  rintro after move last moved ⟨tidy, keeps⟩
  exact ⟨tidy.moved moved, keeps.trans (moved.keeps tidy).1⟩

theorem ofHandle_tidy {host : Host} (opened : host.isOpen .master = true)
    (timeout : Option Binary64) : (ofHandle (Handle.ofHost host) timeout).Tidy where
  orderly :=
    { lock := rfl
      signalled := rfl
      relies := by
        intro place thread live
        match place, live with
        | 1, live =>
            cases live
            trivial
      attests := fun _ _ member => absurd member List.not_mem_nil
      placed := fun _ _ member => absurd member List.not_mem_nil }
  source := rfl
  main := trivial
  reap := by
    intro thread live
    cases live
    rfl
  attended :=
    { roles := fun _ member => absurd member List.not_mem_nil
      unstarted := fun _ => rfl
      opened := fun _ => opened }

end PtyShell.Cli.Exec
