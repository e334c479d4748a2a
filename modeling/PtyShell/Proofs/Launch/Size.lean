import PtyShell.Proofs.Launch.Target

/-! # The size of a new terminal

A size reaches the terminal as both dimensions of it or both defaults, cut down to what the fields
on the wire hold. A size that is not positive is refused before anything is done, but not as an
invalid size where a dimension has too many digits to be put into words. -/

namespace PtyShell

namespace Terminal

theorem word_bytes {dimension : Int} (positive : 0 < dimension)
    (small : dimension ≤ TerminalSize.greatest) :
    word (UInt8.ofNat (dimension.toNat % 256)) (UInt8.ofNat (dimension.toNat / 256)) =
      dimension := by
  unfold TerminalSize.greatest at small
  have low : (UInt8.ofNat (dimension.toNat % 256)).toNat = dimension.toNat % 256 :=
    UInt8.toNat_ofNat_of_lt' (Nat.mod_lt _ (by decide))
  have high : (UInt8.ofNat (dimension.toNat / 256)).toNat = dimension.toNat / 256 := by
    apply UInt8.toNat_ofNat_of_lt'
    show dimension.toNat / 256 < 256
    omega
  unfold word
  rw [low, high]
  omega

/-- A size that fits has an encoding, which reads back as the size and leaves the pixel fields
zero. -/
theorem decode_encode {rows cols : Int} (rowsFit : 0 < rows ∧ rows ≤ TerminalSize.greatest)
    (colsFit : 0 < cols ∧ cols ≤ TerminalSize.greatest) :
    ∃ bytes, encode rows cols = .ok bytes ∧ decode bytes = .ok (rows, cols) ∧
      bytes.length = 8 ∧ bytes.drop 4 = [0, 0, 0, 0] := by
  unfold encode
  rw [field_fits rowsFit.1 rowsFit.2, field_fits colsFit.1 colsFit.2]
  refine ⟨_, rfl, ?_, rfl, rfl⟩
  show Except.ok (word _ _, word _ _) = _
  rw [word_bytes rowsFit.1 rowsFit.2, word_bytes colsFit.1 colsFit.2]

end Terminal

namespace TerminalSize

/-- The size that a size stands for: with a zero in it, the defaults. -/
def effective (size defaults : TerminalSize) : TerminalSize :=
  if size.rows = 0 ∨ size.cols = 0 then defaults else size

def Positive (size : TerminalSize) : Prop :=
  0 < size.rows ∧ 0 < size.cols

/-- Both dimensions have few enough digits to be put into words. -/
def Wordable (size : TerminalSize) : Prop :=
  size.rows.natAbs < Text.firstUnwritable ∧ size.cols.natAbs < Text.firstUnwritable

theorem resolve_eq_settle (size defaults : TerminalSize) :
    size.resolve defaults = (size.effective defaults).settle := by
  unfold resolve effective needsDefaults
  simp only [Bool.or_eq_true, beq_iff_eq]

theorem settle_positive {size : TerminalSize} (positive : size.Positive) :
    size.settle = .ok ⟨min size.rows 65535, min size.cols 65535⟩ := by
  obtain ⟨rows, cols⟩ := positive
  unfold settle
  rw [if_neg (by omega)]
  rfl

theorem settle_refuses {size : TerminalSize} (refused : ¬size.Positive) :
    size.settle = .error size.refusal := by
  unfold Positive at refused
  unfold settle
  rw [if_pos (by omega)]

theorem isWritable_iff (size : TerminalSize) :
    (Text.isWritable size.rows && Text.isWritable size.cols) = true ↔ size.Wordable := by
  unfold Text.isWritable Wordable
  rw [Bool.and_eq_true, decide_eq_true_iff, decide_eq_true_iff]

theorem refusal_wordable {size : TerminalSize} (wordable : size.Wordable) :
    size.refusal = .invalidSize size.rows size.cols :=
  if_pos (size.isWritable_iff.mpr wordable)

theorem refusal_unwordable {size : TerminalSize} (unwordable : ¬size.Wordable) :
    size.refusal = .invalid (Text.digitLimitText none) :=
  if_neg fun writable => unwordable (size.isWritable_iff.mp writable)

theorem refusal_ne_exited (size : TerminalSize) (code : Int) : size.refusal ≠ .exited code := by
  unfold refusal
  split <;> exact Fault.noConfusion

theorem resolve_resolved {size defaults resolved : TerminalSize}
    (found : size.resolve defaults = .ok resolved) (others : TerminalSize) :
    resolved.resolve others = .ok resolved := by
  obtain ⟨rows, cols⟩ := settle_fits found
  unfold greatest at rows cols
  have own : resolved.effective others = resolved := if_neg (by omega)
  rw [resolve_eq_settle, own, settle_positive ⟨rows.1, cols.1⟩, Int.min_eq_left rows.2,
    Int.min_eq_left cols.2]

theorem resize_fault {size defaults resolved : TerminalSize}
    (found : size.resolve defaults = .ok resolved) {fd : Fd} {host after : Host} {fault : Fault}
    (failed : (Sys.resize (some fd) resolved.rows resolved.cols).run host = .error fault after) :
    host.faults.resize = some fault := by
  obtain ⟨bytes, encoded⟩ := resolve_encodes found
  rw [Sys.resize_run encoded] at failed
  cases possible : host.faults.resize with
  | none => simp [possible] at failed
  | some reason =>
      simp only [possible] at failed
      cases failed
      rfl

end TerminalSize

namespace Launch

/-- What a call for a target makes of a size. -/
structure Target.Sizes (target : Target) (size : TerminalSize) (base : Option Env)
    (config : Config) (host : Host) : Prop where
  /-- A size that is not positive is refused. -/
  refuses : ¬(size.effective config.defaultSize).Positive →
    (size.effective config.defaultSize).Wordable →
      target.Refused size base config host
        (.invalidSize (size.effective config.defaultSize).rows
          (size.effective config.defaultSize).cols)
  /-- Where it cannot be put into words, that is what it is refused with. -/
  unwordable : ¬(size.effective config.defaultSize).Positive →
    ¬(size.effective config.defaultSize).Wordable →
      target.Refused size base config host (.invalid (Text.digitLimitText none))
  /-- Nothing comes to the host when a size is refused. -/
  idle : ¬(size.effective config.defaultSize).Positive →
    ∀ after, target.Reaches size base config host after → after = host
  /-- Any other size is cut down, and the new terminal is given it once, before a process is
  started. -/
  applies : (size.effective config.defaultSize).Positive → ∃ bytes : List UInt8,
    Terminal.decode bytes = .ok (min (size.effective config.defaultSize).rows 65535,
        min (size.effective config.defaultSize).cols 65535) ∧
      bytes.length = 8 ∧ bytes.drop 4 = [0, 0, 0, 0] ∧
      ∀ after, target.Reaches size base config host after →
        (∀ cwd, target.StartsIn base host cwd → host.faults.openPty = none →
          ∃ starts, host.Gains after (.openPty :: .resize .master bytes :: starts) ∧
            ∀ event ∈ starts, ∃ request, event = .start request) ∧
        ((∀ cwd, ¬target.StartsIn base host cwd) → host.Gains after []) ∧
        (host.faults.openPty ≠ none →
          ∃ opens, host.Gains after opens ∧ ∀ event ∈ opens, event = .openPty)
  /-- Only the terminal can refuse the size. -/
  fits : ∀ resolved, size.resolve config.defaultSize = .ok resolved →
    ∀ machine fault after,
      (Sys.resize (some .master) resolved.rows resolved.cols).run machine = .error fault after →
        machine.faults.resize = some fault
  settles : ∀ resolved, size.resolve config.defaultSize = .ok resolved →
    ∀ defaults, resolved.resolve defaults = .ok resolved

theorem setup_opened {host : Host} (possible : host.faults.openPty = none) (bytes : List UInt8)
    (request : StartRequest) :
    ∃ starts, setup host bytes request = .openPty :: .resize .master bytes :: starts ∧
      ∀ event ∈ starts, ∃ request, event = .start request := by
  unfold setup
  rw [if_neg (not_not_intro possible)]
  by_cases resized : host.faults.resize = none
  · rw [if_neg (not_not_intro resized)]
    exact ⟨_, rfl, fun event member => ⟨request, List.mem_singleton.mp member⟩⟩
  · rw [if_pos resized]
    exact ⟨[], rfl, fun event member => absurd member List.not_mem_nil⟩

/-- Whatever is started, its size is settled before anything else, and it reaches the new terminal
as it was settled. -/
theorem Target.sizes_terminal (target : Target) (size : TerminalSize) (base : Option Env)
    (config : Config) (host : Host) : target.Sizes size base config host where
  refuses := by
    intro refused wordable
    have resolves := (size.resolve_eq_settle config.defaultSize).trans
      (TerminalSize.settle_refuses refused)
    rw [TerminalSize.refusal_wordable wordable] at resolves
    exact refused_of_size resolves base host target
  unwordable := by
    intro refused unwordable
    have resolves := (size.resolve_eq_settle config.defaultSize).trans
      (TerminalSize.settle_refuses refused)
    rw [TerminalSize.refusal_unwordable unwordable] at resolves
    exact refused_of_size resolves base host target
  idle := by
    intro refused after reached
    have resolves := (size.resolve_eq_settle config.defaultSize).trans
      (TerminalSize.settle_refuses refused)
    exact reached.refused resolves
  applies := by
    intro positive
    have resolves := (size.resolve_eq_settle config.defaultSize).trans
      (TerminalSize.settle_positive positive)
    obtain ⟨rows, cols⟩ := TerminalSize.settle_fits resolves
    obtain ⟨bytes, encoded, decoded, length, pixels⟩ := Terminal.decode_encode rows cols
    refine ⟨bytes, decoded, length, pixels, ?_⟩
    intro after reached
    refine ⟨?_, reached.idle resolves, ?_⟩
    · intro cwd starts possible
      obtain ⟨later, same, requests⟩ :=
        setup_opened possible bytes (target.request base config host cwd)
      have gains := reached.gains resolves encoded starts
      rw [same] at gains
      exact ⟨later, gains, requests⟩
    · intro refused
      by_cases starts : ∃ cwd, target.StartsIn base host cwd
      · obtain ⟨cwd, starts⟩ := starts
        have gains := reached.gains resolves encoded starts
        unfold setup at gains
        rw [if_pos refused] at gains
        exact ⟨[.openPty], gains, fun event member => List.mem_singleton.mp member⟩
      · have stays : ∀ cwd, ¬target.StartsIn base host cwd := fun cwd found => starts ⟨cwd, found⟩
        exact ⟨[], reached.idle resolves stays, fun event member => absurd member List.not_mem_nil⟩
  fits := fun _ resolves _ _ _ failed => TerminalSize.resize_fault resolves failed
  settles := fun _ resolves others => TerminalSize.resolve_resolved resolves others

/-- A size below zero, the rows of which have one digit too many to be put into words. -/
def endless : TerminalSize := ⟨-(Text.firstUnwritable : Int), 80⟩

/-- The size is not positive, but it is not refused as an invalid size. -/
theorem endless_not_invalidSize :
    ¬(endless.effective Config.default.defaultSize).Positive ∧
      (command idle endless none Config.default).run Host.plain =
        .error (.invalid (Text.digitLimitText none)) Host.plain ∧
      ¬(Target.command idle).Refused endless none Config.default Host.plain
        (.invalidSize endless.rows endless.cols) := by
  have own : endless.effective Config.default.defaultSize = endless := by
    have positive : 0 < Text.firstUnwritable := by
      unfold Text.firstUnwritable
      generalize Text.digitLimit = digits
      exact Nat.pow_pos (by decide)
    unfold TerminalSize.effective endless
    exact if_neg (by simp only; omega)
  have refused : ¬endless.Positive := by
    unfold TerminalSize.Positive endless
    simp only
    omega
  have unwordable : ¬endless.Wordable := by
    unfold TerminalSize.Wordable endless
    simp only [Int.natAbs_neg, Int.natAbs_natCast, Nat.lt_irrefl, false_and, not_false_eq_true]
  have resolves : endless.resolve Config.default.defaultSize =
      .error (.invalid (Text.digitLimitText none)) := by
    rw [TerminalSize.resolve_eq_settle, own, TerminalSize.settle_refuses refused,
      TerminalSize.refusal_unwordable unwordable]
  refine ⟨by rwa [own], command_refused resolves idle, ?_⟩
  intro invalid
  have same := invalid.symm.trans (Target.refused_of_size resolves none Host.plain (.command idle))
  cases same

end Launch

end PtyShell
