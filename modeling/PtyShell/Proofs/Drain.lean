import PtyShell.Drain
import PtyShell.Proofs.Host

namespace PtyShell

namespace Drain

/-- The bytes of the output before its first empty chunk, which reads like the end of the stream. -/
def stream (output : List (List UInt8)) : List UInt8 :=
  (output.takeWhile fun chunk => !chunk.isEmpty).flatten

@[simp] theorem stream_nil : stream [] = [] := rfl

@[simp] theorem stream_empty (rest : List (List UInt8)) : stream ([] :: rest) = [] := rfl

@[simp] theorem stream_cons (byte : UInt8) (chunk : List UInt8) (rest : List (List UInt8)) :
    stream ((byte :: chunk) :: rest) = byte :: chunk ++ stream rest := rfl

theorem stream_eq_flatten {output : List (List UInt8)} (full : [] ∉ output) :
    stream output = output.flatten := by
  induction output with
  | nil => rfl
  | cons chunk rest ih =>
      rw [List.mem_cons, not_or] at full
      cases chunk with
      | nil => exact absurd rfl full.1
      | cons byte chunk => rw [stream_cons, ih full.2, List.flatten_cons]

theorem flatten_left (left : List UInt8) (others : List (List UInt8)) :
    (if left.isEmpty then others else left :: others).flatten = left ++ others.flatten := by
  cases left <;> rfl

theorem stream_left (left : List UInt8) (others : List (List UInt8)) :
    stream (if left.isEmpty then others else left :: others) = left ++ stream others := by
  cases left <;> rfl

theorem takeChunk_none {size : Nat} {output : List (List UInt8)}
    (nothing : Host.takeChunk size output = none) : output = [] := by
  cases output with
  | nil => rfl
  | cons chunk others => cases nothing

theorem takeChunk_sized {size : Nat} {output rest : List (List UInt8)} {bytes : List UInt8}
    (taken : Host.takeChunk size output = some (bytes, rest)) : bytes.length ≤ size := by
  cases output with
  | nil => cases taken
  | cons chunk others =>
      cases taken
      exact List.length_take_le size chunk

theorem takeChunk_flatten {size : Nat} {output rest : List (List UInt8)} {bytes : List UInt8}
    (taken : Host.takeChunk size output = some (bytes, rest)) :
    bytes ++ rest.flatten = output.flatten := by
  cases output with
  | nil => cases taken
  | cons chunk others =>
      cases taken
      rw [flatten_left, ← List.append_assoc, List.take_append_drop, List.flatten_cons]

theorem takeChunk_stream {size : Nat} (positive : 0 < size) {output rest : List (List UInt8)}
    {bytes : List UInt8} (taken : Host.takeChunk size output = some (bytes, rest)) :
    stream output = if bytes = [] then [] else bytes ++ stream rest := by
  cases output with
  | nil => cases taken
  | cons chunk others =>
      cases taken
      cases chunk with
      | nil => simp
      | cons byte chunk =>
          have some : (byte :: chunk).take size ≠ [] := by
            simp only [ne_eq, List.take_eq_nil_iff, reduceCtorEq, or_false]
            omega
          rw [if_neg some, stream_left, ← List.append_assoc, List.take_append_drop, stream_cons]

def readHost (host : Host) (output : List (List UInt8)) : Host :=
  { host.record (.read readSize) with output := output }

/-- The rules for the steps of a drain. -/
inductive Step (fd : Option Fd) (host : Host) : DrainPoint → Progress → Prop
  | piece {bytes : List UInt8} {output : List (List UInt8)}
      (opened : fd = some .master ∧ host.isOpen .master = true)
      (taken : Host.takeChunk readSize host.output = some (bytes, output)) (some : bytes ≠ []) :
      Step fd host .reading ⟨.reading, bytes, readHost host output⟩
  | empty {output : List (List UInt8)}
      (opened : fd = some .master ∧ host.isOpen .master = true)
      (taken : Host.takeChunk readSize host.output = some ([], output)) :
      Step fd host .reading ⟨.ended, [], readHost host output⟩
  | block (opened : fd = some .master ∧ host.isOpen .master = true) (spent : host.output = [])
      (running : host.returncode = none) :
      Step fd host .reading ⟨.blocked, [], host.record (.read readSize)⟩
  | last (opened : fd = some .master ∧ host.isOpen .master = true) (spent : host.output = [])
      (exited : host.returncode ≠ none) :
      Step fd host .reading ⟨.ended, [], host.record (.read readSize)⟩
  | refused (closed : ¬(fd = some .master ∧ host.isOpen .master = true)) :
      Step fd host .reading ⟨.ended, [], host.record (.read readSize)⟩
  | wake (exited : host.returncode ≠ none) : Step fd host .blocked ⟨.ended, [], host⟩

theorem lastRead_running {host : Host} (running : host.returncode = none) :
    host.lastRead = .blocked := by
  simp [Host.lastRead, running]

theorem lastRead_exited {host : Host} (exited : host.returncode ≠ none) :
    host.lastRead ≠ .blocked ∧ after host.lastRead = (.ended, []) := by
  obtain ⟨code, ended⟩ := Option.ne_none_iff_exists'.mp exited
  cases how : host.readEnd <;> simp [Host.lastRead, ended, how, after]

section Reads

variable {host : Host} {fd : Option Fd}

theorem read_data (opened : fd = some .master ∧ host.isOpen .master = true) {bytes : List UInt8}
    {output : List (List UInt8)}
    (taken : Host.takeChunk readSize host.output = some (bytes, output)) :
    host.read fd readSize = (.data bytes, readHost host output) := by
  have recorded : Host.takeChunk readSize (host.record (.read readSize)).output =
    some (bytes, output) := taken
  unfold Host.read
  simp only [recorded]
  exact if_pos opened

theorem read_spent (opened : fd = some .master ∧ host.isOpen .master = true)
    (spent : host.output = []) :
    host.read fd readSize = (host.lastRead, host.record (.read readSize)) := by
  have recorded : Host.takeChunk readSize (host.record (.read readSize)).output = none := by
    rw [show (host.record (.read readSize)).output = [] from spent]
    rfl
  unfold Host.read
  simp only [recorded]
  exact if_pos opened

theorem read_closed (closed : ¬(fd = some .master ∧ host.isOpen .master = true)) :
    host.read fd readSize = (.failed Host.badDescriptor, host.record (.read readSize)) := by
  unfold Host.read
  exact if_neg closed

end Reads

section Steps

variable {host : Host} {fd : Option Fd} {point : DrainPoint} {progress : Progress}

private theorem reading_cases (taken : step fd host .reading = some progress) :
    Step fd host .reading progress := by
  simp only [step, Option.some.injEq] at taken
  subst taken
  by_cases opened : fd = some .master ∧ host.isOpen .master = true
  · cases found : Host.takeChunk readSize host.output with
    | none =>
        have spent := takeChunk_none found
        rw [read_spent opened spent]
        by_cases running : host.returncode = none
        · rw [lastRead_running running]
          exact .block opened spent running
        · rw [(lastRead_exited running).2]
          exact .last opened spent running
    | some pair =>
        obtain ⟨bytes, output⟩ := pair
        rw [read_data opened found]
        cases bytes with
        | nil => exact .empty opened found
        | cons byte bytes => exact .piece opened found (List.cons_ne_nil byte bytes)
  · rw [read_closed opened]
    exact .refused opened

theorem step_woken (exited : host.returncode ≠ none) :
    step fd host .blocked = some ⟨.ended, [], host⟩ := by
  obtain ⟨wakes, ends⟩ := lastRead_exited exited
  unfold step
  cases last : host.lastRead with
  | blocked => exact absurd last wakes
  | data bytes =>
      rw [last] at ends
      simp only [ends]
  | failed fault =>
      rw [last] at ends
      simp only [ends]

theorem step_cases (taken : step fd host point = some progress) : Step fd host point progress := by
  cases point with
  | reading => exact reading_cases taken
  | blocked =>
      by_cases running : host.returncode = none
      · simp [step, lastRead_running running] at taken
      · rw [step_woken running] at taken
        cases taken
        exact .wake running
  | ended => cases taken

theorem step_none (stuck : step fd host point = none) :
    point = .ended ∨ (point = .blocked ∧ host.returncode = none) := by
  cases point with
  | reading => cases stuck
  | blocked =>
      by_cases running : host.returncode = none
      · exact Or.inr ⟨rfl, running⟩
      · rw [step_woken running] at stuck
        cases stuck
  | ended => exact Or.inl rfl

end Steps

/-- What a drain has yet to read. -/
def rest (host : Host) : DrainPoint → List UInt8
  | .reading => stream host.output
  | .blocked | .ended => []

theorem rest_output {before after : Host} (same : after.output = before.output)
    (point : DrainPoint) : rest after point = rest before point := by
  cases point <;> simp only [rest, same]

def remaining (host : Host) : DrainPoint → Nat
  | .reading => host.unread + 2
  | .blocked => 1
  | .ended => 0

section Step

variable {host : Host} {point : DrainPoint} {progress : Progress}

theorem Step.same {fd : Option Fd} (taken : Step fd host point progress) :
    progress.host =
      { host with output := progress.host.output, trace := progress.host.trace } := by
  cases taken <;> rfl

/-- What a drain has read and what it has yet to read make up the stream at every step. -/
theorem Step.rest (opened : host.isOpen .master = true)
    (taken : Step (some .master) host point progress) :
    progress.bytes ++ Drain.rest progress.host progress.point = Drain.rest host point := by
  cases taken with
  | piece _ taken some =>
      have parts := takeChunk_stream (by decide) taken
      rw [if_neg some] at parts
      exact parts.symm
  | empty _ taken =>
      have ended := takeChunk_stream (by decide) taken
      exact ended.symm
  | block _ spent running =>
      show _ = stream host.output
      rw [spent]
      rfl
  | last _ spent exited =>
      show _ = stream host.output
      rw [spent]
      rfl
  | refused closed => exact absurd ⟨rfl, opened⟩ closed
  | wake exited => rfl

theorem Step.cut {fd : Option Fd} (taken : Step fd host point progress)
    (closed : host.isOpen .master = false) :
    progress.bytes = [] ∧ Drain.rest progress.host progress.point = [] := by
  cases taken with
  | refused _ | wake exited => exact ⟨rfl, rfl⟩
  | piece opened taken some | empty opened taken | block opened spent running
  | last opened spent exited =>
      rw [closed] at opened
      exact absurd opened.2 Bool.false_ne_true

theorem Step.flatten {fd : Option Fd} (taken : Step fd host point progress) :
    progress.bytes ++ progress.host.output.flatten = host.output.flatten := by
  cases taken with
  | piece _ taken some => exact takeChunk_flatten taken
  | empty _ taken => exact takeChunk_flatten taken
  | _ => rfl

theorem Step.left (opened : host.isOpen .master = true)
    (taken : Step (some .master) host point progress)
    (left : Drain.rest host point = host.output.flatten) :
    Drain.rest progress.host progress.point = progress.host.output.flatten := by
  have same : progress.bytes ++ Drain.rest progress.host progress.point =
      progress.bytes ++ progress.host.output.flatten := by
    rw [taken.rest opened, taken.flatten, left]
  exact List.append_cancel_left same

theorem Step.trace {fd : Option Fd} (taken : Step fd host point progress) :
    progress.host.trace = host.trace ++ [.read readSize] ∨ progress.host.trace = host.trace := by
  cases taken with
  | wake exited => exact Or.inr rfl
  | _ => exact Or.inl rfl

theorem Step.count {fd : Option Fd} (taken : Step fd host point progress)
    {property : Event → Bool} (silent : property (.read readSize) = false) :
    progress.host.trace.countP property = host.trace.countP property := by
  rcases taken.trace with read | still
  · rw [read, List.countP_append, List.countP_singleton, silent]
    rfl
  · rw [still]

theorem Step.continues {fd : Option Fd} (taken : Step fd host point progress) :
    host.Continues progress.host where
  pid := by rw [taken.same]
  faults := by rw [taken.same]
  waitFaults := by
    have same := congrArg Host.waitFaults taken.same
    exact ⟨[], same⟩
  returncode := by
    intro code ended
    rw [taken.same]
    exact ended
  trace := by
    rcases taken.trace with read | still
    · rw [read]
      exact List.prefix_append _ _
    · exact ⟨[], (List.append_nil _).trans still.symm⟩

theorem Step.closes {fd : Option Fd} (taken : Step fd host point progress) (other : Fd) :
    progress.host.closes other = host.closes other :=
  taken.count rfl

theorem Step.kills {fd : Option Fd} (taken : Step fd host point progress) :
    progress.host.kills = host.kills :=
  taken.count rfl

theorem Step.waits {fd : Option Fd} (taken : Step fd host point progress) :
    progress.host.waits = host.waits :=
  taken.count rfl

theorem Step.notices {fd : Option Fd} (taken : Step fd host point progress) :
    progress.host.notices = host.notices := by
  unfold Host.notices
  rcases taken.trace with read | still
  · rw [read, List.filterMap_append]
    exact List.append_nil _
  · rw [still]

theorem Step.remaining {fd : Option Fd} (taken : Step fd host point progress) :
    Drain.remaining progress.host progress.point < Drain.remaining host point := by
  cases taken with
  | @piece bytes output _ taken some =>
      have parts := congrArg List.length (takeChunk_flatten taken)
      have positive := List.length_pos_iff.mpr some
      rw [List.length_append] at parts
      show output.flatten.length + 2 < host.output.flatten.length + 2
      omega
  | _ => simp [Drain.remaining]

end Step

end Drain

end PtyShell
