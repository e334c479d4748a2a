import PtyShell.Proofs.Drain

/-! # Drains and the division of a stream

A drain hands on what it reads piece by piece, up to the first read that gives no bytes or fails,
and reads no further. So it does not matter into which chunks a stream is divided, nor how it ends:
the pieces come to the same bytes, and there is one read more than there are pieces. -/

namespace PtyShell.Drain

open Host (ReadResult)

section Sources

variable {σ : Type} {read : σ → ReadResult × σ} {source next : σ} {result : ReadResult}

/-- The loop of a drain over any source of reads. -/
def feed (read : σ → ReadResult × σ) : Nat → σ → List (List UInt8) × DrainPoint × σ
  | 0, source => ([], .reading, source)
  | fuel + 1, source =>
    let (result, next) := read source
    match after result with
    | (.reading, bytes) =>
      let (pieces, stop) := feed read fuel next
      (bytes :: pieces, stop)
    | (point, _) => ([], point, next)

def reads (read : σ → ReadResult × σ) : Nat → σ → List ReadResult × σ
  | 0, source => ([], source)
  | count + 1, source =>
    let (result, next) := read source
    let (results, last) := reads read count next
    (result :: results, last)

def Ends (result : ReadResult) : Prop :=
  result = .data [] ∨ ∃ fault, result = .failed fault

theorem Ends.after (ends : Ends result) : after result = (.ended, []) := by
  rcases ends with rfl | ⟨fault, rfl⟩ <;> rfl

theorem feed_piece {bytes : List UInt8} (some : bytes ≠ [])
    (given : read source = (.data bytes, next)) (fuel : Nat) :
    feed read (fuel + 1) source =
      (bytes :: (feed read fuel next).1, (feed read fuel next).2) := by
  obtain ⟨byte, rest, rfl⟩ := List.exists_cons_of_ne_nil some
  simp only [feed, given, after]

theorem feed_ends (ends : Ends result) (given : read source = (result, next)) (fuel : Nat) :
    feed read (fuel + 1) source = ([], .ended, next) := by
  simp only [feed, given, ends.after]

theorem feed_blocked (given : read source = (.blocked, next)) (fuel : Nat) :
    feed read (fuel + 1) source = ([], .blocked, next) := by
  simp only [feed, given, after]

/-- A source that gives these pieces, none of them empty, and then comes to an end. -/
structure Gives (read : σ → ReadResult × σ) (source : σ) (pieces : List (List UInt8))
    (last : ReadResult) : Prop where
  full : [] ∉ pieces
  ends : Ends last
  results : (reads read (pieces.length + 1) source).1 = pieces.map .data ++ [last]

/-- Whatever the source, what is handed on are its pieces, and nothing is read after its end. -/
theorem Gives.feed {pieces : List (List UInt8)} {last : ReadResult}
    (gives : Gives read source pieces last) (extra : Nat) :
    feed read (pieces.length + 1 + extra) source =
      (pieces, .ended, (reads read (pieces.length + 1) source).2) := by
  obtain ⟨full, ends, results⟩ := gives
  induction pieces generalizing source with
  | nil =>
      have only : read source = (last, (read source).2) := by
        simp only [reads, List.map_nil, List.nil_append, List.cons.injEq] at results
        exact Prod.ext results.1 rfl
      rw [List.length_nil, Nat.zero_add, Nat.add_comm, feed_ends ends only]
      rfl
  | cons piece rest ih =>
      rw [List.mem_cons, not_or] at full
      simp only [reads, List.map_cons, List.cons_append, List.cons.injEq] at results
      have first : read source = (.data piece, (read source).2) := Prod.ext results.1 rfl
      have later := ih full.2 results.2
      rw [List.length_cons, show rest.length + 1 + 1 + extra = rest.length + 1 + extra + 1 by omega,
        feed_piece (Ne.symm full.1) first, later]
      rfl

end Sources

section Hosts

variable {host : Host} {fd : Option Fd}

theorem pieces_ended (fd : Option Fd) (fuel : Nat) (host : Host) :
    pieces fd fuel host .ended = ([], .ended, host) := by
  cases fuel <;> rfl

theorem lastRead_ends (exited : host.returncode ≠ none) : Ends host.lastRead := by
  obtain ⟨code, ended⟩ := Option.ne_none_iff_exists'.mp exited
  unfold Host.lastRead
  rw [ended]
  cases host.readEnd with
  | error => exact Or.inr ⟨_, rfl⟩
  | empty => exact Or.inl rfl

theorem pieces_stopped {point : DrainPoint} (stopped : point ≠ .reading)
    (exited : host.returncode ≠ none) (fuel : Nat) :
    pieces fd (fuel + 1) host point = ([], .ended, host) := by
  cases point with
  | reading => exact absurd rfl stopped
  | blocked =>
      simp only [pieces, step_woken exited, pieces_ended]
      rfl
  | ended => exact pieces_ended fd _ host

theorem read_blocked {after : Host} (given : host.read fd readSize = (.blocked, after)) :
    after.lastRead = .blocked := by
  by_cases opened : fd = some .master ∧ host.isOpen .master = true
  · cases found : Host.takeChunk readSize host.output with
    | none =>
        rw [read_spent opened (takeChunk_none found)] at given
        obtain ⟨last, rfl⟩ := Prod.mk.inj given
        exact last
    | some pair =>
        rw [read_data opened found] at given
        cases given
  · rw [read_closed opened] at given
    cases given

theorem pieces_eq_feed (fd : Option Fd) (fuel : Nat) (host : Host) :
    pieces fd fuel host .reading = feed (Host.read fd readSize) fuel host := by
  induction fuel generalizing host with
  | zero => rfl
  | succ fuel ih =>
      cases given : host.read fd readSize with
      | mk result next =>
          cases result with
          | data bytes =>
              cases bytes with
              | nil =>
                  rw [feed_ends (Or.inl rfl) given]
                  simp only [pieces, step, given, after, pieces_ended]
                  rfl
              | cons byte bytes =>
                  rw [feed_piece (List.cons_ne_nil byte bytes) given, ← ih next]
                  simp only [pieces, step, given, after]
                  rfl
          | failed fault =>
              rw [feed_ends (Or.inr ⟨fault, rfl⟩) given]
              simp only [pieces, step, given, after, pieces_ended]
              rfl
          | blocked =>
              have waits := read_blocked given
              rw [feed_blocked given]
              simp only [pieces, step, given, after]
              cases fuel with
              | zero => rfl
              | succ fuel =>
                  simp only [pieces, step, waits]
                  rfl

/-- What a drain has made of a host when it stops: the pieces come to the stream, they were read one
by one, and one more read met the end. A drain that waits for the process ends when it exits. -/
structure Drained (host : Host) (outcome : List (List UInt8) × DrainPoint × Host) : Prop where
  bytes : outcome.1.flatten = stream host.output
  sized : ∀ piece ∈ outcome.1, piece ≠ [] ∧ piece.length ≤ readSize
  trace : outcome.2.2.trace =
    host.trace ++ List.replicate (outcome.1.length + 1) (.read readSize)
  stopped : outcome.2.1 ≠ .reading
  ended : host.returncode ≠ none → outcome.2.1 = .ended
  wakes : ∀ code fuel, pieces (some .master) (fuel + 1) (outcome.2.2.exit code) outcome.2.1 =
    ([], .ended, outcome.2.2.exit code)

theorem drained_nothing {point : DrainPoint} {after : Host} (nothing : stream host.output = [])
    (read : after.trace = host.trace ++ [.read readSize]) (stopped : point ≠ .reading)
    (ended : host.returncode ≠ none → point = .ended) : Drained host ([], point, after) where
  bytes := nothing.symm
  sized := fun _ member => absurd member List.not_mem_nil
  trace := read
  stopped := stopped
  ended := ended
  wakes := fun code fuel => pieces_stopped stopped (Host.exit_exited code after) fuel

theorem drained_piece {output : List (List UInt8)} {bytes : List UInt8}
    (taken : Host.takeChunk readSize host.output = some (bytes, output)) (some : bytes ≠ [])
    {outcome : List (List UInt8) × DrainPoint × Host}
    (drained : Drained (readHost host output) outcome) :
    Drained host (bytes :: outcome.1, outcome.2) where
  bytes := by
    have parts := takeChunk_stream (by decide) taken
    rw [if_neg some] at parts
    rw [parts, List.flatten_cons, drained.bytes]
    rfl
  sized := by
    intro piece member
    rcases List.mem_cons.mp member with rfl | member
    · exact ⟨some, takeChunk_sized taken⟩
    · exact drained.sized piece member
  trace := by
    have later := drained.trace
    rw [later, List.length_cons, List.replicate_succ]
    exact List.append_assoc host.trace [.read readSize] _
  stopped := drained.stopped
  ended := drained.ended
  wakes := drained.wakes

theorem feed_drained (opened : host.isOpen .master = true) {fuel : Nat}
    (enough : host.unread + 1 ≤ fuel) :
    Drained host (feed (Host.read (some .master) readSize) fuel host) := by
  induction fuel generalizing host with
  | zero => omega
  | succ fuel ih =>
      cases found : Host.takeChunk readSize host.output with
      | none =>
          have spent := takeChunk_none found
          have nothing : stream host.output = [] := by rw [spent]; rfl
          have given := read_spent ⟨rfl, opened⟩ spent
          by_cases running : host.returncode = none
          · rw [lastRead_running running] at given
            rw [feed_blocked given]
            exact drained_nothing nothing rfl DrainPoint.noConfusion
              fun exited => absurd running exited
          · rw [feed_ends (lastRead_ends running) given]
            exact drained_nothing nothing rfl DrainPoint.noConfusion fun _ => rfl
      | some pair =>
          obtain ⟨bytes, output⟩ := pair
          have given := read_data ⟨rfl, opened⟩ found
          by_cases empty : bytes = []
          · have nothing := takeChunk_stream (by decide) found
            rw [if_pos empty] at nothing
            rw [feed_ends (Or.inl (congrArg _ empty)) given]
            exact drained_nothing nothing rfl DrainPoint.noConfusion fun _ => rfl
          · rw [feed_piece empty given]
            have fewer := congrArg List.length (takeChunk_flatten found)
            have positive := List.length_pos_iff.mpr empty
            rw [List.length_append] at fewer
            have left : (readHost host output).unread + 1 ≤ fuel := by
              show output.flatten.length + 1 ≤ fuel
              unfold Host.unread at enough
              omega
            exact drained_piece found empty (ih opened left)

/-- Open hosts are drained, however their output is divided. -/
theorem pieces_drained (opened : host.isOpen .master = true) {fuel : Nat}
    (enough : bound host ≤ fuel) : Drained host (pieces (some .master) fuel host .reading) := by
  rw [pieces_eq_feed]
  unfold bound at enough
  exact feed_drained opened (by omega)

/-- How the bytes of a stream are divided into chunks, and how it ends, makes no difference to what
a drain hands on. A drain is a loop over reads; over every source it hands on the pieces that were
read before the end and reads no further; and from a host it reads the same bytes for every
division. -/
theorem drains_stream :
    (∀ fd fuel host, pieces fd fuel host .reading = feed (Host.read fd readSize) fuel host) ∧
    (∀ (σ : Type) (read : σ → ReadResult × σ) (source : σ) (parts : List (List UInt8))
      (last : ReadResult), Gives read source parts last → ∀ extra,
        feed read (parts.length + 1 + extra) source =
          (parts, .ended, (reads read (parts.length + 1) source).2)) ∧
    (∀ (host : Host) (fuel : Nat), host.isOpen .master = true → bound host ≤ fuel →
      Drained host (pieces (some .master) fuel host .reading)) ∧
    ∀ first second : Host, first.isOpen .master = true → second.isOpen .master = true →
      [] ∉ first.output → [] ∉ second.output → first.output.flatten = second.output.flatten →
      (all (some .master) first).1.flatten = first.output.flatten ∧
        (all (some .master) second).1.flatten = first.output.flatten := by
  refine ⟨pieces_eq_feed, fun _ _ _ _ _ gives extra => gives.feed extra,
    fun host fuel opened enough => pieces_drained opened enough, ?_⟩
  intro first second firstOpen secondOpen firstFull secondFull same
  have whole {host : Host} (opened : host.isOpen .master = true) (full : [] ∉ host.output) :
      (all (some .master) host).1.flatten = host.output.flatten := by
    rw [← stream_eq_flatten full]
    exact (pieces_drained opened Nat.le.refl).bytes
  exact ⟨whole firstOpen firstFull, (whole secondOpen secondFull).trans same.symm⟩

def greeting (output : List (List UInt8)) (readEnd : ReadEnd) : Host :=
  { Host.greeted with output := output, readEnd := readEnd, openFds := [.master] }

def replay : List ReadResult → ReadResult × List ReadResult
  | [] => (.failed Host.badDescriptor, [])
  | result :: results => (result, results)

/-- The same greeting in two and in three chunks, and from a source that would give more bytes after
its end. -/
theorem drains_stream_greeting :
    Drained (greeting [[104], [105], [10]] .empty)
        (all (some .master) (greeting [[104], [105], [10]] .empty)) ∧
      (all (some .master) (greeting [[104, 105], [10]] .error)).1.flatten = [104, 105, 10] ∧
      (all (some .master) (greeting [[104], [105], [10]] .empty)).1.flatten = [104, 105, 10] ∧
      feed replay 4 [.data [104, 105], .data [10], .data [], .data [33]] =
        ([[104, 105], [10]], .ended, [.data [33]]) := by
  obtain ⟨_, sources, hosts, divisions⟩ := drains_stream
  obtain ⟨first, second⟩ := divisions (greeting [[104, 105], [10]] .error)
    (greeting [[104], [105], [10]] .empty) rfl rfl (by decide) (by decide) rfl
  refine ⟨hosts _ _ rfl Nat.le.refl, first, second, ?_⟩
  exact sources _ replay _ [[104, 105], [10]] (.data []) ⟨by decide, Or.inl rfl, rfl⟩ 1

end Hosts

end PtyShell.Drain
