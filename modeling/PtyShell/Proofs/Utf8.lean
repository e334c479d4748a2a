import PtyShell.Text.Utf8

namespace PtyShell.Text.Utf8

theorem encodeChar_ascii {c : Char} (ascii : c.toNat < 0x80) :
    String.utf8EncodeChar c = [UInt8.ofNat c.toNat] :=
  if_pos (Nat.le_of_lt_succ ascii)

theorem decodeFrom_ascii {text : List Char} (ascii : ∀ c ∈ text, c.toNat < 0x80)
    (position : Nat) : decodeFrom position (encode text) = .ok text := by
  induction text generalizing position with
  | nil =>
      unfold encode decodeFrom
      rfl
  | cons c rest ih =>
      have here := ascii c List.mem_cons_self
      have later : ∀ next ∈ rest, next.toNat < 0x80 :=
        fun next member => ascii next (List.mem_cons_of_mem c member)
      have shape : shape? (UInt8.ofNat c.toNat) = some ⟨0, 0x80, 0xBF, c.toNat⟩ := by
        unfold shape?
        rw [UInt8.toNat_ofNat_of_lt' (Nat.lt_trans here (by decide)), if_pos here]
      have bytes : encode (c :: rest) = UInt8.ofNat c.toNat :: encode rest := by
        unfold encode
        rw [List.flatMap_cons, encodeChar_ascii here]
        rfl
      rw [bytes]
      unfold decodeFrom
      simp only [shape, continuation, List.drop_zero, ih later, Char.ofNat_toNat]

theorem decode_ascii {text : List Char} (ascii : text.all fun c => c.toNat < 0x80) :
    decode (encode text) = .ok text := by
  apply decodeFrom_ascii
  intro c member
  exact of_decide_eq_true (List.all_eq_true.mp ascii c member)

end PtyShell.Text.Utf8
