import PtyShell.Text.Hexadecimal

/-!
# UTF-8

Strict decoding: surrogates, overlong forms and code points above U+10FFFF are refused. A refusal
says where the character that cannot be read starts and how many of its bytes were still good.
-/

namespace PtyShell.Text.Utf8

def encode (text : List Char) : List UInt8 :=
  text.flatMap String.utf8EncodeChar

inductive Problem
  | badStart
  | badContinuation
  | truncated
  deriving DecidableEq, Repr

/-- The bytes from `position` on cannot be read; `length` of them belong to the bad character. -/
structure Refusal where
  problem : Problem
  lead : UInt8
  position : Nat
  length : Nat
  deriving DecidableEq, Repr

/-- How a character that starts with a given byte goes on: its number of further bytes, the range of
the first of them, and the bits the lead byte contributes. -/
structure Shape where
  further : Nat
  least : Nat
  greatest : Nat
  bits : Nat
  deriving DecidableEq, Repr

def shape? (lead : UInt8) : Option Shape :=
  let b := lead.toNat
  if b < 0x80 then some ⟨0, 0x80, 0xBF, b⟩
  else if b < 0xC2 then none
  else if b < 0xE0 then some ⟨1, 0x80, 0xBF, b - 0xC0⟩
  else if b = 0xE0 then some ⟨2, 0xA0, 0xBF, 0⟩
  else if b = 0xED then some ⟨2, 0x80, 0x9F, 0xD⟩
  else if b < 0xF0 then some ⟨2, 0x80, 0xBF, b - 0xE0⟩
  else if b = 0xF0 then some ⟨3, 0x90, 0xBF, 0⟩
  else if b < 0xF4 then some ⟨3, 0x80, 0xBF, b - 0xF0⟩
  else if b = 0xF4 then some ⟨3, 0x80, 0x8F, 4⟩
  else none

def continuation (least greatest value taken : Nat) :
    Nat → List UInt8 → Except (Problem × Nat) Nat
  | 0, _ => .ok value
  | _ + 1, [] => .error (.truncated, taken)
  | further + 1, byte :: rest =>
    if least ≤ byte.toNat ∧ byte.toNat ≤ greatest then
      continuation 0x80 0xBF (value * 64 + (byte.toNat - 0x80)) (taken + 1) further rest
    else .error (.badContinuation, taken)

def decodeFrom (position : Nat) (bytes : List UInt8) : Except Refusal (List Char) :=
  match bytes with
  | [] => .ok []
  | lead :: rest =>
    match shape? lead with
    | none => .error ⟨.badStart, lead, position, 1⟩
    | some shape =>
      match continuation shape.least shape.greatest shape.bits 1 shape.further rest with
      | .error (problem, length) => .error ⟨problem, lead, position, length⟩
      | .ok point =>
        match decodeFrom (position + 1 + shape.further) (rest.drop shape.further) with
        | .error refusal => .error refusal
        | .ok text => .ok (Char.ofNat point :: text)
  termination_by bytes.length
  decreasing_by simp only [List.length_drop, List.length_cons]; omega

def decode (bytes : List UInt8) : Except Refusal (List Char) :=
  decodeFrom 0 bytes

def Problem.text : Problem → String
  | .badStart => "invalid start byte"
  | .badContinuation => "invalid continuation byte"
  | .truncated => "unexpected end of data"

def Refusal.message (refusal : Refusal) : String :=
  let place :=
    if refusal.length = 1 then
      "byte 0x" ++ String.ofList (hexadecimal 2 refusal.lead.toNat) ++
        " in position " ++ toString refusal.position
    else
      "bytes in position " ++ toString refusal.position ++ "-" ++
        toString (refusal.position + refusal.length - 1)
  "'utf-8' codec can't decode " ++ place ++ ": " ++ refusal.problem.text

end PtyShell.Text.Utf8
