/-!
Decoding of bytes that need not be valid UTF-8. Each maximal part that no character begins with, or
that breaks off inside a character, is replaced by U+FFFD.
-/

namespace LoxExpressions.Utf8

def replacement : Char := '\ufffd'

/-- What a lead byte says: its own bits, how many bytes follow, and the range of the next one. -/
structure Lead where
  bits : Nat
  followers : Nat
  low : UInt8
  high : UInt8

/-- Ranges leave out overlong forms, surrogates and numbers beyond the last character. -/
def lead? (byte : UInt8) : Option Lead :=
  if byte < 0x80 then some ⟨byte.toNat, 0, 0x80, 0xbf⟩
  else if byte < 0xc2 then none
  else if byte < 0xe0 then some ⟨byte.toNat % 32, 1, 0x80, 0xbf⟩
  else if byte = 0xe0 then some ⟨byte.toNat % 16, 2, 0xa0, 0xbf⟩
  else if byte = 0xed then some ⟨byte.toNat % 16, 2, 0x80, 0x9f⟩
  else if byte < 0xf0 then some ⟨byte.toNat % 16, 2, 0x80, 0xbf⟩
  else if byte = 0xf0 then some ⟨byte.toNat % 8, 3, 0x90, 0xbf⟩
  else if byte < 0xf4 then some ⟨byte.toNat % 8, 3, 0x80, 0xbf⟩
  else if byte = 0xf4 then some ⟨byte.toNat % 8, 3, 0x80, 0x8f⟩
  else none

/-- Reads the bytes that follow a lead; a byte out of range is left for the next character. -/
def follow (bits : Nat) (low high : UInt8) : Nat → List UInt8 → Char × List UInt8
  | 0, rest => (Char.ofNat bits, rest)
  | _ + 1, [] => (replacement, [])
  | followers + 1, byte :: rest =>
    if low ≤ byte ∧ byte ≤ high then
      follow (bits * 64 + byte.toNat % 64) 0x80 0xbf followers rest
    else
      (replacement, byte :: rest)

def first (byte : UInt8) (rest : List UInt8) : Char × List UInt8 :=
  match lead? byte with
  | some lead => follow lead.bits lead.low lead.high lead.followers rest
  | none => (replacement, rest)

theorem length_follow_le (bits : Nat) (low high : UInt8) (followers : Nat) (rest : List UInt8) :
    (follow bits low high followers rest).2.length ≤ rest.length := by
  fun_induction follow bits low high followers rest with
  | case1 => simp
  | case2 => simp
  | case3 => simp only [List.length_cons]; omega
  | case4 => simp

theorem length_first_le (byte : UInt8) (rest : List UInt8) :
    (first byte rest).2.length ≤ rest.length := by
  unfold first
  split
  · exact length_follow_le ..
  · simp

def decode : List UInt8 → List Char
  | [] => []
  | byte :: rest => (first byte rest).1 :: decode (first byte rest).2
  termination_by bytes => bytes.length
  decreasing_by
    have := length_first_le byte rest
    simp only [List.length_cons]
    omega

def decodeText (bytes : ByteArray) : String := String.ofList (decode bytes.data.toList)

end LoxExpressions.Utf8
