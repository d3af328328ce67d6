/-!
# UTF-8

Reading a text from bytes.  Bytes that are no UTF-8 are refused with the place of the first byte
that does not fit and the number of bytes that belong to the broken character.
-/

namespace BuildInjection.Text

/-- Where bytes stop being UTF-8. -/
structure Utf8Fault where
  /-- The number of bytes before the broken character. -/
  validUpTo : Nat
  /-- The number of bytes of the broken character; none if the bytes end inside a character. -/
  length : Option Nat
deriving DecidableEq, Repr

/-- The text that says where bytes stop being UTF-8. -/
def Utf8Fault.message (fault : Utf8Fault) : String :=
  match fault.length with
  | some n => s!"invalid utf-8 sequence of {n} bytes from index {fault.validUpTo}"
  | none => s!"incomplete utf-8 byte sequence from index {fault.validUpTo}"

/-- What the first byte of a character says: the number of bytes that follow, and the bounds within
    which the first of them must lie.  The bounds leave out overlong forms, surrogates and code
    points above U+10FFFF. -/
def leadByte? (b : UInt8) : Option (Nat × UInt8 × UInt8) :=
  if b < 0x80 then some (0, 0x80, 0xBF)
  -- 0xC0 and 0xC1 could only begin overlong forms
  else if 0xC2 ≤ b && b ≤ 0xDF then some (1, 0x80, 0xBF)
  else if b = 0xE0 then some (2, 0xA0, 0xBF)
  -- what would follow above 0x9F are surrogates
  else if b = 0xED then some (2, 0x80, 0x9F)
  else if 0xE1 ≤ b && b ≤ 0xEF then some (2, 0x80, 0xBF)
  else if b = 0xF0 then some (3, 0x90, 0xBF)
  else if 0xF1 ≤ b && b ≤ 0xF3 then some (3, 0x80, 0xBF)
  else if b = 0xF4 then some (3, 0x80, 0x8F)
  else none

/-- The bits of the code point that a first byte holds, when `n` bytes follow it. -/
def leadBits (n : Nat) (b : UInt8) : Nat :=
  match n with
  | 0 => b.toNat
  | 1 => b.toNat % 32
  | 2 => b.toNat % 16
  | _ => b.toNat % 8

/-- Read `n` bytes that follow a first byte; `low` and `high` bound the next one, `point` holds the
    bits read so far and `seen` counts the bytes. -/
def followingBytes (validUpTo : Nat) : Nat → UInt8 → UInt8 → Nat → Nat → List UInt8 →
    Except Utf8Fault (Char × List UInt8)
  | 0, _, _, point, _, rest => .ok (Char.ofNat point, rest)
  | _ + 1, _, _, _, _, [] => .error ⟨validUpTo, none⟩
  | n + 1, low, high, point, seen, b :: rest =>
    if low ≤ b && b ≤ high then
      -- only the byte right after the first one has bounds of its own
      followingBytes validUpTo n 0x80 0xBF (point * 64 + b.toNat % 64) (seen + 1) rest
    else .error ⟨validUpTo, some seen⟩

/-- Read one character. -/
def decodeChar (validUpTo : Nat) (b : UInt8) (rest : List UInt8) :
    Except Utf8Fault (Char × List UInt8) :=
  match leadByte? b with
  | none => .error ⟨validUpTo, some 1⟩
  | some (n, low, high) => followingBytes validUpTo n low high (leadBits n b) 1 rest

theorem length_of_followingBytes {validUpTo n : Nat} {low high : UInt8} {point seen : Nat}
    {bytes rest : List UInt8} {c : Char}
    (h : followingBytes validUpTo n low high point seen bytes = .ok (c, rest)) :
    rest.length ≤ bytes.length := by
  induction bytes generalizing n low high point seen with
  | nil => cases n <;> simp_all [followingBytes]
  | cons b bytes ih =>
    cases n with
    | zero => simp_all [followingBytes]
    | succ n =>
      simp only [followingBytes] at h
      split at h
      · exact Nat.le_succ_of_le (ih h)
      · simp at h

/-- Reading a character takes at least its first byte. -/
theorem length_of_decodeChar {validUpTo : Nat} {b : UInt8} {bytes rest : List UInt8} {c : Char}
    (h : decodeChar validUpTo b bytes = .ok (c, rest)) : rest.length < (b :: bytes).length := by
  simp only [decodeChar] at h
  split at h
  · simp at h
  · exact Nat.lt_succ_of_le (length_of_followingBytes h)

/-- Read the characters of some bytes, where `validUpTo` bytes came before and `done` holds their
    characters, last first. -/
def decodeFrom (validUpTo : Nat) (done : List Char) (bytes : List UInt8) :
    Except Utf8Fault (List Char) :=
  match bytes with
  | [] => .ok done.reverse
  | b :: bytes =>
    match h : decodeChar validUpTo b bytes with
    | .error fault => .error fault
    | .ok (c, rest) =>
      have : rest.length < (b :: bytes).length := length_of_decodeChar h
      -- a character has been read from as many bytes as it is written in
      decodeFrom (validUpTo + c.utf8Size) (c :: done) rest
termination_by bytes.length
decreasing_by exact this

/-- The text that some bytes hold. -/
def decodeUtf8 (bytes : List UInt8) : Except Utf8Fault String :=
  (decodeFrom 0 [] bytes).map String.ofList

end BuildInjection.Text
