import FieldRules.Value.Display

/-!
# Percent escapes

A percent sign with two hexadecimal digits stands for a byte. Bytes are read as UTF-8; where they
are none, the replacement character stands for them.
-/

namespace FieldRules.Percent

/-- The bytes of a text in ASCII with its escapes. -/
def bytesOf : List Char → List Nat
  | '%' :: a :: b :: rest =>
    match hexValue? a, hexValue? b with
    | some x, some y => (16 * x + y) :: bytesOf rest
    | _, _ => 37 :: bytesOf (a :: b :: rest)
  | c :: rest => c.toNat :: bytesOf rest
  | [] => []

/-- How a character begins in UTF-8: how many bytes follow the first one, the bits that the first
    one has, and the range of the second one. -/
def leading (b : Nat) : Option (Nat × Nat × Nat × Nat) :=
  if 0xC2 ≤ b && b ≤ 0xDF then some (1, b - 0xC0, 0x80, 0xBF)
  else if b = 0xE0 then some (2, 0, 0xA0, 0xBF)
  else if b = 0xED then some (2, 0xD, 0x80, 0x9F)
  else if 0xE0 < b && b ≤ 0xEF then some (2, b - 0xE0, 0x80, 0xBF)
  else if b = 0xF0 then some (3, 0, 0x90, 0xBF)
  else if 0xF0 < b && b < 0xF4 then some (3, b - 0xF0, 0x80, 0xBF)
  else if b = 0xF4 then some (3, 4, 0x80, 0x8F)
  else none

/-- Takes following bytes, up to the first one out of range: the bits so far and how many are still
    missing. -/
def following (bits least most : Nat) : Nat → List Nat → Nat × Nat × List Nat
  | missing + 1, b :: rest =>
    if least ≤ b && b ≤ most then following (64 * bits + (b - 0x80)) 0x80 0xBF missing rest
    else (bits, missing + 1, b :: rest)
  | missing, rest => (bits, missing, rest)

theorem following_length_le (bits least most missing : Nat) (bytes : List Nat) :
    (following bits least most missing bytes).2.2.length ≤ bytes.length := by
  induction bytes generalizing bits least most missing with
  | nil => cases missing <;> simp [following]
  | cons b rest ih =>
    cases missing with
    | zero => simp [following]
    | succ n =>
      rw [following]
      split
      · exact Nat.le_succ_of_le (ih ..)
      · simp

/-- Bytes as characters. -/
def decode : List Nat → List Char
  | [] => []
  | b :: rest =>
    if b < 0x80 then Char.ofNat b :: decode rest
    else
      match leading b with
      | none => '\uFFFD' :: decode rest
      | some (missing, bits, least, most) =>
        let r := following bits least most missing rest
        (if r.2.1 = 0 then Char.ofNat r.1 else '\uFFFD') :: decode r.2.2
termination_by bytes => bytes.length
decreasing_by
  · simp
  · simp
  · exact Nat.lt_succ_of_le (following_length_le ..)

/-- The escapes of a text undone, between characters beyond ASCII. -/
def unescapeRuns (run : List Char) : List Char → List Char
  | [] => decode (bytesOf run.reverse)
  | c :: rest =>
    if c.toNat < 0x80 then unescapeRuns (c :: run) rest
    else decode (bytesOf run.reverse) ++ c :: unescapeRuns [] rest

/-- A text with its escapes undone. -/
def unescape (s : String) : String :=
  if '%' ∈ s.toList then String.ofList (unescapeRuns [] s.toList) else s

end FieldRules.Percent
