import Mathlib.Data.List.Basic
import Mathlib.Data.List.TakeWhile

/-!
# Byte buffers and C strings

Buffers of the C++ code are lists of bytes, starting at the buffer's address.  A
list may be longer than the array it stands for: what follows is whatever the
stack holds there.  Reading past the end of a list yields zero.

Main results:

- Theorem {lit}`memcmp_terminated`: a keyword without a zero byte matches a
  zero-terminated line exactly when it is a prefix of the line, whatever bytes an
  earlier and longer line has left behind the terminator.
- Theorem {lit}`cString_terminated`: reading a C string back from behind a prefix
  of a terminated line.
-/

namespace SocketDispatcher

/-- One byte of memory. -/
abbrev Byte := UInt8

/-- The bytes of a string literal made of 8-bit characters. -/
def ascii (text : String) : List Byte :=
  text.toList.map fun c => UInt8.ofNat c.toNat

/-- {lit}`memcmp(buffer, keyword, sizeof(keyword) - 1) == 0`. -/
def memcmp (buffer keyword : List Byte) : Bool :=
  buffer.take keyword.length == keyword

/-- {lit}`memcpy(buffer, bytes, n)`: overwrite the front of a buffer. -/
def memcpy (buffer bytes : List Byte) : List Byte :=
  bytes ++ buffer.drop bytes.length

/-- The C string that starts at the front of a buffer. -/
def cString (buffer : List Byte) : List Byte :=
  buffer.takeWhile (· ≠ 0)

/-- The text that {lit}`%d` prints. -/
def decimal (value : Int) : List Byte :=
  (if value < 0 then ascii "-" else []) ++
    (Nat.toDigits 10 value.natAbs).map fun c => UInt8.ofNat c.toNat

/-! ## Keywords and terminated lines -/

theorem memcmp_iff (buffer keyword : List Byte) :
    memcmp buffer keyword = true ↔ keyword <+: buffer := by
  rw [memcmp, beq_iff_eq, List.prefix_iff_eq_take]
  exact eq_comm

/-- Stale bytes behind the terminator cannot complete a keyword. -/
theorem memcmp_terminated (keyword : List Byte) (hzero : 0 ∉ keyword)
    (line stale : List Byte) :
    memcmp (line ++ 0 :: stale) keyword = true ↔ keyword <+: line := by
  rw [memcmp_iff]
  constructor
  · intro hstart
    rcases List.prefix_or_prefix_of_prefix hstart (List.prefix_append line _) with
      hline | ⟨rest, rfl⟩
    · exact hline
    · -- the keyword is longer than the line, so it would contain the terminator
      cases rest with
      | nil => simp
      | cons b rest =>
          have hb : b = 0 :=
            (List.cons_prefix_cons.mp ((List.prefix_append_right_inj line).mp hstart)).1
          exact absurd (by simp [hb]) hzero
  · intro hline
    exact hline.trans (List.prefix_append line _)

theorem cString_of_zero_not_mem {text : List Byte} (hzero : 0 ∉ text) :
    cString text = text := by
  rw [cString, List.takeWhile_eq_self_iff]
  intro b hb
  simpa using fun h : b = 0 => hzero (h ▸ hb)

theorem zero_not_mem_cString (buffer : List Byte) : 0 ∉ cString buffer := by
  intro h
  simpa using List.mem_takeWhile_imp h

/-- The C string behind a terminated prefix ends at the terminator. -/
theorem cString_terminated (text stale : List Byte) :
    cString (text ++ 0 :: stale) = cString text := by
  induction text with
  | nil => simp [cString]
  | cons b text ih =>
      by_cases hb : b = 0
      · simp [cString, hb]
      · simpa [cString, hb] using ih

/-- The digits that {lit}`%d` prints are printable: neither a terminator nor a
line break. -/
theorem decimal_printable {value : Int} {b : Byte} (hb : b ∈ decimal value) :
    b ≠ 0 ∧ b ≠ 10 := by
  rw [decimal, List.mem_append] at hb
  rcases hb with hsign | hdigit
  · split at hsign
    · have : b = 45 := by simpa [ascii] using hsign
      subst b
      decide
    · simp at hsign
  · rcases List.mem_map.mp hdigit with ⟨c, hc, rfl⟩
    have hdig := Nat.isDigit_of_mem_toDigits (by decide) (by decide) hc
    have hrange : 48 ≤ c.toNat ∧ c.toNat ≤ 57 := by
      simpa [Char.isDigit, UInt32.le_iff_toNat_le] using hdig
    constructor <;> intro h <;>
      · have hnat := congrArg UInt8.toNat h
        simp at hnat
        omega

end SocketDispatcher
