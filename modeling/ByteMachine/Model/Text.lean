/-!
# Text as the machine writes it

Numerals in the three bases the machine and its files use, and the UTF-8 bytes
of a text. A numeral is built from the digits of the number alone: it has no
sign, and no leading zeros unless it is padded to a width.
-/

set_option autoImplicit false

namespace ByteMachine

/-! ## Numerals -/

namespace Numeral

/-- The decimal numeral of a number, without leading zeros. -/
def decimal (n : Nat) : String :=
  String.ofList (Nat.toDigits 10 n)

/-- The lower-case hexadecimal numeral, filled with zeros on the left to at
least `width` digits. -/
def lowerHex (width n : Nat) : String :=
  String.ofList (List.leftpad width '0' (Nat.toDigits 16 n))

/-- The upper-case hexadecimal numeral, filled with zeros on the left to at
least `width` digits. -/
def upperHex (width n : Nat) : String :=
  String.ofList (List.leftpad width '0' ((Nat.toDigits 16 n).map Char.toUpper))

/-- The binary numeral, filled with zeros on the left to at least `width`
digits. -/
def binary (width n : Nat) : String :=
  String.ofList (List.leftpad width '0' (Nat.toDigits 2 n))

/-- The digits of a numeral are those of the numbers below the base. -/
theorem exists_digitChar {base : Nat} (hbase : 1 < base) (n : Nat) {c : Char}
    (hc : c ∈ Nat.toDigits base n) : ∃ digit < base, c = digit.digitChar := by
  induction n using Nat.strongRecOn with
  | ind n ih =>
    rw [Nat.toDigits_eq_if hbase] at hc
    split at hc
    · next hlt => exact ⟨n, hlt, List.mem_singleton.mp hc⟩
    · obtain hfront | hlast := List.mem_append.mp hc
      · exact ih (n / base) (Nat.div_lt_self (by omega) hbase) hfront
      · exact ⟨n % base, Nat.mod_lt n (by omega), List.mem_singleton.mp hlast⟩

end Numeral

/-! ## Bytes of a text -/

/-- The UTF-8 bytes of a text, character by character. -/
def utf8 (text : String) : List UInt8 :=
  text.toList.flatMap String.utf8EncodeChar

/-- The text that bytes spell in UTF-8, if they spell one. -/
def utf8Text? (bytes : List UInt8) : Option String :=
  String.fromUTF8? (ByteArray.mk bytes.toArray)

/-- Appending texts appends their bytes. -/
@[simp] theorem utf8_append (a b : String) : utf8 (a ++ b) = utf8 a ++ utf8 b := by
  simp [utf8]

end ByteMachine
