import ByteMachine.Interface.Source

/-!
# Reading a program

How the text of a program comes apart into lines, and which byte a literal stands for. The
binary numerals of a byte, whatever their width, are literals of it.
-/

set_option autoImplicit false

namespace ByteMachine

namespace Source

/-! ## Lines -/

/-- The lines of a text with one more character in the first line. -/
def lengthened (char : Char) : List (List Char) → List (List Char)
  | [] => [[char]]
  | line :: more => (char :: line) :: more

/-- A character that does not end a line, alone or before a line feed, begins the first
line. -/
theorem lines_cons {char : Char} {rest : List Char} (hchar : char ≠ '\n')
    (hreturn : char = '\r' → rest.head? ≠ some '\n') :
    lines (char :: rest) = lengthened char (lines rest) := by
  rw [lines]
  · rfl
  · exact hchar
  · rintro other rfl rfl
    exact hreturn rfl rfl

/-- A line that is not ended by a carriage return ends at the first line feed. -/
theorem lines_append_newline {line : List Char} (hnewline : '\n' ∉ line)
    (hreturn : line.getLast? ≠ some '\r') (rest : List Char) :
    lines (line ++ '\n' :: rest) = line :: lines rest := by
  induction line with
  | nil => rw [List.nil_append, lines]
  | cons char line ih =>
    rw [List.mem_cons, not_or] at hnewline
    have hlast : line.getLast? ≠ some '\r' := fun hlast =>
      hreturn (by rw [List.getLast?_cons, hlast]; rfl)
    rw [List.cons_append, lines_cons (Ne.symm hnewline.1), ih hnewline.2 hlast,
      lengthened]
    rintro rfl hhead
    cases line with
    | nil => exact hreturn rfl
    | cons following line => exact hnewline.2 (Option.some.inj hhead ▸ List.mem_cons_self)

/-- A text that does not begin with a blank is not shortened. -/
theorem dropWhile_isBlank_of_head {text : List Char}
    (h : ∀ char, text.head? = some char → isBlank char = false) :
    text.dropWhile isBlank = text := by
  cases text with
  | nil => rfl
  | cons char rest => exact List.dropWhile_cons_of_neg (by simp [h char rfl])

/-- A text that neither begins nor ends with a blank. -/
structure Bare (text : List Char) : Prop where
  head : ∀ char, text.head? = some char → isBlank char = false
  last : ∀ char, text.getLast? = some char → isBlank char = false

/-! ## Byte literals -/

/-- The value of a text of binary digits is the number they are the digits of. -/
theorem binaryValue?_eq_ofDigitChars {digits : List Char}
    (h : ∀ char ∈ digits, char = '0' ∨ char = '1') :
    binaryValue? digits = some (Nat.ofDigitChars 2 digits 0) := by
  unfold binaryValue?
  -- the value read so far is what varies along the text
  generalize 0 = value
  induction digits generalizing value with
  | nil => rfl
  | cons digit digits ih =>
    have hrest := ih fun char hmem => h char (List.mem_cons_of_mem _ hmem)
    rw [List.foldlM_cons, Nat.ofDigitChars_cons]
    obtain rfl | rfl := h digit List.mem_cons_self
    · exact hrest (2 * value)
    · exact hrest (2 * value + 1)

/-- Only binary digits have a binary value. -/
theorem binaryValue?_eq_some_iff {digits : List Char} {value : Nat} :
    binaryValue? digits = some value ↔
      (∀ char ∈ digits, char = '0' ∨ char = '1') ∧ Nat.ofDigitChars 2 digits 0 = value := by
  constructor
  · intro h
    have hdigits : ∀ char ∈ digits, char = '0' ∨ char = '1' := by
      unfold binaryValue? at h
      generalize 0 = read at h
      induction digits generalizing read with
      | nil => simp
      | cons digit digits ih =>
        rw [List.foldlM_cons] at h
        by_cases hzero : digit = '0'
        · rw [if_pos hzero] at h
          exact List.forall_mem_cons.mpr ⟨.inl hzero, ih _ h⟩
        · rw [if_neg hzero] at h
          by_cases hone : digit = '1'
          · rw [if_pos hone] at h
            exact List.forall_mem_cons.mpr ⟨.inr hone, ih _ h⟩
          · rw [if_neg hone] at h
            cases h
    rw [binaryValue?_eq_ofDigitChars hdigits] at h
    exact ⟨hdigits, Option.some.inj h⟩
  · rintro ⟨hdigits, rfl⟩
    exact binaryValue?_eq_ofDigitChars hdigits

/-- A text that stands for a byte: binary digits, behind a plus sign or none, whose value
is the byte. -/
def StandsFor (text : List Char) (value : UInt8) : Prop :=
  ∃ sign digits, text = sign ++ digits ∧ (sign = [] ∨ sign = ['+']) ∧ digits ≠ [] ∧
    (∀ char ∈ digits, char = '0' ∨ char = '1') ∧ Nat.ofDigitChars 2 digits 0 = value.toNat

/-- The digits of a literal: what stands behind a plus sign, if there is one. -/
def unsigned (text : List Char) : List Char :=
  if text.head? = some '+' then text.tail else text

/-- A literal is read in three steps, each of which can fail: there are digits, they are
binary, and they fit into a byte. -/
theorem literal?_eq (text : List Char) :
    literal? text =
      (if unsigned text ≠ [] then some () else none).bind fun _ =>
        (binaryValue? (unsigned text)).bind fun value =>
          (if value < 256 then some () else none).bind fun _ => some (UInt8.ofNat value) :=
  rfl

/-- A literal is read as a byte exactly if its digits have the byte's value. -/
theorem literal?_of_unsigned {text : List Char} {value : UInt8} :
    literal? text = some value ↔
      unsigned text ≠ [] ∧ binaryValue? (unsigned text) = some value.toNat := by
  rw [literal?_eq]
  by_cases hempty : unsigned text = []
  · simp [hempty]
  · rw [if_pos hempty, Option.bind_some]
    cases hread : binaryValue? (unsigned text) with
    | none => simp
    | some read =>
      rw [Option.bind_some, Option.some.injEq]
      by_cases hread : read < 256
      · rw [if_pos hread, Option.bind_some, Option.some.injEq]
        constructor
        · rintro rfl
          exact ⟨hempty, (UInt8.toNat_ofNat_of_lt' hread).symm⟩
        · rintro ⟨-, rfl⟩
          exact UInt8.ofNat_toNat
      · rw [if_neg hread, Option.bind_none]
        constructor
        · intro h
          cases h
        · rintro ⟨-, rfl⟩
          exact absurd value.toNat_lt hread

/-- A literal is read as the byte it stands for. -/
theorem literal?_eq_some_iff {text : List Char} {value : UInt8} :
    literal? text = some value ↔ StandsFor text value := by
  rw [literal?_of_unsigned, binaryValue?_eq_some_iff]
  constructor
  · intro h
    unfold unsigned at h
    by_cases hplus : text.head? = some '+'
    · obtain ⟨digits, rfl⟩ := List.head?_eq_some_iff.mp hplus
      rw [if_pos hplus] at h
      exact ⟨['+'], digits, rfl, .inr rfl, h⟩
    · rw [if_neg hplus] at h
      exact ⟨[], text, rfl, .inl rfl, h⟩
  · rintro ⟨sign, digits, rfl, hsign, hne, hdigits, hvalue⟩
    have hunsigned : unsigned (sign ++ digits) = digits := by
      obtain rfl | rfl := hsign
      · refine if_neg fun hplus => ?_
        obtain hzero | hone := hdigits '+' (List.mem_of_head? hplus)
        · exact absurd hzero (by decide)
        · exact absurd hone (by decide)
      · rfl
    rw [hunsigned]
    exact ⟨hne, hdigits, hvalue⟩

/-- A binary numeral is made of zeros and ones. -/
theorem mem_binary {width n : Nat} {char : Char} (h : char ∈ (Numeral.binary width n).toList) :
    char = '0' ∨ char = '1' := by
  rw [Numeral.binary, String.toList_ofList, List.leftpad, List.mem_append] at h
  obtain hpad | hdigit := h
  · exact .inl (List.eq_of_mem_replicate hpad)
  · obtain ⟨digit, hlt, rfl⟩ := Numeral.exists_digitChar (by omega) n hdigit
    obtain rfl | rfl : digit = 0 ∨ digit = 1 := by omega
    · exact .inl rfl
    · exact .inr rfl

/-- A binary numeral is never empty. -/
theorem binary_ne_nil (width n : Nat) : (Numeral.binary width n).toList ≠ [] := by
  rw [Numeral.binary, String.toList_ofList, List.leftpad]
  exact List.append_ne_nil_of_right_ne_nil _ Nat.toDigits_ne_nil

/-- The digits of a binary numeral have the value it was written for. -/
theorem ofDigitChars_binary (width n : Nat) :
    Nat.ofDigitChars 2 (Numeral.binary width n).toList 0 = n := by
  rw [Numeral.binary, String.toList_ofList, List.leftpad, Nat.ofDigitChars_append,
    Nat.ofDigitChars_replicate_zero, Nat.mul_zero]
  exact Nat.ofDigitChars_toDigits (by omega) (by omega)

/-- A binary numeral of a byte, filled to any width, stands for that byte, also behind a plus
sign. -/
theorem standsFor_binary {sign : List Char} (hsign : sign = [] ∨ sign = ['+']) (width : Nat)
    (value : UInt8) : StandsFor (sign ++ (Numeral.binary width value.toNat).toList) value :=
  ⟨sign, _, rfl, hsign, binary_ne_nil width value.toNat, fun _ => mem_binary,
    ofDigitChars_binary width value.toNat⟩

end Source

end ByteMachine
