import ByteMachine.Proofs.Grammar

/-!
# The layouts of a program

There are many ways to write the same program. Blanks may stand around a byte, a plus sign
and zeros in front of its digits, and a comment behind it; lines without a byte may stand
anywhere; and a line may end with a line feed, alone or behind a carriage return, or with
the text. A `Source.Layout` is a program with all these choices made, and reading its text
gives back its bytes.

A carriage return is a blank like others. So where a line ends with one and a line feed
follows, the line feed takes a character of the margin or of the comment along, which the
line can do without.
-/

set_option autoImplicit false

namespace ByteMachine

namespace Source

/-! ## Parts of a line -/

/-- Blanks within a line. -/
structure Margin where
  text : List Char
  blank : ∀ char ∈ text, isBlank char = true
  newline : '\n' ∉ text

/-- What stands behind a `#` until the end of the line. -/
structure Comment where
  text : List Char
  newline : '\n' ∉ text

/-- A byte with the choices that its literal leaves: a plus sign, and the number of zeros in
front of its binary digits. -/
structure Spelling where
  plus : Bool
  zeros : Nat
  value : UInt8
deriving DecidableEq

/-- The literal. -/
def Spelling.text (spelling : Spelling) : List Char :=
  (if spelling.plus then ['+'] else []) ++
    (List.replicate spelling.zeros '0' ++ Nat.toDigits 2 spelling.value.toNat)

/-- Zeros in front of the digits of a number fill its numeral to a width. -/
theorem replicate_append_toDigits (zeros n : Nat) :
    List.replicate zeros '0' ++ Nat.toDigits 2 n =
      (Numeral.binary (zeros + (Nat.toDigits 2 n).length) n).toList := by
  rw [Numeral.binary, String.toList_ofList, List.leftpad, Nat.add_sub_cancel]

/-- A literal stands for the byte it was spelled for, whatever its sign and its zeros. -/
theorem Spelling.standsFor (spelling : Spelling) : StandsFor spelling.text spelling.value := by
  rw [text, replicate_append_toDigits]
  apply standsFor_binary
  cases spelling.plus
  · exact .inl rfl
  · exact .inr rfl

/-- A literal is never empty. -/
theorem Spelling.text_ne_nil (spelling : Spelling) : spelling.text ≠ [] :=
  List.append_ne_nil_of_right_ne_nil _
    (List.append_ne_nil_of_right_ne_nil _ Nat.toDigits_ne_nil)

/-- A literal is made of plus signs, zeros and ones. -/
theorem StandsFor.mem {text : List Char} {value : UInt8} (h : StandsFor text value) {char : Char}
    (hchar : char ∈ text) : char = '+' ∨ char = '0' ∨ char = '1' := by
  obtain ⟨sign, digits, rfl, hsign, -, hdigits, -⟩ := h
  obtain hplus | hdigit := List.mem_append.mp hchar
  · obtain rfl | rfl := hsign
    · cases hplus
    · exact .inl (List.mem_singleton.mp hplus)
  · exact .inr (hdigits char hdigit)

/-! ## Lines -/

/-- A line without its end: a byte or none, between blanks, and a comment or none. -/
structure Line where
  front : Margin
  byte : Option Spelling
  back : Margin
  comment : Option Comment

namespace Line

/-- The literal in a line. -/
def literal (line : Line) : List Char :=
  line.byte.elim [] Spelling.text

/-- The comment of a line. -/
def remark (line : Line) : List Char :=
  line.comment.elim [] fun comment => '#' :: comment.text

/-- The text of a line. -/
def text (line : Line) : List Char :=
  line.front.text ++ line.literal ++ line.back.text ++ line.remark

/-- A literal has none of the characters that mean something in a line. -/
theorem plain_literal (line : Line) {char : Char} (hchar : char ∈ line.literal) :
    char ≠ '#' ∧ char ≠ '\n' ∧ isBlank char = false := by
  unfold literal at hchar
  cases hbyte : line.byte with
  | none =>
    rw [hbyte] at hchar
    cases hchar
  | some spelling =>
    rw [hbyte] at hchar
    obtain rfl | rfl | rfl := spelling.standsFor.mem hchar <;> decide

/-- A line says its literal, and nothing if it has none. -/
theorem says_literal (line : Line) : Says line.text line.literal := by
  have hblank : ∀ char ∈ line.front.text ++ line.back.text, isBlank char = true := by
    intro char hchar
    obtain hfront | hback := List.mem_append.mp hchar
    · exact line.front.blank char hfront
    · exact line.back.blank char hback
  refine ⟨⟨line.front.text, line.back.text, line.remark, rfl, ?_, ?_, hblank⟩, ?_, ?_⟩
  · intro hmem
    have hhash : isBlank '#' = false := by decide
    rw [List.append_assoc, List.mem_append, List.mem_append] at hmem
    obtain hfront | hliteral | hback := hmem
    · exact absurd (line.front.blank '#' hfront) (by simp [hhash])
    · exact (line.plain_literal hliteral).1 rfl
    · exact absurd (line.back.blank '#' hback) (by simp [hhash])
  · unfold remark
    cases line.comment with
    | none => exact .inl rfl
    | some comment => exact .inr rfl
  · exact fun char hchar => (line.plain_literal (List.mem_of_head? hchar)).2.2
  · exact fun char hchar => (line.plain_literal (List.mem_of_getLast? hchar)).2.2

/-- There is no line feed in a line. -/
theorem newline_notMem (line : Line) : '\n' ∉ line.text := by
  unfold text remark
  intro hmem
  simp only [List.mem_append] at hmem
  obtain ((hfront | hliteral) | hback) | hremark := hmem
  · exact line.front.newline hfront
  · exact (line.plain_literal hliteral).2.1 rfl
  · exact line.back.newline hback
  · cases hcomment : line.comment with
    | none =>
      rw [hcomment] at hremark
      cases hremark
    | some comment =>
      rw [hcomment] at hremark
      obtain hhash | htext := List.mem_cons.mp hremark
      · exact absurd hhash (by decide)
      · exact comment.newline htext

end Line

/-- How a line ends, if not with the text. -/
inductive Ending where
  | feed
  | returnFeed
deriving DecidableEq

/-- The characters that end a line. -/
def Ending.text : Ending → List Char
  | .feed => ['\n']
  | .returnFeed => ['\r', '\n']

/-! ## Reading a line -/

/-- A carriage return at the end of a line is a blank or belongs to the comment. -/
theorem content_append_return (line : List Char) : content (line ++ ['\r']) = content line := by
  obtain ⟨⟨front, back, comment, hline, hcode, hhead, hblank⟩, hbare⟩ :=
    says_iff.mpr (rfl : content line = content line)
  apply says_iff.mp
  refine ⟨?_, hbare⟩
  obtain rfl | hhash := hhead
  · refine ⟨front, back ++ ['\r'], [], ?_, ?_, .inl rfl, ?_⟩
    · rw [List.append_nil, ← List.append_assoc, ← List.append_nil (front ++ _ ++ back), ← hline]
    · rw [← List.append_assoc, List.mem_append, not_or]
      exact ⟨hcode, by decide⟩
    · intro char hchar
      rw [← List.append_assoc, List.mem_append] at hchar
      obtain hmargin | hreturn := hchar
      · exact hblank char hmargin
      · rw [List.mem_singleton.mp hreturn]
        decide
  · refine ⟨front, back, comment ++ ['\r'], ?_, hcode, .inr ?_, hblank⟩
    · rw [← List.append_assoc, ← hline]
    · rw [List.head?_append, hhash]
      rfl

/-- A line and its end are read as one line, which says the literal. -/
theorem Line.lines_append (line : Line) (ending : Ending) (rest : List Char) :
    ∃ found, lines (line.text ++ ending.text ++ rest) = found :: lines rest ∧
      content found = line.literal := by
  have hcontent : content line.text = line.literal := says_iff.mp line.says_literal
  rw [List.append_assoc]
  cases ending with
  | returnFeed => exact ⟨line.text, lines_append_returnFeed line.newline_notMem rest, hcontent⟩
  | feed =>
    by_cases hreturn : line.text.getLast? = some '\r'
    · -- the line feed takes the last character of the line along
      obtain ⟨found, hfound⟩ := List.getLast?_eq_some_iff.mp hreturn
      have hnewline : '\n' ∉ found := by
        intro hmem
        apply line.newline_notMem
        rw [hfound]
        exact List.mem_append_left _ hmem
      refine ⟨found, ?_, ?_⟩
      · rw [hfound, List.append_assoc]
        exact lines_append_returnFeed hnewline rest
      · rw [← content_append_return, ← hfound, hcontent]
    · exact ⟨line.text, lines_append_newline line.newline_notMem hreturn rest, hcontent⟩

/-! ## Layouts -/

/-- A way to write a program: its lines with their ends, and the last line, if it ends with
the text. -/
structure Layout where
  lines : List (Line × Ending)
  last : Option Line

namespace Layout

/-- The text of a layout. -/
def text (layout : Layout) : List Char :=
  (layout.lines.flatMap fun line => line.1.text ++ line.2.text) ++ layout.last.elim [] Line.text

/-- The literals of a layout, in order. -/
def spellings (layout : Layout) : List Spelling :=
  (layout.lines.filterMap fun line => line.1.byte) ++ (layout.last.bind Line.byte).toList

/-- The bytes of a layout. -/
def bytes (layout : Layout) : List UInt8 :=
  layout.spellings.map Spelling.value

/-- What the lines of a text say, without the lines that say nothing. -/
def said (text : List Char) : List (List Char) :=
  ((Source.lines text).map content).filter (· ≠ [])

end Layout

/-- What a line says counts if there is a byte in the line. -/
theorem Line.filter_literal (line : Line) (rest : List (List Char)) :
    (line.literal :: rest).filter (· ≠ []) =
      line.byte.toList.map Spelling.text ++ rest.filter (· ≠ []) := by
  unfold literal
  cases line.byte with
  | none => rfl
  | some spelling => exact List.filter_cons_of_pos (decide_eq_true spelling.text_ne_nil)

namespace Layout

/-- A last line that ends with the text says its literal, if it has one. -/
theorem said_last (line : Line) : said line.text = line.byte.toList.map Spelling.text := by
  have hcontent : content line.text = line.literal := says_iff.mp line.says_literal
  have hline := line.filter_literal []
  rw [said]
  by_cases hempty : line.text = []
  · -- an empty last line is no line, and has no byte
    rw [← hcontent, hempty, List.filter_nil, List.append_nil] at hline
    rw [hempty]
    exact hline
  · rw [lines_of_last hempty line.newline_notMem, List.map_singleton, hcontent, hline,
      List.filter_nil, List.append_nil]

/-- The lines of a layout say its literals, and nothing else. -/
theorem said_text (layout : Layout) :
    said layout.text = layout.spellings.map Spelling.text := by
  obtain ⟨ended, last⟩ := layout
  induction ended with
  | nil =>
    cases last with
    | none => rfl
    | some line => exact said_last line
  | cons line ended ih =>
    obtain ⟨found, hlines, hcontent⟩ := line.1.lines_append line.2 (text ⟨ended, last⟩)
    have htext : text ⟨line :: ended, last⟩ =
        line.1.text ++ line.2.text ++ text ⟨ended, last⟩ := by
      simp [text]
    have hspellings : spellings ⟨line :: ended, last⟩ =
        line.1.byte.toList ++ spellings ⟨ended, last⟩ := by
      cases hbyte : line.1.byte <;> simp [spellings, hbyte]
    rw [said, htext, hlines, List.map_cons, hcontent, Line.filter_literal, hspellings,
      List.map_append, ← ih]
    rfl

/-- Reading a layout gives the bytes that were written. -/
theorem parse_text (layout : Layout) : parse (String.ofList layout.text) = .ok layout.bytes := by
  apply ((parseLines_iff 1 _).1 layout.bytes).mpr
  have hsaid := layout.said_text
  rw [said] at hsaid
  rw [String.toList_ofList, hsaid, bytes, List.forall₂_map_left_iff, List.forall₂_map_right_iff,
    List.forall₂_same]
  exact fun spelling _ => spelling.standsFor

/-! ## The plain layout -/

/-- The line of a byte with eight digits and nothing else. -/
def plainLine (value : UInt8) : Line where
  front := ⟨[], by simp, by simp⟩
  byte := some ⟨false, 8 - (Nat.toDigits 2 value.toNat).length, value⟩
  back := ⟨[], by simp, by simp⟩
  comment := none

/-- The layout with such a line for each byte, all of which end with line feeds. -/
def plain (bytes : List UInt8) : Layout where
  lines := bytes.map fun value => (plainLine value, .feed)
  last := none

/-- The plain layout of some bytes has these bytes. -/
theorem bytes_plain (bytes : List UInt8) : (plain bytes).bytes = bytes := by
  induction bytes with
  | nil => rfl
  | cons value bytes ih => exact congrArg (value :: ·) ih

/-- The rendering has one line for each byte. -/
theorem toList_render_cons (value : UInt8) (bytes : List UInt8) :
    (render (value :: bytes)).toList =
      (Numeral.binary 8 value.toNat).toList ++ '\n' :: (render bytes).toList := by
  simp [render, String.join_cons]

/-- The plain layout is written as the rendering. -/
theorem text_plain (bytes : List UInt8) : (plain bytes).text = (render bytes).toList := by
  induction bytes with
  | nil => rfl
  | cons value bytes ih =>
    have htext : (plain (value :: bytes)).text =
        (plainLine value).text ++ '\n' :: (plain bytes).text := by
      simp [plain, text, Ending.text]
    have hline : (plainLine value).text = (Numeral.binary 8 value.toNat).toList := by
      rw [Numeral.binary, String.toList_ofList]
      simp [plainLine, Line.text, Line.literal, Line.remark, Spelling.text, List.leftpad]
    rw [htext, hline, ih, toList_render_cons]

/-- The numeral of a byte in the rendering has eight digits. -/
theorem length_binary (value : UInt8) : (Numeral.binary 8 value.toNat).toList.length = 8 := by
  have hdigits : (Nat.toDigits 2 value.toNat).length ≤ 8 :=
    (Nat.length_toDigits_le_iff (by omega) (by omega)).mpr value.toNat_lt
  rw [Numeral.binary, String.toList_ofList, List.length_leftpad]
  exact Nat.max_eq_left hdigits

end Layout

/-- Reading a program that was written plainly gives its bytes. -/
theorem parse_render (bytes : List UInt8) : parse (render bytes) = .ok bytes := by
  have hparse := (Layout.plain bytes).parse_text
  rwa [Layout.text_plain, String.ofList_toList, Layout.bytes_plain] at hparse

/-- Reading undoes writing: whatever the layout, the text of a program is read as its bytes.
The plain rendering, which has eight binary digits and a line feed for each byte, is one of
the layouts of these bytes, so it is read back whatever their number. -/
theorem parse_of_layout :
    (∀ layout : Layout, parse (String.ofList layout.text) = .ok layout.bytes) ∧
    (∀ bytes, (Layout.plain bytes).bytes = bytes ∧
      String.ofList (Layout.plain bytes).text = render bytes) ∧
    (∀ value : UInt8, (Numeral.binary 8 value.toNat).toList.length = 8 ∧
      ∀ char ∈ (Numeral.binary 8 value.toNat).toList, char = '0' ∨ char = '1') ∧
    ∀ bytes, parse (render bytes) = .ok bytes := by
  refine ⟨Layout.parse_text, ?_, fun value => ⟨Layout.length_binary value, fun _ => mem_binary⟩,
    parse_render⟩
  intro bytes
  exact ⟨Layout.bytes_plain bytes, by rw [Layout.text_plain, String.ofList_toList]⟩

/-! ## A crowded layout -/

/-- Two bytes among blanks, comments and empty lines, where a carriage return is a blank, ends
a comment, or belongs to the end of a line, and the last line ends with the text. -/
def Layout.crowded : Layout where
  lines := [
    (⟨⟨['\u0085'], List.all_eq_true.mp rfl, by decide⟩, some ⟨true, 2, 3⟩,
      ⟨['\r', ' '], List.all_eq_true.mp rfl, by decide⟩,
      some ⟨" two # \r".toList, by decide⟩⟩, .returnFeed),
    (⟨⟨['\r'], List.all_eq_true.mp rfl, by decide⟩, none, ⟨[], by simp, by simp⟩, none⟩, .feed),
    (⟨⟨[], by simp, by simp⟩, none, ⟨[], by simp, by simp⟩, some ⟨[], by simp⟩⟩, .feed)]
  last := some ⟨⟨['\u2028', ' '], List.all_eq_true.mp rfl, by decide⟩, some ⟨false, 0, 1⟩,
    ⟨['\t'], List.all_eq_true.mp rfl, by decide⟩, none⟩

/-- The crowded layout is read as its two bytes, and it is not the plain layout of them. -/
theorem parse_of_crowded :
    String.ofList Layout.crowded.text =
        "\u0085+0011\r # two # \r\r\n\r\n#\n\u2028 1\t" ∧
      Layout.crowded.bytes = [3, 1] ∧
      parse "\u0085+0011\r # two # \r\r\n\r\n#\n\u2028 1\t" = .ok [3, 1] ∧
      render [3, 1] = "00000011\n00000001\n" ∧ parse "00000011\n00000001\n" = .ok [3, 1] := by
  obtain ⟨hlayout, -, -, hrender⟩ := parse_of_layout
  have htext : String.ofList Layout.crowded.text =
      "\u0085+0011\r # two # \r\r\n\r\n#\n\u2028 1\t" := by decide +kernel
  have hplain : render [3, 1] = "00000011\n00000001\n" := by decide +kernel
  refine ⟨htext, rfl, ?_, hplain, ?_⟩
  · rw [← htext]
    exact hlayout Layout.crowded
  · rw [← hplain]
    exact hrender [3, 1]

end Source

end ByteMachine
