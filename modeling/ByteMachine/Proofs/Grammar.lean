import Mathlib.Data.List.Forall2
import Mathlib.Data.List.TakeWhile
import ByteMachine.Proofs.Reading

/-!
# The grammar of programs

Which texts are programs, as relations that do not read from left to right: how a text
divides into lines, what a line says, and which literal stands for which byte. Each of
the readers is the only solution of its relation, so `Source.grammar_of_parse` can say of
every text whether it is a program, which bytes it holds, and which of its lines is the
first bad one.
-/

set_option autoImplicit false

namespace ByteMachine

namespace Source

/-! ## Lines -/

/-- How a text divides into lines: at line feeds and nowhere else. A line feed takes one
carriage return before it along, and what stands behind the last one is a line unless it
is empty. -/
inductive Divides : List Char → List (List Char) → Prop where
  | nothing : Divides [] []
  | last {line : List Char} : line ≠ [] → '\n' ∉ line → Divides line [line]
  | feed {line rest : List Char} {more : List (List Char)} : '\n' ∉ line →
      line.getLast? ≠ some '\r' → Divides rest more →
      Divides (line ++ '\n' :: rest) (line :: more)
  | returnFeed {line rest : List Char} {more : List (List Char)} : '\n' ∉ line →
      Divides rest more → Divides (line ++ '\r' :: '\n' :: rest) (line :: more)

/-- A text without a line feed is one line, unless it is empty. -/
theorem lines_of_last {line : List Char} (hne : line ≠ []) (hnewline : '\n' ∉ line) :
    lines line = [line] := by
  induction line with
  | nil => exact absurd rfl hne
  | cons char line ih =>
    rw [List.mem_cons, not_or] at hnewline
    rw [lines_cons (Ne.symm hnewline.1) fun _ hhead => hnewline.2 (List.mem_of_head? hhead)]
    cases line with
    | nil => rfl
    | cons following line => rw [ih (List.cons_ne_nil _ _) hnewline.2, lengthened]

/-- A line ends before the first carriage return that stands before a line feed. -/
theorem lines_append_returnFeed {line : List Char} (hnewline : '\n' ∉ line) (rest : List Char) :
    lines (line ++ '\r' :: '\n' :: rest) = line :: lines rest := by
  induction line with
  | nil => rw [List.nil_append, lines]
  | cons char line ih =>
    rw [List.mem_cons, not_or] at hnewline
    rw [List.cons_append, lines_cons (Ne.symm hnewline.1), ih hnewline.2, lengthened]
    intro _ hhead
    cases line with
    | nil => cases hhead
    | cons following line => exact hnewline.2 (Option.some.inj hhead ▸ List.mem_cons_self)

/-- A text divides in no other way. -/
theorem Divides.lines {text : List Char} {found : List (List Char)} (h : Divides text found) :
    lines text = found := by
  induction h with
  | nothing => rfl
  | last hne hnewline => exact lines_of_last hne hnewline
  | feed hnewline hreturn _ ih => rw [lines_append_newline hnewline hreturn, ih]
  | returnFeed hnewline _ ih => rw [lines_append_returnFeed hnewline, ih]

/-- A character that does not end a line lengthens the first line. -/
theorem Divides.cons {char : Char} {rest : List Char} {found : List (List Char)}
    (hchar : char ≠ '\n') (hreturn : char = '\r' → rest.head? ≠ some '\n')
    (h : Divides rest found) :
    Divides (char :: rest) (lengthened char found) := by
  have hmem : ∀ line : List Char, '\n' ∉ line → '\n' ∉ char :: line := by
    intro line hline
    rw [List.mem_cons, not_or]
    exact ⟨Ne.symm hchar, hline⟩
  cases h with
  | nothing => exact .last (List.cons_ne_nil _ _) (hmem [] List.not_mem_nil)
  | last _ hnewline => exact .last (List.cons_ne_nil _ _) (hmem _ hnewline)
  | @feed line rest more hnewline hlast hrest =>
    refine .feed (hmem line hnewline) ?_ hrest
    cases line with
    | nil => exact fun heq => hreturn (Option.some.inj heq) rfl
    | cons following line => exact hlast
  | @returnFeed line rest more hnewline hrest => exact .returnFeed (hmem line hnewline) hrest

/-- The reader divides a text as the relation says. -/
theorem divides_lines (text : List Char) : Divides text (lines text) := by
  have hhead : ∀ {char : Char} {rest : List Char},
      (∀ more, char = '\r' → rest = '\n' :: more → False) →
      char = '\r' → rest.head? ≠ some '\n' := by
    intro char rest hreturn hchar hfeed
    obtain ⟨more, hrest⟩ := List.head?_eq_some_iff.mp hfeed
    exact hreturn more hchar hrest
  -- the cases are those of the reader: a line ends, or goes on with one more character
  fun_induction lines text with
  | case1 => exact .nothing
  | case2 rest ih => exact @Divides.feed [] rest _ List.not_mem_nil (by simp) ih
  | case3 rest ih => exact @Divides.returnFeed [] rest _ List.not_mem_nil ih
  | case4 char rest hchar hreturn hnone ih =>
    have hcons := ih.cons hchar (hhead hreturn)
    rwa [hnone] at hcons
  | case5 char rest hchar hreturn line more hsome ih =>
    have hcons := ih.cons hchar (hhead hreturn)
    rwa [hsome] at hcons

/-! ## What a line says -/

/-- What a line says: what stands before its first `#`, between blanks. -/
structure Says (line said : List Char) : Prop where
  parts : ∃ front back comment, line = front ++ said ++ back ++ comment ∧
    '#' ∉ front ++ said ++ back ∧ (comment = [] ∨ comment.head? = some '#') ∧
    ∀ char ∈ front ++ back, isBlank char = true
  bare : Bare said

/-- Blanks in front of a text are dropped with those of the text. -/
theorem dropWhile_blank_append {blanks : List Char} (h : ∀ char ∈ blanks, isBlank char = true)
    (text : List Char) : (blanks ++ text).dropWhile isBlank = text.dropWhile isBlank :=
  List.dropWhile_append_of_pos h

/-- Blanks around a text are taken away. -/
theorem trim_append {front said back : List Char}
    (hblank : ∀ char ∈ front ++ back, isBlank char = true) (hbare : Bare said) :
    trim (front ++ said ++ back) = said := by
  have hfront : ∀ char ∈ front, isBlank char = true :=
    fun char hchar => hblank char (List.mem_append_left back hchar)
  have hback : ∀ char ∈ back, isBlank char = true :=
    fun char hchar => hblank char (List.mem_append_right front hchar)
  rw [List.append_assoc, trim, dropWhile_blank_append hfront]
  -- if nothing stands between the blanks, they are all taken from the front
  cases said with
  | nil => rw [List.nil_append, List.dropWhile_eq_nil_iff.mpr hback]; rfl
  | cons char rest =>
    have hstays : (char :: rest ++ back).dropWhile isBlank = char :: rest ++ back :=
      dropWhile_isBlank_of_head hbare.head
    have hlast : (char :: rest).reverse.dropWhile isBlank = (char :: rest).reverse := by
      apply dropWhile_isBlank_of_head
      intro other hother
      exact hbare.last other (List.head?_reverse ▸ hother)
    rw [hstays, List.reverse_append, dropWhile_blank_append, hlast, List.reverse_reverse]
    exact fun other hother => hback other (List.mem_reverse.mp hother)

/-- What is left of a text when its blanks are taken away, and what was taken. -/
theorem exists_trim (text : List Char) :
    ∃ front back, text = front ++ trim text ++ back ∧
      (∀ char ∈ front ++ back, isBlank char = true) ∧ Bare (trim text) := by
  have hdrop : ∀ (other : List Char) (char : Char),
      (other.dropWhile isBlank).head? = some char → isBlank char = false := by
    intro other char hchar
    have hnot := List.head?_dropWhile_not isBlank other
    rw [hchar] at hnot
    simpa using hnot
  have hrest : text.dropWhile isBlank = trim text ++
      ((text.dropWhile isBlank).reverse.takeWhile isBlank).reverse := by
    rw [trim, ← List.reverse_append, List.takeWhile_append_dropWhile, List.reverse_reverse]
  refine ⟨text.takeWhile isBlank, ((text.dropWhile isBlank).reverse.takeWhile isBlank).reverse,
    ?_, ?_, ?_, ?_⟩
  · rw [List.append_assoc, ← hrest, List.takeWhile_append_dropWhile]
  · intro char hchar
    rw [List.mem_append, List.mem_reverse] at hchar
    obtain hfront | hback := hchar
    · exact List.mem_takeWhile_imp hfront
    · exact List.mem_takeWhile_imp hback
  · intro char hchar
    refine hdrop text char ?_
    rw [hrest, List.head?_append, hchar]
    rfl
  · intro char hchar
    rw [trim, List.getLast?_reverse] at hchar
    exact hdrop _ char hchar

/-- A line says what is read from it, and nothing else. -/
theorem says_iff {line said : List Char} : Says line said ↔ content line = said := by
  constructor
  · rintro ⟨⟨front, back, comment, rfl, hcode, hhead, hblank⟩, hbare⟩
    have hcomment : comment.takeWhile (· != '#') = [] := by
      obtain rfl | hhash := hhead
      · rfl
      · obtain ⟨rest, rfl⟩ := List.head?_eq_some_iff.mp hhash
        exact List.takeWhile_cons_of_neg (by simp)
    have htake : (front ++ said ++ back ++ comment).takeWhile (· != '#') =
        front ++ said ++ back := by
      rw [List.takeWhile_append_of_pos, hcomment, List.append_nil]
      intro char hchar
      exact bne_iff_ne.mpr fun heq => hcode (heq ▸ hchar)
    rw [content, htake, trim_append hblank hbare]
  · rintro rfl
    obtain ⟨front, back, htrim, hblank, hbare⟩ := exists_trim (line.takeWhile (· != '#'))
    refine ⟨⟨front, back, line.dropWhile (· != '#'), ?_, ?_, ?_, hblank⟩, hbare⟩
    · rw [content, ← htrim, List.takeWhile_append_dropWhile]
    · rw [content, ← htrim]
      intro hmem
      simpa using List.mem_takeWhile_imp hmem
    · have hnot := List.head?_dropWhile_not (· != '#') line
      cases hdrop : line.dropWhile (· != '#') with
      | nil => exact .inl rfl
      | cons char rest =>
        rw [hdrop] at hnot
        exact .inr (congrArg some (by simpa using hnot))

/-- What the lines of a text say, one after the other. -/
def Reads (text : List Char) (said : List (List Char)) : Prop :=
  ∃ found, Divides text found ∧ List.Forall₂ Says found said

/-- A text is read as what its lines say. -/
theorem reads_iff {text : List Char} {said : List (List Char)} :
    Reads text said ↔ (lines text).map content = said := by
  have hsaid : ∀ found : List (List Char),
      List.Forall₂ Says found said ↔ found.map content = said := by
    intro found
    have hcontent : Says = fun line said => content line = said :=
      funext fun line => funext fun said => propext says_iff
    rw [hcontent, ← List.forall₂_map_left_iff, List.forall₂_eq_eq_eq]
  constructor
  · rintro ⟨found, hdivides, hfound⟩
    rw [hdivides.lines]
    exact (hsaid found).mp hfound
  · intro h
    exact ⟨lines text, divides_lines text, (hsaid _).mpr h⟩

/-! ## Programs -/

/-- The first of some lines, counted from a number on, that says something which stands for
no byte. -/
def FirstBad (number : Nat) (said : List (List Char)) (bad : BadLine) : Prop :=
  ∃ before text behind, said = before ++ text :: behind ∧ text ≠ [] ∧
    (¬ ∃ value, StandsFor text value) ∧
    (∀ other ∈ before, other = [] ∨ ∃ value, StandsFor other value) ∧
    bad = ⟨number + before.length, String.ofList text⟩

/-- A line that says nothing or stands for a byte is not the first bad one. -/
theorem firstBad_cons {number : Nat} {text : List Char} {said : List (List Char)} {bad : BadLine}
    (h : text = [] ∨ ∃ value, StandsFor text value) :
    FirstBad number (text :: said) bad ↔ FirstBad (number + 1) said bad := by
  constructor
  · rintro ⟨before, found, behind, hsaid, hne, hbad, hgood, rfl⟩
    cases before with
    | nil =>
      cases hsaid
      obtain hempty | hvalue := h
      · exact absurd hempty hne
      · exact absurd hvalue hbad
    | cons first before =>
      cases hsaid
      refine ⟨before, found, behind, rfl, hne, hbad, ?_, ?_⟩
      · exact fun other hother => hgood other (List.mem_cons_of_mem _ hother)
      · rw [List.length_cons, Nat.add_assoc, Nat.add_comm 1]
  · rintro ⟨before, found, behind, rfl, hne, hbad, hgood, rfl⟩
    refine ⟨text :: before, found, behind, rfl, hne, hbad, List.forall_mem_cons.mpr ⟨h, hgood⟩, ?_⟩
    rw [List.length_cons, Nat.add_assoc, Nat.add_comm 1]

/-- A line that says something which stands for no byte is the first bad one. -/
theorem firstBad_cons_of_bad {number : Nat} {text : List Char} {said : List (List Char)}
    {bad : BadLine} (hne : text ≠ []) (hbad : ¬ ∃ value, StandsFor text value) :
    FirstBad number (text :: said) bad ↔ bad = ⟨number, String.ofList text⟩ := by
  constructor
  · rintro ⟨before, found, behind, hsaid, -, -, hgood, rfl⟩
    cases before with
    | nil =>
      cases hsaid
      rfl
    | cons first before =>
      cases hsaid
      obtain hempty | hvalue := hgood text List.mem_cons_self
      · exact absurd hempty hne
      · exact absurd hvalue hbad
  · rintro rfl
    exact ⟨[], text, said, rfl, hne, hbad, by simp, rfl⟩

/-- Reading succeeds if all lines that say something stand for bytes, and gives those bytes;
otherwise it stops at the first bad line. -/
theorem parseLines_iff (number : Nat) (found : List (List Char)) :
    (∀ bytes, parseLines number found = .ok bytes ↔
      List.Forall₂ StandsFor ((found.map content).filter (· ≠ [])) bytes) ∧
    ∀ bad, parseLines number found = .error bad ↔ FirstBad number (found.map content) bad := by
  induction found generalizing number with
  | nil =>
    refine ⟨fun bytes => ?_, fun bad => ?_⟩
    · simp [parseLines, eq_comm]
    · simp [parseLines, FirstBad]
  | cons line found ih =>
    obtain ⟨hok, herror⟩ := ih (number + 1)
    rw [parseLines, List.map_cons]
    by_cases hempty : content line = []
    · rw [if_pos hempty]
      refine ⟨fun bytes => ?_, fun bad => ?_⟩
      · rw [hok, List.filter_cons_of_neg (by simp [hempty])]
      · rw [herror, firstBad_cons (.inl hempty)]
    · rw [if_neg hempty, List.filter_cons_of_pos (by simp [hempty])]
      cases hliteral : literal? (content line) with
      | some value =>
        have hvalue := literal?_eq_some_iff.mp hliteral
        refine ⟨fun bytes => ?_, fun bad => ?_⟩
        · rw [List.forall₂_cons_left_iff]
          constructor
          · intro h
            cases hrest : parseLines (number + 1) found with
            | error bad =>
              rw [hrest] at h
              cases h
            | ok rest =>
              rw [hrest] at h
              cases h
              exact ⟨value, rest, hvalue, (hok rest).mp hrest, rfl⟩
          · rintro ⟨other, rest, hother, hrest, rfl⟩
            -- a literal stands for one byte only
            obtain rfl : value = other :=
              Option.some.inj (hliteral.symm.trans (literal?_eq_some_iff.mpr hother))
            rw [(hok rest).mpr hrest]
            rfl
        · rw [firstBad_cons (.inr ⟨value, hvalue⟩), ← herror]
          cases parseLines (number + 1) found <;> simp [Except.map]
      | none =>
        have hnone : ¬ ∃ value, StandsFor (content line) value := by
          rintro ⟨value, hvalue⟩
          rw [literal?_eq_some_iff.mpr hvalue] at hliteral
          cases hliteral
        refine ⟨fun bytes => ?_, fun bad => ?_⟩
        · rw [List.forall₂_cons_left_iff]
          constructor
          · intro h
            cases h
          · rintro ⟨value, -, hvalue, -⟩
            exact absurd ⟨value, hvalue⟩ hnone
        · rw [firstBad_cons_of_bad hempty hnone, Except.error.injEq, eq_comm]

/-- There is no line feed in a line. -/
theorem newline_notMem_lines {text line : List Char} {found : List (List Char)}
    (h : Divides text found) (hline : line ∈ found) : '\n' ∉ line := by
  induction h with
  | nothing => cases hline
  | last _ hnewline => exact List.mem_singleton.mp hline ▸ hnewline
  | feed hnewline _ _ ih | returnFeed hnewline _ ih =>
    obtain rfl | hmore := List.mem_cons.mp hline
    · exact hnewline
    · exact ih hmore

/-- What a line says has no comment in it and no blanks around it. -/
theorem Says.plain {line said : List Char} (h : Says line said) (hnewline : '\n' ∉ line) :
    '#' ∉ said ∧ '\n' ∉ said ∧ Bare said := by
  obtain ⟨⟨front, back, comment, rfl, hcode, -, -⟩, hbare⟩ := h
  refine ⟨fun hmem => hcode ?_, fun hmem => hnewline ?_, hbare⟩
  · exact List.mem_append_left _ (List.mem_append_right _ hmem)
  · exact List.mem_append_left _ (List.mem_append_left _ (List.mem_append_right _ hmem))

/-- A text has one reading. It is a program exactly if in that reading each line says
nothing or stands for a byte, and then these are its bytes in their order. Otherwise the
first line that does neither is reported, with its number among all lines and with what it
says, which is not empty and has neither a comment, nor a line feed, nor blanks around it. -/
theorem grammar_of_parse (text : String) :
    ∃ said, Reads text.toList said ∧ (∀ other, Reads text.toList other → other = said) ∧
      (∀ bytes, parse text = .ok bytes ↔
        List.Forall₂ StandsFor (said.filter (· ≠ [])) bytes) ∧
      (∀ bad, parse text = .error bad ↔ FirstBad 1 said bad) ∧
      ∀ bad, parse text = .error bad →
        bad.text.toList ≠ [] ∧ '#' ∉ bad.text.toList ∧ '\n' ∉ bad.text.toList ∧
          Bare bad.text.toList := by
  obtain ⟨hok, herror⟩ := parseLines_iff 1 (lines text.toList)
  refine ⟨(lines text.toList).map content, reads_iff.mpr rfl, ?_, hok, herror, ?_⟩
  · exact fun other hother => (reads_iff.mp hother).symm
  · intro bad hbad
    obtain ⟨before, said, behind, hsaid, hne, -, -, rfl⟩ := (herror bad).mp hbad
    have hmem : said ∈ (lines text.toList).map content := by
      rw [hsaid]
      exact List.mem_append_right _ List.mem_cons_self
    obtain ⟨line, hline, rfl⟩ := List.mem_map.mp hmem
    rw [String.toList_ofList]
    exact ⟨hne, (says_iff.mpr rfl).plain (newline_notMem_lines (divides_lines _) hline)⟩

/-! ## Three lines and a plus sign -/

/-- A comment line that ends with both characters, an empty line, and a literal of eleven
digits between a blank and a comment. -/
def threeLines : String :=
  "# two\r\n\n +00000000010 # two\n"

/-- What the three lines say, from how they divide and not from the reader. -/
theorem reads_threeLines {rest : List Char} {said : List (List Char)} (h : Reads rest said) :
    Reads (threeLines.toList ++ rest) ([] :: [] :: "+00000000010".toList :: said) := by
  obtain ⟨found, hdivides, hsays⟩ := h
  refine ⟨"# two".toList :: [] :: " +00000000010 # two".toList :: found, ?_, ?_⟩
  · have hliteral := @Divides.feed " +00000000010 # two".toList _ _ (by decide) (by decide)
      hdivides
    have hempty := @Divides.feed [] _ _ (by decide) (by decide) hliteral
    exact @Divides.returnFeed "# two".toList _ _ (by decide) hempty
  · have hnothing : Bare [] := ⟨by simp, by simp⟩
    have hremark : Says "# two".toList [] :=
      ⟨⟨[], [], "# two".toList, rfl, by simp, .inr rfl, by simp⟩, hnothing⟩
    have hempty : Says [] [] := ⟨⟨[], [], [], rfl, by simp, .inl rfl, by simp⟩, hnothing⟩
    have hliteral : Says " +00000000010 # two".toList "+00000000010".toList :=
      ⟨⟨[' '], [' '], "# two".toList, rfl, by decide, .inr rfl, List.all_eq_true.mp rfl⟩,
        ⟨fun _ hchar => by cases hchar; rfl, fun _ hchar => by cases hchar; rfl⟩⟩
    exact .cons hremark (.cons hempty (.cons hliteral hsays))

/-- The literal of eleven digits stands for two. -/
theorem standsFor_eleven : StandsFor "+00000000010".toList 2 :=
  standsFor_binary (.inr rfl) 11 2

/-- A plus sign without digits stands for no byte. -/
theorem not_standsFor_plus : ¬ ∃ value, StandsFor ['+'] value := by
  rintro ⟨value, hvalue⟩
  have hnone : literal? ['+'] = none := by decide
  rw [literal?_eq_some_iff.mpr hvalue] at hnone
  cases hnone

/-- The three lines are a program of one byte. With a plus sign between a blank and a comment
behind them they are none: the plus sign is reported with its number among all lines and with
nothing around it. Neither text has another reading. -/
theorem grammar_of_threeLines :
    parse threeLines = .ok [2] ∧
    (∀ other, Reads threeLines.toList other → other = [[], [], "+00000000010".toList]) ∧
    parse (threeLines ++ " + #") = .error ⟨4, "+"⟩ ∧
    ∀ other, Reads (threeLines ++ " + #").toList other →
      other = [[], [], "+00000000010".toList, ['+']] := by
  have hthree := reads_threeLines ⟨[], .nothing, .nil⟩
  have hfour : Reads (threeLines ++ " + #").toList [[], [], "+00000000010".toList, ['+']] := by
    rw [String.toList_append]
    apply reads_threeLines
    refine ⟨[" + #".toList], .last (by decide) (by decide), .cons ⟨?_, ?_⟩ .nil⟩
    · exact ⟨[' '], [' '], ['#'], rfl, by decide, .inr rfl, List.all_eq_true.mp rfl⟩
    · exact ⟨fun _ hchar => by cases hchar; rfl, fun _ hchar => by cases hchar; rfl⟩
  obtain ⟨said, -, hunique, hok, -, -⟩ := grammar_of_parse threeLines
  obtain ⟨said', -, hunique', -, herror, -⟩ := grammar_of_parse (threeLines ++ " + #")
  obtain rfl := hunique _ hthree
  obtain rfl := hunique' _ hfour
  refine ⟨(hok [2]).mpr (.cons standsFor_eleven .nil), hunique, (herror _).mpr ?_, hunique'⟩
  refine ⟨[[], [], "+00000000010".toList], ['+'], [], rfl, by simp, not_standsFor_plus, ?_, rfl⟩
  simpa using (⟨2, standsFor_eleven⟩ : ∃ value, StandsFor _ value)

end Source

end ByteMachine
