import ByteMachine.Proofs.Layout

/-!
# Programs one behind the other

A text whose last line is ended can be continued, and what follows is read as if it stood alone.
So the bytes of such a text come first, then those of the text behind it, and a bad line of the
second text has the number that it has there, increased by the number of lines before it. If the
first text has a bad line itself, nothing behind it is looked at.

The lines that are read are not quite the pieces between line feeds: a carriage return before a
line feed is left out, and so is an empty last piece. Neither matters to the reader, which takes
blanks away and skips lines that say nothing. `Source.Divides.parseLines_rows` says so: instead of
its lines one can read the rows of a text, which can be taken apart at every line feed.
-/

set_option autoImplicit false

namespace ByteMachine

namespace Source

/-! ## Reading some lines -/

/-- Lines that say the same are read alike. -/
theorem parseLines_congr {number : Nat} {found other : List (List Char)}
    (h : found.map content = other.map content) :
    parseLines number found = parseLines number other := by
  induction found generalizing number other with
  | nil =>
    rw [List.map_nil, eq_comm, List.map_eq_nil_iff] at h
    rw [h]
  | cons line found ih =>
    cases other with
    | nil => simp at h
    | cons otherLine other =>
      rw [List.map_cons, List.map_cons, List.cons.injEq] at h
      rw [parseLines, parseLines, h.1, ih h.2]

/-- More lines are read after those in front of them, with numbers that go on, unless one of
those is bad. -/
theorem parseLines_append (number : Nat) (found more : List (List Char)) :
    parseLines number (found ++ more) =
      (parseLines number found).bind fun bytes =>
        (parseLines (number + found.length) more).map (bytes ++ ·) := by
  induction found generalizing number with
  | nil =>
    rw [List.nil_append, parseLines]
    cases parseLines number more <;> simp [Except.bind, Except.map]
  | cons line found ih =>
    have hnumber : number + (line :: found).length = number + 1 + found.length := by
      rw [List.length_cons]
      omega
    rw [List.cons_append, parseLines, parseLines, ih, hnumber]
    split
    · rfl
    · cases literal? (content line) with
      | none => rfl
      | some value =>
        cases parseLines (number + 1) found with
        | error bad => rfl
        | ok bytes => cases parseLines (number + 1 + found.length) more <;> rfl

/-- The bad line with so many lines before it. -/
def BadLine.behind (count : Nat) (bad : BadLine) : BadLine :=
  { bad with line := bad.line + count }

/-- The number of the first line is the only one that matters. -/
theorem parseLines_add (number count : Nat) (found : List (List Char)) :
    parseLines (number + count) found =
      (parseLines number found).mapError (BadLine.behind count) := by
  induction found generalizing number with
  | nil => rfl
  | cons line found ih =>
    rw [parseLines, parseLines, Nat.add_right_comm, ih]
    split
    · rfl
    · cases literal? (content line) with
      | none => rfl
      | some value => cases parseLines (number + 1) found <;> rfl

/-! ## Rows -/

/-- The pieces of a text between its line feeds. -/
def rows (text : List Char) : List (List Char) :=
  text.splitOn '\n'

/-- There is one row more than there are line feeds. -/
theorem length_rows (text : List Char) : (rows text).length = text.count '\n' + 1 := by
  unfold rows
  induction text with
  | nil => rfl
  | cons char text ih =>
    rw [List.splitOn_cons_eq_if_modifyHead]
    by_cases hfeed : char = '\n'
    · simp [hfeed, ih]
    · simp [hfeed, ih]

/-- A line feed ends a row, and the text behind it is divided on its own. -/
theorem rows_feed {line : List Char} (h : '\n' ∉ line) (rest : List Char) :
    rows (line ++ '\n' :: rest) = line :: rows rest :=
  List.splitOn_append_cons_self_of_not_mem h rest

/-- A carriage return before a line feed stays in its row. -/
theorem rows_returnFeed {line : List Char} (h : '\n' ∉ line) (rest : List Char) :
    rows (line ++ '\r' :: '\n' :: rest) = (line ++ ['\r']) :: rows rest := by
  have hrow : '\n' ∉ line ++ ['\r'] := by simp [h]
  rw [← rows_feed hrow, List.append_assoc, List.singleton_append]

/-- Reading gives the same whether the carriage return before a line feed is taken off or not. -/
theorem Divides.parseLines_rows {text : List Char} {found : List (List Char)}
    (h : Divides text found) (number : Nat) :
    parseLines number (rows text) = parseLines number found := by
  induction h generalizing number with
  | nothing => rfl
  | last _ hnewline => rw [rows, List.splitOn_eq_singleton hnewline]
  | feed hnewline _ _ ih => rw [rows_feed hnewline, parseLines, parseLines, ih]
  | returnFeed hnewline _ ih =>
    -- the row has kept a carriage return that the line has lost
    rw [rows_returnFeed hnewline, parseLines, parseLines, content_append_return, ih]

/-- A text that is empty or ends with a line feed. -/
def Closed (text : List Char) : Prop :=
  text = [] ∨ text.getLast? = some '\n'

instance (text : List Char) : Decidable (Closed text) :=
  inferInstanceAs (Decidable (_ ∨ _))

/-- Behind a closed text the rows are those of what stands there. -/
theorem exists_rows_append {text : List Char} (h : Closed text) :
    ∃ front, front.length = text.count '\n' ∧
      ∀ rest, rows (text ++ rest) = front ++ rows rest := by
  obtain rfl | hlast := h
  · exact ⟨[], rfl, fun rest => rfl⟩
  · obtain ⟨body, rfl⟩ := List.getLast?_eq_some_iff.mp hlast
    refine ⟨rows body, ?_, ?_⟩
    · simp [length_rows]
    · intro rest
      rw [List.append_assoc]
      exact List.splitOn_append_cons_self body rest

/-- What stands behind a closed text is read as if it stood alone, with other line numbers. -/
theorem parseLines_rows_append {text : List Char} (h : Closed text) (rest : List Char) :
    parseLines 1 (rows (text ++ rest)) =
      (parseLines 1 (rows text)).bind fun bytes =>
        ((parseLines 1 (rows rest)).mapError (BadLine.behind (text.count '\n'))).map
          (bytes ++ ·) := by
  obtain ⟨front, hlength, hrows⟩ := exists_rows_append h
  -- read alone, the text has one more row, which is empty and says nothing
  have halone : rows text = front ++ [[]] := by
    rw [← List.append_nil text, hrows]
    rfl
  have hfront : parseLines 1 (rows text) = parseLines 1 front := by
    rw [halone, parseLines_append]
    have hempty : parseLines (1 + front.length) [[]] = .ok [] := rfl
    cases parseLines 1 front <;> simp [Except.bind, Except.map, hempty]
  rw [hrows, hfront, parseLines_append, hlength, parseLines_add]

/-! ## Whole texts -/

/-- A text is read row by row, and the rows are counted from one. -/
theorem parse_eq (text : String) : parse text = parseLines 1 (rows text.toList) :=
  ((divides_lines text.toList).parseLines_rows 1).symm

/-- A closed text and the one behind it are read on their own, and the second counts its lines
behind those of the first. -/
theorem parse_append {text : String} (h : Closed text.toList) (more : String) :
    parse (text ++ more) =
      (parse text).bind fun bytes =>
        ((parse more).mapError (BadLine.behind (text.toList.count '\n'))).map (bytes ++ ·) := by
  rw [parse_eq, parse_eq, parse_eq, String.toList_append, parseLines_rows_append h]

/-- A single line is read as what it says. -/
theorem parse_line {line said : List Char} (hnewline : '\n' ∉ line) (h : Says line said) :
    (said = [] → parse (String.ofList (line ++ ['\n'])) = .ok []) ∧
    (∀ value, StandsFor said value → parse (String.ofList (line ++ ['\n'])) = .ok [value]) ∧
    (said ≠ [] → (¬ ∃ value, StandsFor said value) →
      parse (String.ofList (line ++ ['\n'])) = .error ⟨1, String.ofList said⟩) := by
  obtain rfl := says_iff.mp h
  rw [parse_eq, String.toList_ofList, rows_feed hnewline, parseLines]
  refine ⟨?_, ?_, ?_⟩
  · intro hempty
    rw [if_pos hempty]
    rfl
  · intro value hvalue
    have hliteral := literal?_eq_some_iff.mpr hvalue
    have hne : content line ≠ [] := by
      rintro hempty
      rw [hempty] at hliteral
      cases hliteral
    rw [if_neg hne, hliteral]
    rfl
  · intro hne hbad
    have hliteral : literal? (content line) = none := by
      rw [Option.eq_none_iff_forall_not_mem]
      exact fun value hvalue => hbad ⟨value, literal?_eq_some_iff.mp hvalue⟩
    rw [if_neg hne, hliteral]

/-- Reading respects appending. If a text is empty or ends with a line feed, then whatever
stands behind it is read after it: a bad line of the text is that of the whole, and otherwise its
bytes come before those behind it, or what is behind it has a bad line, which is that of the whole
and is counted from the beginning. Together with what single lines are read as, this leaves no
choice for any text whose last line is ended. -/
theorem parse_of_appended :
    (∀ text more : String, Closed text.toList →
      (∀ bad, parse text = .error bad → parse (text ++ more) = .error bad) ∧
      (∀ front back, parse text = .ok front → parse more = .ok back →
        parse (text ++ more) = .ok (front ++ back)) ∧
      ∀ front bad, parse text = .ok front → parse more = .error bad →
        parse (text ++ more) = .error ⟨bad.line + text.toList.count '\n', bad.text⟩) ∧
    ∀ line said, '\n' ∉ line → Says line said →
      (said = [] → parse (String.ofList (line ++ ['\n'])) = .ok []) ∧
      (∀ value, StandsFor said value → parse (String.ofList (line ++ ['\n'])) = .ok [value]) ∧
      (said ≠ [] → (¬ ∃ value, StandsFor said value) →
        parse (String.ofList (line ++ ['\n'])) = .error ⟨1, String.ofList said⟩) := by
  refine ⟨?_, fun line said => parse_line⟩
  intro text more hclosed
  rw [parse_append hclosed more]
  refine ⟨?_, ?_, ?_⟩
  · intro bad htext
    rw [htext]
    rfl
  · intro front back htext hmore
    rw [htext, hmore]
    rfl
  · intro front bad htext hmore
    rw [htext, hmore]
    rfl

/-- A byte, a blank line and a comment. -/
def heading : String :=
  "1\r\n\n# two\n"

/-- The appended text moves its bad line by the lines in front of it, and a bad line in front
is reported where it stands. A text that is not closed would have taken the digit behind it
into its comment. -/
theorem parse_of_heading :
    Closed heading.toList ∧ Closed "2\n".toList ∧
    parse heading = .ok [1] ∧ parse "\r\n+10" = .ok [2] ∧
    parse (heading ++ "\r\n+10") = .ok [1, 2] ∧
    parse "\r\n2" = .error ⟨2, "2"⟩ ∧ parse (heading ++ "\r\n2") = .error ⟨5, "2"⟩ ∧
    parse ("2\n" ++ heading) = .error ⟨1, "2"⟩ ∧
    Says ['#', '2'] [] ∧ parse (String.ofList ['#', '2', '\n']) = .ok [] := by
  obtain ⟨happended, hlines⟩ := parse_of_appended
  have hheading : Closed heading.toList := by decide +kernel
  have hbad : Closed "2\n".toList := by decide +kernel
  have hone : parse heading = .ok [1] := by decide +kernel
  have htwo : parse "\r\n+10" = .ok [2] := by decide +kernel
  have hnone : parse "\r\n2" = .error ⟨2, "2"⟩ := by decide +kernel
  have hremark : Says ['#', '2'] [] := says_iff.mpr rfl
  obtain ⟨-, hbytes, -⟩ := happended heading "\r\n+10" hheading
  obtain ⟨-, -, hlater⟩ := happended heading "\r\n2" hheading
  obtain ⟨hfirst, -⟩ := happended "2\n" heading hbad
  obtain ⟨hsilent, -⟩ := hlines _ _ (by decide) hremark
  exact ⟨hheading, hbad, hone, htwo, hbytes _ _ hone htwo, hnone, hlater _ _ hone hnone,
    hfirst _ (by decide +kernel), hremark, hsilent rfl⟩

end Source

end ByteMachine
