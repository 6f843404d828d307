import ByteMachine.Proofs.AppendedText

/-!
# Revisions of a program

Neither comments nor the way lines end have a part in what a program is. A comment may be put
behind any line or taken away from it, and any line may end with a line feed, alone or behind a
carriage return: reading gives the same bytes, or the same bad line with the same number and the
same text. This is so for every text, also for one that is no program.

A comment may be put on either side of a carriage return at the end of a line, so a line is here
any piece without a line feed, together with one of the two ends that follow it.
-/

set_option autoImplicit false

namespace ByteMachine

namespace Source

/-! ## What the rows of a text say -/

/-- What the rows of a text say, one after the other. -/
def contents (text : List Char) : List (List Char) :=
  (rows text).map content

/-- A text of one row says what that row says. -/
theorem contents_last {line : List Char} (h : '\n' ∉ line) : contents line = [content line] := by
  rw [contents, rows, List.splitOn_eq_singleton h, List.map_singleton]

/-- How a line ends does not show in what it says. -/
theorem contents_ended {line : List Char} (h : '\n' ∉ line) (ending : Ending)
    (rest : List Char) : contents (line ++ ending.text ++ rest) = content line :: contents rest := by
  rw [List.append_assoc]
  cases ending with
  | feed => exact congrArg (List.map content) (rows_feed h rest)
  | returnFeed =>
    have hrows := congrArg (List.map content) (rows_returnFeed h rest)
    rwa [List.map_cons, content_append_return] at hrows

/-- Texts that say the same are read alike, with the same bytes or the same bad line. -/
theorem parse_congr {text other : List Char} (h : contents text = contents other) :
    parse (String.ofList text) = parse (String.ofList other) := by
  rw [parse_eq, parse_eq, String.toList_ofList, String.toList_ofList]
  exact parseLines_congr h

/-- What the rows say decides what is read: the bytes that they stand for, or the first of them
that stands for none. -/
theorem parse_iff_contents (text : List Char) :
    (∀ bytes, parse (String.ofList text) = .ok bytes ↔
      List.Forall₂ StandsFor ((contents text).filter (· ≠ [])) bytes) ∧
    ∀ bad, parse (String.ofList text) = .error bad ↔ FirstBad 1 (contents text) bad := by
  rw [parse_eq, String.toList_ofList]
  exact parseLines_iff 1 (rows text)

/-! ## Revisions -/

/-- What may be done to a line. -/
inductive Edit where
  | keep
  /-- Put a comment behind it. -/
  | add (comment : Comment)
  /-- Take away what stands from its first `#` on. -/
  | remove

/-- The line that an edit makes of a line. -/
def Edit.apply : Edit → List Char → List Char
  | .keep, line => line
  | .add comment, line => line ++ '#' :: comment.text
  | .remove, line => line.takeWhile (· != '#')

/-- An edit does not change what a line says. -/
theorem Edit.content_apply (edit : Edit) (line : List Char) :
    content (edit.apply line) = content line := by
  cases edit with
  | keep => rfl
  | add comment =>
    have htake : (line ++ '#' :: comment.text).takeWhile (· != '#') =
        line.takeWhile (· != '#') := by
      rw [List.takeWhile_append]
      split
      · next hwhole =>
        rw [List.takeWhile_cons_of_neg (by simp), List.append_nil]
        exact ((List.takeWhile_prefix _).eq_of_length hwhole).symm
      · rfl
    rw [content, apply, htake, content]
  | remove => rw [content, apply, List.takeWhile_idem, content]

/-- An edit puts no line feed into a line. -/
theorem Edit.newline_notMem_apply (edit : Edit) {line : List Char} (h : '\n' ∉ line) :
    '\n' ∉ edit.apply line := by
  cases edit with
  | keep => exact h
  | add comment => simp [apply, h, comment.newline]
  | remove => exact fun hmem => h (List.takeWhile_subset _ hmem)

/-- A text and a revision of it, in which every line may have been edited and may end in another
way. -/
inductive Revised : List Char → List Char → Prop where
  | last (line : List Char) (edit : Edit) : '\n' ∉ line → Revised line (edit.apply line)
  | ended (line : List Char) (edit : Edit) (ending other : Ending) {rest revised : List Char} :
      '\n' ∉ line → Revised rest revised →
      Revised (line ++ ending.text ++ rest) (edit.apply line ++ other.text ++ revised)

/-- A revision says what the text says. -/
theorem Revised.contents_eq {text revised : List Char} (h : Revised text revised) :
    contents revised = contents text := by
  induction h with
  | last line edit hnewline =>
    rw [contents_last hnewline, contents_last (edit.newline_notMem_apply hnewline),
      edit.content_apply]
  | ended line edit ending other hnewline _ ih =>
    rw [contents_ended hnewline, contents_ended (edit.newline_notMem_apply hnewline),
      edit.content_apply, ih]

/-- The text with a carriage return before every line feed. -/
def withReturns (text : List Char) : List Char :=
  text.flatMap fun char => if char = '\n' then ['\r', '\n'] else [char]

/-- A text without a line feed stays as it is. -/
theorem withReturns_of_notMem {line : List Char} (h : '\n' ∉ line) : withReturns line = line := by
  have hkeeps : ∀ char ∈ line, (if char = '\n' then ['\r', '\n'] else [char]) = [char] := by
    intro char hchar
    apply if_neg
    rintro rfl
    exact h hchar
  rw [withReturns, List.flatMap_congr hkeeps, List.flatMap_singleton']

/-- A line feed gets its carriage return, and the text behind it is revised on its own. -/
theorem revised_withReturns_feed {line rest : List Char} (h : '\n' ∉ line)
    (hrest : Revised rest (withReturns rest)) :
    Revised (line ++ '\n' :: rest) (withReturns (line ++ '\n' :: rest)) := by
  have hline := withReturns_of_notMem h
  have htext : withReturns (line ++ '\n' :: rest) =
      line ++ Ending.returnFeed.text ++ withReturns rest := by
    rw [withReturns, List.flatMap_append, List.flatMap_cons, if_pos rfl, ← List.append_assoc]
    exact congrArg (· ++ ['\r', '\n'] ++ withReturns rest) hline
  rw [htext, ← List.singleton_append, ← List.append_assoc]
  exact .ended line .keep .feed .returnFeed h hrest

/-- A carriage return before every line feed is a revision of the ends of all lines but the
last one. A line that has one already keeps it. -/
theorem Divides.revised_withReturns {text : List Char} {found : List (List Char)}
    (h : Divides text found) : Revised text (withReturns text) := by
  induction h with
  | nothing => exact .last [] .keep List.not_mem_nil
  | @last line _ hnewline =>
    rw [withReturns_of_notMem hnewline]
    exact .last line .keep hnewline
  | feed hnewline _ _ ih => exact revised_withReturns_feed hnewline ih
  | @returnFeed line rest _ hnewline _ ih =>
    have hrow : '\n' ∉ line ++ ['\r'] := by simp [hnewline]
    have hfeed := revised_withReturns_feed hrow ih
    rwa [List.append_assoc, List.singleton_append] at hfeed

/-! ## One line of a text -/

/-- What may stand behind a line: nothing, or an end of the line and other lines. -/
def EndsLine (following : List Char) : Prop :=
  following = [] ∨ ∃ (ending : Ending) (rest : List Char), following = ending.text ++ rest

/-- A text whose first line is edited says the same. -/
theorem contents_edit {line following : List Char} (h : '\n' ∉ line)
    (hends : EndsLine following) (edit : Edit) :
    contents (edit.apply line ++ following) = contents (line ++ following) := by
  have hedited := edit.newline_notMem_apply h
  obtain rfl | ⟨ending, rest, rfl⟩ := hends
  · rw [List.append_nil, List.append_nil, contents_last hedited, contents_last h,
      edit.content_apply]
  · rw [← List.append_assoc, ← List.append_assoc, contents_ended hedited, contents_ended h,
      edit.content_apply]

/-- Behind a closed text, what follows says what it says on its own. -/
theorem contents_append {text : List Char} (h : Closed text) {rest other : List Char}
    (hrest : contents rest = contents other) :
    contents (text ++ rest) = contents (text ++ other) := by
  obtain ⟨front, -, hrows⟩ := exists_rows_append h
  have hmap : (rows rest).map content = (rows other).map content := hrest
  rw [contents, contents, hrows, hrows, List.map_append, List.map_append, hmap]

/-! ## Whole texts -/

/-- Reading does not tell a text from its revisions: the bytes are the same, and so are the
number and the text of a bad line. The text may be any, and so may be the lines that are edited
and the ends that are changed. In particular a carriage return before every line feed makes no
difference, and neither does a comment that is put behind one of the lines or taken away from
it, wherever in the text the line stands and however it ends. What does make one is what the
lines say: the bytes stand in them, and the bad line is the first that is neither empty nor a
byte. -/
theorem parse_of_revised :
    (∀ text revised, Revised text revised →
      parse (String.ofList revised) = parse (String.ofList text)) ∧
    (∀ text, parse (String.ofList (withReturns text)) = parse (String.ofList text)) ∧
    (∀ before line following, Closed before → '\n' ∉ line → EndsLine following →
      ∀ edit : Edit, parse (String.ofList (before ++ edit.apply line ++ following)) =
        parse (String.ofList (before ++ line ++ following))) ∧
    ∀ text, (∀ bytes, parse (String.ofList text) = .ok bytes ↔
        List.Forall₂ StandsFor ((contents text).filter (· ≠ [])) bytes) ∧
      ∀ bad, parse (String.ofList text) = .error bad ↔ FirstBad 1 (contents text) bad := by
  refine ⟨fun text revised h => parse_congr h.contents_eq, ?_, ?_, parse_iff_contents⟩
  · intro text
    exact parse_congr (divides_lines text).revised_withReturns.contents_eq
  · intro before line following hclosed hnewline hends edit
    rw [List.append_assoc, List.append_assoc]
    exact parse_congr (contents_append hclosed (contents_edit hnewline hends edit))

/-- Three lines, the second of which is no byte. -/
def draft : List Char :=
  ['1', '#', 'a', '\n', '2', '\r', '\n', '1']

/-- The draft without its comment, with two others, and with other line ends. -/
def redraft : List Char :=
  ['1', '\r', '\n', '2', '#', '\r', '\n', '1', '#', 'b']

/-- The draft, its revision, and the draft with other line ends have the same bad line, and so
has the draft with one comment more. -/
theorem parse_of_redraft :
    Revised draft redraft ∧ parse (String.ofList draft) = .error ⟨2, "2"⟩ ∧
    parse (String.ofList redraft) = .error ⟨2, "2"⟩ ∧
    parse (String.ofList (withReturns draft)) = .error ⟨2, "2"⟩ ∧
    Closed ['1', '#', 'a', '\n'] ∧ EndsLine ['\r', '\n', '1'] ∧
    parse (String.ofList ['1', '#', 'a', '\n', '2', '#', 'b', '\r', '\n', '1']) =
      .error ⟨2, "2"⟩ := by
  obtain ⟨hrevised, hreturns, hedited, -⟩ := parse_of_revised
  have hrevision : Revised draft redraft :=
    .ended ['1', '#', 'a'] .remove .feed .returnFeed (by decide)
      (.ended ['2'] (.add ⟨['\r'], by decide⟩) .returnFeed .feed (by decide)
        (.last ['1'] (.add ⟨['b'], by decide⟩) (by decide)))
  have hdraft : parse (String.ofList draft) = .error ⟨2, "2"⟩ := by decide +kernel
  have hclosed : Closed ['1', '#', 'a', '\n'] := by decide
  have hends : EndsLine ['\r', '\n', '1'] := .inr ⟨.returnFeed, ['1'], rfl⟩
  have hadded := hedited _ ['2'] _ hclosed (by decide) hends (.add ⟨['b'], by decide⟩)
  exact ⟨hrevision, hdraft, (hrevised _ _ hrevision).trans hdraft, (hreturns draft).trans hdraft,
    hclosed, hends, hadded.trans hdraft⟩

end Source

end ByteMachine
