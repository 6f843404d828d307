import Mathlib.Data.List.Forall2
import ByteMachine.Proofs.Resumption

/-!
# The text of a run

A machine prints in two ways: the number in a register as a decimal numeral on a line of its
own, and the character that has this number. Beyond ASCII such a character has two bytes, so
a single byte of the output need not be a text. But each cycle hands over a whole text, and
what a run has delivered, wherever it is cut, is the text of its printings in their order.

Numerals have no zeros in front, and each ends its line. So the numbers of a run that prints
nothing else are read back from the lines of its output.
-/

set_option autoImplicit false

namespace ByteMachine

/-! ## Bytes of a text -/

/-- The bytes of a text are those in which it is kept. -/
theorem utf8_eq (text : String) : ByteArray.mk (utf8 text).toArray = text.toByteArray := by
  have hencode := @String.toByteArray_ofList text.toList
  rw [String.ofList_toList] at hencode
  rw [hencode]
  exact ByteArray.ext List.data_toByteArray.symm

/-- A text is read back from its bytes. -/
@[simp] theorem utf8Text?_utf8 (text : String) : utf8Text? (utf8 text) = some text := by
  rw [utf8Text?, utf8_eq, String.fromUTF8?, dif_pos text.isValidUTF8]
  rfl

/-- The text that is read from bytes is the one they are the bytes of. -/
theorem utf8Text?_eq_some_iff {bytes : List UInt8} {text : String} :
    utf8Text? bytes = some text ↔ utf8 text = bytes := by
  constructor
  · intro h
    unfold utf8Text? String.fromUTF8? at h
    split at h
    · next hvalid =>
      cases h
      exact congrArg (·.data.toList) (utf8_eq (String.fromUTF8 ⟨bytes.toArray⟩ hvalid))
    · cases h
  · rintro rfl
    exact utf8Text?_utf8 text

/-! ## Numerals -/

/-- The number whose decimal digits a text consists of, if it consists of digits. -/
def Numeral.value? (text : List Char) : Option Nat :=
  if text ≠ [] ∧ text.all Char.isDigit = true then some (Nat.ofDigitChars 10 text 0) else none

/-- A text is the decimal numeral of a number: it reads as the number, and has no zero in
front of other digits. -/
structure IsDecimal (text : List Char) (n : Nat) : Prop where
  reads : Numeral.value? text = some n
  shortest : text.head? = some '0' → text = ['0']

/-- Only zero has a numeral that begins with the digit zero. -/
theorem Numeral.eq_zero_of_head {n : Nat} (h : (Nat.toDigits 10 n).head? = some '0') : n = 0 := by
  induction n using Nat.strongRecOn with
  | ind n ih =>
    rw [Nat.toDigits_eq_if (by omega)] at h
    split at h
    · next hlt =>
      have hzero : ∀ digit < 10, digit.digitChar = '0' → digit = 0 := by decide
      exact hzero n hlt (Option.some.inj h)
    · next hge =>
      -- the first digit is that of the number without its last digit
      rw [List.head?_append_of_ne_nil _ Nat.toDigits_ne_nil] at h
      have hfront := ih (n / 10) (by omega) h
      omega

/-- The numeral that is written for a number is the decimal one. -/
theorem isDecimal_decimal (n : Nat) : IsDecimal (Numeral.decimal n).toList n := by
  rw [Numeral.decimal, String.toList_ofList]
  constructor
  · have hdigits : (Nat.toDigits 10 n).all Char.isDigit = true :=
      List.all_eq_true.mpr fun char hchar =>
        Nat.isDigit_of_mem_toDigits (by omega) (by omega) hchar
    rw [Numeral.value?, if_pos ⟨Nat.toDigits_ne_nil, hdigits⟩,
      Nat.ofDigitChars_toDigits (by omega) (by omega)]
  · intro hhead
    rw [Numeral.eq_zero_of_head hhead]
    rfl

/-- There is no line feed in a decimal numeral, so it does not end a line. -/
theorem IsDecimal.newline_notMem {text : List Char} {n : Nat} (h : IsDecimal text n) :
    '\n' ∉ text := by
  intro hmem
  have hreads := h.reads
  rw [Numeral.value?] at hreads
  split at hreads
  · next hdigits => exact absurd (List.all_eq_true.mp hdigits.2 '\n' hmem) (by decide)
  · cases hreads

/-! ## Printings -/

/-- What an instruction prints: the byte of a register, as a number or as a character. -/
inductive Printing where
  | number (value : UInt8)
  | character (value : UInt8)
deriving DecidableEq

namespace Printing

/-- The text of a printing: a number has its decimal numeral and the end of the line, and a
character itself. -/
def IsWritten : Printing → List Char → Prop
  | .number value, text => ∃ numeral, IsDecimal numeral value.toNat ∧ text = numeral ++ ['\n']
  | .character value, text => ∃ char : Char, char.toNat = value.toNat ∧ text = [char]

/-- The text that an instruction writes. -/
def text : Printing → String
  | .number value => Numeral.decimal value.toNat ++ "\n"
  | .character value => String.singleton (Char.ofUInt8 value)

/-- What is printed is written as the specification says. -/
theorem isWritten_text (printing : Printing) : printing.IsWritten printing.text.toList := by
  cases printing with
  | number value =>
    refine ⟨(Numeral.decimal value.toNat).toList, isDecimal_decimal value.toNat, ?_⟩
    rw [text, String.toList_append]
    rfl
  | character value => exact ⟨Char.ofUInt8 value, rfl, by simp [text]⟩

/-- Bytes are the text of some printings, in UTF-8, one printing after the other. -/
def Spells (bytes : List UInt8) (printings : List Printing) : Prop :=
  ∃ texts, List.Forall₂ IsWritten printings texts ∧
    utf8Text? bytes = some (String.ofList texts.flatten)

/-- The bytes of some printings, one after the other, are their text. -/
theorem spells_text (printings : List Printing) :
    Spells (printings.flatMap fun printing => utf8 printing.text) printings := by
  refine ⟨printings.map (·.text.toList), ?_, ?_⟩
  · rw [List.forall₂_map_right_iff, List.forall₂_same]
    exact fun printing _ => printing.isWritten_text
  · have hbytes : printings.flatMap (fun printing => utf8 printing.text) =
        utf8 (String.ofList (printings.map (·.text.toList)).flatten) := by
      induction printings with
      | nil => rfl
      | cons printing printings ih =>
        rw [List.flatMap_cons, ih, List.map_cons, List.flatten_cons, String.ofList_append,
          utf8_append, String.ofList_toList]
    rw [hbytes, utf8Text?_utf8]

/-- Bytes are a text whose lines read as some numbers. -/
def ReadsBack (bytes : List UInt8) (values : List UInt8) : Prop :=
  ∃ text lines, utf8Text? bytes = some text ∧ text.toList.splitOn '\n' = lines ++ [[]] ∧
    lines.map Numeral.value? = values.map fun value => some value.toNat

/-- Each number ends its line, so a text of numbers is divided at its line feeds. -/
theorem splitOn_of_numbers {values : List UInt8} {texts : List (List Char)}
    (h : List.Forall₂ IsWritten (values.map number) texts) :
    ∃ lines, texts.flatten.splitOn '\n' = lines ++ [[]] ∧
      lines.map Numeral.value? = values.map fun value => some value.toNat := by
  induction values generalizing texts with
  | nil =>
    cases h
    exact ⟨[], rfl, rfl⟩
  | cons value values ih =>
    obtain ⟨text, rest, ⟨numeral, hnumeral, rfl⟩, hrest, rfl⟩ := List.forall₂_cons_left_iff.mp h
    obtain ⟨lines, hsplit, hlines⟩ := ih hrest
    refine ⟨numeral :: lines, ?_, ?_⟩
    · rw [List.flatten_cons, List.append_assoc, List.singleton_append,
        List.splitOn_append_cons_self_of_not_mem hnumeral.newline_notMem, hsplit]
      rfl
    · rw [List.map_cons, List.map_cons, hnumeral.reads, hlines]

/-- If a text is that of some numbers, its lines are read as these numbers. -/
theorem Spells.readsBack {bytes : List UInt8} {values : List UInt8}
    (h : Spells bytes (values.map number)) : ReadsBack bytes values := by
  obtain ⟨texts, hwritten, hbytes⟩ := h
  obtain ⟨lines, hsplit, hlines⟩ := splitOn_of_numbers hwritten
  exact ⟨_, lines, hbytes, by rw [String.toList_ofList, hsplit], hlines⟩

end Printing

namespace Machine

variable {machine : Machine} {count : Nat}

/-! ## What a machine prints -/

/-- The next cycle carries out an instruction that prints the byte of a register. -/
def PrintsOut (machine : Machine) (printing : Printing) : Prop :=
  machine.cycle.1 = .running ∧ ∃ register value, machine.cpu.read register = .ok value ∧
    ((machine.fetch = .ok (.prn register) ∧ printing = .number value) ∨
      (machine.fetch = .ok (.pra register) ∧ printing = .character value))

/-- What an instruction prints that meets no obstacle. -/
def printingOf (machine : Machine) : Instruction → Option Printing
  | .prn register => some (.number (machine.cpu.value register))
  | .pra register => some (.character (machine.cpu.value register))
  | _ => none

/-- What the next cycle prints, if it prints anything. -/
def printing? (machine : Machine) : Option Printing :=
  match machine.fetch with
  | .ok instruction =>
    match machine.obstacle? instruction with
    | none => machine.printingOf instruction
    | some _ => none
  | .error _ => none

/-- An instruction that meets no obstacle prints what it is there to print. -/
theorem printing?_of_fetch {instruction : Instruction} (hfetch : machine.fetch = .ok instruction)
    (hnone : machine.obstacle? instruction = none) :
    machine.printing? = machine.printingOf instruction := by
  rw [printing?, hfetch]
  simp only [hnone]

/-- What the first `count` cycles print, in order. -/
def printings (machine : Machine) (count : Nat) : List Printing :=
  (List.range count).filterMap fun i => (machine.after i).printing?

/-- One more cycle prints behind those before it, if it prints. -/
theorem printings_succ (machine : Machine) (count : Nat) :
    machine.printings (count + 1) =
      machine.printings count ++ (machine.after count).printing?.toList :=
  machine.filterMap_succ printing? count

/-- A cycle prints exactly if it carries out one of the two printing instructions. -/
theorem printing?_eq_some_iff (machine : Machine) (printing : Printing) :
    machine.printing? = some printing ↔ machine.PrintsOut printing := by
  constructor
  · intro h
    unfold printing? at h
    split at h
    · next instruction hfetch =>
      split at h
      · next hnone =>
        have hrunning : instruction ≠ .hlt → machine.cycle.1 = .running := by
          intro hhlt
          rw [cycle_of_fetch hfetch hhlt, hnone]
        cases instruction with
        | prn register =>
          exact ⟨hrunning (by simp), register, _, machine.cpu.read_of_named hnone,
            .inl ⟨hfetch, (Option.some.inj h).symm⟩⟩
        | pra register =>
          exact ⟨hrunning (by simp), register, _, machine.cpu.read_of_named hnone,
            .inr ⟨hfetch, (Option.some.inj h).symm⟩⟩
        | _ => cases h
      · cases h
    · cases h
  · rintro ⟨hrunning, register, value, hread, hprinting⟩
    obtain ⟨instruction, hfetch, -, hobstacle, -⟩ := cycle_of_running hrunning
    rw [printing?_of_fetch hfetch hobstacle]
    obtain ⟨-, rfl⟩ := Cpu.read_eq_ok_iff.mp hread
    obtain ⟨hprn, rfl⟩ | ⟨hpra, rfl⟩ := hprinting
    · cases hfetch.symm.trans hprn
      rfl
    · cases hfetch.symm.trans hpra
      rfl

/-- The bytes an instruction prints are the text of its printing. -/
theorem printed_eq (machine : Machine) (instruction : Instruction) :
    machine.printed instruction =
      (machine.printingOf instruction).toList.flatMap fun printing => utf8 printing.text := by
  cases instruction <;> simp [printed, printingOf, Printing.text]

/-- A cycle prints the text of its printing. -/
theorem output_eq (machine : Machine) :
    machine.output = machine.printing?.toList.flatMap fun printing => utf8 printing.text := by
  unfold output printing?
  cases hfetch : machine.fetch with
  | error fault => rfl
  | ok instruction =>
    cases hobstacle : machine.obstacle? instruction with
    | none => simpa only [hobstacle] using machine.printed_eq instruction
    | some fault => simp only [hobstacle, Option.toList_none, List.flatMap_nil]

/-- The bytes of a run are the texts of its printings, one after the other. -/
theorem prints_eq (machine : Machine) (count : Nat) :
    machine.prints count =
      (machine.printings count).flatMap fun printing => utf8 printing.text := by
  induction count with
  | zero => rfl
  | succ count ih => rw [prints_succ, printings_succ, List.flatMap_append, ih, output_eq]

/-- The bytes that a run hands over after a cycle are those that the cycle printed. -/
theorem chunk_eq_output (hpending : machine.cpu.pending = []) (count : Nat) :
    machine.chunk count = (machine.after count).output := by
  cases count with
  | zero =>
    show machine.cpu.pending ++ machine.output = machine.output
    rw [hpending, List.nil_append]
  | succ count => rfl

end Machine

namespace Session

variable {machine : Machine} {console : Console} {count : Nat}

/-! ## Whole runs -/

/-- Behind what it held before, a sink holds the text of some printings. If all of them are
numbers, these are read back from its lines. -/
def Delivers (before after : Sink) (printings : List Printing) : Prop :=
  ∃ bytes, after.held.toList = before.held.toList ++ bytes ∧ Printing.Spells bytes printings ∧
    ∀ values, printings = values.map .number → Printing.ReadsBack bytes values

/-- A sink that holds the bytes of a run behind what it held delivers the run's printings. -/
theorem delivers_of_prints {before after : Sink}
    (h : after.held.toList = before.held.toList ++ machine.prints count) :
    Delivers before after (machine.printings count) := by
  have hspells := Printing.spells_text (machine.printings count)
  rw [← machine.prints_eq] at hspells
  refine ⟨machine.prints count, h, hspells, ?_⟩
  intro values hvalues
  rw [hvalues] at hspells
  exact hspells.readsBack

/-- A cycle writes what it printed to the output, and flushes it if the machine does not go
on. -/
theorem out_advance (hpending : machine.cpu.pending = []) (hquiet : console.Quiet)
    (hout : console.out.Unlimited) (hrun : machine.RunsFor count) :
    ((start machine console).after count).advance.1.console.out =
      if (machine.after count).cycle.1 = .running then
        (((start machine console).after count).console.out.write (machine.after count).output).1
      else (((start machine console).after count).console.out.write
        (machine.after count).output).1.flush.1 := by
  have htaken : machine.verdict console.out count = none :=
    machine.verdict_of_tireless hout.tireless count
  obtain ⟨-, hmidway⟩ := midway_of_runsFor hquiet hout hrun
  have hwritten : (((start machine console).after count).console.out.write
      (machine.after count).output).1 =
        console.out.received (count + 1) (machine.sent (count + 1)) := by
    rw [hmidway.taken, Sink.write_received, hout.tireless, machine.sent_succ,
      Machine.chunk_eq_output hpending]
  rw [hwritten]
  split
  · next hrunning => exact (hmidway.next hrunning htaken).2.taken
  · next hstop =>
    obtain hruns | ⟨other, hlt, result, hends⟩ := machine.ends_cases (count + 1)
    · exact absurd (hruns count (by omega)) hstop
    · obtain rfl := hends.running.unique hrun hends.not_running hstop
      exact (hmidway.ends htaken hends.last).2.2

/-- What a run of a machine with nothing pending has delivered to a sink that refuses nothing
is a text, wherever the run is cut and however it ends: a numeral and the end of the line for
each number that was printed, and one character for each character, in their order. What a
cycle writes is such a text by itself. If only numbers are printed, they are read back from
the lines. -/
theorem text_of_run {machine : Machine} (hpending : machine.cpu.pending = []) {console : Console}
    (hquiet : console.Quiet) (hout : console.out.Unlimited) :
    (∀ i printing, (machine.after i).printing? = some printing ↔
      (machine.after i).PrintsOut printing) ∧
    (∀ count, (start machine console).run count = none →
      let session := (start machine console).after count
      Delivers console.out session.console.out
        ((List.range count).filterMap fun i => (machine.after i).printing?) ∧
      ∃ chunk, Printing.Spells chunk (machine.after count).printing?.toList ∧
        ((machine.after count).printing? = none → chunk = []) ∧
        session.advance.1.console.out =
          if (machine.after count).cycle.1 = .running then (session.console.out.write chunk).1
          else (session.console.out.write chunk).1.flush.1) ∧
    ∀ fuel ended result, (start machine console).run fuel = some (ended, result) →
      ∃ count < fuel, machine.Ends count result ∧
        Delivers console.out ended.console.out
          ((List.range (count + 1)).filterMap fun i => (machine.after i).printing?) := by
  refine ⟨fun i => (machine.after i).printing?_eq_some_iff, ?_, ?_⟩
  · intro count hcut
    have hrun := runsFor_of_run hquiet hout hcut
    obtain ⟨-, hmidway⟩ := midway_of_runsFor hquiet hout hrun
    have hspells := Printing.spells_text (machine.after count).printing?.toList
    rw [← Machine.output_eq] at hspells
    refine ⟨delivers_of_prints ?_, _, hspells, ?_, out_advance hpending hquiet hout hrun⟩
    · rw [hmidway.taken, ← Machine.sent_eq_prints hpending]
      simp [Sink.received]
    · intro hnone
      rw [Machine.output_eq, hnone]
      rfl
  · intro fuel ended result hanswer
    obtain ⟨count, hlt, hends, -, hheld⟩ := ends_of_run hquiet hout hanswer
    refine ⟨count, hlt, hends, delivers_of_prints ?_⟩
    rw [hheld, machine.pending_after, hpending, List.nil_append]

/-- Prints 200 as a number and as a character, and meets a byte that is no opcode. -/
def printsBoth : Machine :=
  Machine.start (Memory.beginning [0x82, 0, 200, 0x47, 0, 0x48, 0, 0xFF])

/-- The output of a cut run is read back as the number printed so far, and that of the whole
run, which ends with a fault, spells the number and the character. -/
theorem text_of_printsBoth :
    printsBoth.cpu.pending = [] ∧ unlimited.Quiet ∧ unlimited.out.Unlimited ∧
    (start printsBoth unlimited).run 2 = none ∧
    Printing.ReadsBack ((start printsBoth unlimited).after 2).console.out.held.toList [200] ∧
    ∃ ended, (start printsBoth unlimited).run 4 =
        some (ended, .error (.fault (.unknownInstruction 0xFF))) ∧
      Printing.Spells ended.console.out.held.toList [.number 200, .character 200] := by
  have hquiet := unlimited_quiet
  have hout := unlimited_out
  have hpending : printsBoth.cpu.pending = [] := rfl
  obtain ⟨-, hcut, hends⟩ := text_of_run hpending hquiet hout
  have hrun : printsBoth.RunsFor 3 := by decide +kernel
  have hfaulted : (printsBoth.after 3).cycle.1 = .faulted (.unknownInstruction 0xFF) := by
    decide +kernel
  have hnumber : (List.range 2).filterMap (fun i => (printsBoth.after i).printing?) =
      [.number 200] := by
    decide +kernel
  have hboth : (List.range 4).filterMap (fun i => (printsBoth.after i).printing?) =
      [.number 200, .character 200] := by
    decide +kernel
  have hfault : printsBoth.Ends 3 (.error (.fault (.unknownInstruction 0xFF))) :=
    ⟨hrun, by rw [hfaulted]; rfl⟩
  have hopen : (start printsBoth unlimited).run 2 = none :=
    run_of_runsFor hquiet hout (hrun.mono (by omega))
  obtain ⟨ended, -, -, hanswer⟩ := run_of_ends hquiet hout hfault
  have hended := (hanswer 4).trans (if_pos (by omega))
  obtain ⟨early, hearly, -, hnumbers⟩ := (hcut 2 hopen).1
  obtain ⟨count, -, hcount, whole, hwhole, hspells, -⟩ := hends 4 ended _ hended
  obtain ⟨rfl, -⟩ := hfault.unique hcount
  rw [hboth] at hspells
  refine ⟨hpending, hquiet, hout, hopen, ?_, ended, hended, ?_⟩
  · rw [hearly]
    exact hnumbers [200] hnumber
  · rw [hwhole]
    exact hspells

end Session

end ByteMachine
