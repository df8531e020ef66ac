import Quasar.Svm.LogLine

/-!
# Injection — what a program's own log lines do to the trace

The parser classifies every line by substring search, whoever wrote it.  A line that a program
writes leaves the figures of the trace alone exactly when the parser passes it over.
-/

namespace Quasar
namespace Svm

open Lib

/-! ## Logs with program lines in them -/

/-- The texts of a log, as the parser sees them. -/
def texts (log : List LogLine) : List String :=
  log.map LogLine.text

/-- The bytes that the texts of a log take. -/
def logBytes (log : List LogLine) : Nat :=
  ((texts log).map String.utf8ByteSize).sum

/-- The log without the lines that programs wrote. -/
def withoutPrograms (log : List LogLine) : List LogLine :=
  log.filter fun l => match l with
    | .runtime _ => true
    | .program _ => false

/-- Every program line of the log is in `S`. -/
def PrintsIn (S : ProgramLine → Prop) (log : List LogLine) : Prop :=
  ∀ p, LogLine.program p ∈ log → S p

/-- The parser, and the trace over any frames, come to the same with the program lines as without. -/
def Unmoved (log : List LogLine) : Prop :=
  parseLogResults (texts log) = parseLogResults (texts (withoutPrograms log)) ∧
    ∀ trace message, extractExecutionTrace trace message (texts log) =
      extractExecutionTrace trace message (texts (withoutPrograms log))

/-! ## Inert lines -/

/-- The parser's state does not change over an inert line. -/
theorem LogParser.step_of_inert {log : String} (h : Inert log) (s : LogParser) : s.step log = s := by
  rcases h with ⟨hinvoke, hconsumed, hresult⟩
  simp [LogParser.step, hinvoke, hconsumed, hresult]

/-- The parser passes over inert program lines wherever they stand. -/
theorem LogParser.run_withoutPrograms {log : List LogLine}
    (h : PrintsIn (fun p => Inert p.text) log) (s : LogParser) :
    s.run (texts log) = s.run (texts (withoutPrograms log)) := by
  induction log generalizing s with
  | nil => rfl
  | cons l log ih =>
      have hlog : PrintsIn (fun p => Inert p.text) log := fun p hp => h p (List.mem_cons_of_mem _ hp)
      cases l with
      | runtime r => exact ih hlog (s.step r.text)
      | program p =>
          -- The stack, the counter and the map are all as they were before the line.
          have hp : s.step p.text = s := step_of_inert (h p List.mem_cons_self) s
          calc s.run (texts (.program p :: log))
              = (s.step p.text).run (texts log) := rfl
            _ = s.run (texts log) := by rw [hp]
            _ = s.run (texts (withoutPrograms log)) := ih hlog s

theorem unmoved_of_inert {log : List LogLine} (h : PrintsIn (fun p => Inert p.text) log) :
    Unmoved log := by
  have hresults : parseLogResults (texts log) = parseLogResults (texts (withoutPrograms log)) :=
    congrArg LogParser.results (LogParser.run_withoutPrograms h LogParser.init)
  refine ⟨hresults, ?_⟩
  intro trace message
  simp only [extractExecutionTrace, hresults]

/-! ## Lines that the parser reads -/

/-- The text of the system program's id. -/
def systemProgramText : String := "11111111111111111111111111111111"

/-- The lines of one top-level invocation of the system program. -/
def opening : RuntimeLine := .invoke systemProgramText 0

def spending (units : UInt64) : RuntimeLine := .consumed systemProgramText units 200000

def ending (failed : Bool) : RuntimeLine :=
  if failed then .failed systemProgramText "custom program error: 0x1"
  else .success systemProgramText

theorem readLine_opening : readLine opening.text = some (.enter 0) :=
  RuntimeLine.Unmistakable.read (l := opening) (by decide)

theorem readLine_spending (units : UInt64) :
    readLine (spending units).text = some (.note (unitsUpdate units)) := by
  have hread : (spending units).Unmistakable := by
    refine ⟨?_, ?_⟩
    · decide
    · decide
  exact hread.read

theorem readLine_ending (failed : Bool) :
    readLine (ending failed).text = some (.leave (codeUpdate (if failed then 1 else 0))) := by
  have hread : (ending failed).Unmistakable := by
    cases failed with
    | false => decide
    | true => decide +kernel
  refine hread.read.trans ?_
  cases failed with
  | false => rfl
  | true => rfl

theorem utf8ByteSize_opening : opening.text.utf8ByteSize = 51 := by decide

theorem utf8ByteSize_ending (failed : Bool) : (ending failed).text.utf8ByteSize ≤ 74 := by
  cases failed with
  | false => decide
  | true => decide

/-- Some small amount differs from any amount that a line claims. -/
theorem exists_spending_ne (units : UInt64) :
    ∃ units', units ≠ units' ∧ (spending units').text.utf8ByteSize = 75 := by
  by_cases hzero : units = 0
  · exact ⟨1, by rw [hzero]; decide, by decide⟩
  · exact ⟨0, hzero, by decide⟩

/-- The figures that a trace shows for a frame at depth 0 in the first place. -/
def firstFigures (logs : List String) : Figures :=
  ((parseLogResults logs).lookup (0, 0)).getD (0, 0)

theorem firstFigures_eq (logs : List String) :
    firstFigures logs = (tableLookup (Table.init.read readLine logs).rows (0, 0)).getD (0, 0) :=
  congrArg (fun o => o.getD (0, 0)) (lookup_parseLogResults logs (0, 0))

/-- The program lines of the log move the figures of its first invocation. -/
def MovesFirst (log : List LogLine) : Prop :=
  firstFigures (texts log) ≠ firstFigures (texts (withoutPrograms log))

theorem MovesFirst.not_unmoved {log : List LogLine} (h : MovesFirst log) : ¬ Unmoved log := by
  intro hunmoved
  refine h ?_
  rw [firstFigures, firstFigures, hunmoved.1]

/-- A program line that is taken for an invoke line takes the number of the next invocation. -/
theorem movesFirst_of_enter {p : ProgramLine} {d : UInt8}
    (h : readLine p.text = some (.enter d)) :
    MovesFirst [.program p, .runtime opening, .runtime (spending 1), .runtime (ending false)] := by
  intro hsame
  -- The row of the printed line is the first one now, and nothing is noted in it.
  simp [firstFigures_eq, texts, withoutPrograms, LogLine.text, Table.read, h, readLine_opening,
    readLine_spending, readLine_ending, Table.step, Table.init, Table.updateRow, tableLookup,
    unitsUpdate, codeUpdate] at hsame

/-- A program line that is taken for a consumed line replaces the units of an invocation that
consumed another amount. -/
theorem movesFirst_of_note {p : ProgramLine} {units units' : UInt64} (hne : units ≠ units')
    (h : readLine p.text = some (.note (unitsUpdate units))) :
    MovesFirst [.runtime opening, .runtime (spending units'), .program p,
      .runtime (ending false)] := by
  intro hsame
  simp [firstFigures_eq, texts, withoutPrograms, LogLine.text, Table.read, h, readLine_opening,
    readLine_spending, readLine_ending, Table.step, Table.init, Table.updateRow, tableLookup,
    unitsUpdate, codeUpdate] at hsame
  exact hne hsame

/-- A program line that is taken for a result line closes an invocation that ends otherwise. -/
theorem movesFirst_of_leave {p : ProgramLine} {code : UInt64} {failed : Bool}
    (hne : code ≠ if failed then 1 else 0)
    (h : readLine p.text = some (.leave (codeUpdate code))) :
    MovesFirst [.runtime opening, .program p, .runtime (ending failed)] := by
  intro hsame
  simp [firstFigures_eq, texts, withoutPrograms, LogLine.text, Table.read, h, readLine_opening,
    readLine_ending, Table.step, Table.init, Table.updateRow, tableLookup, codeUpdate] at hsame
  exact hne hsame

/-- A line that is not inert moves some log of a single short invocation: it is the log's only program
line. -/
theorem exists_movesFirst {p : ProgramLine} (h : ¬ Inert p.text) :
    ∃ log, PrintsIn (fun q => q = p) log ∧ MovesFirst log ∧
      logBytes log ≤ p.text.utf8ByteSize + 200 := by
  have honly : ∀ pre post : List RuntimeLine,
      PrintsIn (fun q => q = p)
        (pre.map LogLine.runtime ++ LogLine.program p :: post.map LogLine.runtime) := by
    intro pre post q hq
    rcases List.mem_append.1 hq with hq | hq
    · rcases List.mem_map.1 hq with ⟨r, _, hr⟩
      cases hr
    · rcases List.mem_cons.1 hq with hq | hq
      · cases hq
        rfl
      · rcases List.mem_map.1 hq with ⟨r, _, hr⟩
        cases hr
  cases hread : readLine p.text with
  | none => exact absurd (readLine_eq_none_iff.1 hread) h
  | some m =>
      -- For each kind of mark there is an invocation around the line that the mark disturbs.
      rcases readLine_cases hread with ⟨d, rfl⟩ | ⟨units, rfl⟩ | ⟨code, hcode, rfl⟩
      · refine ⟨_, honly [] [opening, spending 1, ending false], movesFirst_of_enter hread, ?_⟩
        have hspending : (spending 1).text.utf8ByteSize = 75 := by decide
        have hending := utf8ByteSize_ending false
        simp only [logBytes, texts, List.map_nil, List.nil_append, List.map_cons, List.sum_cons,
          List.sum_nil, LogLine.text, utf8ByteSize_opening, hspending]
        omega
      · rcases exists_spending_ne units with ⟨units', hne, hspending⟩
        refine ⟨_, honly [opening, spending units'] [ending false], movesFirst_of_note hne hread, ?_⟩
        have hending := utf8ByteSize_ending false
        simp only [logBytes, texts, List.map_nil, List.nil_append, List.map_cons, List.cons_append,
          List.sum_cons, List.sum_nil, LogLine.text, utf8ByteSize_opening, hspending]
        omega
      · -- An invocation that is closed early keeps the code of the printed line.
        have hleave : ∀ failed, MovesFirst [.runtime opening, .program p, .runtime (ending failed)] →
            ∃ log, PrintsIn (fun q => q = p) log ∧ MovesFirst log ∧
              logBytes log ≤ p.text.utf8ByteSize + 200 := by
          intro failed hmoves
          refine ⟨_, honly [opening] [ending failed], hmoves, ?_⟩
          have hending := utf8ByteSize_ending failed
          simp only [logBytes, texts, List.map_nil, List.nil_append, List.map_cons,
            List.cons_append, List.sum_cons, List.sum_nil, LogLine.text, utf8ByteSize_opening]
          omega
        rcases hcode with rfl | rfl
        · exact hleave true (movesFirst_of_leave (by decide) hread)
        · exact hleave false (movesFirst_of_leave (by decide) hread)

/-- Programs that print lines of `S` cannot move the trace of any log exactly when every line of
`S` is inert. -/
theorem unmoved_iff_inert (S : ProgramLine → Prop) :
    (∀ log, PrintsIn S log → Unmoved log) ↔ ∀ p, S p → Inert p.text := by
  constructor
  · intro hunmoved p hp
    by_contra hnot
    rcases exists_movesFirst hnot with ⟨log, hprints, hmoves, _⟩
    refine hmoves.not_unmoved (hunmoved log ?_)
    intro q hq
    exact hprints q hq ▸ hp
  · intro hinert log hprints
    exact unmoved_of_inert fun p hp => hinert p (hprints p hp)

/-- A failing invocation whose program prints the word `success`. -/
def printedSuccess : List LogLine :=
  [.runtime opening, .program (.log "success"), .runtime (spending 150), .runtime (ending true)]

/-- The printed word closes the invocation as a success, and its units are lost too. -/
theorem printedSuccess_hides_failure :
    ¬ Unmoved printedSuccess ∧
      (parseLogResults (texts (withoutPrograms printedSuccess))).lookup (0, 0) = some (1, 150) ∧
      (parseLogResults (texts printedSuccess)).lookup (0, 0) = some (0, 0) := by
  have hwithout : (parseLogResults (texts (withoutPrograms printedSuccess))).lookup (0, 0) =
      some (1, 150) := by decide +kernel
  have hwith : (parseLogResults (texts printedSuccess)).lookup (0, 0) = some (0, 0) := by
    decide +kernel
  refine ⟨?_, hwithout, hwith⟩
  intro hunmoved
  rw [hunmoved.1, hwithout] at hwith
  cases hwith

end Svm
end Quasar
