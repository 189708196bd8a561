import TripleStore.Proofs.Load.JsonRecords
import TripleStore.Proofs.Query.Message
import TripleStore.Proofs.Shell.Input
import TripleStore.Shell.Run

/-!
Contract: what a session shows for the lines it hears.

Owns:
- which of the lines are queries, and where a session stops;
- that a session responds to each query by itself and ends well;
- that what a whole run shows is made up of what its queries show.

Does not own: the lines of an input (`TripleStore.Proofs.Shell.Input`), and the answers
(`TripleStore.Query.Answer`).
-/

namespace TripleStore.Shell

open TripleStore.Query (OneLine oneLine_answer)

/-- The line, without the blanks at its two ends, is a word that ends the session. -/
def Stops (line : String) : Prop :=
  Text.trim line = "quit" ∨ Text.trim line = "exit"

instance (line : String) : Decidable (Stops line) := by
  unfold Stops
  infer_instance

/-- What the lines up to the first one that stops ask for. Blank lines ask for nothing. -/
def queries (lines : List String) : List String :=
  ((lines.takeWhile fun line => ¬Stops line).map Text.trim).filter (· ≠ "")

/-- The table of the answer and the number of its rows, if there is an answer. -/
def table? (ready : Readiness) (query : String) : Option String :=
  match Query.answer ready.store query with
  | .ok answer =>
      some (Table.render ready.cellWidth answer.grid ++ "(" ++ toString answer.rows.length ++
        " rows)\n")
  | .error _ => none

/-- The message of the fault on a line of its own, if there is no answer. -/
def complaint? (ready : Readiness) (query : String) : Option String :=
  match Query.answer ready.store query with
  | .ok _ => none
  | .error error => some ("error: " ++ error.message ++ "\n")

variable {store : Store} {cellWidth : Nat} {ready : Readiness} {line : String}
  {lines others : List String}

/-! ## One line -/

theorem queries_cons_of_stops (stops : Stops line) (rest : List String) :
    queries (line :: rest) = [] := by
  simp [queries, stops]

/-- Lines that do not stop a session ask for what they ask for by themselves. -/
theorem queries_append (goOn : ∀ line ∈ lines, ¬Stops line) (others : List String) :
    queries (lines ++ others) = queries lines ++ queries others := by
  have passed : ∀ line ∈ lines, decide (¬Stops line) = true := by simpa using goOn
  have all := List.takeWhile_eq_self_iff.mpr passed
  unfold queries
  rw [List.takeWhile_append_of_pos passed, List.map_append, List.filter_append, all]

theorem react_of_stops
    {bytes : List UInt8}
    (typed : typed? bytes = some line)
    (stops : Stops line) :
    react store cellWidth bytes = .stop .finished := by
  have notBlank : Text.trim line ≠ "" := by
    rcases stops with isQuit | isExit
    · simp [isQuit]
    · simp [isExit]
  have command : Command.ofLine line = .quit := by
    unfold Command.ofLine
    rw [if_neg notBlank]
    exact if_pos stops
  rw [react, typed]
  simp only [command]

theorem react_of_goesOn
    {bytes : List UInt8}
    (typed : typed? bytes = some line)
    (goesOn : ¬Stops line) :
    react store cellWidth bytes =
      .proceed ((queries [line]).map (respond store cellWidth)) := by
  have asked : queries [line] = [Text.trim line].filter (· ≠ "") := by
    simp [queries, goesOn]
  rw [react, typed, asked]
  by_cases blank : Text.trim line = ""
  · have command : Command.ofLine line = .nothing := by
      unfold Command.ofLine
      rw [if_pos blank]
    simp [command, blank]
  · have command : Command.ofLine line = .query (Text.trim line) := by
      unfold Command.ofLine
      rw [if_neg blank]
      exact if_neg goesOn
    simp [command, blank]

/-! ## All lines -/

/-- Each query gets its own response, whatever was asked before it. -/
theorem session_of_heard
    {pieces : List (List UInt8)}
    (heard : pieces.mapM typed? = some lines) :
    session store cellWidth pieces =
      ((queries lines).map (respond store cellWidth), .finished) := by
  induction pieces generalizing lines with
  | nil =>
      cases heard
      rfl
  | cons bytes rest inductionHypothesis =>
      rw [List.mapM_cons] at heard
      obtain ⟨line, typed, heardRest⟩ := Option.bind_eq_some_iff.mp heard
      obtain ⟨later, laterHeard, whole⟩ := Option.bind_eq_some_iff.mp heardRest
      cases whole
      by_cases stops : Stops line
      · rw [session, react_of_stops typed stops, queries_cons_of_stops stops]
        rfl
      · have alone : ∀ heardLine ∈ [line], ¬Stops heardLine := by simpa using stops
        have apart := queries_append alone later
        rw [List.singleton_append] at apart
        rw [session, react_of_goesOn typed stops, apart, List.map_append]
        simp only [inductionHypothesis laterHeard]

/-! ## What a run shows -/

section Run

variable {argument : Option String} {lookup : Setting → Option String}
  {source : String → Load.Source} {input : List UInt8}

theorem run_of_heard
    (prepared : prepare argument lookup source = some ready)
    (heard : heard? input = some lines) :
    run argument lookup source input =
      { messages := (queries lines).map (respond ready.store ready.cellWidth), code := 0 } := by
  rw [run, prepared]
  simp only [session_of_heard heard]
  rfl

theorem results_responses (asked : List String) (code : Nat) :
    Outcome.results { messages := asked.map (respond ready.store ready.cellWidth), code } =
      String.join (asked.filterMap (table? ready)) := by
  unfold Outcome.results
  rw [List.filterMap_map]
  congr 2
  funext query
  unfold respond table?
  simp only [Function.comp_apply]
  cases Query.answer ready.store query <;> rfl

theorem faults_responses (asked : List String) (code : Nat) :
    Outcome.faults { messages := asked.map (respond ready.store ready.cellWidth), code } =
      String.join (asked.filterMap (complaint? ready)) := by
  unfold Outcome.faults
  rw [List.filterMap_map]
  congr 2
  funext query
  unfold respond complaint?
  simp only [Function.comp_apply]
  cases Query.answer ready.store query <;> rfl

theorem trimChars_subset (characters : List Char) : Text.trimChars characters ⊆ characters := by
  intro character member
  rw [Text.trimChars, List.mem_reverse] at member
  have inside := (List.dropWhile_suffix _).subset member
  exact (List.dropWhile_suffix _).subset (List.mem_reverse.mp inside)

/-- A query is on one line, because lines are. -/
theorem oneLine_of_mem_queries
    (oneLines : ∀ line ∈ lines, OneLine line)
    {query : String}
    (asked : query ∈ queries lines) :
    OneLine query := by
  obtain ⟨line, beforeStop, rfl⟩ := List.mem_map.mp (List.mem_of_mem_filter asked)
  have oneLine := oneLines line ((List.takeWhile_prefix _).subset beforeStop)
  intro member
  rw [Text.trim, String.toList_ofList] at member
  exact oneLine (trimChars_subset _ member)

/-- Every text is heard as lines. The tables of the queries before the first line that stops,
each with its number of rows, make up what is shown for results, and one line for each query
without an answer is what is shown for faults. A run ends well, and where the text leaves no
line open and none of its lines stops, what is shown for more text comes behind. -/
theorem run_answers_line_by_line
    (prepared : prepare argument lookup source = some ready)
    (text : String) :
    ∃ lines, heard? text.toUTF8.toList = some lines ∧
      (Text.backspace ∉ text.toList →
        lines.map (fun line => line.toUTF8.toList) = Text.lines text.toUTF8.toList) ∧
      (run argument lookup source text.toUTF8.toList).results =
        String.join ((queries lines).filterMap (table? ready)) ∧
      (run argument lookup source text.toUTF8.toList).faults =
        String.join ((queries lines).filterMap (complaint? ready)) ∧
      (∀ query ∈ queries lines, ∀ error, Query.answer ready.store query = .error error →
        OneLine error.message) ∧
      (run argument lookup source text.toUTF8.toList).code = 0 ∧
      ((∀ last ∈ text.toList.getLast?, last = '\n') → (∀ line ∈ lines, ¬Stops line) →
        ∀ more : String,
          (run argument lookup source (text ++ more).toUTF8.toList).results =
            (run argument lookup source text.toUTF8.toList).results ++
              (run argument lookup source more.toUTF8.toList).results ∧
          (run argument lookup source (text ++ more).toUTF8.toList).faults =
            (run argument lookup source text.toUTF8.toList).faults ++
              (run argument lookup source more.toUTF8.toList).faults) := by
  simp only [Text.toUTF8_toList, String.toList_append, Text.encode_append]
  obtain ⟨lines, heard, oneLines, unchanged⟩ := exists_heard text.toList
  have whole := run_of_heard prepared heard
  refine ⟨lines, heard, unchanged, ?_, ?_, ?_, ?_, ?_⟩
  · rw [whole, results_responses]
  · rw [whole, faults_responses]
  · intro query asked error failed
    exact oneLine_answer failed (oneLine_of_mem_queries oneLines asked)
  · rw [whole]
  · intro ends goOn more
    obtain ⟨others, othersHeard, _, _⟩ := exists_heard more.toList
    have together := run_of_heard prepared
      (heard?_append (endsLine_encode ends) heard othersHeard)
    rw [together, whole, run_of_heard prepared othersHeard, queries_append goOn]
    simp only [results_responses, faults_responses, List.filterMap_append, String.join_append]
    exact ⟨trivial, trivial⟩

end Run

/-- Only the format is set. -/
def onlyFormat : Setting → Option String
  | .dataFormat => some "jsonl"
  | _ => none

def oneRecord (_ : String) : Load.Source :=
  .file "[\"a\",\"p\",\"b\"]".toUTF8.toList

/-- The first line has an answer, the second has none, and the last is behind the one that
stops. -/
theorem run_answers_line_by_line_stopped :
    prepare (some "data") onlyFormat oneRecord =
        some { store := .ofRecords [{ subject := "a", predicate := "p", object := "b" }],
               cellWidth := 30 } ∧
      (run (some "data") onlyFormat oneRecord
          "SELECT ?s WHERE \x7b ?s 'p' ?o \x7d\n oops \n quit\noops".toUTF8.toList).results =
        "?s                             | \n" ++ "--------------------------------\n" ++
          "a                              | \n" ++ "(1 rows)\n" ∧
      (run (some "data") onlyFormat oneRecord
          "SELECT ?s WHERE \x7b ?s 'p' ?o \x7d\n oops \n quit\noops".toUTF8.toList).faults =
        "error: parse error at offset 0: expected SELECT, found identifier 'oops'\n" := by
  have prepared : prepare (some "data") onlyFormat oneRecord =
      some { store := .ofRecords [{ subject := "a", predicate := "p", object := "b" }],
             cellWidth := 30 } := by
    have settings : Settings.load (some "data") onlyFormat =
        .ok { dataFile := "data", dataFormat := some .jsonLines, cellWidth := 30 } := by
      decide +kernel
    have read : Load.readRecords .jsonLines "[\"a\",\"p\",\"b\"]".toUTF8.toList =
        .ok [{ subject := "a", predicate := "p", object := "b" }] := by
      decide +kernel
    simp only [prepare, settings, oneRecord, Load.loadStore_of_readRecords _ read]
  obtain ⟨lines, heard, _, results, faults, _⟩ := run_answers_line_by_line prepared
    "SELECT ?s WHERE \x7b ?s 'p' ?o \x7d\n oops \n quit\noops"
  have asked : (heard? "SELECT ?s WHERE \x7b ?s 'p' ?o \x7d\n oops \n quit\noops".toUTF8.toList).map
      queries = some ["SELECT ?s WHERE \x7b ?s 'p' ?o \x7d", "oops"] := by
    decide +kernel
  rw [heard, Option.map_some, Option.some.injEq] at asked
  rw [asked] at results faults
  refine ⟨prepared, results.trans ?_, faults.trans ?_⟩
  · decide +kernel
  · decide +kernel

end TripleStore.Shell
