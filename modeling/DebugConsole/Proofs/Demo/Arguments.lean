import DebugConsole.Proofs.Json.Rows
import DebugConsole.Proofs.Session.Opening

/-!
# Demo commands that read their arguments

One demo command reads its arguments as JSON and shows the values, another one adds numbers up. Both
read from the left and fail at the first argument that they cannot read. What was read until then is
shown by the former, with no line of it lost, and dropped by the latter.
-/

namespace DebugConsole

/-! ### Reading from the left -/

/-- What texts are read as up to the first that cannot be read, and what is said of that one. -/
inductive Reading {α ε : Type} (read : String → Except ε α) (texts : List String) :
    List α → Option ε → Prop where
  | whole {values : List α} (h : texts.map read = values.map .ok) : Reading read texts values none
  | stopped {front later : List String} {bad : String} {values : List α} {e : ε}
      (htexts : texts = front ++ bad :: later) (hfront : front.map read = values.map .ok)
      (hbad : read bad = .error e) : Reading read texts values (some e)

lemma exists_reading {α ε : Type} (read : String → Except ε α) (texts : List String) :
    ∃ values failure, Reading read texts values failure := by
  induction texts with
  | nil => exact ⟨[], none, .whole rfl⟩
  | cons text texts ih =>
    cases htext : read text with
    | error e => exact ⟨[], some e, .stopped (List.nil_append _).symm rfl htext⟩
    | ok value =>
      obtain ⟨values, _, hwhole | ⟨rfl, hfront, hbad⟩⟩ := ih
      · exact ⟨value :: values, none, .whole (by simp [htext, hwhole])⟩
      · exact ⟨value :: values, some _, .stopped (List.cons_append ..).symm
          (by simp [htext, hfront]) hbad⟩

lemma Reading.failure_eq_none_iff {α ε : Type} {read : String → Except ε α} {texts : List String}
    {values : List α} {failure : Option ε} (h : Reading read texts values failure) :
    failure = none ↔ ∀ text ∈ texts, ∃ value, read text = .ok value := by
  cases h with
  | whole hwhole =>
    refine iff_of_true rfl fun text htext => ?_
    have hread : read text ∈ values.map Except.ok := hwhole ▸ List.mem_map_of_mem htext
    obtain ⟨value, -, hvalue⟩ := List.mem_map.mp hread
    exact ⟨value, hvalue.symm⟩
  | @stopped front later bad _ e htexts hfront hbad =>
    refine iff_of_false (Option.some_ne_none e) fun hall => ?_
    obtain ⟨value, hvalue⟩ := hall bad (by simp [htexts])
    simp [hbad] at hvalue

/-- The number of a text, or the text if it has none. -/
def readNumber (text : String) : Except String Float :=
  match Decimal.read? text with
  | some x => .ok x
  | none   => .error text

lemma readNumber_eq_ok_iff {text : String} {x : Float} :
    readNumber text = .ok x ↔ Decimal.read? text = some x := by
  cases h : Decimal.read? text <;> simp [readNumber, h]

lemma readNumber_eq_error_iff {text bad : String} :
    readNumber text = .error bad ↔ Decimal.read? text = none ∧ bad = text := by
  cases h : Decimal.read? text <;> simp [readNumber, h, eq_comm]

/-! ### What a command adds to the log -/

/-- The line of a text that a command logs. -/
def plainLine (text : String) : LogLine where
  text     := text
  severity := .verbose
  style    := .plain

/-- The line that reports the failure of a command. -/
def failureLine (failure : ConsoleError) : LogLine := Sink.eventLine failure.message "" .exception

/-- The lines of a command that logs texts and may fail then. -/
def toldLines (texts : List String) (failure : Option ConsoleError) : List LogLine :=
  texts.map plainLine ++ (failure.map failureLine).toList

/-- A command has added a line for each of some texts, and an exception if it has failed. -/
structure Adds (texts : List String) (failure : Option ConsoleError) (before after : Sink) :
    Prop where
  lines   : after.lines = before.lines.pushAll (toldLines texts failure)
  /-- Nothing is dropped as long as there is room. -/
  kept    : before.lines.items.length + (toldLines texts failure).length ≤ before.lines.capacity →
    after.lines.items = before.lines.items ++ toldLines texts failure
  counted : after.counts = failure.elim before.counts fun _ => before.counts.bump .exception

lemma log_of_isRow {text : String} (h : Text.IsRow text.toList) (log : Sink) :
    log.log text = log.append (plainLine text) := by
  have hsolid : Text.isBlankText text = false := h.solid
  rw [Sink.log, Sink.logStyled, hsolid]
  rfl

namespace DemoCommand

/-- Texts that show something are all logged. -/
lemma logAll_of_rows {texts : List String} (h : ∀ text ∈ texts, Text.IsRow text.toList)
    (log : Sink) :
    (logAll log texts).lines = log.lines.pushAll (texts.map plainLine) ∧
      (logAll log texts).counts = log.counts := by
  induction texts generalizing log with
  | nil => exact ⟨rfl, rfl⟩
  | cons text texts ih =>
    obtain ⟨htext, htexts⟩ := List.forall_mem_cons.mp h
    rw [logAll, List.foldl_cons, log_of_isRow htext]
    exact ih htexts _

end DemoCommand

/-- A failure is reported behind what the command has logged. -/
lemma adds_of_run {command : DemoCommand} {facade : Facade} {args texts : List String} {log : Sink}
    {failure : Option ConsoleError} (h : ∀ text ∈ texts, Text.IsRow text.toList)
    (hrun : command.run facade args log = (DemoCommand.logAll log texts, failure)) (p : String) :
    Adds texts failure log (Handler.invoke command facade (p :: args) log).told := by
  obtain ⟨hlines, hcounts⟩ := DemoCommand.logAll_of_rows h log
  have hinvoke : Handler.invoke command facade (p :: args) log
      = { handler := command, log := DemoCommand.logAll log texts, failure } := by
    simp [Handler.invoke, hrun]
  have htold : (Handler.invoke command facade (p :: args) log).told.lines
      = log.lines.pushAll (toldLines texts failure) := by
    rw [hinvoke, toldLines, Bounded.pushAll_append, ← hlines]
    cases failure <;> rfl
  constructor
  case lines => exact htold
  case kept =>
    intro hroom
    rw [htold, Bounded.items_pushAll, Bounded.keepLast_of_length_le]
    rwa [List.length_append]
  case counted =>
    rw [hinvoke]
    cases failure with
    | none => exact hcounts
    | some failure => exact congrArg (Counts.bump · .exception) hcounts

/-! ### JSON -/

/-- Texts show values if, joined again, they are the values one below the other, and if none of
them is blank or breaks the line. -/
structure Shows (values : List Json.Value) (texts : List String) : Prop where
  joined : "\n".intercalate texts = "\n".intercalate (values.map Json.Value.pretty)
  rows   : ∀ text ∈ texts, Text.IsRow text.toList

/-- What a command that shows its arguments as JSON does to the log. -/
structure ParseContract (args : List String) (before after : Sink) : Prop where
  usage   : args = [] →
    Adds [] (some (.invalidArgument "usage: /parse \x7bjson\x7d ...")) before after
  reading : ∃ values failure, Reading Json.Value.ofText args values failure
  shown   : args ≠ [] → ∀ {values failure}, Reading Json.Value.ofText args values failure →
    ∃ texts, Shows values texts ∧ Adds texts (failure.map .json) before after

lemma shows_lines (values : List Json.Value) :
    Shows values (values.flatMap fun v => Text.lines v.pretty) where
  joined := Json.intercalate_lines_pretty values
  rows   := by
    intro text htext
    obtain ⟨v, -, hv⟩ := List.mem_flatMap.mp htext
    exact (Json.lines_pretty v).2.2 text hv

namespace DemoCommand

lemma logAll_append (log : Sink) (texts more : List String) :
    logAll log (texts ++ more) = logAll (logAll log texts) more := List.foldl_append ..

/-- The values in front are logged whatever follows them. -/
lemma parseAll_append {front : List String} {values : List Json.Value}
    (h : front.map Json.Value.ofText = values.map .ok) (rest : List String) (log : Sink) :
    parseAll log (front ++ rest)
      = parseAll (logAll log (values.flatMap fun v => Text.lines v.pretty)) rest := by
  induction front generalizing values log with
  | nil =>
    obtain rfl : values = [] := by simpa using h.symm
    rfl
  | cons raw front ih =>
    cases values with
    | nil => simp at h
    | cons v values =>
      rw [List.map_cons, List.map_cons, List.cons.injEq] at h
      rw [List.cons_append, parseAll, h.1, List.flatMap_cons, logAll_append]
      exact ih h.2 _

lemma parseAll_of_reading {args : List String} {values : List Json.Value}
    {failure : Option Json.Error} (h : Reading Json.Value.ofText args values failure)
    (log : Sink) :
    parseAll log args
      = (logAll log (values.flatMap fun v => Text.lines v.pretty), failure.map .json) := by
  cases h with
  | whole hwhole =>
    have happend := parseAll_append hwhole [] log
    rwa [List.append_nil] at happend
  | stopped hargs hfront hbad =>
    rw [hargs, parseAll_append hfront, parseAll, hbad]
    rfl

end DemoCommand

lemma parseContract_told (facade : Facade) (p : String) (args : List String) (log : Sink) :
    ParseContract args log (Handler.invoke DemoCommand.parse facade (p :: args) log).told := by
  constructor
  case usage =>
    rintro rfl
    exact adds_of_run (by simp) rfl p
  case reading => exact exists_reading Json.Value.ofText args
  case shown =>
    intro hne values failure hreading
    have hrun : DemoCommand.parse.run facade args log
        = (DemoCommand.logAll log (values.flatMap fun v => Text.lines v.pretty),
          failure.map .json) := by
      rw [DemoCommand.run, if_neg (by simpa using hne), DemoCommand.parseAll_of_reading hreading]
    exact ⟨_, shows_lines values, adds_of_run (shows_lines values).rows hrun p⟩

/-! ### Numbers -/

/-- What a command that adds its arguments up does to the log. -/
structure SumContract (args : List String) (before after : Sink) : Prop where
  reading   : ∃ numbers failure, Reading readNumber args numbers failure
  total     : ∀ {numbers}, Reading readNumber args numbers none →
    Adds [Decimal.plainText (numbers.foldl (· + ·) 0)] none before after
  refused   : ∀ {numbers bad}, Reading readNumber args numbers (some bad) →
    Adds [] (some (.invalidArgument ("not a number: " ++ bad))) before after
  /-- A log with room for it shows a total exactly if there is one. -/
  shown_iff : before.lines.items.length < before.lines.capacity →
    ((∃ text, after.lines.items = before.lines.items ++ [plainLine text]) ↔
      ∀ arg ∈ args, ∃ x, Decimal.read? arg = some x)

namespace DemoCommand

lemma sumFrom_append {front : List String} {numbers : List Float}
    (h : front.map readNumber = numbers.map .ok) (rest : List String) (total : Float) :
    sumFrom total (front ++ rest) = sumFrom (numbers.foldl (· + ·) total) rest := by
  induction front generalizing numbers total with
  | nil =>
    obtain rfl : numbers = [] := by simpa using h.symm
    rfl
  | cons arg front ih =>
    cases numbers with
    | nil => simp at h
    | cons x numbers =>
      rw [List.map_cons, List.map_cons, List.cons.injEq] at h
      rw [List.cons_append, sumFrom, readNumber_eq_ok_iff.mp h.1, List.foldl_cons]
      exact ih h.2 _

lemma sumFrom_of_whole {args : List String} {numbers : List Float}
    (h : Reading readNumber args numbers none) (total : Float) :
    sumFrom total args = .ok (numbers.foldl (· + ·) total) := by
  cases h with
  | whole hwhole =>
    have happend := sumFrom_append hwhole [] total
    rwa [List.append_nil] at happend

lemma sumFrom_of_stopped {args : List String} {numbers : List Float} {bad : String}
    (h : Reading readNumber args numbers (some bad)) (total : Float) :
    sumFrom total args = .error bad := by
  cases h with
  | stopped hargs hfront hbad =>
    obtain ⟨hnone, rfl⟩ := readNumber_eq_error_iff.mp hbad
    rw [hargs, sumFrom_append hfront, sumFrom, hnone]

end DemoCommand

lemma sumContract_told (facade : Facade) (p : String) (args : List String) (log : Sink) :
    SumContract args log (Handler.invoke DemoCommand.sum facade (p :: args) log).told := by
  have htotal {numbers} (h : Reading readNumber args numbers none) :
      Adds [Decimal.plainText (numbers.foldl (· + ·) 0)] none log
        (Handler.invoke DemoCommand.sum facade (p :: args) log).told := by
    refine adds_of_run (by simpa using Decimal.isRow_plainText _) ?_ p
    rw [DemoCommand.run, DemoCommand.sumFrom_of_whole h]
    rfl
  have hrefused {numbers bad} (h : Reading readNumber args numbers (some bad)) :
      Adds [] (some (.invalidArgument ("not a number: " ++ bad))) log
        (Handler.invoke DemoCommand.sum facade (p :: args) log).told := by
    refine adds_of_run (by simp) ?_ p
    rw [DemoCommand.run, DemoCommand.sumFrom_of_stopped h]
    rfl
  have hreading := exists_reading readNumber args
  refine ⟨hreading, htotal, hrefused, fun hroom => ?_⟩
  obtain ⟨numbers, failure, h⟩ := hreading
  simp only [← readNumber_eq_ok_iff, ← h.failure_eq_none_iff]
  cases failure with
  | none => exact iff_of_true ⟨_, (htotal h).kept hroom⟩ rfl
  | some bad =>
    -- The line of an exception is not that of a text, whatever it says.
    refine iff_of_false ?_ (Option.some_ne_none bad)
    rintro ⟨text, htext⟩
    rw [(hrefused h).kept hroom] at htext
    simp [toldLines, plainLine, failureLine, Sink.eventLine] at htext

/-! ### In a console -/

/-- What the two commands come to, whatever console they are in and whatever they are given. -/
structure ArgumentContract (facade : Facade) : Prop where
  registered : ∀ {c d : Console DemoCommand}, c.registerDemoCommands facade id = (d, none) →
    d.registry.lookup "/parse" = some .parse ∧ d.registry.lookup "/sum" = some .sum
  /-- A line that is executed invokes the command of its first token once it is echoed. -/
  executed   : ∀ {c : Console DemoCommand} {command : DemoCommand} {line p : String}
    {args : List String}, c.registry.lookup p = some command → lineTokens line = p :: args →
    (c.execute facade line).1.log
      = (Handler.invoke command facade (p :: args) (c.echoed line)).told
  parse      : ∀ p args log,
    ParseContract args log (Handler.invoke DemoCommand.parse facade (p :: args) log).told
  sum        : ∀ p args log,
    SumContract args log (Handler.invoke DemoCommand.sum facade (p :: args) log).told

theorem argument_contract (facade : Facade) : ArgumentContract facade := by
  constructor
  case registered =>
    intro c d h
    exact ⟨Console.lookup_registerDemoCommands h (by decide),
      Console.lookup_registerDemoCommands h (by decide)⟩
  case executed =>
    intro c command line p args hlookup htokens
    have hfirst : (lineTokens line).head? = some p := by rw [htokens, List.head?_cons]
    rw [Console.execute_of_run hfirst hlookup, htokens]
  case parse => exact parseContract_told facade
  case sum => exact sumContract_told facade

/-- The last argument is JSON again, and yet it is not shown. -/
theorem argument_contract_stopped : ∃ d : Console DemoCommand,
    (Console.ofConfig {}).registerDemoCommands .silent id = (d, none) ∧
      ∃ texts, Shows [.null] texts ∧
        Adds texts (some (.json (.syntactic .ident 1 2))) (d.echoed "/parse null nope \x7b\x7d")
          (d.execute .silent "/parse null nope \x7b\x7d").1.log := by
  have contract := argument_contract .silent
  have htokens : lineTokens "/parse null nope \x7b\x7d"
      = "/parse" :: ["null", "nope", "\x7b\x7d"] := by decide
  obtain ⟨d, hd⟩ : ∃ d : Console DemoCommand,
      (Console.ofConfig {}).registerDemoCommands .silent id = (d, none) :=
    ⟨_, Prod.ext rfl ((Console.registerDemoCommands_eq_none_iff _ _ rfl).mpr (.inr rfl))⟩
  have hreading : Reading Json.Value.ofText ["null", "nope", "\x7b\x7d"] [.null]
      (some (.syntactic .ident 1 2)) := by
    have hsplit : ["null", "nope", "\x7b\x7d"] = ["null"] ++ "nope" :: ["\x7b\x7d"] := rfl
    exact .stopped hsplit rfl rfl
  refine ⟨d, hd, ?_⟩
  rw [contract.executed (contract.registered hd).1 htokens]
  exact (contract.parse _ _ _).shown (by simp) hreading

end DebugConsole
