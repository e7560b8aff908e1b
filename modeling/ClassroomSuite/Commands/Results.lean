import ClassroomSuite.Library.Assoc
import ClassroomSuite.Library.Hoare
import ClassroomSuite.Python.JsonSchema
import ClassroomSuite.Python.Lines

/-!
# What a command prints and how it ends

A command hands its result to the console, as text or as one value in the format that was asked for,
and returns an exit code or raises an exception. The console reads a text for markup and replaces
what it knows, so that what is on the output is not always what was handed over; and it raises an
exception on markup that it cannot read, behind what it has shown before. The entry point turns what
was raised into an exit status and one message on the error output: an error of the program has the
status of its class, and any other exception a general one.

Source: `cli/src/bcs/output.py`, `cli/src/bcs/exit_codes.py`, `cli/src/bcs/errors.py`, `main` of
`cli/src/bcs/__main__.py`, `cli/src/bcs/commands/stubs.py`.

## Main definitions

* `ExitCode`, `BcsError`, `CommandError`.
* `OutputFormat`, `Printed`, `Console`, `Command`, `withSchemaVersion`, `printStructuredResult`.
* `Ended`, `Command.run`: how the process ends.
* `Prints`, `RaisesAfter`: what a command hands to the console, and what it returns or raises.
* `Console.finish`: how a run ends that hands something to the console.

## Main results

* `printAll_apply`, `Console.finish_cases`: what the console shows of what is handed to it.
* `Prints.bind`, `run_of_prints`, `run_of_raises`.
-/

namespace ClassroomSuite.Commands

open Python Library

/-! ### Exit codes and errors -/

/-- The exit codes of the process. -/
inductive ExitCode where
  | success
  | generalError
  | usageError
  | configInvalid
  | preconditionFailed
  | aborted
  | partialFailure
  | timeout
  | pluginError
  | interrupted
  | terminated
  deriving DecidableEq, Repr

/-- The number of a status. -/
def ExitCode.value : ExitCode → ℕ
  | success => 0
  | generalError => 1
  | usageError => 2
  | configInvalid => 3
  | preconditionFailed => 4
  | aborted => 5
  | partialFailure => 6
  | timeout => 7
  | pluginError => 8
  | interrupted => 130
  | terminated => 143

/-- The classes of the errors of the program. -/
inductive BcsErrorClass where
  | usage
  | configInvalid
  | preconditionFailed
  | aborted
  | partialFailure
  | timeout
  | plugin
  | notImplementedInPhase
  deriving DecidableEq, Repr

/-- The exit code that a class of errors stands for. -/
def BcsErrorClass.exitCode : BcsErrorClass → ExitCode
  | usage => .usageError
  | configInvalid => .configInvalid
  | preconditionFailed => .preconditionFailed
  | aborted => .aborted
  | partialFailure => .partialFailure
  | timeout => .timeout
  | plugin => .pluginError
  | notImplementedInPhase => .generalError

/-- An error of the program (`BcsError`). -/
structure BcsError where
  kind : BcsErrorClass
  message : String
  deriving DecidableEq, Repr

/-- What a command raises. An exception that is no error of the program is given by its text. -/
inductive CommandError where
  | bcs (e : BcsError)
  | unexpected (text : String)
  deriving DecidableEq, Repr

/-! ### Printing -/

/-- The formats of a result. -/
inductive OutputFormat where
  | text
  | json
  | yaml
  deriving DecidableEq, Repr

/-- What is handed to the console: a line, which may have a number of bytes in it, a table, or a
value in one of the formats. -/
inductive Printed where
  | line (text : String)
  | sizeLine (before : String) (bytes : ℕ) (after : String)
  | table (columns : List String) (rows : List (List String))
  | json (data : Fields)
  | yaml (data : Fields)

/-- What the console writes of a text, in which it looks for markup and codes, and of a table; the
text of a number of bytes, in units of 2^30 with one decimal place; and the texts of the two
formats. Where it fails, it is with the text of an exception: on a closing tag without an opening
one, on characters that the output has no code for, on a number that is too large for a float, and
on values that a format cannot write. The output is taken to be open. -/
structure Console where
  render : String → Except String String
  renderTable : List String → List (List String) → Except String String
  gib : ℕ → Except String String
  dumpJson : Fields → Except String String
  dumpYaml : Fields → Except String String

/-- A text without the white space at its end (`str.rstrip`). -/
def rstrip (text : String) : String := String.ofList (text.toList.rdropWhile isSpace)

/-- The text that is written of something handed to the console. -/
def Console.show (console : Console) : Printed → Except String String
  | .line text => console.render text
  | .sizeLine before bytes after =>
    console.gib bytes >>= fun amount => console.render (before ++ amount ++ after)
  | .table columns rows => console.renderTable columns rows
  | .json data => console.dumpJson data >>= console.render
  | .yaml data => console.dumpYaml data >>= fun text => console.render (rstrip text)

/-- A command writes texts on the output, and returns or raises. -/
abbrev Command := EStateM CommandError (List String)

/-- What has been computed, or its exception. -/
def liftCommand {ε α : Type} (error : ε → CommandError) : Except ε α → Command α
  | .ok a => pure a
  | .error e => throw (error e)

/-- Hand something to the console. -/
def print (console : Console) (printed : Printed) : Command Unit := do
  let text ← liftCommand .unexpected (console.show printed)
  modify fun before => before ++ [text]

/-- Hand several things to the console, one after the other. -/
def printAll (console : Console) (output : List Printed) : Command PUnit :=
  output.forM (print console)

/-- Print lines, one after the other. -/
def printLines (console : Console) (texts : List String) : Command PUnit :=
  texts.forM fun text => print console (.line text)

/-- `CLI_SCHEMA_VERSION`. -/
def cliSchemaVersion : String := "bcs-cli/v1alpha1"

/-- The payload behind the version of its format. A version that the payload has itself counts. -/
def withSchemaVersion (payload : Fields) : Fields :=
  payload.foldl (fun data field => assocSet field.1 field.2 data)
    [("schemaVersion", .str cliSchemaVersion)]

/-- Print a value in a format that has values. -/
def printJsonOrYaml (console : Console) (format : OutputFormat) (data : Fields) : Command Unit :=
  match format with
  | .json => print console (.json data)
  | .yaml => print console (.yaml data)
  | .text => throw (.unexpected "structured output does not support OutputFormat.TEXT")

/-- Print a payload with the version of the program's own output. -/
def printStructuredResult (console : Console) (format : OutputFormat) (payload : Fields) :
    Command Unit :=
  printJsonOrYaml console format (withSchemaVersion payload)

/-- Print the fields of a model as they are. -/
def printModelResult (console : Console) (format : OutputFormat) (data : Fields) : Command Unit :=
  printJsonOrYaml console format data

/-! ### The entry point -/

/-- How the process ends: the texts that it has written on the output and on the error output, and
its status. -/
structure Ended where
  stdout : List String
  stderr : List String
  status : ℕ

/-- The text on the error output about what a command raised. -/
def CommandError.report : CommandError → String
  | .bcs e => "bcs: error: " ++ e.message ++ "\n"
  | .unexpected text => "bcs: unexpected error: " ++ text ++ "\n"

/-- The status for what a command raised. -/
def CommandError.status : CommandError → ℕ
  | .bcs e => e.kind.exitCode.value
  | .unexpected _ => ExitCode.generalError.value

/-- How the process ends on what a command raised, behind what has been written. -/
def CommandError.ends (e : CommandError) (stdout : List String) : Ended :=
  ⟨stdout, [e.report], e.status⟩

/-- Run a command (`main`). -/
def Command.run (command : Command ℕ) : Ended :=
  match command [] with
  | .ok code stdout => ⟨stdout, [], code⟩
  | .error e stdout => e.ends stdout

theorem BcsErrorClass.value_ne_zero (kind : BcsErrorClass) : kind.exitCode.value ≠ 0 := by
  cases kind <;> decide

/-- What is raised never counts as a success. -/
theorem CommandError.status_ne_zero (e : CommandError) : e.status ≠ 0 := by
  cases e with
  | bcs e => exact e.kind.value_ne_zero
  | unexpected text => exact Nat.one_ne_zero

/-! ### What the console shows -/

/-- The texts that the console writes of what is handed to it, up to the first thing that it fails
on, and the text of that exception. -/
def Console.showAll (console : Console) : List Printed → List String × Option String
  | [] => ([], none)
  | printed :: rest =>
    match console.show printed with
    | .error problem => ([], some problem)
    | .ok text => (text :: (showAll console rest).1, (showAll console rest).2)

/-- The texts that the console writes. -/
def Console.texts (console : Console) (output : List Printed) : List String :=
  (console.showAll output).1

/-- The exception that the console raises, if it does. -/
def Console.problem (console : Console) (output : List Printed) : Option String :=
  (console.showAll output).2

/-- How a run ends that hands `output` to the console and then would end with `stderr` and `status`:
if the console fails, with its exception behind what it has shown. -/
def Console.finish (console : Console) (output : List Printed) (stderr : List String)
    (status : ℕ) : Ended :=
  match console.problem output with
  | none => ⟨console.texts output, stderr, status⟩
  | some problem => (CommandError.unexpected problem).ends (console.texts output)

/-- The console shows texts of what is handed to it. -/
def Console.Shows (console : Console) (output : List Printed) (texts : List String) : Prop :=
  List.Forall₂ (fun printed text => console.show printed = .ok text) output texts

/-- The console shows all that is handed to it, or all in front of something that it fails on. -/
theorem Console.showAll_cases (console : Console) (output : List Printed) :
    (∃ texts, console.Shows output texts ∧ console.showAll output = (texts, none)) ∨
      ∃ shown printed rest texts problem, output = shown ++ printed :: rest ∧
        console.Shows shown texts ∧ console.show printed = .error problem ∧
        console.showAll output = (texts, some problem) := by
  induction output with
  | nil => exact Or.inl ⟨[], .nil, rfl⟩
  | cons printed output ih =>
    rw [Console.showAll]
    cases hshow : console.show printed with
    | error problem =>
      exact Or.inr ⟨[], printed, output, [], problem, rfl, .nil, hshow, rfl⟩
    | ok text =>
      rcases ih with ⟨texts, hshows, hall⟩ |
        ⟨shown, printed', rest, texts, problem, rfl, hshows, hproblem, hall⟩
      · rw [hall]
        exact Or.inl ⟨text :: texts, .cons hshow hshows, rfl⟩
      · rw [hall]
        exact Or.inr ⟨printed :: shown, printed', rest, text :: texts, problem, rfl,
          .cons hshow hshows, hproblem, rfl⟩

/-- A run that hands over `output` ends as it would with all of it shown, or with the exception of
the console behind what is shown in front of it. -/
theorem Console.finish_cases (console : Console) (output : List Printed) (stderr : List String)
    (status : ℕ) :
    (∃ texts, console.Shows output texts ∧
      console.finish output stderr status = ⟨texts, stderr, status⟩) ∨
    ∃ shown printed rest texts problem, output = shown ++ printed :: rest ∧
      console.Shows shown texts ∧ console.show printed = .error problem ∧
      console.finish output stderr status = (CommandError.unexpected problem).ends texts := by
  rw [Console.finish, Console.problem, Console.texts]
  rcases console.showAll_cases output with ⟨texts, hshows, hall⟩ |
    ⟨shown, printed, rest, texts, problem, houtput, hshows, hproblem, hall⟩
  · rw [hall]
    exact Or.inl ⟨texts, hshows, rfl⟩
  · rw [hall]
    exact Or.inr ⟨shown, printed, rest, texts, problem, houtput, hshows, hproblem, rfl⟩

variable {console : Console}

/-- Handing several things to the console writes what it shows of them, and fails where it does. -/
theorem printAll_apply (console : Console) (output : List Printed) (before : List String) :
    printAll console output before = match console.problem output with
      | none => .ok ⟨⟩ (before ++ console.texts output)
      | some problem => .error (.unexpected problem) (before ++ console.texts output) := by
  induction output generalizing before with
  | nil =>
    change EStateM.Result.ok PUnit.unit before = .ok PUnit.unit (before ++ [])
    rw [List.append_nil]
  | cons printed rest ih =>
    have hcons : printAll console (printed :: rest) before =
        (print console printed >>= fun _ => printAll console rest) before := rfl
    rw [hcons, bind_apply, print, Console.problem, Console.texts, Console.showAll]
    cases console.show printed with
    | error problem =>
      dsimp only
      rw [List.append_nil]
      rfl
    | ok text =>
      change printAll console rest (before ++ [text]) = _
      rw [ih, Console.problem, Console.texts]
      cases (console.showAll rest).2 <;> simp

/-! ### What a command prints -/

variable {ε α β : Type}

/-- The command hands `output` to the console and, if the console shows all of it, returns `a`. -/
def Prints (console : Console) (command : Command α) (output : List Printed) (a : α) : Prop :=
  command = printAll console output >>= fun _ => pure a

/-- The command hands `output` to the console and, if the console shows all of it, raises `e`. -/
def RaisesAfter (console : Console) (command : Command α) (output : List Printed)
    (e : CommandError) : Prop :=
  command = printAll console output >>= fun _ => throw e

theorem printAll_append (console : Console) (output output' : List Printed) :
    printAll console (output ++ output') =
      printAll console output >>= fun _ => printAll console output' :=
  List.forM_append

theorem Prints.pure (console : Console) (a : α) : Prints console (pure a : Command α) [] a := rfl

theorem RaisesAfter.throw (console : Console) (e : CommandError) :
    RaisesAfter console (throw e : Command α) [] e := rfl

theorem prints_print (console : Console) (printed : Printed) :
    Prints console (print console printed) [printed] () := by
  change print console printed =
    (print console printed >>= fun _ => (pure ⟨⟩ : Command PUnit)) >>= fun _ => pure ()
  simp

theorem Prints.bind {command : Command α} {k : α → Command β} {output output' : List Printed}
    {a : α} {b : β} (h : Prints console command output a) (hk : Prints console (k a) output' b) :
    Prints console (command >>= k) (output ++ output') b := by
  rw [Prints] at h hk ⊢
  rw [h, bind_assoc, printAll_append, bind_assoc]
  simp only [pure_bind, hk]

theorem Prints.bind_raises {command : Command α} {k : α → Command β}
    {output output' : List Printed} {a : α} {e : CommandError}
    (h : Prints console command output a) (hk : RaisesAfter console (k a) output' e) :
    RaisesAfter console (command >>= k) (output ++ output') e := by
  rw [Prints] at h
  rw [RaisesAfter] at hk ⊢
  rw [h, bind_assoc, printAll_append, bind_assoc]
  simp only [pure_bind, hk]

theorem RaisesAfter.bind {command : Command α} {output : List Printed} {e : CommandError}
    (h : RaisesAfter console command output e) (k : α → Command β) :
    RaisesAfter console (command >>= k) output e := by
  rw [RaisesAfter] at h ⊢
  rw [h, bind_assoc]
  rfl

/-- A computation that returns prints nothing. -/
theorem prints_liftCommand {error : ε → CommandError} {x : Except ε α} {a : α} (h : x = .ok a) :
    Prints console (liftCommand error x) [] a := by
  rw [h]
  exact .pure console a

theorem raisesAfter_liftCommand {error : ε → CommandError} {x : Except ε α} {e : ε}
    (h : x = .error e) : RaisesAfter console (liftCommand error x : Command α) [] (error e) := by
  rw [h]
  exact .throw console _

/-- Printing for each of the elements prints for all of them. -/
theorem prints_forM {f : α → Command PUnit} {output : α → List Printed} (xs : List α)
    (h : ∀ x ∈ xs, Prints console (f x) (output x) ⟨⟩) :
    Prints console (xs.forM f) (xs.flatMap output) ⟨⟩ := by
  induction xs with
  | nil => exact .pure console _
  | cons x xs ih =>
    rw [List.flatMap_cons]
    exact (h x List.mem_cons_self).bind (ih fun y hy => h y (List.mem_cons_of_mem x hy))

theorem prints_printLines (console : Console) (texts : List String) :
    Prints console (printLines console texts) (texts.map Printed.line) () := by
  rw [List.map_eq_flatMap]
  exact prints_forM texts fun text _ => prints_print console (.line text)

theorem run_of_prints {command : Command ℕ} {output : List Printed} {code : ℕ}
    (h : Prints console command output code) : command.run = console.finish output [] code := by
  rw [Prints] at h
  rw [Command.run, h, bind_apply, printAll_apply, Console.finish]
  cases console.problem output <;> rfl

theorem run_of_raises {command : Command ℕ} {output : List Printed} {e : CommandError}
    (h : RaisesAfter console command output e) :
    command.run = console.finish output [e.report] e.status := by
  rw [RaisesAfter] at h
  rw [Command.run, h, bind_apply, printAll_apply, Console.finish]
  cases console.problem output <;> rfl

/-! ### Structured results -/

/-- What is handed over of a value in a structured format. -/
def OutputFormat.printed (format : OutputFormat) (data : Fields) : Printed :=
  match format with
  | .yaml => .yaml data
  | _ => .json data

/-- The text of a value in a structured format. -/
def Console.dump (console : Console) (format : OutputFormat) (data : Fields) :
    Except String String :=
  match format with
  | .yaml => (console.dumpYaml data).map rstrip
  | _ => console.dumpJson data

/-- The text is read for markup, as any other. -/
theorem Console.show_printed (console : Console) (format : OutputFormat) (data : Fields) :
    console.show (format.printed data) = console.dump format data >>= console.render := by
  cases format with
  | yaml =>
    change (console.dumpYaml data >>= fun text => console.render (rstrip text)) = _
    rw [Console.dump]
    cases console.dumpYaml data <;> rfl
  | text | json => rfl

/-- Where the console shows the text of a value, this is what is on the output. -/
theorem Console.finish_printed {console : Console} {format : OutputFormat} {data : Fields}
    {dump text : String} (hdump : console.dump format data = .ok dump)
    (hrender : console.render dump = .ok text) (stderr : List String) (status : ℕ) :
    console.finish [format.printed data] stderr status = ⟨[text], stderr, status⟩ := by
  have hshow : console.show (format.printed data) = .ok text := by
    rw [Console.show_printed, hdump]
    exact hrender
  rw [Console.finish, Console.problem, Console.texts, Console.showAll, hshow]
  rfl

theorem prints_printJsonOrYaml {format : OutputFormat} (h : format ≠ .text) (data : Fields) :
    Prints console (printJsonOrYaml console format data) [format.printed data] () := by
  cases format with
  | text => exact absurd rfl h
  | json | yaml => exact prints_print console _

end ClassroomSuite.Commands
