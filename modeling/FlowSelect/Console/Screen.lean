import FlowSelect.Console.Markup
import FlowSelect.Console.Layout
import FlowSelect.Fault
/-! What a command writes to its two streams, and how it ends.

A console line is shown as its markup says (when markup is read at all), with emoji codes
replaced, the control characters bell, backspace, vertical tab, form feed and carriage return
dropped, tabs expanded to stops every eight cells, and wrapped to the console's width unless it
is printed as it comes (`Layout.lean`); the line ends with a newline. A plain echo writes the
text as it is, with a newline.

A command runs as a `Session`: it writes lines and either finishes, which is exit status 0, or
stops early with a status. A failure that nothing handles stops it with status 1, keeping what
was written before. -/
namespace FlowSelect.Console

/-- Whether the style a span gives breaks when it is read. -/
def breaks (s : Span) : Bool :=
  match Style.read s.style with
  | .error .broken => true
  | _ => false

/-- The text a console shows for a line, without its final newline; `markup` says whether the
line is read as markup, and `soft` whether it is printed as it comes rather than wrapped. A
span whose style breaks, among those left when the line is laid out, stops the line. -/
def rendered (markup soft : Bool) (text : String) : Except MarkupError String := do
  let shown ← if markup then showMarkup text else pure (showPlain text)
  let lines := layout soft shown
  match (lines.flatMap (·.spans)).find? breaks with
  | some s => .error (.brokenStyle s.style)
  | none => pure ("\n".intercalate (lines.map fun l => String.ofList l.chars))

/-- The markup of a warning line. -/
def warningMarkup (message : String) : String := "[warning]Warning:[/warning] " ++ message

/-- The markup of an error line. -/
def errorMarkup (message : String) : String := "[error]Error:[/error] " ++ message

/-- The markup of a hint line, shown under an error. -/
def hintMarkup (hint : String) : String := "  [info]Hint:[/info] " ++ hint

/-- The markup of an informational line. -/
def infoMarkup (message : String) : String := "[info]" ++ message ++ "[/info]"

/-! ### Sessions -/

/-- The two streams a command writes to. -/
inductive Stream where
  | out
  | err
  deriving DecidableEq, Repr

/-- What has been written to each stream. -/
structure Screen where
  /-- Standard output. -/
  out : String
  /-- Standard error. -/
  err : String
  deriving DecidableEq, Repr

/-- The screen with text added to a stream. -/
def Screen.write (s : Screen) : Stream → String → Screen
  | .out, t => { s with out := s.out ++ t }
  | .err, t => { s with err := s.err ++ t }

/-- A run of a command: it writes to the screen, and may stop early with an exit status. -/
abbrev Session := ExceptT Nat (StateM Screen)

/-- Stops with an exit status. -/
def stop {α : Type} (status : Nat) : Session α := throw status

/-- Writes text and a newline to a stream, as it is. -/
def echo (s : Stream) (text : String) : Session Unit :=
  modify fun sc => sc.write s (text ++ "\n")

/-- Writes a console line to a stream, wrapped to the console unless `soft`; markup that cannot
be shown stops the run with status 1. -/
def sayWith (s : Stream) (markup soft : Bool) (text : String) : Session Unit :=
  match rendered markup soft text with
  | .ok line => echo s line
  | .error _ => stop 1

/-- Writes a console line to a stream, wrapped to the console. -/
def say (s : Stream) (markup : Bool) (text : String) : Session Unit := sayWith s markup false text

/-- Writes a warning to standard error. -/
def warn (message : String) : Session Unit := say .err true (warningMarkup message)

/-- Writes an error, and a hint when there is one, to standard error. -/
def complain (message : String) (hint : Option String) : Session Unit := do
  say .err true (errorMarkup message)
  match hint with
  | some h => if h.isEmpty then pure () else say .err true (hintMarkup h)
  | none => pure ()

/-- Writes an informational line to standard output. -/
def inform (message : String) : Session Unit := say .out true (infoMarkup message)

/-- The value of a computation that may fail; a failure stops the run with status 1. -/
def attempt {α : Type} (e : Except Fault α) : Session α :=
  match e with
  | .ok a => pure a
  | .error _ => stop 1

/-- How a run ended: its exit status and what it wrote. -/
structure Outcome where
  /-- The exit status. -/
  status : Nat
  /-- Standard output. -/
  out : String
  /-- Standard error. -/
  err : String
  deriving DecidableEq, Repr

/-- The outcome of a session run from an empty screen: status 0 when it finishes. -/
def Session.outcome (s : Session Unit) : Outcome :=
  let (r, sc) := (ExceptT.run s).run ⟨"", ""⟩
  ⟨match r with | .ok _ => 0 | .error n => n, sc.out, sc.err⟩

end FlowSelect.Console
