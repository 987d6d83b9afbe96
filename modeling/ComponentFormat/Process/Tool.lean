import ComponentFormat.Process.Program
import ComponentFormat.Text.Lines

/-! # Running a tool on a text

The tool reads the text and writes the result. A tool that is missing, does not end in time or ends with a status
other than zero has failed, with a message that names it.
-/
namespace ComponentFormat

/-- How long to wait, in seconds. -/
inductive Timeout where
  | whole (n : Int)
  | fractional (x : Float)

def Timeout.shown : Timeout → String
  | whole n => toString n
  | fractional x => Number.textOfFloat x

inductive ToolError where
  | failed (message : String)
  /-- What the tool wrote is no UTF-8 text. -/
  | undecodable
  | noCommand
  /-- An argument or a time limit that cannot be passed on. -/
  | badArgument
  /-- A time limit that is too long to be kept. -/
  | endlessLimit
  deriving DecidableEq, Repr

namespace Tool

/-- Where a line ends in a tool's report. -/
def endsLine (c : Char) : Bool :=
  let n := c.toNat
  (0x0A ≤ n && n ≤ 0x0D) || (0x1C ≤ n && n ≤ 0x1E) || n == 0x85 || n == 0x2028 || n == 0x2029

def firstLine? (report : Text) : Option Text :=
  match Text.strip report with
  | [] => none
  | t => some (t.takeWhile (!endsLine ·))

/-- What a tool wrote, with line feeds for all terminators. -/
def decode? (b : Bytes) : Option Text :=
  (Bytes.toText? b).map (Text.withTerminator ['\n'])

def result (name : String) (timeout : Option Timeout) : Completion → Except ToolError Text
  | .missing => .error (.failed s!"Formatter executable not found: {name}")
  | .refused reason => .error (.failed s!"Cannot run {name}: {reason}")
  | .timedOut =>
    let shown := (timeout.map Timeout.shown).getD "None"
    .error (.failed s!"{name} timed out after {shown}s")
  | .exited status output errors =>
    match decode? output, decode? errors with
    | some text, some report =>
      if status = 0 then .ok text
      else
        let detail := match firstLine? report with
          | some line => ": " ++ String.ofList line
          | none => ""
        .error (.failed (s!"{name} exited with status {status}" ++ detail))
    | _, _ => .error .undecodable

/-- The most milliseconds that can be waited. -/
def maxLimit : Float := 2147483647.0

/-- The limit in milliseconds. A number of seconds beyond every double is too long even when it is negative; a limit
that is no number cannot be kept. -/
def limit (t : Timeout) : Except ToolError Int := do
  let seconds ←
    match t with
    | .whole n =>
      let x := Float.ofInt n
      if x.isInf then throw .endlessLimit else pure x
    | .fractional x => pure x
  if seconds.isNaN then throw .badArgument
  else if seconds ≤ 0.0 then return 0
  else if maxLimit < (seconds * 1000.0).ceil then throw .endlessLimit
  else return (seconds * 1000.0).toUInt64.toNat

def run (command : List String) (input : Text) (timeout : Option Timeout) : Except ToolError Text := do
  match command with
  | [] => throw .noCommand
  | name :: args =>
    if command.any fun a => a.toList.contains '\x00' then throw .badArgument
    let args := args.map Octets.ofString
    match Program.find (Octets.ofString name) args with
    | .error e => result name timeout (.notStarted name e)
    | .ok run =>
      let limit ← timeout.mapM limit
      let r := run args (.plain (Octets.ofString name) (Octets.ofText input))
      result name timeout (r.within limit)

end Tool

end ComponentFormat
