import ComponentFormat.Engine.Basic
import ComponentFormat.Process.Tool
import ComponentFormat.Process.Words

/-! # Engines on the command line

The options of a pass are written as arguments of the engine's command; the engine's own configuration is
switched off. Flags appear only where an option differs from the command's default.
-/
namespace ComponentFormat

structure EngineSettings where
  codeCommand : List String
  markupCommand : List String
  timeout : Float

namespace EngineSettings

def default : EngineSettings := ⟨["prettier"], ["html-beautify"], 30.0⟩

/-- Variables that cannot be read as a command line or as a number. -/
inductive Error where
  | words (e : WordsError)
  | timeout
  deriving DecidableEq, Repr

def commandOf (default : List String) (raw : Option String) : Except Error (List String) :=
  match raw with
  | none | some "" => .ok default
  | some s => ((Words.split s.toList).mapError .words).map (·.map String.ofList)

def timeoutOf (raw : Option String) : Except Error Float :=
  match raw with
  | none | some "" => .ok default.timeout
  | some s =>
    match Number.float? s.toList with
    | some x => .ok x
    | none => .error .timeout

def ofVariables (vars : List (String × String)) : Except Error EngineSettings := do
  return {
    codeCommand := ← commandOf default.codeCommand (Keyed.get? "SFC_FORMAT_PRETTIER_BIN" vars)
    markupCommand := ← commandOf default.markupCommand (Keyed.get? "SFC_FORMAT_HTML_BEAUTIFY_BIN" vars)
    timeout := ← timeoutOf (Keyed.get? "SFC_FORMAT_TIMEOUT" vars) }

end EngineSettings

namespace Arguments

/-- An option with a value of its own. -/
inductive Valued where
  | word (f : WordOption)
  | count (f : CountOption)
  deriving DecidableEq, Repr

/-- A count as an argument; one with too many digits cannot be written. -/
def ofCount (n : Nat) : Except ToolError String :=
  if n < Number.tenTo Number.maxDigits then .ok (toString n) else .error .badArgument

def Valued.text (o : Options) : Valued → Except ToolError String
  | word f => .ok (o.word f)
  | count f => ofCount (o.count f)

def valued : List (String × Valued) :=
  [("--arrow-parens", .word .arrowParens), ("--end-of-line", .word .endOfLine),
    ("--html-whitespace-sensitivity", .word .htmlWhitespaceSensitivity), ("--print-width", .count .printWidth),
    ("--prose-wrap", .word .proseWrap), ("--quote-props", .word .quoteProps), ("--tab-width", .count .tabWidth),
    ("--trailing-comma", .word .trailingComma),
    ("--embedded-language-formatting", .word .embeddedLanguageFormatting)]

/-- Flags that are on by default: their negation is written when they are off. -/
def negatable : List (String × FlagOption) :=
  [("--no-bracket-spacing", .bracketSpacing), ("--no-semi", .semi)]

def enabling : List (String × FlagOption) :=
  [("--insert-pragma", .insertPragma), ("--single-attribute-per-line", .singleAttributePerLine),
    ("--bracket-same-line", .bracketSameLine), ("--jsx-single-quote", .jsxSingleQuote),
    ("--require-pragma", .requirePragma), ("--single-quote", .singleQuote), ("--use-tabs", .useTabs),
    ("--vue-indent-script-and-style", .vueIndentScriptAndStyle),
    ("--experimental-ternaries", .experimentalTernaries)]

def flags (when : Bool) (table : List (String × FlagOption)) (o : Options) : List String :=
  (table.filter fun f => o.flag f.2 == when).map Prod.fst

def code (parser : String) (o : Options) : Except ToolError (List String) := do
  let texts ← valued.mapM fun f => do return [f.1, ← f.2.text o]
  return ["--no-config", "--no-editorconfig", "--parser", parser] ++ texts.flatten ++
    flags false negatable o ++ flags true enabling o

def markup (m : MarkupOptions) : Except ToolError (List String) := do
  return ["--wrap-attributes", m.wrapAttributes, "--wrap-line-length", ← ofCount m.wrapLineLength,
    "--indent-size", ← ofCount m.indentSize] ++
    m.unformatted.flatMap (fun tag => ["--unformatted", tag]) ++
    (if m.indentInnerHtml then ["--indent-inner-html"] else []) ++
    (if m.endWithNewline then ["--end-with-newline"] else [])

end Arguments

namespace EngineSettings

def formatCode (s : EngineSettings) (parser text : Text) (o : Options) : Except ToolError Text := do
  let arguments ← Arguments.code (String.ofList parser) o
  Tool.run (s.codeCommand ++ arguments) text (some (.fractional s.timeout))

/-- A formatted template never ends with a line terminator. -/
def formatMarkup (s : EngineSettings) (text : Text) (o : Options) : Except ToolError Text := do
  let arguments ← Arguments.markup o.markup
  let t ← Tool.run (s.markupCommand ++ arguments) text (some (.fractional s.timeout))
  return Text.trimEnd (fun c => c == '\r' || c == '\n') t

def reply : Except ToolError Text → Reply
  | .ok t => .text t
  | .error (.failed message) => .refused message
  | .error _ => .crashed

def engines (s : EngineSettings) : Engines where
  markup t o := reply (s.formatMarkup t o)
  code parser t o := reply (s.formatCode parser t o)
  stylesheet dialect t o := reply (s.formatCode dialect t o)

end EngineSettings

end ComponentFormat
