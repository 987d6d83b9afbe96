import ComponentFormat.Value
import ComponentFormat.Options.Key

/-! # Formatting options

The options of the code and stylesheet engines are words, counts and flags; those of the markup engine stand
apart. Every option always has a value.
-/
namespace ComponentFormat

inductive WordOption where
  | arrowParens
  | endOfLine
  | htmlWhitespaceSensitivity
  | proseWrap
  | quoteProps
  | trailingComma
  | embeddedLanguageFormatting
  deriving DecidableEq, Repr

inductive CountOption where
  | printWidth
  | tabWidth
  deriving DecidableEq, Repr

inductive FlagOption where
  | bracketSpacing
  | insertPragma
  | singleAttributePerLine
  | bracketSameLine
  | jsxSingleQuote
  | requirePragma
  | semi
  | singleQuote
  | useTabs
  | vueIndentScriptAndStyle
  | experimentalTernaries
  deriving DecidableEq, Repr

def WordOption.all : List WordOption :=
  [.arrowParens, .endOfLine, .htmlWhitespaceSensitivity, .proseWrap, .quoteProps, .trailingComma,
    .embeddedLanguageFormatting]

def CountOption.all : List CountOption := [.printWidth, .tabWidth]

def FlagOption.all : List FlagOption :=
  [.bracketSpacing, .insertPragma, .singleAttributePerLine, .bracketSameLine, .jsxSingleQuote,
    .requirePragma, .semi, .singleQuote, .useTabs, .vueIndentScriptAndStyle, .experimentalTernaries]

def WordOption.name : WordOption → String
  | arrowParens => "arrow_parens"
  | endOfLine => "end_of_line"
  | htmlWhitespaceSensitivity => "html_whitespace_sensitivity"
  | proseWrap => "prose_wrap"
  | quoteProps => "quote_props"
  | trailingComma => "trailing_comma"
  | embeddedLanguageFormatting => "embedded_language_formatting"

def CountOption.name : CountOption → String
  | printWidth => "print_width"
  | tabWidth => "tab_width"

def FlagOption.name : FlagOption → String
  | bracketSpacing => "bracket_spacing"
  | insertPragma => "insert_pragma"
  | singleAttributePerLine => "single_attribute_per_line"
  | bracketSameLine => "bracket_same_line"
  | jsxSingleQuote => "jsx_single_quote"
  | requirePragma => "require_pragma"
  | semi => "semi"
  | singleQuote => "single_quote"
  | useTabs => "use_tabs"
  | vueIndentScriptAndStyle => "vue_indent_script_and_style"
  | experimentalTernaries => "experimental_ternaries"

/-- The void-like elements that the markup engine leaves on their line. -/
def unformattedTags : List String :=
  ["area", "base", "br", "col", "embed", "hr", "keygen", "link", "menuitem", "meta", "param", "source",
    "track", "wbr"]

inductive MarkupOption where
  | wrapAttributes
  | wrapLineLength
  | unformatted
  | indentSize
  | indentInnerHtml
  | endWithNewline
  deriving DecidableEq, Repr

def MarkupOption.all : List MarkupOption :=
  [.wrapAttributes, .wrapLineLength, .unformatted, .indentSize, .indentInnerHtml, .endWithNewline]

def MarkupOption.name : MarkupOption → String
  | wrapAttributes => "wrap_attributes"
  | wrapLineLength => "wrap_line_length"
  | unformatted => "unformatted"
  | indentSize => "indent_size"
  | indentInnerHtml => "indent_inner_html"
  | endWithNewline => "end_with_newline"

structure MarkupOptions where
  wrapAttributes : String
  wrapLineLength : Nat
  unformatted : List String
  indentSize : Nat
  indentInnerHtml : Bool
  endWithNewline : Bool
  deriving DecidableEq, Repr

def MarkupOptions.default : MarkupOptions :=
  ⟨"force-aligned", 150, unformattedTags, 4, false, false⟩

structure Options where
  word : WordOption → String
  count : CountOption → Nat
  flag : FlagOption → Bool
  markup : MarkupOptions

namespace Options

def defaultWord : WordOption → String
  | .arrowParens => "avoid"
  | .endOfLine => "lf"
  | .htmlWhitespaceSensitivity => "css"
  | .proseWrap => "preserve"
  | .quoteProps => "consistent"
  | .trailingComma => "none"
  | .embeddedLanguageFormatting => "auto"

def defaultCount : CountOption → Nat
  | .printWidth => 150
  | .tabWidth => 4

def defaultFlag : FlagOption → Bool
  | .bracketSpacing | .singleAttributePerLine | .bracketSameLine | .jsxSingleQuote | .semi
  | .singleQuote => true
  | .insertPragma | .requirePragma | .useTabs | .vueIndentScriptAndStyle | .experimentalTernaries => false

def default : Options :=
  ⟨defaultWord, defaultCount, defaultFlag, .default⟩

def setWord (o : Options) (f : WordOption) (s : String) : Options :=
  { o with word := fun g => if g = f then s else o.word g }

def setCount (o : Options) (f : CountOption) (n : Nat) : Options :=
  { o with count := fun g => if g = f then n else o.count g }

def setFlag (o : Options) (f : FlagOption) (b : Bool) : Options :=
  { o with flag := fun g => if g = f then b else o.flag g }

end Options

def Key.ofName (name : String) : Scalar :=
  .str (String.ofList (Key.camelCase name.toList))

/-- The options of the code engines under their written keys. -/
def Options.toLayer (o : Options) : Layer :=
  WordOption.all.map (fun f => (Key.ofName f.name, .ofString (o.word f))) ++
    CountOption.all.map (fun f => (Key.ofName f.name, .ofNat (o.count f))) ++
    FlagOption.all.map (fun f => (Key.ofName f.name, .ofBool (o.flag f)))

def MarkupOptions.get (m : MarkupOptions) : MarkupOption → Value
  | .wrapAttributes => .ofString m.wrapAttributes
  | .wrapLineLength => .ofNat m.wrapLineLength
  | .unformatted => .list (m.unformatted.map .ofString)
  | .indentSize => .ofNat m.indentSize
  | .indentInnerHtml => .ofBool m.indentInnerHtml
  | .endWithNewline => .ofBool m.endWithNewline

def MarkupOptions.toLayer (m : MarkupOptions) : Layer :=
  MarkupOption.all.map fun f => (Key.ofName f.name, m.get f)

end ComponentFormat
