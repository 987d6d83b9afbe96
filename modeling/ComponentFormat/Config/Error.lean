import ComponentFormat.Value

/-! # Configuration files that cannot be used -/
namespace ComponentFormat

inductive ConfigError where
  | unreadable (path : String)
  | malformed (path : String)
  | notMapping (path kind : String)
  deriving DecidableEq, Repr

def ConfigError.message : ConfigError → String
  | unreadable path => s!"Cannot read {path}"
  | malformed path => s!"Invalid config in {path}"
  | notMapping path kind => s!"Config in {path} must be a mapping, got {kind}"

end ComponentFormat
