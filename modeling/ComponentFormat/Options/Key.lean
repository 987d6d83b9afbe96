import ComponentFormat.Text.Case

/-! # The two spellings of an option's name

Options are named in snake case (`tab_width`) and written to the outside in camel case (`tabWidth`).
-/
namespace ComponentFormat.Key

def isCapital (c : Char) : Bool :=
  'A' ≤ c && c ≤ 'Z'

/-- A low line before every ASCII capital but one at the front. -/
def separate : Text → Text
  | [] => []
  | c :: t => c :: t.flatMap fun d => if isCapital d then ['_', d] else [d]

def snakeCase (key : Text) : Text :=
  Text.lower (separate key)

def camelCase (name : Text) : Text :=
  match Text.splitAt (· == '_') name with
  | [] => []
  | head :: parts => head ++ parts.flatMap Text.capitalize

example : snakeCase "tabWidth".toList = "tab_width".toList := by decide +kernel
example : camelCase "tab_width".toList = "tabWidth".toList := by decide +kernel

end ComponentFormat.Key
