import ComponentFormat.Text.CaseTable
import ComponentFormat.Text.Case
import ComponentFormat.Text.HiddenTable

/-! # Texts in quotation marks

A text stands between single quotes, or between double quotes if it has single ones only. Characters that do not show
are written by their numbers.
-/
namespace ComponentFormat.Text

/-- Whether a character has a shape; the blank has one. -/
def isVisible (c : Char) : Bool :=
  if c.toNat < 0x80 then ' ' ≤ c && c ≤ '~' else !inRanges hiddenRanges c.toNat

def hexadecimal (width n : Nat) : Text :=
  let ds := Nat.toDigits 16 n
  List.replicate (width - ds.length) '0' ++ ds

def quotedCharacter (quote c : Char) : Text :=
  if c = quote ∨ c = '\\' then ['\\', c]
  else if c = '\n' then ['\\', 'n']
  else if c = '\r' then ['\\', 'r']
  else if c = '\t' then ['\\', 't']
  else if isVisible c then [c]
  else if c.toNat ≤ 0xFF then ['\\', 'x'] ++ hexadecimal 2 c.toNat
  else if c.toNat ≤ 0xFFFF then ['\\', 'u'] ++ hexadecimal 4 c.toNat
  else ['\\', 'U'] ++ hexadecimal 8 c.toNat

def quotation (t : Text) : Text :=
  let quote := if t.any (· == '\'') && !t.any (· == '"') then '"' else '\''
  quote :: t.flatMap (quotedCharacter quote) ++ [quote]

example : quotation "it's".toList = "\"it's\"".toList := by decide +kernel
example : quotation ['\u200b', '\x7f'] = "'\\u200b\\x7f'".toList := by decide +kernel

end ComponentFormat.Text
