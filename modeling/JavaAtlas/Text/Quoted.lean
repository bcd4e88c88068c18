import JavaAtlas.Text.Printable

/-!
# Quoted text

Messages show a text between quotes. Single quotes are used unless the text holds one and no
double quote; the quote, the backslash and every unprintable character are written as escapes.
-/

namespace JavaAtlas

namespace Text

/-- A lowercase hexadecimal number of at least `width` digits. -/
def hex (width n : Nat) : String :=
  let digits := Nat.toDigits 16 n
  String.ofList (List.replicate (width - digits.length) '0' ++ digits)

def quoteChar (quote c : Char) : String :=
  let n := c.toNat
  if c == quote || c == '\\' then String.ofList ['\\', c]
  else if c == '\t' then "\\t"
  else if c == '\n' then "\\n"
  else if c == '\r' then "\\r"
  else if isPrintable c then String.ofList [c]
  else if n < 0x100 then "\\x" ++ hex 2 n
  else if n < 0x10000 then "\\u" ++ hex 4 n
  else "\\U" ++ hex 8 n

def quoted (s : String) : String :=
  let quote := if s.toList.contains '\'' && !s.toList.contains '"' then '"' else '\''
  let mark := String.ofList [quote]
  mark ++ String.join (s.toList.map (quoteChar quote)) ++ mark

end Text

end JavaAtlas
