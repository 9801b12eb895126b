import StreamCatalog.Text.Coded
import StreamCatalog.Text.Hex

/-!
# Quoted text in messages

A message that repeats what it was given quotes it: double quotes around, a
backslash before quotes and backslashes, short forms for the usual control
characters, and `\u` with the hexadecimal code point in braces for every other
character that cannot be seen.
-/

namespace StreamCatalog
namespace Text

/-- One character inside quotes. -/
def quoteChar (c : Char) : List Char :=
  match c with
  | '"' => ['\\', '"']
  | '\\' => ['\\', '\\']
  | '\n' => ['\\', 'n']
  | '\r' => ['\\', 'r']
  | '\t' => ['\\', 't']
  | '\x00' => ['\\', '0']
  | c => if isCoded c then '\\' :: 'u' :: '{' :: hexDigits c.toNat ++ ['}'] else [c]

/-- A text in double quotes. -/
def quote (s : String) : String :=
  String.ofList ('"' :: s.toList.flatMap quoteChar ++ ['"'])

end Text
end StreamCatalog
