import SocketLoop.Text.Hidden
import SocketLoop.Text.Number

/-!
# Quoted text

Messages show a text that they complain about between double quotes. Quotes and backslashes get a
backslash, the usual controls have a short form, and any other hidden character is written by its
code point in braces. An apostrophe stands for itself.
-/

namespace SocketLoop.Text

/-- One character as it stands between the quotes. -/
def quoteChar (c : Char) : List Char :=
  match c with
  | '"' => ['\\', '"']
  | '\\' => ['\\', '\\']
  | '\n' => ['\\', 'n']
  | '\r' => ['\\', 'r']
  | '\t' => ['\\', 't']
  | '\x00' => ['\\', '0']
  | c => if isHidden c then "\\u\x7b".toList ++ digits 16 c.toNat ++ ['\x7d'] else [c]

/-- A text between double quotes. -/
def quote (text : String) : String :=
  String.ofList ('"' :: text.toList.flatMap quoteChar ++ ['"'])

end SocketLoop.Text
