import Systolic.Text.Hex
import Systolic.Text.Printable

namespace Systolic.Text

/-- How a character stands between quotation marks: a quotation mark and a backslash after a
backslash, the common controls by their letter, anything else without a mark by its number. -/
def escape (c : Char) : List Char :=
  match c with
  | '"' => ['\\', '"']
  | '\\' => ['\\', '\\']
  | '\t' => ['\\', 't']
  | '\n' => ['\\', 'n']
  | '\r' => ['\\', 'r']
  | '\x00' => ['\\', '0']
  | c => if isMarked c then [c] else ['\\', 'u', '\x7b'] ++ Hex.digits c.toNat ++ ['\x7d']

def quote (s : String) : String :=
  String.ofList ('"' :: s.toList.flatMap escape ++ ['"'])

end Systolic.Text
