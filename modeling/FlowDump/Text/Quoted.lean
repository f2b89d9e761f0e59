import FlowDump.Text.Hidden

/-!
# Quoted texts

How a log shows a text when it is asked for the value itself rather than its characters: in double
quotes, with everything that could be misread escaped.

* `Text.quoted` — the text in quotes.
* `Text.quoteChar` — one character of it.
-/

namespace FlowDump.Text

/-- The hexadecimal form of a code point between braces. -/
def codePoint (c : Char) : List Char :=
  '\\' :: 'u' :: '\x7b' :: Nat.toDigits 16 c.toNat ++ ['\x7d']

/-- A character inside quotes.  Characters from the space to the tilde need no look at the table of
    hidden ones. -/
def quoteChar (c : Char) : List Char :=
  match c with
  | '\x00' => ['\\', '0']
  | '\t' => ['\\', 't']
  | '\r' => ['\\', 'r']
  | '\n' => ['\\', 'n']
  | '\\' => ['\\', '\\']
  | '"' => ['\\', '"']
  | c => if (' ' ≤ c && c ≤ '~') || !isHidden c then [c] else codePoint c

/-- A text in quotes. -/
def quoted (s : String) : String :=
  String.ofList ('"' :: s.toList.flatMap quoteChar ++ ['"'])

end FlowDump.Text
