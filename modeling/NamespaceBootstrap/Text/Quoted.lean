import NamespaceBootstrap.Text.Hex
import NamespaceBootstrap.Text.Printable

/-!
Quoted text as error messages show a value: between double quotes, with the quote, the
backslash and the characters that would not show as themselves written as escapes.

`\0`, `\t`, `\r` and `\n` have short escapes; any other character that is not printable, or
that is a mark attaching to the character before it (`Grapheme_Extend`), is written `\u{…}` with
the lowercase hexadecimal digits of its code point.
-/

namespace NamespaceBootstrap.Text

def escapeChar (c : Char) : List Char :=
  if c = '\x00' then ['\\', '0']
  else if c = '\t' then ['\\', 't']
  else if c = '\r' then ['\\', 'r']
  else if c = '\n' then ['\\', 'n']
  else if c = '\\' then ['\\', '\\']
  else if c = '"' then ['\\', '"']
  else if 0x20 ≤ c.toNat ∧ c.toNat < 0x7F then [c]
  else if isGraphemeExtend c || !isPrintable c then
    '\\' :: 'u' :: '\x7b' :: hexDigits c.toNat ++ ['\x7d']
  else [c]

def escapeChars (cs : List Char) : List Char :=
  cs.flatMap escapeChar

def quote (s : String) : String :=
  String.ofList ('"' :: escapeChars s.toList ++ ['"'])

theorem escapeChar_ascii (c : Char) (h1 : 0x20 ≤ c.toNat) (h2 : c.toNat < 0x7F)
    (hq : c ≠ '"') (hb : c ≠ '\\') : escapeChar c = [c] := by
  have h0 : c ≠ '\x00' := by rintro rfl; simp at h1
  have ht : c ≠ '\t' := by rintro rfl; simp at h1
  have hr : c ≠ '\r' := by rintro rfl; simp at h1
  have hn : c ≠ '\n' := by rintro rfl; simp at h1
  simp [escapeChar, h0, ht, hr, hn, hq, hb, h1, h2]

end NamespaceBootstrap.Text
