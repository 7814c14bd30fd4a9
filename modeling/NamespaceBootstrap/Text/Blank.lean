/-!
White space in the sense of the Unicode `White_Space` property, and trimming by it.

Numbers and names read from the command line, from the environment and from the wire are
trimmed with this set, so a no-break space or an ideographic space around a number goes the
same way as an ASCII blank. `trim` is stated on lists of characters, where its two halves are
`List.dropWhile`, and lifted to strings.
-/

namespace NamespaceBootstrap.Text

/-- The code points that have the Unicode `White_Space` property. -/
def isBlank (c : Char) : Bool :=
  let n := c.toNat
  (0x09 ≤ n && n ≤ 0x0D) || n == 0x20 || n == 0x85 || n == 0xA0 || n == 0x1680 ||
    (0x2000 ≤ n && n ≤ 0x200A) || n == 0x2028 || n == 0x2029 || n == 0x202F ||
    n == 0x205F || n == 0x3000

def trimChars (cs : List Char) : List Char :=
  ((cs.dropWhile isBlank).reverse.dropWhile isBlank).reverse

def trim (s : String) : String :=
  String.ofList (trimChars s.toList)

theorem trimChars_nil : trimChars [] = [] := rfl

theorem isBlank_of_isWhitespace (c : Char) (h : c.isWhitespace = true) : isBlank c = true := by
  simp only [Char.isWhitespace, Bool.or_eq_true, decide_eq_true_eq] at h
  simp only [isBlank]
  rcases h with ((h | h) | h) | h <;> subst h <;> decide

end NamespaceBootstrap.Text
