import NamespaceBootstrap.Text.Blank

/-!
Signed 32-bit integers as decimal text.

The grammar is an optional sign (`+` or `-`) and one or more ASCII digits; nothing else, not
even white space, may stand in the text. Digits are read left to right, and the first digit
that is not one, or that takes the value out of the 32-bit range, decides the failure; a sign
with nothing after it has no digits to read and counts as a bad digit.
-/

namespace NamespaceBootstrap.Text

/-- Why decimal text does not give a 32-bit integer. -/
inductive IntTextError where
  | empty
  | invalidDigit
  | tooLarge
  | tooSmall
  deriving DecidableEq, Repr

def IntTextError.message : IntTextError → String
  | .empty => "cannot parse integer from empty string"
  | .invalidDigit => "invalid digit found in string"
  | .tooLarge => "number too large to fit in target type"
  | .tooSmall => "number too small to fit in target type"

def i32Max : Int := 2147483647

def i32Min : Int := -2147483648

/-- Reads digits into `acc`, adding them for a positive and subtracting them for a negative
number, and fails at the first character that is no digit or leaves the range. -/
def digitsFrom (positive : Bool) (acc : Int) : List Char → Except IntTextError Int
  | [] => .ok acc
  | c :: cs =>
    if c.isDigit then
      let d : Int := c.toNat - 0x30
      if positive then
        if acc * 10 + d > i32Max then .error .tooLarge else digitsFrom positive (acc * 10 + d) cs
      else
        if acc * 10 - d < i32Min then .error .tooSmall else digitsFrom positive (acc * 10 - d) cs
    else .error .invalidDigit

def parseI32Chars : List Char → Except IntTextError Int
  | [] => .error .empty
  | ['+'] => .error .invalidDigit
  | ['-'] => .error .invalidDigit
  | '+' :: cs => digitsFrom true 0 cs
  | '-' :: cs => digitsFrom false 0 cs
  | cs => digitsFrom true 0 cs

def parseI32 (s : String) : Except IntTextError Int :=
  parseI32Chars s.toList

def parseTrimmedI32 (s : String) : Except IntTextError Int :=
  parseI32Chars (trimChars s.toList)

end NamespaceBootstrap.Text
