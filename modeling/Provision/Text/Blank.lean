/-!
# Blank characters and line ends

* `isBlank`: the white space characters of Unicode, with the four separator controls.
* `trim`: a text without the blanks at its ends.
* `isLineEnd`, `lines`: the characters that end a line, and the lines of a text.
-/

namespace Provision.Text

/-- White space: the Unicode property together with the separator controls `U+001C` to `U+001F`. -/
def isBlank (c : Char) : Bool :=
  let n := c.toNat
  (0x09 ≤ n && n ≤ 0x0D) || (0x1C ≤ n && n ≤ 0x20) || n == 0x85 || n == 0xA0 || n == 0x1680 ||
    (0x2000 ≤ n && n ≤ 0x200A) || n == 0x2028 || n == 0x2029 || n == 0x202F || n == 0x205F ||
    n == 0x3000

/-- The characters at which a text is cut into lines. -/
def isLineEnd (c : Char) : Bool :=
  let n := c.toNat
  (0x0A ≤ n && n ≤ 0x0D) || (0x1C ≤ n && n ≤ 0x1E) || n == 0x85 || n == 0x2028 || n == 0x2029

/-- A list of characters without the longest run at its end that satisfies `p`. -/
def dropEndWhile (p : Char → Bool) (cs : List Char) : List Char := (cs.reverse.dropWhile p).reverse

/-- A text without the blanks at either end. -/
def trim (s : String) : String :=
  String.ofList (dropEndWhile isBlank (s.toList.dropWhile isBlank))

/-- Cuts at every line end, a carriage return with a line feed counting once; `cur` holds the line
being read, reversed, and a text that ends in a line end has no empty last line. -/
def linesFrom (cur : List Char) : List Char → List (List Char)
  | [] => if cur.isEmpty then [] else [cur.reverse]
  | '\r' :: '\n' :: cs => cur.reverse :: linesFrom [] cs
  | c :: cs => if isLineEnd c then cur.reverse :: linesFrom [] cs else linesFrom (c :: cur) cs

/-- The lines of a text, without their ends. -/
def lines (s : String) : List String := (linesFrom [] s.toList).map String.ofList

/-- Cuts a list of characters at every `d`; there is always one piece more than there are `d`s. -/
def splitChars (d : Char) : List Char → List (List Char)
  | [] => [[]]
  | c :: cs =>
    if c = d then [] :: splitChars d cs
    else
      match splitChars d cs with
      | [] => [[c]]
      | piece :: pieces => (c :: piece) :: pieces

/-- The pieces of a text between the occurrences of `d`. -/
def splitAtChar (d : Char) (s : String) : List String :=
  (splitChars d s.toList).map String.ofList

/-- Texts joined with a separator between neighbours. -/
def join (separator : String) (pieces : List String) : String := separator.intercalate pieces

end Provision.Text
