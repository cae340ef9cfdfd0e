/-!
# Text/Basic — white space, identifiers and grouped digits

Operators, attributes, parameters and symbolic dimensions are named by identifiers, made of ASCII
letters, digits and underscores.  `normalizeIdentifier` turns any text into one, and a non-empty
text is an identifier exactly when that changes nothing.
-/

namespace TensorGraph.Text

/-! ## White space -/

/-- The white-space characters: the ASCII controls from tab to carriage return, the space, and the
spaces and separators of other scripts. -/
def isBlank (c : Char) : Bool :=
  let n := c.toNat
  (0x09 ≤ n && n ≤ 0x0D) || n == 0x20 || n == 0x85 || n == 0xA0 || n == 0x1680
    || (0x2000 ≤ n && n ≤ 0x200A) || n == 0x2028 || n == 0x2029 || n == 0x202F
    || n == 0x205F || n == 0x3000

/-- The characters left when white space is removed from both ends. -/
def trimChars (cs : List Char) : List Char :=
  ((cs.dropWhile isBlank).reverse.dropWhile isBlank).reverse

/-- A text without white space at either end. -/
def trim (s : String) : String := String.ofList (trimChars s.toList)

/-! ## Identifiers -/

/-- The characters an identifier is made of. -/
def isWordChar (c : Char) : Bool := c.isAlphanum || c == '_'

/-- A word character as it is, anything else as an underscore. -/
def wordChar (c : Char) : Char := if isWordChar c then c else '_'

/-- The characters of the identifier made from a text: foreign characters become underscores, and
one more underscore keeps a digit from coming first. -/
def identifierChars : List Char → List Char
  | [] => []
  | c :: cs => (if c.isDigit then ['_'] else []) ++ (c :: cs).map wordChar

/-- The identifier made from a text; the empty text stays empty. -/
def normalizeIdentifier (s : String) : String := String.ofList (identifierChars s.toList)

/-- A non-empty text that normalization leaves alone. -/
def isIdentifier (s : String) : Bool := s != "" && normalizeIdentifier s == s

/-! ## Grouped digits -/

/-- Commas put after every third element, counted from the front; none at the end. -/
def commaEveryThree : List Char → List Char
  | a :: b :: c :: d :: rest => a :: b :: c :: ',' :: commaEveryThree (d :: rest)
  | short => short

/-- The decimal numeral of `n`, its digits grouped by three from the right. -/
def grouped (n : Nat) : String :=
  String.ofList (commaEveryThree (Nat.toDigits 10 n).reverse).reverse

end TensorGraph.Text
