/-! # White space and trimming

White space is the Unicode property `White_Space`: twenty-five characters, among
them the no-break space, the line and paragraph separators and the ideographic
space, but neither the zero-width space nor the byte order mark. Trimming takes
white space off both ends of a text; a text is blank when nothing remains.
-/

namespace Onboarding.Text

/-- The characters with the property `White_Space`. -/
def isWhite (c : Char) : Bool :=
  let code := c.toNat
  (0x09 ≤ code && code ≤ 0x0D) || code == 0x20 || code == 0x85 || code == 0xA0 ||
    code == 0x1680 || (0x2000 ≤ code && code ≤ 0x200A) || code == 0x2028 || code == 0x2029 ||
    code == 0x202F || code == 0x205F || code == 0x3000

/-- The characters left when white space is dropped from the end. -/
def trimEndChars : List Char → List Char
  | [] => []
  | c :: rest =>
    match trimEndChars rest with
    | [] => if isWhite c then [] else [c]
    | kept => c :: kept

/-- The characters left when white space is dropped from both ends. -/
def trimChars (chars : List Char) : List Char :=
  trimEndChars (chars.dropWhile isWhite)

/-- The text without the white space at both ends. -/
def trim (text : String) : String :=
  String.ofList (trimChars text.toList)

/-- An absent text trims to the empty one. -/
def trimOption (text : Option String) : String :=
  (text.map trim).getD ""

/-- A text is blank when it holds nothing but white space. -/
def isBlank (text : String) : Bool :=
  text.toList.all isWhite

/-- A text that is present and has a character. -/
def isFilled (text : Option String) : Bool :=
  match text with
  | some value => !value.isEmpty
  | none => false

end Onboarding.Text
