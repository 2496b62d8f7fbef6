/-! Cutting and comparing texts by characters.

Texts are compared and cut as lists of characters: a prefix is a prefix of the character list,
splitting at a separator keeps the empty pieces between two separators and at both ends, and
cutting at the first separator gives the text before it and the text after it. -/
namespace FlowSelect.Text

/-- Whether `p` is a prefix of `s`, character by character. -/
def startsWith (s p : String) : Bool := p.toList.isPrefixOf s.toList

/-- The characters before and after the first `sep`, if `sep` occurs. -/
def cutChars (sep : Char) : List Char → Option (List Char × List Char)
  | [] => none
  | c :: cs => if c = sep then some ([], cs) else (cutChars sep cs).map fun p => (c :: p.1, p.2)

/-- The text before and the text after the first `sep`, if `sep` occurs. -/
def cut (s : String) (sep : Char) : Option (String × String) :=
  (cutChars sep s.toList).map fun p => (String.ofList p.1, String.ofList p.2)

/-- The pieces of a text between its separators, empty pieces included: a text without `sep`
is one piece, and `n` separators give `n + 1` pieces. -/
def pieces (s : String) (sep : Char) : List String :=
  (s.toList.splitOn sep).map String.ofList

/-- The pieces joined back with a separator between two neighbours. -/
def joinWith (sep : String) : List String → String
  | [] => ""
  | [p] => p
  | p :: ps => p ++ sep ++ joinWith sep ps

end FlowSelect.Text
