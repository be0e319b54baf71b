/-!
# Searching text

Occurrences of one run of characters in another, and cutting at them. A position is looked for among
the bytes of the text in UTF-8, and told in characters.
-/

namespace ScriptRealm.Text

/-- The first position at which `needle` occurs in a list. -/
def indexOf? {α : Type} [DecidableEq α] (needle : List α) : List α → Option Nat
  | [] => if needle.isEmpty then some 0 else none
  | c :: r => if needle.isPrefixOf (c :: r) then some 0 else (indexOf? needle r).map (· + 1)

/-- The bytes of a text in UTF-8. -/
def bytes (s : List Char) : List UInt8 :=
  s.flatMap String.utf8EncodeChar

/-- The characters that the first `k` bytes of a text hold. -/
def takeBytes : Nat → List Char → List Char
  | _, [] => []
  | k, c :: r =>
    let width := (String.utf8EncodeChar c).length
    if width ≤ k then c :: takeBytes (k - width) r else []

/-- The number of characters before the first occurrence of `needle` in a text. -/
def position? (needle s : List Char) : Option Nat :=
  (indexOf? (bytes needle) (bytes s)).map fun k => (takeBytes k s).length

/-- The parts of a text between the occurrences of a separator, which are taken leftmost first and
do not overlap. `part` is what has been read of the first part, last character first. The text is
not cut at an empty separator. -/
def splitAfter (separator part : List Char) : List Char → List (List Char)
  | [] => [part.reverse]
  | c :: r =>
    if h : separator ≠ [] ∧ separator.isPrefixOf (c :: r) then
      part.reverse :: splitAfter separator [] (r.drop (separator.length - 1))
    else splitAfter separator (c :: part) r
termination_by s => s.length
decreasing_by
  all_goals simp only [List.length_drop, List.length_cons]; omega

/-- The parts of a text between the occurrences of a separator. -/
def split (separator s : List Char) : List (List Char) :=
  splitAfter separator [] s

/-- The texts one after the other, with a separator between neighbours. -/
def join (separator : String) : List String → String
  | [] => ""
  | s :: r => r.foldl (fun acc t => acc ++ separator ++ t) s

end ScriptRealm.Text
