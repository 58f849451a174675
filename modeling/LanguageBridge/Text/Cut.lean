set_option autoImplicit false

/-! # Cutting texts

A text falls into parts at the characters that separate them: `words` leaves the empty parts out,
`splitAt` keeps them, and `cutAt` cuts only once.
-/

namespace LanguageBridge.Text

/-- The words of a text, which spaces and line ends separate. -/
def words (text : String) : List (List Char) :=
  let close (p : List Char × List (List Char)) := if p.1.isEmpty then p.2 else p.1 :: p.2
  close <| text.toList.foldr
    (fun c p => if c = ' ' || c = '\n' then ([], close p) else (c :: p.1, p.2)) ([], [])

/-- The parts of a text between separators; there is always one part more than separators. -/
def splitAt (separator : Char) : List Char → List (List Char)
  | [] => [[]]
  | c :: rest =>
    if c = separator then [] :: splitAt separator rest
    else
      match splitAt separator rest with
      | [] => [[c]]
      | part :: more => (c :: part) :: more

/-- Cuts characters at the first one that is a given mark, which neither part keeps. -/
def cutAt (mark : Char) (s : List Char) : List Char × List Char :=
  let front := s.takeWhile (· ≠ mark)
  (front, s.drop (front.length + 1))

end LanguageBridge.Text
