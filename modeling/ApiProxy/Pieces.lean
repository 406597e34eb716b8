/-! Texts cut at separators. There is always one piece more than there are separators, so joining the pieces
again gives the text back. -/

namespace ApiProxy

def pieces (isSeparator : Char → Bool) : List Char → List (List Char)
  | [] => [[]]
  | c :: rest =>
    if isSeparator c then [] :: pieces isSeparator rest
    else
      match pieces isSeparator rest with
      | [] => [[c]]
      | piece :: others => (c :: piece) :: others

def joinPieces (separator : Char) (parts : List (List Char)) : List Char := List.intercalate [separator] parts

/-- Cuts a text at its first separator, which belongs to neither half. -/
def cutAt (separator : Char) (text : List Char) : List Char × Option (List Char) :=
  match text.span (· ≠ separator) with
  | (front, []) => (front, none)
  | (front, _ :: back) => (front, some back)

theorem pieces_ne_nil (isSeparator : Char → Bool) (text : List Char) : pieces isSeparator text ≠ [] := by
  cases text with
  | nil => simp [pieces]
  | cons c rest =>
    rw [pieces]
    split
    · simp
    · split <;> simp

theorem joinPieces_pieces (separator : Char) (text : List Char) :
    joinPieces separator (pieces (· = separator) text) = text := by
  induction text with
  | nil => rfl
  | cons c rest ih =>
    rw [pieces]
    cases hp : pieces (· = separator) rest with
    | nil => exact absurd hp (pieces_ne_nil _ rest)
    | cons piece others =>
      rw [hp] at ih
      split
      · simp_all [joinPieces, List.intercalate, List.intersperse]
      · cases others <;> simp_all [joinPieces, List.intercalate, List.intersperse]

end ApiProxy
