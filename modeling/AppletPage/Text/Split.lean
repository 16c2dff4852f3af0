/-! Texts cut at a mark. -/

namespace AppletPage.Text

def splitAt (mark : Char) : List Char → List (List Char)
  | [] => [[]]
  | c :: rest =>
      if c = mark then [] :: splitAt mark rest
      else
        match splitAt mark rest with
        | piece :: others => (c :: piece) :: others
        | [] => [[c]]

def withoutLineEnd (text : List Char) : List Char :=
  match text.reverse with
  | '\n' :: rest => rest.reverse
  | _ => text

end AppletPage.Text
