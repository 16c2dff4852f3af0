/-! Text inside markup: the characters that markup gives a meaning are written as references. -/

namespace AppletPage.Markup

def escapeChar (c : Char) : List Char :=
  if c = '&' then "&amp;".toList
  else if c = '<' then "&lt;".toList
  else if c = '>' then "&gt;".toList
  else if c = '"' then "&#34;".toList
  else if c = '\'' then "&#39;".toList
  else [c]

def escape (text : List Char) : List Char := text.flatMap escapeChar

@[simp] theorem escape_nil : escape [] = [] := rfl

theorem escape_cons (c : Char) (rest : List Char) :
    escape (c :: rest) = escapeChar c ++ escape rest := rfl

end AppletPage.Markup
