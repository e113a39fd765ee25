import CommentBot.Net.Domain.Direction
import CommentBot.Net.Domain.Label

/-!
# Domain names

A domain name is a row of labels between points. Labels beyond ASCII are compared after their characters have
been mapped, and may also be written in ASCII.
-/

namespace CommentBot.Net.Domain

/-- The labels of a domain name, if it is fit for use. An empty text has one empty label. -/
def labels? (text : List Char) : Option (List (List Char)) := do
  let labels ← ((← mapText? text).splitOn '.').mapM readLabel?
  if directionsFit labels then some labels else none

end CommentBot.Net.Domain
