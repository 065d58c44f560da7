-- Line ends of all systems as newlines: a carriage return counts as one,
-- together with a newline that follows it.

namespace ProtoRefresh.Text

/-- A text with a newline for each line end. -/
def unifyLineEnds : List Char → List Char
  | [] => []
  | '\r' :: '\n' :: rest => '\n' :: unifyLineEnds rest
  | c :: rest => (if c = '\r' then '\n' else c) :: unifyLineEnds rest

/-- A string with a newline for each line end. -/
def withNewlines (s : String) : String := String.ofList (unifyLineEnds s.toList)

end ProtoRefresh.Text
