-- The imports of a .proto source text. An import is a statement at the
-- top level: it starts the text or follows a semicolon or a closing
-- brace, and names a path in quotes.
import ProtoRefresh.Proto.Lexeme

namespace ProtoRefresh.Proto

/-- A token that ends a statement. -/
def Lexeme.endsStatement (token : Lexeme) : Bool := token = .symbol ';' || token = .symbol '\x7d'

/-- The path that is named by the tokens after the word `import` and its modifier. -/
def namedPath? : List Lexeme → Option (List Char)
  | .literal _ path :: .symbol ';' :: _ => some path
  | _ => none

/-- The path of an import statement, given the tokens after the word `import`. -/
def importedPath? : List Lexeme → Option (List Char)
  | [] => none
  | token :: rest =>
    if token = .word "public".toList ∨ token = .word "weak".toList then namedPath? rest
    else namedPath? (token :: rest)

/-- The imported paths of tokens; `fresh` says that a statement may start with the first. -/
def pathsOfTokens (fresh : Bool) : List Lexeme → List (List Char)
  | [] => []
  | token :: rest =>
    let paths := pathsOfTokens token.endsStatement rest
    if fresh && token = .word "import".toList then (importedPath? rest).toList ++ paths else paths

/-- The paths that a text imports, in order. -/
def importedPaths (text : List Char) : List (List Char) := pathsOfTokens true (tokens text)

/-- The paths that a source text imports, in order. -/
def imports (source : String) : List String :=
  (importedPaths source.toList).map String.ofList

end ProtoRefresh.Proto
