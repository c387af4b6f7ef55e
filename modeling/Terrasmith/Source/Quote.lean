/-!
String literals as they are written by hand: quotes, backslashes and the usual control characters are
escaped with a backslash, and a `$` or `%` before an opening brace is doubled.
-/
namespace Terrasmith.Source

def quoteChars : List Char → List Char
  | [] => []
  | c :: rest =>
    match c with
    | '"' => '\\' :: '"' :: quoteChars rest
    | '\\' => '\\' :: '\\' :: quoteChars rest
    | '\n' => '\\' :: 'n' :: quoteChars rest
    | '\r' => '\\' :: 'r' :: quoteChars rest
    | '\t' => '\\' :: 't' :: quoteChars rest
    | _ =>
      if (c = '$' || c = '%') && rest.head? = some '{' then c :: c :: quoteChars rest
      else c :: quoteChars rest

/-- The string literal that denotes `text`. -/
def quote (text : String) : String :=
  String.ofList ('"' :: (quoteChars text.toList ++ ['"']))

end Terrasmith.Source
