/-!
# Escaping for mark-up

The five characters with a meaning in mark-up and their references.
-/

namespace DomainGen.Text

/-- One character with its reference in place of it, where it has one. -/
def escapeChar (c : Char) : List Char :=
  if c == '&' then "&amp;".toList
  else if c == '<' then "&lt;".toList
  else if c == '>' then "&gt;".toList
  else if c == '\'' then "&#39;".toList
  else if c == '"' then "&#34;".toList
  else [c]

/-- A text with every special character replaced by its reference. -/
def escapeMarkup (s : String) : String :=
  String.ofList (s.toList.flatMap escapeChar)

end DomainGen.Text
