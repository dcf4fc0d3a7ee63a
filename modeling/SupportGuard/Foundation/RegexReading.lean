import SupportGuard.Foundation.Regex

/-! # The characters of a pattern

A literal stands for its bytes, and reading them back takes far longer than reading a pattern
from its characters. Where patterns are evaluated, they are read once. -/

namespace Foundation

namespace Regex

/-- A regular expression with the characters that it is read from. -/
structure Reading (regex : Regex) where
  characters : List Char
  same : regex = (compile? characters).getD .empty

theorem reads_nil : ([] : List String).flatMap String.toList = [] :=
  rfl

theorem reads_cons {literal : String} {rest : List String} {first later : List Char}
    (one : literal.toList = first) (others : rest.flatMap String.toList = later) :
    (literal :: rest).flatMap String.toList = first ++ later := by
  rw [List.flatMap_cons, one, others]

theorem compile_reads {literals : List String} {characters : List Char}
    (read : literals.flatMap String.toList = characters) :
    compile literals = (compile? characters).getD .empty := by
  rw [compile, read]

end Regex

end Foundation
