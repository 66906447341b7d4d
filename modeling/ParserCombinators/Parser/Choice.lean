import ParserCombinators.Parser.Basic

/-!
# Alternatives

A choice takes the first alternative that succeeds. When all fail it answers with the failed
state whose failure was noticed furthest on, and among equals with the last of them.
Alternatives start from the same position, whatever the earlier ones read.
-/

namespace ParserCombinators

variable {α : Type}

/-- The failed state whose failure lies further on, the second one at equal indices. -/
def State.further (first second : State α) : State α :=
  match first.result, second.result with
  | .error e, .error f => if e.index ≤ f.index then second else first
  | _, _ => second

namespace Parser

/-- The first parser, or the second from the same position if the first fails. -/
def orElse (p q : Parser α) : Parser α where
  transition fuel pos := (p.transition fuel pos).bind fun first =>
    if first.isError then
      (q.transition fuel pos).map fun second =>
        if second.isError then first.further second else second
    else .done first
  stable m n pos h := (p.stable m n pos h).bind fun first => by
    split
    · exact (q.stable m n pos h).map _
    · exact Run.Le.refl _

/-- The first of the parsers that succeeds. -/
def choice : List (Parser α) → Parser α
  | [] => ofFunction fun pos => pos.fail (Failure.noAlternative pos.index)
  | [p] => p
  | p :: q :: rest => p.orElse (choice (q :: rest))

/-- The value of the parser if it succeeds; otherwise no value, with nothing read. -/
def optional (p : Parser α) : Parser (Option α) where
  transition fuel pos := (p.transition fuel pos).map fun state =>
    if state.isError then pos.succeed none else state.map some
  stable m n pos h := (p.stable m n pos h).map _

end Parser

end ParserCombinators
