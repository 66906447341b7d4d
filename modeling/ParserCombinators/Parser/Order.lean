import ParserCombinators.Parser.Choice
import ParserCombinators.Parser.Repeat

/-!
# Parsers built from parsers that answer more

Every combinator keeps the order of its arguments: built from parsers that give at least the
same answers, a parser gives at least the same answers. This makes the unfolding of recursive
rules an increasing sequence.
-/

namespace ParserCombinators.Parser

variable {α β γ : Type}

/-- Two lists of parsers of one length, each giving the answers of its counterpart. -/
def LeAll : List (Parser α) → List (Parser α) → Prop
  | [], [] => True
  | p :: ps, q :: qs => p.Le q ∧ LeAll ps qs
  | _, _ => False

/-- Mapping keeps the order. -/
theorem map_le {p q : Parser α} (h : p.Le q) (f : α → β) : (p.map f).Le (q.map f) :=
  fun m n pos hmn => (h m n pos hmn).map _

/-- Rewording keeps the order. -/
theorem reword_le {p q : Parser α} (h : p.Le q) (message : Failure → String) :
    (p.reword message).Le (q.reword message) :=
  fun m n pos hmn => (h m n pos hmn).map _

/-- Chaining keeps the order. -/
theorem chain_le {p q : Parser α} {f g : α → Parser β} (h : p.Le q)
    (hfg : ∀ a, (f a).Le (g a)) :
    (p.chain f).Le (q.chain g) :=
  fun m n pos hmn => (h m n pos hmn).bind fun _ => andThen_le fun a next => hfg a m n next hmn

/-- Pairing keeps the order. -/
theorem followedBy_le {p p' : Parser α} {q q' : Parser β} (hp : p.Le p') (hq : q.Le q') :
    (p.followedBy q).Le (p'.followedBy q') :=
  fun m n pos hmn => (hp m n pos hmn).bind fun _ => andThen_le fun _ next =>
    (hq m n next hmn).map _

/-- Skipping what follows keeps the order. -/
theorem skip_le {p p' : Parser α} {q q' : Parser β} (hp : p.Le p') (hq : q.Le q') :
    (p.skip q).Le (p'.skip q') :=
  map_le (followedBy_le hp hq) _

/-- Skipping what comes before keeps the order. -/
theorem skipLeft_le {p p' : Parser α} {q q' : Parser β} (hp : p.Le p') (hq : q.Le q') :
    (p.skipLeft q).Le (p'.skipLeft q') :=
  fun m n pos hmn => (hp m n pos hmn).bind fun _ => andThen_le fun _ next => hq m n next hmn

/-- Delimiting keeps the order. -/
theorem between_le {l l' : Parser α} {r r' : Parser β} {c c' : Parser γ} (hl : l.Le l')
    (hr : r.Le r') (hc : c.Le c') : (between l r c).Le (between l' r' c') :=
  skip_le (skipLeft_le hl hc) hr

/-- Sequences keep the order. -/
theorem sequence_le {ps qs : List (Parser α)} (h : LeAll ps qs) :
    (sequence ps).Le (sequence qs) := by
  fun_induction LeAll ps qs with
  | case1 => exact Le.refl _
  | case2 p ps q qs ih =>
    exact fun m n pos hmn => (h.1 m n pos hmn).bind fun _ => andThen_le fun _ next =>
      (ih h.2 m n next hmn).map _
  | case3 => exact h.elim

/-- Two alternatives keep the order. -/
theorem orElse_le {p p' q q' : Parser α} (hp : p.Le p') (hq : q.Le q') :
    (p.orElse q).Le (p'.orElse q') := by
  refine fun m n pos hmn => (hp m n pos hmn).bind fun first => ?_
  split
  · exact (hq m n pos hmn).map _
  · exact Run.Le.refl _

/-- Choices keep the order. -/
theorem choice_le {ps qs : List (Parser α)} (h : LeAll ps qs) : (choice ps).Le (choice qs) := by
  fun_induction LeAll ps qs with
  | case1 => exact Le.refl _
  | case2 p ps q qs ih =>
    cases ps with
    | nil =>
      cases qs with
      | nil => exact h.1
      | cons _ _ => exact h.2.elim
    | cons _ _ =>
      cases qs with
      | nil => exact h.2.elim
      | cons _ _ => exact orElse_le h.1 (ih h.2)
  | case3 => exact h.elim

/-- Optional parsers keep the order. -/
theorem optional_le {p q : Parser α} (h : p.Le q) : p.optional.Le q.optional :=
  fun m n pos hmn => (h m n pos hmn).map _

/-- Repetitions keep the order. -/
theorem many_le {p q : Parser α} (h : p.Le q) : p.many.Le q.many :=
  fun _ _ pos hmn => (repeatFrom_le h hmn hmn pos).map _

/-- Nonempty repetitions keep the order. -/
theorem many1_le {p q : Parser α} (h : p.Le q) : p.many1.Le q.many1 :=
  fun _ _ pos hmn => (repeatFrom_le h hmn hmn pos).map _

/-- Separated lists keep the order. -/
theorem sepBy_le {s t : Parser β} {p q : Parser α} (hst : s.Le t) (hpq : p.Le q) :
    (sepBy s p).Le (sepBy t q) :=
  fun _ _ pos hmn => (separated_le hst hpq hmn pos).map _

/-- Nonempty separated lists keep the order. -/
theorem sepBy1_le {s t : Parser β} {p q : Parser α} (hst : s.Le t) (hpq : p.Le q) :
    (sepBy1 s p).Le (sepBy1 t q) :=
  fun _ _ pos hmn => (separated_le hst hpq hmn pos).map _

end ParserCombinators.Parser
