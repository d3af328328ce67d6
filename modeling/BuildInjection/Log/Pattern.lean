/-!
# Patterns

A directive of a log filter may ask for a field whose value fits a pattern.  No report here carries
such values, so patterns are never compared with anything, but a text that is no pattern is a fault
of the filter.
-/

namespace BuildInjection.Log

/-- Whether some characters finish a pattern in which so many groups and classes are open;
    `repeatable` says that a sign of repetition may come next.  A brace would count repetitions, but
    the directive ends before it could be closed. -/
def finishesPattern (groups classes : Nat) (repeatable : Bool) : List Char → Bool
  | [] => groups = 0 && classes = 0
  | ['\\'] => false
  | '\\' :: _ :: s => finishesPattern groups classes true s
  -- A closing bracket at the front of a class is a character like others.
  | '[' :: ']' :: s => finishesPattern groups (classes + 1) true s
  | '[' :: '^' :: ']' :: s => finishesPattern groups (classes + 1) true s
  | '[' :: s => finishesPattern groups (classes + 1) true s
  | c :: s =>
    if classes != 0 then finishesPattern groups (if c = ']' then classes - 1 else classes) true s
    else match c with
      | '(' =>
        match s with
        -- Here the question mark says what kind of group begins.
        | '?' :: t => finishesPattern (groups + 1) classes false t
        | t => finishesPattern (groups + 1) classes false t
      | ')' => groups != 0 && finishesPattern (groups - 1) classes true s
      | '|' => finishesPattern groups classes false s
      | '*' | '+' | '?' => repeatable && finishesPattern groups classes true s
      | '\x7b' => false
      | _ => finishesPattern groups classes true s

/-- Whether a text is a pattern, or a number with a sign. -/
def isPattern (cs : List Char) : Bool :=
  finishesPattern 0 0 false cs ||
    (cs.head? = some '+' && !cs.tail.isEmpty && cs.tail.all Char.isDigit)

end BuildInjection.Log
