import BuildInjection.Toml.Token

/-!
# Bracketed groups

Tokens are put together into groups at their brackets and braces, so that what stands between two
commas or on one line is found without looking into the groups.
-/

namespace BuildInjection.Toml

/-- A token, or what a pair of brackets or braces encloses. -/
inductive Group where
  | token (t : Token)
  | bracket (items : List Group)
  | brace (items : List Group)
deriving Inhabited

/-- A pair of brackets or braces that is not closed yet. -/
structure OpenGroup where
  /-- Whether braces enclose the group. -/
  isBrace : Bool
  /-- What the group holds so far, last first. -/
  items : List Group

namespace Group

/-- How deeply groups may be nested. -/
def depthLimit : Nat := 80

/-- Put tokens into groups.  `items` is what the innermost open group holds, last first, and
    `isBrace` its kind; `outer` are the groups around it, the innermost first.  The outermost group
    is the document, which nothing closes. -/
def ofTokensFrom (isBrace : Bool) (items : List Group) (outer : List OpenGroup) :
    List Token → Option (List Group)
  -- a group that is still open is not closed by the end of the text
  | [] => if outer.isEmpty then some items.reverse else none
  | .openBracket :: ts =>
    if outer.length < depthLimit then ofTokensFrom false [] (⟨isBrace, items⟩ :: outer) ts
    else none
  | .openBrace :: ts =>
    if outer.length < depthLimit then ofTokensFrom true [] (⟨isBrace, items⟩ :: outer) ts
    else none
  | .closeBracket :: ts =>
    match outer with
    | [] => none
    | g :: outer =>
      -- a brace is not closed by a bracket
      if isBrace then none
      else ofTokensFrom g.isBrace (.bracket items.reverse :: g.items) outer ts
  | .closeBrace :: ts =>
    match outer with
    | [] => none
    | g :: outer =>
      if isBrace then ofTokensFrom g.isBrace (.brace items.reverse :: g.items) outer ts
      else none
  | t :: ts => ofTokensFrom isBrace (.token t :: items) outer ts

/-- The groups of a document. -/
def ofTokens? (ts : List Token) : Option (List Group) := ofTokensFrom false [] [] ts

/-- Whether a group is the end of a line. -/
def isLineEnd : Group → Bool
  | .token .lineEnd => true
  | _ => false

/-- Whether a group is blank. -/
def isBlank : Group → Bool
  | .token (.blank _) => true
  | _ => false

end Group

end BuildInjection.Toml
