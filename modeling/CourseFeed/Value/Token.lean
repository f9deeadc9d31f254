import CourseFeed.Text.Blank
import CourseFeed.Value.Basic

/-!
# Tokens

A value is written as a *token*: a pattern after a slash, whose closing slash may be left out, or a
JSON text. **`Value.parse`** reads a token, blanks at its ends aside; a blank token holds no value.
-/

namespace CourseFeed

open CourseFeed.Text

/-- Why a token holds no value. -/
inductive TokenFault where
  | pattern (error : Pattern.Error)
  | json (error : Json.Error)
  deriving Repr, DecidableEq

/-- The wording of a token's fault. -/
def TokenFault.message : TokenFault → String
  | .pattern e => "error: " ++ e.message
  | .json e => e.message

/-- A token that holds no value, and why. -/
structure TokenError where
  token : String
  fault : TokenFault
  deriving Repr, DecidableEq

/-- The wording of a token error. -/
def TokenError.message (e : TokenError) : String :=
  "invalid value '" ++ e.token ++ "': " ++ e.fault.message

namespace Value

/-- The source of a pattern without the slash that closes it. -/
def patternSource (body : List Char) : String :=
  String.ofList (if body.getLast? = some '/' then body.dropLast else body)

/-- The value that a token without blanks at its ends holds. -/
def parseTrimmed (token : String) : Except TokenError Value :=
  match token.toList with
  | '/' :: body =>
    match Pattern.compile (patternSource body) with
    | .ok p => .ok (.pattern p)
    | .error e => .error ⟨token, .pattern e⟩
  | _ =>
    match Json.Tree.parse token with
    | .ok tree => .ok (ofTree tree)
    | .error e => .error ⟨token, .json e⟩

/-- The value that a token holds, or `none` for a blank one. -/
def parse (token : String) : Except TokenError (Option Value) :=
  let trimmed := trim token
  if trimmed.isEmpty then .ok none else (parseTrimmed trimmed).map some

end Value

end CourseFeed
