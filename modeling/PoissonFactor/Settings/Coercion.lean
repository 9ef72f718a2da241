import PoissonFactor.Value.Numeral

/-!
# Reading one setting

A setting may be left out, be absent, be blank, or say `none` or `null`: all of
that means *not set*, and the caller's default applies. Anything else has to
convert. A flag knows eight words besides; any other text that is not blank is
true.
-/

namespace PoissonFactor.Setting

/-- A text in lower case without the blanks around it. -/
def word (s : String) : String :=
  String.ofList (Numeral.lower (Text.trim s.toList))

/-- Does a number's setting say that it is not set? -/
def isUnset : Value → Bool
  | .null => true
  | .str s => word s = "" || word s = "none" || word s = "null"
  | _ => false

/-- An integer setting, if it is set. -/
def integer? (v : Value) : Except Failure (Option Int) := do
  if isUnset v then return none
  return some (← v.toInt)

/-- A decimal setting, if it is set. -/
def decimal? (v : Value) : Except Failure (Option Float) := do
  if isUnset v then return none
  return some (← v.toFloat)

/-- A flag, if it is set. -/
def flag? : Value → Option Bool
  | .null => none
  | .bool b => some b
  | .str s =>
    let w := word s
    if w = "" then none
    else if w = "true" || w = "1" || w = "yes" || w = "on" then some true
    else if w = "false" || w = "0" || w = "no" || w = "off" then some false
    else some true
  | v => some v.isTrue

/-- An integer setting with its default. -/
def integer (v : Value) (fallback : Int) : Except Failure Int := do
  return (← integer? v).getD fallback

/-- A decimal setting with its default. -/
def decimal (v : Value) (fallback : Float) : Except Failure Float := do
  return (← decimal? v).getD fallback

/-- A flag with its default. -/
def flag (v : Value) (fallback : Bool) : Bool :=
  (flag? v).getD fallback

end PoissonFactor.Setting
