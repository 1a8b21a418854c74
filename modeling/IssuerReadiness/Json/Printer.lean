import IssuerReadiness.Json.Basic

/-!
# Writing JSON texts

Two layouts of one value: `Json.render` puts everything on one line without
blanks, `Json.pretty` gives each member and each item a line of its own.  Both
escape the quote, the backslash and the control characters, and write every other
character as it is.
-/

namespace IssuerReadiness
namespace Json

namespace Writer

/-- A hexadecimal digit. -/
def hexDigit (n : Nat) : Char :=
  if n < 10 then Char.ofNat ('0'.toNat + n) else Char.ofNat ('a'.toNat + (n - 10))

/-- A character inside a string. -/
def escape (c : Char) : List Char :=
  if c = '"' then ['\\', '"']
  else if c = '\\' then ['\\', '\\']
  else if c = '\n' then ['\\', 'n']
  else if c = '\r' then ['\\', 'r']
  else if c = '\t' then ['\\', 't']
  else if c < ' ' then
    ['\\', 'u', '0', '0', hexDigit (c.toNat / 16), hexDigit (c.toNat % 16)]
  else [c]

/-- A quoted string. -/
def quoted (s : String) : String :=
  "\"" ++ String.ofList (s.toList.flatMap escape) ++ "\""

/-- A number; a rounded one is written with all its decimal places, as an integer
times a power of ten. -/
def number : Number → String
  | .exact n => toString n
  | .rounded m e =>
      if 0 ≤ e then toString (m * Nat.pow 2 e.toNat) ++ "e0"
      else toString (m * Nat.pow 5 (-e).toNat) ++ "e-" ++ toString (-e).toNat
  | .infinite true => "-1e999"
  | .infinite false => "1e999"

end Writer

mutual

/-- A value on one line. -/
def render : Json → String
  | .null => "null"
  | .bool true => "true"
  | .bool false => "false"
  | .num n => Writer.number n
  | .str s => Writer.quoted s
  | .arr vs => "[" ++ renderItems vs ++ "]"
  | .obj ms => "\x7b" ++ renderMembers ms ++ "\x7d"

/-- The items of an array, with commas between them. -/
def renderItems : List Json → String
  | [] => ""
  | [v] => render v
  | v :: w :: rest => render v ++ "," ++ renderItems (w :: rest)

/-- The members of an object, with commas between them. -/
def renderMembers : List (String × Json) → String
  | [] => ""
  | [(k, v)] => Writer.quoted k ++ ":" ++ render v
  | (k, v) :: m :: rest => Writer.quoted k ++ ":" ++ render v ++ "," ++ renderMembers (m :: rest)

end

mutual

/-- A value on lines of its own, the first one started by the caller; `margin` is
what the other lines start with. -/
def pretty (margin : String) : Json → String
  | .arr [] => "[]"
  | .obj [] => "\x7b\x7d"
  | .arr vs => "[\n" ++ prettyItems (margin ++ "  ") vs ++ "\n" ++ margin ++ "]"
  | .obj ms => "\x7b\n" ++ prettyMembers (margin ++ "  ") ms ++ "\n" ++ margin ++ "\x7d"
  | v => render v

/-- The items of an array, a line each. -/
def prettyItems (margin : String) : List Json → String
  | [] => ""
  | [v] => margin ++ pretty margin v
  | v :: w :: rest => margin ++ pretty margin v ++ ",\n" ++ prettyItems margin (w :: rest)

/-- The members of an object, a line each. -/
def prettyMembers (margin : String) : List (String × Json) → String
  | [] => ""
  | [(k, v)] => margin ++ Writer.quoted k ++ " : " ++ pretty margin v
  | (k, v) :: m :: rest =>
      margin ++ Writer.quoted k ++ " : " ++ pretty margin v ++ ",\n" ++
        prettyMembers margin (m :: rest)

end

end Json
end IssuerReadiness
