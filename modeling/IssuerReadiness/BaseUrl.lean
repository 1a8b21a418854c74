import IssuerReadiness.Failure

/-!
# Base URLs of the backend

The URL of an issuer may be spelled in many ways: with `http`, with `https` or with
no scheme, with or without the slash at the end, with or without the path
`vedsdk/` that the interface of the backend lives under.  They all mean the same
base URL, `https://` and an authority and a slash, to which the paths of requests
are added.

The authority is an ASCII host of at least three letters, digits, points and
hyphens that starts and ends with a letter or digit, and after it any run of
colons and digits.  So nothing in it can end the host early: no second slash, no
`@`, no `?`, `#` or `%`.

* `BaseUrl.complete` --- the rewriting of a spelling.
* `BaseUrl.isAuthority` --- the check.
* `BaseUrl.normalize` --- both together.
-/

namespace IssuerReadiness
namespace BaseUrl

/-- The scheme of every request. -/
def secureScheme : List Char := "https://".toList

/-- The scheme that is replaced by the secure one. -/
def plainScheme : List Char := "http://".toList

/-- The path that is taken off the end. -/
def apiPath : List Char := "vedsdk/".toList

/-- The text with the secure scheme in place of the plain one or of none. -/
def withScheme (cs : List Char) : List Char :=
  if plainScheme.isPrefixOf cs then secureScheme ++ cs.drop plainScheme.length
  else if secureScheme.isPrefixOf cs then cs
  else secureScheme ++ cs

/-- The text with a slash at its end. -/
def withSlash (cs : List Char) : List Char :=
  if cs.getLast? = some '/' then cs else cs ++ ['/']

/-- The text without the path of the interface at its end. -/
def withoutPath (cs : List Char) : List Char :=
  if apiPath.isSuffixOf cs then cs.take (cs.length - apiPath.length) else cs

/-- The base URL that a spelling means, if it means one. -/
def complete (cs : List Char) : List Char :=
  withoutPath (withSlash (withScheme cs))

/-- A character of a host. -/
def isHostChar (c : Char) : Bool :=
  Text.isAlphanumeric c || c == '-' || c == '.'

/-- A character of what follows the host. -/
def isPortChar (c : Char) : Bool :=
  c == ':' || Text.isDigit c

/-- A host: at least three characters, letters or digits at both ends. -/
def isHost (cs : List Char) : Bool :=
  cs.all isHostChar && 3 ≤ cs.length &&
    cs.head?.any Text.isAlphanumeric && cs.getLast?.any Text.isAlphanumeric

/-- A host and perhaps a port.  The host is as long as can be: it ends before the
first character that no host has. -/
def isAuthority (cs : List Char) : Bool :=
  isHost (cs.takeWhile isHostChar) && (cs.dropWhile isHostChar).all isPortChar

/-- The authority of a base URL: what stands between the scheme and the slash at
the end. -/
def authority? (cs : List Char) : Option (List Char) :=
  let rest := cs.drop secureScheme.length
  if secureScheme.isPrefixOf cs ∧ rest.getLast? = some '/' then some rest.dropLast else none

/-- The base URL that a spelling means; a spelling without a proper authority is
refused. -/
def normalize (url : String) : Except Failure String :=
  let cs := complete url.toList
  if (authority? cs).any isAuthority then .ok (String.ofList cs)
  else .error (.configuration ("invalid base URL \"" ++ url ++ "\""))

example : (normalize "http://tpp.example.com:443/vedsdk").toOption =
    some "https://tpp.example.com:443/" := by decide +kernel

end BaseUrl
end IssuerReadiness
