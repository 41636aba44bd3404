/-!
# Request methods

A method is a token: one or more characters, each a letter or digit of ASCII or one of
``!#$%&'*+-.^_`|~``. Any such token is a method, though the router answers only
`GET` and `HEAD`; anything else, such as the empty text or one with a space, is not a
method at all and the request cannot be made.
-/

namespace SpaceTeamSite.Http

/-- Characters of a token. -/
def tokenChar (c : Char) : Bool :=
  (c.isAlphanum && c.toNat < 0x80) || "!#$%&'*+-.^_`|~".toList.contains c

/-- Whether a text is a method: a token of one character or more. -/
def isMethod (m : String) : Bool := !m.isEmpty && m.toList.all tokenChar

/-- What is said of a text that is not a method. -/
def invalidMethodMessage : String := "invalid HTTP method"

theorem isMethod_get : isMethod "GET" = true := by decide

end SpaceTeamSite.Http
