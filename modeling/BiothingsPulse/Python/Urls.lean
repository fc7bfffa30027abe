import BiothingsPulse.Python.Packaging
import BiothingsPulse.Python.Values

/-!
# Splitting URLs

`urllib.parse.urlsplit`, with the errors it raises. What it asks of other modules, whether the
text between brackets is an IP address and how Unicode text is normalised, is a parameter.
-/

namespace BiothingsPulse

open Packaging

/-- The checks of a network location that rest on the address parser and on Unicode. -/
structure NetlocChecks where
  /-- The check of the host between brackets. -/
  bracketed : List Char → Except PyExc Unit
  /-- `unicodedata.normalize("NFKC", text)`. -/
  normalize : List Char → List Char

structure SplitUrl where
  scheme : List Char
  netloc : List Char
  path : List Char
  query : List Char
  fragment : List Char
  deriving DecidableEq, Repr

/-- The URL without the control characters that it is read without. -/
def sanitized (url : List Char) : List Char :=
  (url.dropWhile fun c => c.toNat ≤ 32).filter fun c => c ≠ '\t' && c ≠ '\r' && c ≠ '\n'

/-- A letter begins the scheme and only characters of schemes stand before the colon. -/
def isScheme (text : List Char) : Bool := text.head?.any Char.isAlpha && text.all isSchemeChar

/-- The scheme, in lower case, and what follows its colon. -/
def splitScheme (url : List Char) : List Char × List Char :=
  let before := url.takeWhile (· ≠ ':')
  if ':' ∈ url ∧ isScheme before then (before.map Char.toLower, (url.dropWhile (· ≠ ':')).tail)
  else ([], url)

/-- The characters that do not end a network location. -/
def isNetlocChar (c : Char) : Bool := c ≠ '/' && c ≠ '?' && c ≠ '#'

/-- The network location, if there is one, and what follows it. -/
def splitNetloc (url : List Char) : List Char × List Char :=
  if "//".toList.isPrefixOf url then
    ((url.drop 2).takeWhile isNetlocChar, (url.drop 2).dropWhile isNetlocChar)
  else ([], url)

def invalidAddress : PyExc := ⟨.ordinary, "ValueError", "Invalid IPv6 URL"⟩

/-- The text before the first separator and the text after it. -/
def cut (separator : Char) (text : List Char) : List Char × List Char :=
  (text.takeWhile (· ≠ separator), (text.dropWhile (· ≠ separator)).tail)

section Checks

variable (checks : NetlocChecks)

/-- Brackets come in pairs, with an address between them. -/
def checkBrackets (netloc : List Char) : Except PyExc Unit :=
  if ('[' ∈ netloc ∧ ']' ∉ netloc) ∨ (']' ∈ netloc ∧ '[' ∉ netloc) then .error invalidAddress
  else if '[' ∈ netloc ∧ ']' ∈ netloc then
    checks.bracketed (cut ']' (cut '[' netloc).2).1
  else .ok ()

/-- A character of the network location does not turn into a delimiter when it is normalised. -/
def checkNetloc (netloc : List Char) : Except PyExc Unit :=
  let n := netloc.filter fun c => !"@:#?".toList.contains c
  let normalized := checks.normalize n
  if netloc.all (·.toNat < 128) then .ok ()
  else if n = normalized then .ok ()
  else if "/?#@:".toList.any normalized.contains then
    .error ⟨.ordinary, "ValueError", "netloc '" ++ String.ofList netloc ++
      "' contains invalid characters under NFKC normalization"⟩
  else .ok ()

def urlsplit (url : List Char) : Except PyExc SplitUrl := do
  let (scheme, url) := splitScheme (sanitized url)
  let (netloc, url) := splitNetloc url
  checkBrackets checks netloc
  let (url, fragment) := cut '#' url
  let (path, query) := cut '?' url
  checkNetloc checks netloc
  return ⟨scheme, netloc, path, query, fragment⟩

end Checks

/-- The scheme of a URL, in lower case, whether or not the rest of it can be split. -/
def urlScheme (url : List Char) : List Char := (splitScheme (sanitized url)).1

section Properties

variable {checks : NetlocChecks} {url : List Char} {split : SplitUrl}

/-- The scheme of a URL that splits is what it begins with. -/
theorem scheme_of_urlsplit (parsed : urlsplit checks url = .ok split) :
    split.scheme = urlScheme url := by
  rw [urlsplit] at parsed
  dsimp only at parsed
  cases brackets : checkBrackets checks (splitNetloc (splitScheme (sanitized url)).2).1 with
  | error exc => rw [brackets] at parsed; cases parsed
  | ok done =>
      cases checked : checkNetloc checks (splitNetloc (splitScheme (sanitized url)).2).1 with
      | error exc => rw [brackets, checked] at parsed; cases parsed
      | ok done =>
          rw [brackets, checked] at parsed
          obtain rfl := Except.ok.inj parsed
          rfl

end Properties

end BiothingsPulse
