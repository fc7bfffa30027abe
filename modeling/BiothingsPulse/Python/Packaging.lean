import BiothingsPulse.Python.Text
import Mathlib.Computability.Language

/-!
# Requirement specifiers

The grammar of PEP 508 requirements and of direct URLs, as languages over characters, and
the distribution that a requirement is on.
-/

namespace BiothingsPulse.Packaging

open Computability

section Openings

variable {opener : Char → Bool} {first second : Language Char}

/-- Every text of the language begins with such a character. -/
def Begins (opener : Char → Bool) (language : Language Char) : Prop :=
  ∀ text ∈ language, ∃ c rest, opener c = true ∧ text = c :: rest

/-- Every text of the language but the empty one does. -/
def Opens (opener : Char → Bool) (language : Language Char) : Prop :=
  ∀ text ∈ language, text = [] ∨ ∃ c rest, opener c = true ∧ text = c :: rest

private theorem Begins.opens (begins : Begins opener first) : Opens opener first :=
  fun text member => .inr (begins text member)

private theorem Begins.add (left : Begins opener first) (right : Begins opener second) :
    Begins opener (first + second) := by
  intro text member
  obtain member | member := (Language.mem_add _ _ _).mp member
  · exact left text member
  · exact right text member

private theorem Begins.mul (begins : Begins opener first) (second : Language Char) :
    Begins opener (first * second) := by
  intro text member
  obtain ⟨before, inside, after, _, rfl⟩ := Language.mem_mul.mp member
  obtain ⟨c, rest, holds, rfl⟩ := begins before inside
  exact ⟨c, rest ++ after, holds, rfl⟩

private theorem Opens.mul_begins (left : Opens opener first) (right : Begins opener second) :
    Begins opener (first * second) := by
  intro text member
  obtain ⟨before, inside, after, follows, rfl⟩ := Language.mem_mul.mp member
  obtain rfl | ⟨c, rest, holds, rfl⟩ := left before inside
  · exact right after follows
  · exact ⟨c, rest ++ after, holds, rfl⟩

private theorem Opens.mul (left : Opens opener first) (right : Opens opener second) :
    Opens opener (first * second) := by
  intro text member
  obtain ⟨before, inside, after, follows, rfl⟩ := Language.mem_mul.mp member
  obtain rfl | ⟨c, rest, holds, rfl⟩ := left before inside
  · exact right after follows
  · exact .inr ⟨c, rest ++ after, holds, rfl⟩

private theorem Opens.add (left : Opens opener first) (right : Opens opener second) :
    Opens opener (first + second) := by
  intro text member
  obtain member | member := (Language.mem_add _ _ _).mp member
  · exact left text member
  · exact right text member

private theorem Opens.kstar (begins : Begins opener first) : Opens opener first∗ := by
  intro text member
  obtain ⟨parts, rfl, inside⟩ := Language.mem_kstar.mp member
  cases parts with
  | nil => exact .inl rfl
  | cons part others =>
      obtain ⟨c, rest, holds, rfl⟩ := begins part (inside part List.mem_cons_self)
      exact .inr ⟨c, rest ++ others.flatten, holds, rfl⟩

end Openings

section Grammar

/-- One character that satisfies the test. -/
def one (test : Char → Bool) : Language Char := {text | ∃ c, test c = true ∧ text = [c]}

/-- The given text. -/
def word (text : String) : Language Char := {text.toList}

/-- One of the given texts. -/
def oneOf (texts : List String) : Language Char := {text | ∃ given ∈ texts, text = given.toList}

def optional (language : Language Char) : Language Char := 1 + language

def wsp : Language Char := one fun c => c = ' ' || c = '\t'

def isNameChar (c : Char) : Bool := c.isAlphanum || c = '-' || c = '_' || c = '.'

/-- A name: a letter or a digit stands at both ends. -/
def identifier : Language Char :=
  {text | (∀ c ∈ text, isNameChar c = true) ∧ (∃ c, text.head? = some c ∧ c.isAlphanum = true) ∧
    ∃ c, text.getLast? = some c ∧ c.isAlphanum = true}

def versionCmp : Language Char :=
  wsp∗ * oneOf ["<=", "<", "!=", "==", ">=", ">", "~=", "==="]

def version : Language Char :=
  let part := one fun c =>
    c.isAlphanum || c = '-' || c = '_' || c = '.' || c = '*' || c = '+' || c = '!'
  wsp∗ * (part * part∗)

def versionOne : Language Char := versionCmp * (version * wsp∗)

def versionMany : Language Char := versionOne * (word "," * (wsp∗ * versionOne))∗

def versionSpec : Language Char := word "(" * (versionMany * word ")") + versionMany

/-- The characters that a URI is written with. -/
def isUriChar (c : Char) : Bool :=
  c.isAlphanum || "-._~:/?#[]@!$&'()*+,;=%".toList.contains c

def uriReference : Language Char := one isUriChar * (one isUriChar)∗

def urlSpec : Language Char := word "@" * (wsp∗ * uriReference)

def markerOp : Language Char :=
  versionCmp + wsp * (wsp∗ * word "in") + wsp * (wsp∗ * (word "not" * (wsp * (wsp∗ * word "in"))))

/-- What may stand between the quotes of a marker's string, but for the other quote. -/
def isStringChar (c : Char) : Bool :=
  c = ' ' || c = '\t' || c.isAlphanum ||
    "().\x7b\x7d-_*#:;,/?[]!~\x60@$%^&=+|<>".toList.contains c

def pythonString : Language Char :=
  word "'" * ((one fun c => isStringChar c || c = '"')∗ * word "'") +
    word "\"" * ((one fun c => isStringChar c || c = '\'')∗ * word "\"")

def envVar : Language Char :=
  oneOf ["python_version", "python_full_version", "os_name", "sys_platform",
    "platform_release", "platform_system", "platform_version", "platform_machine",
    "platform_python_implementation", "implementation_name", "implementation_version", "extra"]

def markerVar : Language Char := wsp∗ * (envVar + pythonString)

/-- A marker whose parts in parentheses are those of the given language. -/
def markerOver (inner : Language Char) : Language Char :=
  let expr := markerVar * (markerOp * markerVar) +
    wsp∗ * (word "(" * (inner * (wsp∗ * word ")")))
  let conjunction := expr * (wsp∗ * (word "and" * expr))∗
  conjunction * (wsp∗ * (word "or" * conjunction))∗

/-- The markers with parentheses up to a depth. -/
def markerUpTo : ℕ → Language Char
  | 0 => markerOver 0
  | depth + 1 => markerOver (markerUpTo depth)

def marker : Language Char := {text | ∃ depth, text ∈ markerUpTo depth}

def quotedMarker : Language Char := word ";" * (wsp∗ * marker)

def extras : Language Char :=
  let listed := identifier * (wsp∗ * (word "," * (wsp∗ * identifier)))∗
  word "[" * (wsp∗ * (optional listed * (wsp∗ * word "]")))

/-- What follows the name in a requirement with versions. -/
def nameSuffix : Language Char :=
  wsp∗ * (optional extras * (wsp∗ * (optional versionSpec * (wsp∗ * optional quotedMarker))))

/-- What follows the name in a requirement with a URL. -/
def urlSuffix : Language Char :=
  wsp∗ * (optional extras * (wsp∗ * (urlSpec * optional (wsp * (wsp∗ * optional quotedMarker)))))

def specSuffix : Language Char := nameSuffix + urlSuffix

def isSchemeChar (c : Char) : Bool := c.isAlphanum || c = '+' || c = '-' || c = '.'

/-- A scheme, a colon and what identifies the resource, perhaps with a marker. -/
def directUrl : Language Char :=
  one Char.isAlpha * ((one isSchemeChar)∗ *
    (word ":" * (uriReference * optional (wsp * (wsp∗ * optional quotedMarker)))))

end Grammar

/-- The name that a URL gives by the `egg` of its fragment. -/
def egg (text : List Char) : Option (List Char) :=
  let url := text.takeWhile fun c => !isPySpace c
  let fields := ((url.dropWhile (· ≠ '#')).tail).splitOn '&'
  (fields.find? fun field => "egg=".toList.isPrefixOf field).map fun field =>
    (field.drop 4).takeWhile isNameChar

/-- The text is a requirement, and on which distribution, if it says so. -/
inductive Requires : Option (List Char) → List Char → Prop where
  | named {name rest : List Char} (called : name ∈ identifier) (spec : rest ∈ specSuffix) :
      Requires (some name) (name ++ rest)
  | url {text : List Char} (direct : text ∈ directUrl) : Requires (egg text) text

section Shape

/-- What may follow a name. -/
def isNameEnd (c : Char) : Bool :=
  c = ' ' || c = '\t' || c = '[' || c = '(' || c = '<' || c = '>' || c = '=' || c = '!' ||
    c = '~' || c = ';' || c = '@'

variable {opener : Char → Bool} {test : Char → Bool} {text : List Char}

private theorem begins_one (holds : ∀ c, test c = true → opener c = true) : Begins opener
    (one test) := by
  rintro text ⟨c, passes, rfl⟩
  exact ⟨c, [], holds c passes, rfl⟩

private theorem begins_word (given : String) {c : Char} {rest : List Char}
    (spelled : given.toList = c :: rest) (holds : opener c = true) :
    Begins opener (word given) := by
  rintro text rfl
  exact ⟨c, rest, holds, spelled⟩

private theorem begins_oneOf {texts : List String}
    (holds : ∀ given ∈ texts, ∃ c rest, opener c = true ∧ given.toList = c :: rest) :
    Begins opener (oneOf texts) := by
  rintro text ⟨given, listed, rfl⟩
  exact holds given listed

private theorem opens_optional {language : Language Char} (begins : Begins opener language) :
    Opens opener (optional language) := by
  intro text member
  obtain rfl | member := (Language.mem_add _ _ _).mp member
  · exact .inl rfl
  · exact .inr (begins text member)

private theorem opens_wsp : Opens isNameEnd wsp∗ := by
  refine Opens.kstar (begins_one ?_)
  intro c blank
  simp only [isNameEnd, Bool.or_eq_true] at blank ⊢
  simp only [blank, true_or]

private theorem begins_extras : Begins isNameEnd extras :=
  Begins.mul (begins_word "[" rfl rfl) _

private theorem begins_quotedMarker : Begins isNameEnd quotedMarker :=
  Begins.mul (begins_word ";" rfl rfl) _

private theorem begins_versionMany : Begins isNameEnd versionMany := by
  have operators : Begins isNameEnd
      (oneOf ["<=", "<", "!=", "==", ">=", ">", "~=", "==="]) := by
    apply begins_oneOf
    simp [isNameEnd]
  exact ((opens_wsp.mul_begins operators).mul _).mul _

/-- What follows the name in a requirement does not go on with the name. -/
theorem specSuffix_opens : Opens isNameEnd specSuffix := by
  have versions : Begins isNameEnd versionSpec :=
    (Begins.mul (begins_word "(" rfl rfl) _).add begins_versionMany
  have url : Begins isNameEnd urlSpec :=
    Begins.mul (begins_word "@" rfl rfl) _
  have listed := opens_optional begins_extras
  have quoted := opens_optional begins_quotedMarker
  refine Opens.add ?_ ?_
  · exact opens_wsp.mul (listed.mul (opens_wsp.mul ((opens_optional versions).mul
      (opens_wsp.mul quoted))))
  · exact (opens_wsp.mul_begins (listed.mul_begins (opens_wsp.mul_begins (url.mul _)))).opens

private theorem nil_mem_optional (language : Language Char) : [] ∈ optional language := .inl rfl

/-- A name alone is a requirement. -/
theorem nil_mem_specSuffix : [] ∈ specSuffix := by
  have blank : [] ∈ wsp∗ := Language.nil_mem_kstar _
  refine .inl ?_
  exact Language.append_mem_mul blank (Language.append_mem_mul (nil_mem_optional _)
    (Language.append_mem_mul blank (Language.append_mem_mul (nil_mem_optional _)
      (Language.append_mem_mul blank (nil_mem_optional _)))))

private theorem forall_of_mem_kstar (member : text ∈ (one test)∗) : ∀ c ∈ text, test c = true := by
  obtain ⟨parts, rfl, inside⟩ := Language.mem_kstar.mp member
  intro c listed
  obtain ⟨part, among, within⟩ := List.mem_flatten.mp listed
  obtain ⟨other, passes, rfl⟩ := inside part among
  exact List.mem_singleton.mp within ▸ passes

private theorem mem_kstar_of_forall (all : ∀ c ∈ text, test c = true) : text ∈ (one test)∗ := by
  induction text with
  | nil => exact Language.nil_mem_kstar _
  | cons c rest ih =>
      rw [← Language.one_add_self_mul_kstar_eq_kstar]
      have first : [c] ∈ one test := ⟨c, all c List.mem_cons_self, rfl⟩
      exact .inr (Language.append_mem_mul first
        (ih fun other inside => all other (List.mem_cons_of_mem _ inside)))

/-- A URL may follow the name at once. -/
theorem direct_mem_specSuffix {c : Char} {rest : List Char} (first : isUriChar c = true)
    (others : ∀ other ∈ rest, isUriChar other = true) : '@' :: c :: rest ∈ specSuffix := by
  have blank : [] ∈ wsp∗ := Language.nil_mem_kstar _
  have reference : c :: rest ∈ uriReference :=
    Language.append_mem_mul (a := [c]) ⟨c, first, rfl⟩ (mem_kstar_of_forall others)
  have url : '@' :: c :: rest ∈ urlSpec :=
    Language.append_mem_mul (a := ['@']) rfl (Language.append_mem_mul blank reference)
  have whole : [] ++ ([] ++ ([] ++ ('@' :: c :: rest ++ []))) ∈ urlSuffix :=
    Language.append_mem_mul blank (Language.append_mem_mul (nil_mem_optional _)
      (Language.append_mem_mul blank (Language.append_mem_mul url (nil_mem_optional _))))
  simp only [List.nil_append, List.append_nil] at whole
  exact .inr whole

/-- A direct URL begins with its scheme and a colon. -/
theorem directUrl_eq (direct : text ∈ directUrl) :
    ∃ c scheme rest, text = c :: (scheme ++ ':' :: rest) ∧ c.isAlpha = true ∧
      ∀ other ∈ scheme, isSchemeChar other = true := by
  obtain ⟨_, ⟨c, letter, rfl⟩, _, follows, rfl⟩ := Language.mem_mul.mp direct
  obtain ⟨scheme, schemed, _, coloned, rfl⟩ := Language.mem_mul.mp follows
  obtain ⟨_, rfl, rest, _, rfl⟩ := Language.mem_mul.mp coloned
  exact ⟨c, scheme, rest, rfl, letter, forall_of_mem_kstar schemed⟩

/-- A requirement on a distribution gives its name first, or is a URL with its `egg`. -/
theorem Requires.on {name : List Char} (requires : Requires (some name) text) :
    (∃ rest, text = name ++ rest) ∨ text ∈ directUrl ∧ egg text = some name := by
  generalize called : some name = distribution at requires
  cases requires with
  | named _ _ =>
      obtain rfl := Option.some.inj called
      exact .inl ⟨_, rfl⟩
  | url direct => exact .inr ⟨direct, rfl⟩

/-- A requirement begins with a letter or a digit. -/
theorem Requires.begins {distribution : Option (List Char)}
    (requires : Requires distribution text) :
    ∃ c rest, text = c :: rest ∧ c.isAlphanum = true := by
  cases requires with
  | @named name rest called spec =>
      obtain ⟨_, ⟨c, first, letter⟩, _⟩ := called
      obtain ⟨tail, rfl⟩ := List.head?_eq_some_iff.mp first
      exact ⟨c, tail ++ rest, rfl, letter⟩
  | url direct =>
      obtain ⟨c, scheme, rest, rfl, letter, _⟩ := directUrl_eq direct
      exact ⟨c, _, rfl, by rw [Char.isAlphanum, letter, Bool.true_or]⟩

end Shape

end BiothingsPulse.Packaging
