import HomeVoice.Text.Number

/-!
# Media types

The type of a body is given as a type and a subtype, of which the part after a plus sign is the
suffix, and parameters. `MediaType.parse?` reads one; only the names are kept, in small letters.
-/

namespace HomeVoice

/-- The names of a media type. -/
structure MediaType where
  type : List Char
  subtype : List Char
  suffix : Option (List Char)
  deriving DecidableEq

namespace MediaType

/-- Whether a character can stand in a name. -/
def isToken (c : Char) : Bool :=
  c.isAlphanum || "!#$%&'*+-.^_\x60|~".toList.contains c

/-- Whether a character can stand between quotes. -/
def isQuotable (c : Char) : Bool :=
  32 ≤ c.toNat && c.toNat < 127

/-- What follows a value without quotes and the semicolon after it. The value may be empty where
the text ends with it. -/
def afterValue? (cs : List Char) : Option (List Char) :=
  match cs.takeWhile isToken, cs.dropWhile isToken with
  | _, [] => some []
  | _ :: _, ';' :: rest => some rest
  | _, _ => none

/-- What follows a value after its opening quote, and the semicolon after it. The value has a
first character, which may itself be a quote. Spaces may stand behind the closing quote. -/
def afterQuoted? : List Char → Option (List Char)
  | [] => none
  | first :: cs =>
    match isQuotable first, cs.dropWhile fun c => c ≠ '"' && isQuotable c with
    | true, '"' :: rest =>
      match rest.dropWhile (· = ' ') with
      | [] => some []
      | ';' :: after => some after
      | _ => none
    | _, _ => none

/-- What follows a parameter and the semicolon after it. -/
def afterParameter? (cs : List Char) : Option (List Char) :=
  match cs.takeWhile isToken, cs.dropWhile isToken with
  | _ :: _, '=' :: '"' :: rest => afterQuoted? rest
  | _ :: _, '=' :: rest => afterValue? rest
  | _, _ => none

/-- Whether a text is a list of parameters, at most `fuel` of them. Spaces may stand before each. -/
def areParameters : (fuel : Nat) → List Char → Bool
  | 0, cs => cs.isEmpty
  | fuel + 1, cs =>
    match cs.dropWhile (· = ' ') with
    | [] => true
    | cs =>
      match afterParameter? cs with
      | some rest => areParameters fuel rest
      | none => false

/-- The part of a subtype before its last plus sign, and the suffix after it. A plus sign at the
beginning separates nothing. -/
def splitSuffix (cs : List Char) : List Char × Option (List Char) :=
  let back := cs.reverse
  match (back.dropWhile (· ≠ '+')).tail.reverse with
  | [] => (cs, none)
  | name => (name, some (back.takeWhile (· ≠ '+')).reverse)

/-- The media type of a text. -/
def parse? (s : String) : Option MediaType :=
  let cs := s.toList.map Char.toLower
  match cs.takeWhile isToken, cs.dropWhile isToken with
  | type, '/' :: rest =>
    let (subtype, suffix) := splitSuffix (rest.takeWhile isToken)
    if type.isEmpty || subtype.isEmpty then none
    else
      match rest.dropWhile isToken with
      | [] => some ⟨type, subtype, suffix⟩
      | ';' :: parameters =>
        if areParameters parameters.length parameters then some ⟨type, subtype, suffix⟩ else none
      | _ => none
  | _, _ => none

/-- The names of JSON, and of formats based on it. -/
def isJson (m : MediaType) : Bool :=
  let json := ['j', 's', 'o', 'n']
  m.type = "application".toList && (m.subtype = json || m.suffix = some json)

end MediaType

end HomeVoice
