import KeyCustody.ByteString

/-!
# Media types

A request body is read as JSON only if its content type says so: `application/json`, or any other
application type with the suffix `json`. Parameters may follow and have to be well formed.
-/

namespace KeyCustody

namespace MediaType

/-- Whether a character may stand in a token. -/
def isTokenChar (character : Char) : Bool :=
  character.isAlphanum || "!#$%&'*+-.^_`|~".toList.contains character

/-- Whether a character may stand in a content type at all. -/
def isVisible (character : Char) : Bool :=
  31 < character.toNat && character.toNat < 127

/-- What follows a quoted value: blanks up to the next parameter or the end. -/
def afterQuoted? : List Char → Option (List Char)
  | [] => some []
  | ';' :: rest => some rest
  | ' ' :: rest => afterQuoted? rest
  | _ => none

/-- What follows the value of a parameter: a token, or any characters between quotes, of which the first
may itself be a quote. -/
def skipValue? : List Char → Option (List Char)
  | '"' :: _ :: rest =>
    match rest.dropWhile (· != '"') with
    | _ :: after => afterQuoted? after
    | [] => none
  | text =>
    match text.span isTokenChar with
    | (_, []) => some []
    | (_ :: _, ';' :: after) => some after
    | _ => none

/-- Whether the parameters after the first semicolon are well formed: names with values, separated by
semicolons and blanks. -/
def wellFormedParameters : Nat → List Char → Bool
  | 0, _ => false
  | _ + 1, [] => true
  | fuel + 1, ' ' :: rest => wellFormedParameters fuel rest
  | fuel + 1, text =>
    match text.span isTokenChar with
    | (_ :: _, '=' :: value) =>
      match skipValue? value with
      | some rest => wellFormedParameters fuel rest
      | none => false
    | _ => false

/-- The part of a subtype before its last plus sign, and the suffix after it. A plus sign at the start
belongs to the name. -/
def splitSuffix (subtype : List Char) : List Char × Option (List Char) :=
  let suffix := (subtype.reverse.takeWhile (· != '+')).reverse
  let before := subtype.length - suffix.length
  if before ≤ 1 then (subtype, none) else (subtype.take (before - 1), some suffix)

/-- Whether a content type announces JSON. -/
def isJson (contentType : String) : Bool :=
  contentType.toList.all isVisible &&
  match contentType.toList.span isTokenChar with
  | (type, '/' :: rest) =>
    let (subtype, after) := rest.span isTokenChar
    let lower (text : List Char) := String.ofList (text.map Char.toLower)
    let (name, suffix) := splitSuffix subtype
    let parametersFine :=
      match after with
      | [] => true
      | ';' :: parameters => subtype ≠ [] && wellFormedParameters (parameters.length + 1) parameters
      | _ => false
    parametersFine && lower type == "application" &&
      (lower name == "json" || suffix.map lower == some "json")
  | _ => false

end MediaType

end KeyCustody
