/-!
# Operations

The path of a request names the operation that the gate decides about. The two operations that have
names of their own are recognised with any number of slashes after them; every other path is its own
operation.
-/

namespace KeyCustody

namespace Operation

/-- The path where key pieces are submitted. -/
def unsealPath : String := "/api/unseal"

/-- The path where users log in. -/
def loginPath : String := "/api/login"

/-- The path of the health check. -/
def healthPath : String := "/health"

/-- The text without the slashes at its end. -/
def dropSlashes (path : String) : String :=
  String.ofList (path.toList.reverse.dropWhile (· == '/')).reverse

/-- The operation of a path. -/
def ofPath (path : String) : String :=
  let name := dropSlashes path
  if name = unsealPath then "unseal"
  else if name = loginPath then "login"
  else path

/-- The part of a request target after its scheme and authority, if it has them. -/
def afterAuthority (target : List Char) : List Char :=
  match target with
  | '/' :: _ => target
  | _ =>
    match target.dropWhile (· != ':') with
    | ':' :: '/' :: '/' :: rest =>
      rest.dropWhile fun character => character != '/' && character != '?' && character != '#'
    | _ => target

/-- The path of a request target: without scheme and authority, query and fragment. -/
def pathOfTarget (target : String) : String :=
  match (afterAuthority target.toList).takeWhile fun character =>
      character != '?' && character != '#' with
  | [] => "/"
  | path => String.ofList path

end Operation

end KeyCustody
