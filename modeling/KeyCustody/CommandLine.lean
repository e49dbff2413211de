import KeyCustody.Text.Numeral

/-!
# The command line

What the program is asked to do: to serve, which it does without a command too, or to make a root key.
The path of the file of settings is given before the command, and options of a command after it. An
option is given at most once, in full, with its value behind an equals sign or as the next argument.
-/

namespace KeyCustody

/-- What the program is to do. -/
inductive Command where
  | serve
  /-- Make a root key, with a sharing that may be given. -/
  | initialise (total threshold : Option UInt8)
deriving DecidableEq, Repr

/-- What a command line asks for. -/
inductive CommandLine where
  /-- To run a command, with the path of the file of settings if one is named. -/
  | run (settingsPath : Option String) (command : Command)
  | version
  | help
  | misused
deriving DecidableEq, Repr

namespace CommandLine

/-- An argument, by its first characters. -/
inductive Argument where
  /-- Two hyphens alone, after which no option follows. -/
  | divider
  /-- A name after two hyphens, and the value behind an equals sign, if there is one. -/
  | long (name : String) (value : Option String)
  | short (letters : List Char)
  /-- Anything else. -/
  | word (text : String)
deriving DecidableEq, Repr

namespace Argument

/-- The argument that a text is. -/
def ofText (text : String) : Argument :=
  match text.toList with
  | ['-', '-'] => .divider
  | '-' :: '-' :: rest =>
    let name := String.ofList (rest.takeWhile (· != '='))
    match rest.dropWhile (· != '=') with
    | _ :: value => .long name (some (String.ofList value))
    | [] => .long name none
  | '-' :: first :: rest => .short (first :: rest)
  | _ => .word text

end Argument

/-- The number of pieces or the threshold that the value of an option gives. A minus sign may only
stand before zero. -/
def count? (text : String) : Option UInt8 :=
  match text.toList with
  | '-' :: digits => if Text.digits? digits = some 0 then some 0 else none
  | _ => Text.byte? text

/-- The value of an option: the one behind the equals sign, or the next argument, which must not look
like an option. The arguments that are left come with it. -/
def optionValue? (attached : Option String) (rest : List String) :
    Option (String × List String) :=
  match attached, rest with
  | some value, rest => some (value, rest)
  | none, next :: rest =>
    match Argument.ofText next with
    | .word value => some (value, rest)
    | _ => none
  | none, [] => none

/-- What letters after a hyphen ask for. -/
def ofLetters : List Char → CommandLine
  | 'V' :: _ => .version
  | 'h' :: _ => .help
  | _ => .misused

/-- What letters after a hyphen ask for behind a command. -/
def ofCommandLetters : List Char → CommandLine
  | 'h' :: _ => .help
  | _ => .misused

/-- Reads the arguments of the command that serves. -/
def ofServe (settingsPath : Option String) : List String → CommandLine
  | [] => .run settingsPath .serve
  | argument :: rest =>
    match Argument.ofText argument with
    | .divider => if rest = [] then .run settingsPath .serve else .misused
    | .long "help" none => .help
    | .short letters => ofCommandLetters letters
    | _ => .misused

/-- Reads the arguments of the command that makes a root key. Every option takes at least one
argument. -/
def ofInitialise (settingsPath : Option String) :
    Nat → Option UInt8 → Option UInt8 → List String → CommandLine
  | 0, _, _, _ => .misused
  | _ + 1, total, threshold, [] => .run settingsPath (.initialise total threshold)
  | fuel + 1, total, threshold, argument :: rest =>
    let withCount (given : Option UInt8) (attached : Option String)
        (proceed : UInt8 → List String → CommandLine) : CommandLine :=
      match given, optionValue? attached rest with
      | none, some (text, after) =>
        match count? text with
        | some count => proceed count after
        | none => .misused
      | _, _ => .misused
    match Argument.ofText argument with
    | .divider =>
      if rest = [] then .run settingsPath (.initialise total threshold) else .misused
    | .long "shares" attached => withCount total attached fun count after =>
        ofInitialise settingsPath fuel (some count) threshold after
    | .long "threshold" attached => withCount threshold attached fun count after =>
        ofInitialise settingsPath fuel total (some count) after
    | .long "help" none => .help
    | .short letters => ofCommandLetters letters
    | _ => .misused

/-- The names of the commands. -/
def commandNames : List String := ["serve", "init", "help"]

/-- Reads what follows a word where a command is expected. -/
def ofCommand (settingsPath : Option String) (word : String) (rest : List String) : CommandLine :=
  if word = "serve" then ofServe settingsPath rest
  else if word = "init" then ofInitialise settingsPath (rest.length + 1) none none rest
  else if word = "help" then
    match rest with
    | [] => .help
    | [name] => if commandNames.contains name then .help else .misused
    | _ => .misused
  else .misused

/-- Reads arguments up to the command. -/
def ofArgumentsWith (settingsPath : Option String) : List String → CommandLine
  | [] => .run settingsPath .serve
  | argument :: rest =>
    match Argument.ofText argument with
    | .divider => if rest = [] then .run settingsPath .serve else .misused
    | .long "config" attached =>
      if settingsPath.isSome then .misused
      else
        match attached, rest with
        | some "", _ => .misused
        | some path, rest => ofArgumentsWith (some path) rest
        | none, next :: rest =>
          match Argument.ofText next with
          | .word "" => .misused
          | .word path => ofArgumentsWith (some path) rest
          | _ => .misused
        | none, [] => .misused
    | .long "version" none => .version
    | .long "help" none => .help
    | .short letters => ofLetters letters
    | .word word => ofCommand settingsPath word rest
    | _ => .misused

/-- What the arguments ask for, given the path that the environment names. The path of the command line
goes before it, and neither may be empty. -/
def ofArguments (environmentPath : Option String) (arguments : List String) : CommandLine :=
  match ofArgumentsWith none arguments with
  | .run none command =>
    if environmentPath = some "" then .misused else .run environmentPath command
  | other => other

end CommandLine

end KeyCustody
