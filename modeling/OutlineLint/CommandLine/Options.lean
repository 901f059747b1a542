/-!
# Options on the command line

Options come before and after the name of a command. An option with a value is written
`--name value` or `--name=value`, a flag `--name`; at one level each may be given once. Help can be
asked for at each level, the version only before a command. Reading goes from left to right and stops
at the first word that is no option.
-/

namespace OutlineLint.CommandLine

/-- The options of one level: those with a value, with the values they accept, and the flags. -/
structure OptionSet where
  valued : List (String × (String → Bool))
  flags : List String
  /-- Whether the version can be asked for. -/
  hasVersion : Bool

/-- The options that were given at one level. -/
structure Given where
  values : List (String × String)
  flags : List String
  deriving DecidableEq, Repr

/-- Nothing was given. -/
def Given.empty : Given := ⟨[], []⟩

def Given.value? (given : Given) (name : String) : Option String := given.values.lookup name

/-- In which form the help is asked for. -/
inductive HelpForm
  | short
  | long
  deriving DecidableEq, Repr

/-- What reading options comes to. -/
inductive Scan
  | usage
  | version
  | help (form : HelpForm)
  /-- The options that were given, and the words from the first one on that is no option. -/
  | done (given : Given) (rest : List String)
  deriving DecidableEq, Repr

/-- Whether a word is an option. A single hyphen is none. -/
def isOption (word : String) : Bool := word.toList.head? == some '-' && word != "-"

/-- The name of an option, and the value that is attached to it. -/
def splitOption (word : String) : String × Option String :=
  match word.toList.span (· != '=') with
  | (name, _ :: value) => (String.ofList name, some (String.ofList value))
  | (name, []) => (String.ofList name, none)

/-- Whether a word asks for the version. Letters after a single hyphen are read one by one, so what
comes after the first one does not matter. -/
def asksVersion (word : String) : Bool :=
  word == "--version" || ['-', 'V'].isPrefixOf word.toList

/-- The form of the help that a word asks for, if it does. -/
def helpForm? (word : String) : Option HelpForm :=
  if word == "--help" then some .long
  else if ['-', 'h'].isPrefixOf word.toList then some .short
  else none

/-- Reads the options of one level. Help and version are given as soon as they are asked for, whatever
comes after. -/
def scan (options : OptionSet) (given : Given) : List String → Scan
  | [] => .done given []
  | word :: rest =>
    if word == "--" || !isOption word then .done given (word :: rest)
    else
      let (name, attached) := splitOption word
      match options.valued.lookup name with
      | some accepts =>
        if (given.value? name).isSome then .usage
        else
          match attached, rest with
          | some value, rest =>
            if accepts value then scan options { given with values := (name, value) :: given.values } rest
            else .usage
          | none, value :: rest =>
            if !isOption value && accepts value then
              scan options { given with values := (name, value) :: given.values } rest
            else .usage
          | none, [] => .usage
      | none =>
        if options.flags.contains word then
          if given.flags.contains word then .usage
          else scan options { given with flags := word :: given.flags } rest
        else
          match helpForm? word with
          | some form => .help form
          | none => if options.hasVersion && asksVersion word then .version else .usage

end OutlineLint.CommandLine
