import Pagewright.Files.Path
import Pagewright.Number.Reading

/-!
# Arguments of a command line

A command has options with a value and switches without one. An option is written with its value
behind an equals sign or as the next argument; a switch is written alone, or with a word for yes or
no behind an equals sign, and has a negated form. No option is given twice. Everything else is a
positional argument, and so is everything behind two dashes alone.

What the arguments leave open is taken from the environment, where an option has its name in
capitals behind a fixed start.
-/

namespace Pagewright

/-- Why arguments make no command. -/
inductive UsageFault where
  | unknownCommand (name : String)
  | unknownOption (name : String)
  | repeatedOption (name : String)
  | missingValue (name : String)
  | notASwitchWord (word : String)
  | missingArgument (name : String)
  | unexpectedArgument (text : String)
deriving DecidableEq

/-- The report of a fault. -/
def UsageFault.message : UsageFault → String
  | .unknownCommand name => "Unknown command: " ++ name
  | .unknownOption name => "Unknown option: " ++ name
  | .repeatedOption name => "Option given twice: " ++ name
  | .missingValue name => "Option without a value: " ++ name
  | .notASwitchWord word => "Neither yes nor no: " ++ word
  | .missingArgument name => "Missing argument: " ++ name
  | .unexpectedArgument text => "Unexpected argument: " ++ text

/-- The options and switches of a command. -/
structure ArgumentShape where
  options : List String
  switches : List String := []

/-- Arguments sorted into the values of options and the positional ones. -/
structure Arguments where
  options : List (String × String) := []
  positional : List String := []

/-- Does an argument look like an option? A negative number does not. -/
def isOptionLike (argument : String) : Bool :=
  argument.startsWith "-" && (Number.read? argument.toList).isNone

/-- The words for yes and no. -/
def switchValue? (word : String) : Option Bool :=
  let word := String.ofList (word.toList.map Char.toLower)
  if word ∈ ["yes", "y", "1", "true", "t"] then some true
  else if word ∈ ["no", "n", "0", "false", "f"] then some false
  else none

/-- Splits an argument at its first equals sign. -/
def splitValue (argument : String) : String × Option String :=
  let s := argument.toList
  let name := String.ofList (s.takeWhile fun c => c != '=')
  match s.dropWhile fun c => c != '=' with
  | [] => (name, none)
  | _ :: value => (name, some (String.ofList value))

/-- How an argument names an option. -/
def optionText (name : String) : String := "--" ++ name

/-- How an argument names a switch that is turned off. -/
def negatedText (name : String) : String := "--no-" ++ name

/-- What the text of an option stands for. -/
inductive OptionMeaning where
  | option (name : String)
  | switch (name : String) (value : Bool)

/-- The option or switch that a text names. -/
def ArgumentShape.meaning? (shape : ArgumentShape) (text : String) : Option OptionMeaning :=
  match shape.options.find? fun name => optionText name == text with
  | some name => some (.option name)
  | none => shape.switches.findSome? fun name =>
    if optionText name = text then some (.switch name true)
    else if negatedText name = text then some (.switch name false)
    else none

/-- The word for the position of a switch. -/
def switchWord (value : Bool) : String := if value then "yes" else "no"

/-- The position of a switch: its own, or the one that a word behind it says. -/
def switchPosition (value : Bool) : Option String → Except UsageFault String
  | none => .ok (switchWord value)
  | some word => match switchValue? word with
    | some w => .ok (switchWord (value == w))
    | none => .error (.notASwitchWord word)

namespace Arguments

/-- Puts an option in front of those that are read. -/
def withOption (arguments : Arguments) (name value : String) : Except UsageFault Arguments :=
  if (arguments.options.lookup name).isSome then .error (.repeatedOption name)
  else .ok { arguments with options := (name, value) :: arguments.options }

/-- Sorts arguments. -/
def sort (shape : ArgumentShape) : List String → Except UsageFault Arguments
  | [] => .ok {}
  | argument :: rest =>
    if argument = "--" then .ok { positional := rest }
    else if isOptionLike argument then
      match shape.meaning? (splitValue argument).1, (splitValue argument).2 with
      | none, _ => .error (.unknownOption argument)
      | some (.switch name value), word => do
        (← sort shape rest).withOption name (← switchPosition value word)
      | some (.option name), some value => do (← sort shape rest).withOption name value
      | some (.option name), none => match rest with
        | [] => .error (.missingValue name)
        | value :: rest =>
          if isOptionLike value then .error (.missingValue name)
          else do (← sort shape rest).withOption name value
    else do
      let arguments ← sort shape rest
      return { arguments with positional := argument :: arguments.positional }

/-- The name of an option in the environment. -/
def environmentName (name : String) : String :=
  "PAGECRAFT_" ++ String.ofList (name.toList.map fun c => if c = '-' then '_' else c.toUpper)

/-- The value of an option, given or taken from the environment. -/
def option? (arguments : Arguments) (environment : List (String × String)) (name : String) :
    Option String :=
  (arguments.options.lookup name).or (environment.lookup (environmentName name))

end Arguments

end Pagewright
