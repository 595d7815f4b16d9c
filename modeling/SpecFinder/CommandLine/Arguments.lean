import SpecFinder.Text.Basic

/-!
# Arguments

The arguments of a command are options and words.  An option with a long name
begins with two dashes and may carry its value behind an equals sign; options with
short names may share one dash, and the last of them may carry its value.  An
option without its value takes the next argument.  Two dashes alone end the
options.
-/

namespace SpecFinder.CommandLine

structure Declared (κ : Type) where
  name : Text
  key : κ
  hasValue : Bool

def flag {κ : Type} (name : String) (key : κ) : Declared κ := ⟨name.toList, key, false⟩

def valued {κ : Type} (name : String) (key : κ) : Declared κ := ⟨name.toList, key, true⟩

/-- An option as it is given. A flag has the empty value. -/
structure Given (κ : Type) where
  key : κ
  value : Text := []
  deriving DecidableEq, Repr

/-- The options of one argument. The last one may still want its value. -/
structure Cluster (κ : Type) where
  given : List (Given κ) := []
  wanting : Option κ := none
  deriving DecidableEq, Repr

/-- What the arguments of a command give: the options and the words, both in
order. -/
structure Arguments (κ : Type) where
  given : List (Given κ) := []
  words : List Text := []
  deriving DecidableEq, Repr

section

variable {κ : Type} (table : List (Declared κ))

def declared? (name : Text) : Option (Declared κ) := table.find? (·.name == name)

def readLong (argument : Text) : Option (Cluster κ) :=
  match Text.splitFirst ['='] argument with
  | some (name, value) =>
      (declared? table name).bind fun option =>
        if option.hasValue then some { given := [⟨option.key, value⟩] } else none
  | none =>
      (declared? table argument).map fun option =>
        if option.hasValue then { wanting := some option.key }
        else { given := [⟨option.key, []⟩] }

def readShort : Text → Option (Cluster κ)
  | [] => some {}
  | letter :: rest =>
      (declared? table ['-', letter]).bind fun option =>
        if option.hasValue then
          some (if rest.isEmpty then { wanting := some option.key }
            else { given := [⟨option.key, rest⟩] })
        else
          (readShort rest).map fun cluster =>
            { cluster with given := ⟨option.key, []⟩ :: cluster.given }

/-- Read one argument, none when it is no option. The answer within is none when
the option is not declared so. -/
def readOption? (argument : Text) : Option (Option (Cluster κ)) :=
  match argument with
  | '-' :: '-' :: _ => some (readLong table argument)
  | '-' :: letter :: rest => some (readShort table (letter :: rest))
  | _ => none

/-- Put options in front of what other arguments give. -/
def Arguments.withGiven (given : List (Given κ)) (arguments : Arguments κ) : Arguments κ :=
  { arguments with given := given ++ arguments.given }

/-- Read arguments. Where options are not `mixed` with words, the first word ends
the options. -/
def readArguments (mixed : Bool) : List Text → Option (Arguments κ)
  | [] => some {}
  | argument :: rest =>
      if argument = ['-', '-'] then
        some { words := rest }
      else
        match readOption? table argument with
        | none =>
            if mixed then
              (readArguments mixed rest).map fun arguments =>
                { arguments with words := argument :: arguments.words }
            else
              some { words := argument :: rest }
        | some none => none
        | some (some ⟨given, none⟩) =>
            (readArguments mixed rest).map (·.withGiven given)
        | some (some ⟨given, some key⟩) =>
            match rest with
            | [] => none
            | value :: rest =>
                (readArguments mixed rest).map (·.withGiven (given ++ [⟨key, value⟩]))

end

namespace Arguments

variable {κ : Type} [DecidableEq κ] (arguments : Arguments κ)

def values (key : κ) : List Text :=
  (arguments.given.filter (·.key = key)).map (·.value)

/-- The value of an option that was given last. -/
def value? (key : κ) : Option Text := (arguments.values key).getLast?

def has (key : κ) : Bool := arguments.given.any (·.key = key)

def first? (keys : List κ) : Option κ :=
  (arguments.given.find? fun given => given.key ∈ keys).map (·.key)

def last? (keys : List κ) : Option κ :=
  ((arguments.given.filter fun given => given.key ∈ keys).map (·.key)).getLast?

end Arguments

end SpecFinder.CommandLine
