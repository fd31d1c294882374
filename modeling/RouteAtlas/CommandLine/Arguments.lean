import RouteAtlas.Pairs
import RouteAtlas.Text.Basic

/-
  The arguments of a command: operands and options.

  Options begin with two hyphens and take a value, which
  follows an equals sign or is the next argument, whatever
  that looks like.  Operands and options may be mixed; after
  two bare hyphens everything is an operand, and so is a
  single hyphen.  Of an option given twice, the last one
  counts.
-/

------------------------------------------------------------
-- Refusals
------------------------------------------------------------

namespace RouteAtlas

/- Why arguments name no command to be carried out. -/
inductive Refusal where
  | misuse
  | help
deriving DecidableEq, Repr

/- Arguments taken apart. -/
structure Arguments where
  operands : List Text
  options : List (Text × Text)
  asksHelp : Bool
deriving DecidableEq, Repr

/- How many operands a command has, and its options. -/
structure Usage where
  required : Nat
  optional : Nat
  options : List Text

------------------------------------------------------------
-- Single Arguments
------------------------------------------------------------

/- The argument that asks for help. -/
def helpOption : Text :=
  "--help".toList

/- The argument that ends the options. -/
def optionsEnd : Text :=
  "--".toList

/- What a single argument is, among the given options. -/
inductive ArgumentKind where
  | operand
  | endsOptions
  | help
  | optionValue (name value : Text)
  | option (name : Text)
  | unknown
deriving DecidableEq, Repr

/- The kind of an argument. -/
def ArgumentKind.of
    (options : List Text)
    (argument : Text) :
    ArgumentKind :=
  if argument == optionsEnd then
    .endsOptions
  else if !Text.startsWith ['-'] argument ||
      argument == ['-'] then
    .operand
  else if argument == helpOption then
    .help
  else
    let name := Text.before '=' argument
    if options.elem name then
      match Text.after? '=' argument with
      | some value => .optionValue name value
      | none => .option name
    else
      .unknown

------------------------------------------------------------
-- All Arguments
------------------------------------------------------------

namespace Arguments

/- No arguments. -/
def none : Arguments :=
  ⟨[], [], false⟩

/- The arguments with another option. -/
def withOption
    (name value : Text)
    (arguments : Arguments) :
    Arguments :=
  { arguments with
    options := Pairs.put name value arguments.options }

/- The arguments with more operands. -/
def withOperands
    (operands : List Text)
    (arguments : Arguments) :
    Arguments :=
  { arguments with
    operands := arguments.operands ++ operands }

/- Reads arguments behind those that were read already. -/
def readOn
    (options : List Text)
    (found : Arguments) :
    List Text → Except Refusal Arguments
  | [] => .ok found
  | argument :: rest =>
      match ArgumentKind.of options argument with
      | .operand =>
          readOn options (found.withOperands [argument]) rest
      | .endsOptions => .ok (found.withOperands rest)
      | .help =>
          readOn options { found with asksHelp := true } rest
      | .optionValue name value =>
          readOn options (found.withOption name value) rest
      | .option name =>
          match rest with
          | [] => .error .misuse
          | value :: rest =>
              readOn options (found.withOption name value)
                rest
      | .unknown => .error .misuse

/-
  Reads the arguments of a command.  A request for help
  counts before the number of operands does.
-/
def read
    (usage : Usage)
    (arguments : List Text) :
    Except Refusal Arguments := do
  let found ← readOn usage.options .none arguments
  let count := found.operands.length
  if found.asksHelp then
    throw .help
  if count < usage.required ||
      usage.required + usage.optional < count then
    throw .misuse
  return found

/- An operand, or a default where none is given. -/
def operand
    (arguments : Arguments)
    (i : Nat)
    (default : Text) :
    Text :=
  arguments.operands[i]?.getD default

/- The value of an option. -/
def option?
    (arguments : Arguments)
    (name : Text) :
    Option Text :=
  Pairs.get? name arguments.options

end Arguments

------------------------------------------------------------
-- Leading Flags
------------------------------------------------------------

/-
  What follows the flags at the beginning.  Any other option
  there is refused; help is granted only if all of them are
  known.
-/
def dropFlags
    (isFlag : Text → Bool) :
    List Text → Except Refusal (List Text)
  | [] => .ok []
  | argument :: rest =>
      if isFlag argument then
        dropFlags isFlag rest
      else
        match ArgumentKind.of [] argument with
        | .endsOptions => .ok rest
        | .operand => .ok (argument :: rest)
        | .help => do
            let _ ← dropFlags isFlag rest
            throw .help
        | _ => .error .misuse

end RouteAtlas
