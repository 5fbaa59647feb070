import SpectroRemote.Text.Fields

/-!
# Command lines

The arguments of a command are options and operands in any order. An option `--name` either stands
for itself or takes a value, in the next argument or behind an equals sign. After `--` all arguments
are operands. Options are given at most once, operands exactly as many times as the command has
them.

Arguments are read from left to right: the first that is wrong makes the command line wrong, and a
request for help that comes before it is granted.
-/

namespace SpectroRemote.CommandLine

/-- What an option does to the values of a command line. -/
inductive OptionForm (σ : Type)
  | flag (set : σ → σ)
  | value (set : String → σ → Option σ)

structure Grammar (σ : Type) where
  initial : σ
  options : List (String × OptionForm σ)
  operands : List (String → σ → σ) := []
  /-- Pairs of options that exclude each other. -/
  exclusive : List (String × String) := []

/-- What a command line asks for. -/
inductive Asked (α : Type)
  | help
  | run (a : α)
deriving Repr, DecidableEq

inductive Argument
  | terminator
  | long (name : String) (attached : Option String)
  | short (letter : Char)
  | operand (text : String)
deriving Repr, DecidableEq

def Argument.ofString (arg : String) : Argument :=
  match arg.toList with
  | ['-', '-'] => .terminator
  | '-' :: '-' :: s =>
    let (name, attached) := Text.cut '=' s
    .long (String.ofList name) (attached.map String.ofList)
  | '-' :: letter :: _ => .short letter
  | _ => .operand arg

/-- Whether an argument can be the value of the option before it. -/
def isValue (arg : String) : Bool :=
  match Argument.ofString arg with
  | .operand _ => true
  | _ => false

namespace Grammar

variable {σ : Type}

/-- Takes every argument as an operand; there must be one for each. -/
def takeOperands : List (String → σ → σ) → List String → σ → Option σ
  | [], [], s => some s
  | set :: operands, arg :: rest, s => takeOperands operands rest (set arg s)
  | _, _, _ => none

def conflicts (g : Grammar σ) (given : List String) : Bool :=
  g.exclusive.any fun (a, b) => given.contains a && given.contains b

def parseFrom? (g : Grammar σ) (given : List String) (operands : List (String → σ → σ))
    (args : List String) (s : σ) : Option (Asked σ) :=
  match args with
  | [] => if operands.isEmpty && !g.conflicts given then some (.run s) else none
  | arg :: rest =>
    match Argument.ofString arg with
    | .terminator =>
      if g.conflicts given then none else (takeOperands operands rest s).map .run
    | .short letter => if letter = 'h' then some .help else none
    | .long "help" none => some .help
    | .long name attached =>
      if given.contains name then none
      else match g.options.lookup name, attached, rest with
        | some (.flag set), none, rest => g.parseFrom? (name :: given) operands rest (set s)
        | some (.value set), some v, rest =>
          (set v s).bind (g.parseFrom? (name :: given) operands rest)
        | some (.value set), none, v :: rest =>
          if isValue v then (set v s).bind (g.parseFrom? (name :: given) operands rest) else none
        | _, _, _ => none
    | .operand text =>
      match operands with
      | [] => none
      | set :: operands => g.parseFrom? given operands rest (set text s)
termination_by args.length

def parse? (g : Grammar σ) (args : List String) : Option (Asked σ) :=
  g.parseFrom? [] g.operands args g.initial

end Grammar

end SpectroRemote.CommandLine
