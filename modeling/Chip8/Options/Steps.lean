import Chip8.Options.Basic

namespace Chip8.Options

/-- What the arguments of a program say, one thing after another. -/
inductive Step where
  | help
  /-- An option with its value. It has none if it takes none, or if two dashes are attached to it,
  which leave it empty. -/
  | option (spec : Spec) (value : Option String)
  | positional (value : String)
  | command (name : String) (args : List String)
  /-- An argument that the program has no place for. -/
  | extra (arg : String)
  | refuse (refusal : Refusal)
deriving DecidableEq, Repr

def closing (g : Grammar) (pending : Bool) : List Step :=
  match g.positional with
  | .required name => if pending then [.refuse (.missing name)] else []
  | _ => []

/-- Joins arguments into steps. As long as the place for an argument is `pending`, the next value
takes it; a separator beside that value is dropped. -/
def join (g : Grammar) : Bool → List (String × Reading) → List Step
  | pending, [] => closing g pending
  | pending, (_, .help) :: rest => .help :: join g pending rest
  | _, (_, .spoiltHelp refusal) :: _ => [.refuse refusal]
  | pending, (arg, .unknown) :: rest => .extra arg :: join g pending rest
  | pending, (_, .option spec none) :: rest =>
    if spec.takesValue then
      match rest with
      | (value, .value) :: rest => .option spec (some value) :: join g pending rest
      | _ => [.refuse (.argument spec.name "expected one argument")]
    else .option spec none :: join g pending rest
  | pending, (_, .option spec (some value)) :: rest =>
    if spec.takesValue then
      .option spec (if value = "--" then none else some value) :: join g pending rest
    else [.refuse (ignored spec.name value)]
  | false, (arg, .value) :: rest => .extra arg :: join g false rest
  | false, (arg, .separator) :: rest => .extra arg :: join g false rest
  | true, (arg, .value) :: rest =>
    match g.positional, rest with
    | .command, rest => [.command arg (rest.map Prod.fst)]
    | _, (_, .separator) :: rest => .positional arg :: join g false rest
    | _, rest => .positional arg :: join g false rest
  | true, (arg, .separator) :: rest =>
    match g.positional, rest with
    | .command, [] => [.extra arg]
    | .command, rest => [.command arg (rest.map Prod.fst)]
    | .required _, [] => .extra arg :: closing g true
    | .optional _, [] => []
    | _, (value, _) :: rest => .positional value :: join g false rest

def steps (g : Grammar) (args : List String) : List Step :=
  match readAll g args with
  | .error refusal => [.refuse refusal]
  | .ok readings => join g true readings

/-- What becomes of the arguments of a program. -/
inductive Result (α : Type) where
  | help
  | refused (refusal : Refusal)
  /-- The settings, with the arguments that have no place. -/
  | settings (value : α) (extras : List String)

/-- Takes the steps in turn: options and arguments change the settings or are refused. -/
def interpret {α : Type} (option : α → Spec → Option String → Except Refusal α)
    (positional : α → String → α) : List Step → α → List String → Result α
  | [], a, extras => .settings a extras.reverse
  | .help :: _, _, _ => .help
  | .refuse refusal :: _, _, _ => .refused refusal
  | .extra arg :: rest, a, extras => interpret option positional rest a (arg :: extras)
  | .positional value :: rest, a, extras =>
    interpret option positional rest (positional a value) extras
  | .command _ _ :: rest, a, extras => interpret option positional rest a extras
  | .option spec value :: rest, a, extras =>
    match option a spec value with
    | .ok a => interpret option positional rest a extras
    | .error refusal => .refused refusal

def integer (spec : Spec) (value : String) : Except Refusal Int :=
  match Text.Base.decimal.integer? value with
  | some n => .ok n
  | none => .error (.argument spec.name s!"invalid int value: {Text.quoted value}")

def count (spec : Spec) (value : String) : Except Refusal Nat :=
  match Text.Base.decimal.integer? value with
  | none => .error (.argument spec.name s!"invalid int value: '{value}'")
  | some n =>
    if n < 1 then .error (.argument spec.name s!"must be >= 1: {n}") else .ok n.toNat

def filled {α : Type} (read : Spec → String → Except Refusal α) (spec : Spec) :
    Option String → Except Refusal (Option α)
  | none => .ok none
  | some value => (read spec value).map some

/-- A value that is needed after all. The error is the option that was left empty. -/
def needed {α : Type} (spec : Spec) : Option α → Except Spec α
  | some value => .ok value
  | none => .error spec

end Chip8.Options
