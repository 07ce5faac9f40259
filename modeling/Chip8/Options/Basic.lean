import Chip8.Text.Numeral
import Chip8.Text.Quoted

namespace Chip8.Options

structure Spec where
  name : String
  takesValue : Bool
deriving DecidableEq, Repr

inductive Positional where
  | required (name : String)
  | optional (name : String)
  /-- The name of a subprogram, which takes all further arguments. -/
  | command
deriving DecidableEq, Repr

/-- What a program accepts, besides `-h` and `--help`. -/
structure Grammar where
  specs : List Spec
  positional : Positional

inductive Refusal where
  | missing (name : String)
  /-- An argument, known by its name, has something wrong with it. -/
  | argument (name complaint : String)
  | ambiguous (arg : String) (names : List String)
  | unrecognized (args : List String)
deriving DecidableEq, Repr

def Refusal.message : Refusal → String
  | missing name => s!"the following arguments are required: {name}"
  | argument name complaint => s!"argument {name}: {complaint}"
  | ambiguous arg names =>
    let matching := ", ".intercalate names
    s!"ambiguous option: {arg} could match {matching}"
  | unrecognized args =>
    let listed := " ".intercalate args
    s!"unrecognized arguments: {listed}"

def helpName : String := "-h/--help"

def ignored (name value : String) : Refusal :=
  .argument name s!"ignored explicit argument {Text.quoted value}"

/-- An argument as it looks by itself. -/
inductive Reading where
  | value
  /-- Two dashes alone; every argument after them is a value. -/
  | separator
  | help
  /-- A use of help that is refused. -/
  | spoiltHelp (refusal : Refusal)
  | option (spec : Spec) (attached : Option String)
  | unknown
deriving DecidableEq, Repr

def splitAtEquals : List Char → List Char × Option (List Char)
  | [] => ([], none)
  | '=' :: rest => ([], some rest)
  | c :: rest =>
    let (before, after) := splitAtEquals rest
    (c :: before, after)

/-- What follows `-h` in the same argument: more letters of that kind, or a value in vain. -/
def shortHelp (rest : List Char) : Reading :=
  match rest.dropWhile (· = 'h') with
  | [] => .help
  | rest => .spoiltHelp (ignored helpName (String.ofList rest))

/-- Digits with a minus before them and perhaps a point among them, but not at their end. One line
break may follow. -/
def isNegativeNumber : List Char → Bool
  | '-' :: cs =>
    let cs := if cs.getLast? = some '\n' then cs.dropLast else cs
    let isDigit (c : Char) := (Text.decimalDigit? c).isSome
    match cs.dropWhile isDigit with
    | [] => !cs.isEmpty
    | '.' :: fraction => !fraction.isEmpty && fraction.all isDigit
    | _ => false
  | _ => false

def named (g : Grammar) (name : String) (attached : Option String) : Option Reading :=
  if name = "--help" then
    some (match attached with
      | none => .help
      | some v => .spoiltHelp (ignored helpName v))
  else (g.specs.find? fun spec => spec.name = name).map fun spec => .option spec attached

def completions (g : Grammar) (start : String) : List String :=
  ("--help" :: g.specs.map Spec.name).filter fun name => start.toList.isPrefixOf name.toList

def otherwise (arg : String) : Reading :=
  if isNegativeNumber arg.toList then .value else if arg.contains ' ' then .value else .unknown

/-- Reads one argument by itself. A name may be cut short as long as it stays unique. -/
def read (g : Grammar) (arg : String) : Except Refusal Reading :=
  match arg.toList with
  | [] => .ok .value
  | ['-'] => .ok .value
  | ['-', 'h', '='] => .ok (.spoiltHelp (ignored helpName ""))
  | '-' :: 'h' :: '=' :: rest => .ok (shortHelp rest)
  | '-' :: 'h' :: rest => .ok (shortHelp rest)
  | '-' :: '-' :: _ =>
    let (name, attached) := splitAtEquals arg.toList
    let name := String.ofList name
    let attached := attached.map String.ofList
    match named g name attached with
    | some reading => .ok reading
    | none =>
      match completions g name with
      | [] => .ok (otherwise arg)
      | [full] => .ok ((named g full attached).getD .unknown)
      | names => .error (.ambiguous arg names)
  | '-' :: _ => .ok (otherwise arg)
  | _ => .ok .value

def readAll (g : Grammar) : List String → Except Refusal (List (String × Reading))
  | [] => .ok []
  | "--" :: args => .ok (("--", .separator) :: args.map fun arg => (arg, .value))
  | arg :: args => do
    let reading ← read g arg
    let readings ← readAll g args
    return (arg, reading) :: readings

end Chip8.Options
