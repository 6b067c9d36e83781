import Testbed.Plan
import Testbed.Text.Lines

/-!
# Command lines

The arguments of the program as an invocation. Options have a long name, some a letter as well; a
value follows its option or is attached to it, and never begins with a dash unless attached. After
`--` every argument is an operand.
-/

namespace Testbed.Command

inductive Source where
  | backend (testCase : String)
  | file (path : String)
  deriving Repr, DecidableEq

end Command

inductive Command where
  | compile (source : Command.Source) (output : Option String) (strict : Bool)
    (token : Option String)
  | run (testCase : String) (kind : Option ScriptKind) (token : String)
  | execute (testCase : String) (kind : Option ScriptKind) (token : String)
  | resolve (key : String) (params : List (String × String))
  deriving Repr, DecidableEq

namespace Command

inductive Misuse where
  | unknownArgument (text : String)
  | missingValue (name : String)
  | surplusValue (name : String)
  | badValue (name : String)
  | repeated (name : String)
  | missing (name : String)
  | conflict (first second : String)
  deriving Repr, DecidableEq

def Misuse.message : Misuse → String
  | .unknownArgument text => s!"unexpected argument '{text}'"
  | .missingValue name => s!"a value is required for '{name}'"
  | .surplusValue name => s!"'{name}' takes no value"
  | .badValue name => s!"invalid value for '{name}'"
  | .repeated name => s!"'{name}' cannot be used multiple times"
  | .missing name => s!"required argument '{name}' was not provided"
  | .conflict first second => s!"'{first}' cannot be used with '{second}'"

inductive Halt where
  | version
  | help
  | misuse (m : Misuse)
  deriving Repr, DecidableEq

structure Invocation where
  /-- The file with the settings, if not the usual one. -/
  settingsPath : Option String
  verbose : Bool
  command : Command
  deriving Repr, DecidableEq

/-! ## Options -/

structure OptionForm where
  name : String
  letter : Option Char
  takesValue : Bool
  deriving Repr, DecidableEq

inductive Piece where
  | option (name : String) (value : Option String)
  /-- An operand with the arguments after it; `escaped` if `--` stands before it. -/
  | operand (text : String) (escaped : Bool) (rest : List String)
  | wrong (m : Misuse)
  deriving Repr, DecidableEq

/-- The pieces of one argument, and the option that still waits for its value. -/
abbrev Pieces := List Piece × Option String

def longOption (forms : List OptionForm) (body : List Char) : Pieces :=
  let (name, attached) : String × Option String := match Text.splitOnce '=' body with
    | some (n, v) => (String.ofList n, some (String.ofList v))
    | none => (String.ofList body, none)
  match forms.find? (·.name == name), attached with
  | none, _ => ([.wrong (.unknownArgument name)], none)
  | some f, none => if f.takesValue then ([], some f.name) else ([.option f.name none], none)
  | some f, some v =>
    if f.takesValue then ([.option f.name (some v)], none)
    else ([.wrong (.surplusValue f.name)], none)

/-- A value that follows a letter in the same argument; a sign between them does not count. -/
def attachedValue : List Char → String
  | '=' :: v => String.ofList v
  | v => String.ofList v

def letters (forms : List OptionForm) : List Char → Pieces
  | [] => ([], none)
  | c :: r =>
    match forms.find? (·.letter == some c) with
    | none => ([.wrong (.unknownArgument c.toString)], none)
    | some f =>
      if !f.takesValue then
        let (ps, waiting) := letters forms r
        (.option f.name none :: ps, waiting)
      else if r.isEmpty then ([], some f.name)
      else ([.option f.name (some (attachedValue r))], none)

/-- Whether an argument cannot be a value or an operand. -/
def isDashed (s : String) : Bool :=
  match s.toList with
  | '-' :: _ :: _ => true
  | _ => false

/-- The pieces of the arguments; `waiting` is an option that wants a value. -/
def pieces (forms : List OptionForm) (escaped : Bool) : Option String → List String → List Piece
  | none, [] => []
  | some name, [] => [.wrong (.missingValue name)]
  | some name, a :: r =>
    if isDashed a then [.wrong (.missingValue name)]
    else .option name (some a) :: pieces forms escaped none r
  | none, a :: r =>
    if escaped then .operand a true r :: pieces forms true none r
    else if a = "--" then pieces forms true none r
    else match a.toList with
      | '-' :: '-' :: body =>
        let (ps, waiting) := longOption forms body
        ps ++ pieces forms false waiting r
      | '-' :: c :: cs =>
        let (ps, waiting) := letters forms (c :: cs)
        ps ++ pieces forms false waiting r
      | _ => .operand a false r :: pieces forms false none r

def globalForms : List OptionForm :=
  [⟨"config", none, true⟩, ⟨"verbose", some 'v', false⟩, ⟨"help", some 'h', false⟩]

def versionForm : OptionForm := ⟨"version", some 'V', false⟩

def kindForm : OptionForm := ⟨"script-kind", none, true⟩

def tokenForm : OptionForm := ⟨"token", none, true⟩

def commandForms : List (String × List OptionForm) := [
  ("compile", [⟨"plan", none, true⟩, ⟨"output", some 'o', true⟩, ⟨"strict", none, false⟩,
    tokenForm]),
  ("run", [kindForm, tokenForm]),
  ("execute", [kindForm, tokenForm]),
  ("resolve", [⟨"param", some 'p', true⟩])]

def repeatable : List String := ["param"]

def paths : List String := ["config", "plan", "output"]

def param (s : String) : Except Misuse (String × String) :=
  match Text.splitOnce '=' s.toList with
  | some (n, v) => .ok (String.ofList n, String.ofList v)
  | none => .error (.badValue "param")

def scriptKind (s : String) : Except Misuse ScriptKind :=
  match ScriptKind.ofName? s with
  | some k => .ok k
  | none => .error (.badValue "script-kind")

def checkValue (name value : String) : Except Misuse Unit := do
  if name = "param" then let _ ← param value
  else if name = "script-kind" then let _ ← scriptKind value
  else if paths.contains name && value.isEmpty then throw (.missingValue name)

/-! ## Collecting -/

structure Given where
  options : List (String × Option String) := []
  operands : List String := []

namespace Given

def has (g : Given) (name : String) : Bool := (g.options.lookup name).isSome

def value? (g : Given) (name : String) : Option String := (g.options.lookup name).join

def values (g : Given) (name : String) : List String :=
  g.options.filterMap fun (n, v) => if n = name then v else none

/-- Adds an option. A value is checked when it is read, so it comes before what follows it. -/
def addOption (g : Given) (name : String) (value : Option String) : Except Halt Given :=
  if name = "help" then .error .help
  else if name = "version" then .error .version
  else if g.has name && !repeatable.contains name then .error (.misuse (.repeated name))
  else match value.forM (checkValue name) with
    | .error m => .error (.misuse m)
    | .ok () => .ok { g with options := g.options ++ [(name, value)] }

/-- The options up to the first operand, and the operand with what follows it. -/
def untilOperand (g : Given) :
    List Piece → Except Halt (Given × Option (String × List String))
  | [] => .ok (g, none)
  | .wrong m :: _ => .error (.misuse m)
  | .option name value :: r => do (← g.addOption name value).untilOperand r
  | .operand text escaped rest :: _ =>
    if escaped then .error (.misuse (.unknownArgument text)) else .ok (g, some (text, rest))

def toEnd (g : Given) : List Piece → Except Halt Given
  | [] => .ok g
  | .wrong m :: _ => .error (.misuse m)
  | .option name value :: r => do (← g.addOption name value).toEnd r
  | .operand text _ _ :: r =>
    if g.operands.isEmpty then { g with operands := [text] }.toEnd r
    else .error (.misuse (.unknownArgument text))

end Given

/-! ## Commands -/

def orMisuse {α : Type} (m : Misuse) : Option α → Except Misuse α
  | some a => .ok a
  | none => .error m

/-- Where a command to compile has its plan from. -/
def source (g : Given) : Except Misuse Source :=
  match g.value? "plan", g.operands.head? with
  | some _, some _ => .error (.conflict "plan" "TEST_CASE_ID")
  | some path, none => .ok (.file path)
  | none, some id => .ok (.backend id)
  | none, none => .error (.missing "TEST_CASE_ID")

def kind (g : Given) : Except Misuse (Option ScriptKind) :=
  match g.value? "script-kind" with
  | none => .ok none
  | some s => (scriptKind s).map some

def operand (g : Given) (name : String) : Except Misuse String :=
  orMisuse (.missing name) g.operands.head?

def token? (g : Given) (env : Option String) : Option String := g.value? "token" <|> env

def ofGiven (env : Option String) (name : String) (g : Given) : Except Misuse Command := do
  if name = "compile" then
    return .compile (← source g) (g.value? "output") (g.has "strict") (token? g env)
  else if name = "resolve" then
    return .resolve (← operand g "KEY") (← (g.values "param").mapM param)
  else
    let id ← operand g "TEST_CASE_ID"
    let k ← kind g
    let token ← orMisuse (.missing "token") (token? g env)
    return if name = "run" then .run id k token else .execute id k token

/-- Help can be asked for as a command, for one of the commands. -/
def helpCommand : List String → Halt
  | [] => .help
  | [name] =>
    if name = "help" || (commandForms.lookup name).isSome then .help
    else .misuse (.unknownArgument name)
  | _ :: name :: _ => .misuse (.unknownArgument name)

/-- The invocation that the arguments stand for, `env` being the credential in the environment. Of
an option before and after the command's name, the later one counts. -/
def ofArguments (env : Option String) (args : List String) : Except Halt Invocation := do
  let (before, command) ← Given.untilOperand {} (pieces (versionForm :: globalForms) false none args)
  let some (name, rest) := command | .error (.misuse (.missing "COMMAND"))
  if name = "help" then .error (helpCommand rest)
  let some forms := commandForms.lookup name | .error (.misuse (.unknownArgument name))
  let after ← Given.toEnd {} (pieces (forms ++ globalForms) false none rest)
  match ofGiven env name after with
  | .error m => .error (.misuse m)
  | .ok c => return ⟨after.value? "config" <|> before.value? "config",
      after.has "verbose" || before.has "verbose", c⟩

end Command

end Testbed
