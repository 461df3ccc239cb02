/-!
# Command-line arguments

`Request.ofArguments` reads the arguments of the program. They name a command
after options of the program itself; what follows belongs to the command:

- `convert [FILTER] [-s STRATEGY] [-p]`
- `docs`
- `doc CATEGORY`

An argument that starts with a hyphen and is longer than it is an option.
Short options can stand behind one hyphen together, and the value of an
option can stand in the same argument or in the next, where it must not look
like an option. After `--` no argument is an option. No option and no
argument may be given twice.
-/

namespace FilterQuery

namespace CommandLine

/-! ## Arguments -/

inductive Argument where
  /-- A value, or the name of a command. -/
  | plain (text : String)
  | endOfOptions
  /-- `--name` or `--name=value`. -/
  | long (name : String) (value : Option String)
  /-- A hyphen and letters. -/
  | short (letters : List Char)
deriving Repr, DecidableEq

/-- Split at the first equals sign. -/
def splitEquals (cs : List Char) : String × Option String :=
  match cs.span (· ≠ '=') with
  | (name, '=' :: value) => (String.ofList name, some (String.ofList value))
  | (name, _) => (String.ofList name, none)

/-- What an argument looks like while options may stand. -/
def Argument.ofString (s : String) : Argument :=
  match s.toList with
  | ['-'] => .plain s
  | ['-', '-'] => .endOfOptions
  | '-' :: '-' :: rest =>
      let (name, value) := splitEquals rest
      .long name value
  | '-' :: letters => .short letters
  | _ => .plain s

/-! ## Options -/

inductive Setting where
  | flag (name : String)
  | value (name value : String)
deriving Repr, DecidableEq

/-- What one argument comes to: the settings and the value in it, and the
option whose value is to stand in the next argument. -/
structure Reading where
  settings : List Setting := []
  values : List String := []
  pending : Option String := none

/-- The options of a command: flags and options with a value, each with its
name and its letter. -/
structure Options where
  flags : List (String × Char)
  valued : List (String × Char)

namespace Options

/-- A long option: nothing if it is unknown or has a value that it does not
take. -/
def readLong (o : Options) (name : String) : Option String → Option Reading
  | some value =>
      if o.valued.any (·.1 = name) then some { settings := [.value name value] } else none
  | none =>
      if o.valued.any (·.1 = name) then some { pending := some name }
      else if o.flags.any (·.1 = name) then some { settings := [.flag name] }
      else none

/-- The value that stands behind a letter, after an equals sign or at
once. -/
def attached : List Char → String
  | '=' :: value => String.ofList value
  | value => String.ofList value

/-- Short options: flags, and at the end one with a value. -/
def readShort (o : Options) : List Char → Option Reading
  | [] => some {}
  | letter :: rest =>
      match o.valued.find? (·.2 = letter), o.flags.find? (·.2 = letter) with
      | some (name, _), _ =>
          if rest.isEmpty then some { pending := some name }
          else some { settings := [.value name (attached rest)] }
      | none, some (name, _) =>
          (o.readShort rest).map fun r => { r with settings := .flag name :: r.settings }
      | none, none => none

/-- One argument. Only a plain one is the value of an option before it, and
nothing else may stand there. -/
def readOne (o : Options) : (pending : Option String) → Argument → Option Reading
  | some name, .plain text => some { settings := [.value name text] }
  | some _, _ => none
  | none, .plain text => some { values := [text] }
  | none, .long name value => o.readLong name value
  | none, .short letters => o.readShort letters
  | none, .endOfOptions => none

end Options

structure Given where
  settings : List Setting := []
  values : List String := []
deriving Repr, DecidableEq

/-- Read the arguments of a command; `pending` is the option whose value has
to come next. Nothing where an option is unknown or lacks its value. -/
def readArguments (o : Options) : (pending : Option String) → List String → Option Given
  | none, [] => some {}
  | some _, [] => none
  | pending, arg :: rest => do
      let a := Argument.ofString arg
      if a = .endOfOptions && pending.isNone then return { values := rest }
      let r ← o.readOne pending a
      let g ← readArguments o r.pending rest
      return ⟨r.settings ++ g.settings, r.values ++ g.values⟩

namespace Given

def valuesOf (g : Given) (name : String) : List String :=
  g.settings.filterMap fun
    | .value n v => if n = name then some v else none
    | .flag _ => none

/-- The name of each option, as often as it was given. -/
def names (g : Given) : List String :=
  g.settings.map fun
    | .value n _ => n
    | .flag n => n

/-- No option was given twice. -/
def isSingle (g : Given) : Bool := g.names.all fun name => g.names.count name ≤ 1

end Given

/-! ## Requests -/

inductive Request where
  | convert (filter strategy : Option String) (pretty : Bool)
  | docs
  | doc (category : String)
  | version
deriving Repr, DecidableEq

namespace Request

def convertOptions : Options := ⟨[("pretty", 'p')], [("strategy", 's')]⟩

def noOptions : Options := ⟨[], []⟩

def ofCommand (command : String) (args : List String) : Option Request :=
  match command with
  | "convert" => do
      let given ← readArguments convertOptions none args
      guard (given.isSingle && given.values.length ≤ 1)
      return .convert given.values.head? (given.valuesOf "strategy").head?
        (given.names.contains "pretty")
  | "docs" => do
      let given ← readArguments noOptions none args
      guard given.values.isEmpty
      return .docs
  | "doc" => do
      let given ← readArguments noOptions none args
      match given.values with
      | [category] => return .doc category
      | _ => none
  | _ => none

/-- The request of the program's arguments, or nothing where they are not
understood. The version is shown as soon as it is asked for. -/
def ofArguments : List String → Option Request
  | [] => none
  | arg :: rest =>
      match Argument.ofString arg with
      | .long "version" none => some .version
      | .short ('V' :: _) => some .version
      | .plain command => ofCommand command rest
      | _ => none

end Request

end CommandLine

end FilterQuery
