/-!
# Command lines

A command line has switches for the whole program, the name of a command, and the switches of
the command; the switches for the whole program may also stand behind the name. It is read from
left to right, and the first thing that is wrong with it is reported.

## Main definitions

* `Switch`, `Scope`: the switches, and where they may stand.
* `UsageFault`: why a command line is not carried out.
* `Invocation`: what a command line asks for.
* `Invocation.parse`: reading a command line.
-/

namespace MailMerge

/-- The switches. -/
inductive Switch where
  | verbose
  | quiet
  | config
  | tree
  | context
  | output
  | pretty
  | help
  | version
deriving DecidableEq, Repr

namespace Switch

/-- The name of a switch behind two dashes. -/
def long : Switch → String
  | .verbose => "verbose"
  | .quiet => "quiet"
  | .config => "config"
  | .tree => "tree"
  | .context => "context"
  | .output => "output"
  | .pretty => "pretty"
  | .help => "help"
  | .version => "version"

/-- The letter of a switch behind one dash. -/
def short? : Switch → Option Char
  | .verbose => some 'v'
  | .quiet => some 'q'
  | .config => some 'c'
  | .output => some 'o'
  | .help => some 'h'
  | .version => some 'V'
  | _ => none

/-- True for the switches that are followed by a value. -/
def takesValue : Switch → Bool
  | .config | .tree | .context | .output => true
  | _ => false

end Switch

/-- The parts of a command line: in front of the name of the command, and behind it. -/
inductive Scope where
  | program
  | render
  | check
deriving DecidableEq, Repr

namespace Scope

/-- The switches that may stand in a part. -/
def switches : Scope → List Switch
  | .program => [.verbose, .quiet, .config, .help, .version]
  | .render => [.tree, .context, .output, .pretty, .verbose, .quiet, .config, .help]
  | .check => [.tree, .context, .verbose, .quiet, .config, .help]

/-- The words that end the first part. -/
def names : Scope → List String
  | .program => ["render", "check", "help"]
  | _ => []

/-- The switch with a name. -/
def ofLong? (scope : Scope) (name : String) : Option Switch :=
  scope.switches.find? fun s => s.long == name

/-- The switch with a letter. -/
def ofShort? (scope : Scope) (letter : Char) : Option Switch :=
  scope.switches.find? fun s => s.short? == some letter

end Scope

/-- Why a command line is not carried out. -/
inductive UsageFault where
  | conflict
  | invalidValue
  | missingArgument
  | unknownArgument
  | tooManyValues
  | missingCommand
  | unknownCommand
  | nothing
  | help
  | version
deriving DecidableEq, Repr

/-- The exit code for a command line that is not carried out. Questions that are answered are
no failures. -/
def UsageFault.exitCode : UsageFault → Nat
  | .help | .version => 0
  | _ => 2

/-! ### One part of a command line -/

/-- The switches of a part so far, and the one that has been read last, if its value has not
been looked at yet. -/
structure Reading where
  found : List (Switch × String)
  pending : Option (Switch × Option String)

namespace Reading

/-- Nothing has been read. -/
def empty : Reading := ⟨[], none⟩

/-- True if the next word is a value. -/
def awaitsValue (r : Reading) : Bool := r.pending.any fun p => p.2.isNone

/-- The value of a switch. -/
def value? (r : Reading) (s : Switch) : Option String := r.found.lookup s

/-- True if a switch has been read. -/
def has (r : Reading) (s : Switch) : Bool := (r.value? s).isSome

/-- Adds a switch with its value, which must not be empty. -/
def add (r : Reading) (s : Switch) (value : String) : Except UsageFault Reading :=
  if r.has s then .error .conflict
  else if s.takesValue && value.isEmpty then .error .invalidValue
  else .ok { r with found := r.found ++ [(s, value)] }

/-- Looks at the value of the last switch. -/
def settle (r : Reading) : Except UsageFault Reading :=
  match r.pending with
  | none => .ok r
  | some (_, none) => .error .invalidValue
  | some (s, some value) => ({ r with pending := none } : Reading).add s value

/-- Adds a switch without a value. Questions are answered at once. -/
def flag (r : Reading) (s : Switch) : Except UsageFault Reading := do
  let r ← r.settle
  match s with
  | .help => throw .help
  | .version => throw .version
  | s => r.add s ""

/-- Adds a switch with a value that is part of its word. -/
def attach (r : Reading) (s : Switch) (value : String) : Except UsageFault Reading := do
  (← r.settle).add s value

/-- Adds a switch whose value is the next word. -/
def await (r : Reading) (s : Switch) : Except UsageFault Reading := do
  return { ← r.settle with pending := some (s, none) }

/-- Takes a word as the value of the last switch. -/
def supply (r : Reading) (value : String) : Reading :=
  { r with pending := r.pending.map fun p => (p.1, some value) }

/-- Reads a word behind two dashes. -/
def long (scope : Scope) (r : Reading) (name : List Char) (value : Option (List Char)) :
    Except UsageFault Reading :=
  match scope.ofLong? (String.ofList name), value with
  | none, _ => .error .unknownArgument
  | some s, none => if s.takesValue then r.await s else r.flag s
  | some s, some value =>
    if s.takesValue then r.attach s (String.ofList value) else .error .tooManyValues

/-- Reads letters behind one dash. -/
def shorts (scope : Scope) (r : Reading) : List Char → Except UsageFault Reading
  | [] => .ok r
  | c :: rest =>
    match scope.ofShort? c with
    | none => .error .unknownArgument
    | some s =>
      if s.takesValue then
        match rest with
        | [] => r.await s
        | '=' :: value => r.attach s (String.ofList value)
        | value => r.attach s (String.ofList value)
      else do
        let r ← r.flag s
        shorts scope r rest

end Reading

/-- The forms of a word. -/
inductive Word where
  | escape
  | long (name : List Char) (value : Option (List Char))
  | shorts (letters : List Char)
  | plain

/-- The form of a word. A single dash is nothing special. -/
def Word.of (word : String) : Word :=
  match word.toList with
  | ['-', '-'] => .escape
  | '-' :: '-' :: rest =>
    let name := rest.takeWhile (· ≠ '=')
    match rest.drop name.length with
    | _ :: value => .long name (some value)
    | [] => .long name none
  | '-' :: c :: rest => .shorts (c :: rest)
  | _ => .plain

/-- What is wrong with a word that is neither a switch nor a value; `escaped` is true behind two
dashes that stand alone. -/
def Scope.stray (scope : Scope) (escaped : Bool) (word : String) : UsageFault :=
  if scope = .program ∧ ¬(escaped ∧ word ∈ scope.names) then .unknownCommand else .unknownArgument

/-- Reads a part up to its end, or up to the name of a command with what is behind it. -/
def Reading.scan (scope : Scope) : Bool → Reading → List String →
    Except UsageFault (Reading × Option (String × List String))
  | _, r, [] => .ok (r, none)
  | true, _, word :: _ => .error (scope.stray true word)
  | false, r, word :: rest =>
    if !r.awaitsValue && scope.names.contains word then .ok (r, some (word, rest))
    else
      match Word.of word with
      | .escape => scan scope true r rest
      | .long name value => do scan scope false (← r.long scope name value) rest
      | .shorts letters => do scan scope false (← r.shorts scope letters) rest
      | .plain =>
        if r.awaitsValue then scan scope false (r.supply word) rest
        else .error (scope.stray false word)

/-- Switches that contradict each other must not stand in one part. -/
def Reading.consistent (r : Reading) : Except UsageFault Unit :=
  if r.has .verbose && r.has .quiet then .error .conflict else .ok ()

/-! ### Whole command lines -/

/-- What is to be done with a document and a context, which are named by their paths. -/
inductive Command where
  | render (tree context : String) (output : Option String) (pretty : Bool)
  | check (tree context : String)
deriving DecidableEq, Repr

/-- What a command line asks for. -/
structure Invocation where
  verbose : Bool
  quiet : Bool
  config : Option String
  command : Command
deriving DecidableEq, Repr

/-- The value of a switch that may not be left out. -/
def Reading.required (r : Reading) (s : Switch) : Except UsageFault String :=
  match r.value? s with
  | some value => .ok value
  | none => .error .missingArgument

/-- A question about commands: names of commands may follow. -/
def helpAbout : List String → UsageFault
  | [] => .help
  | [word] => if word ∈ Scope.program.names then .help else .unknownCommand
  | _ => .unknownCommand

/-- The part behind the name of a command. -/
def Reading.command (scope : Scope) (words : List String) : Except UsageFault Reading := do
  let (r, _) ← Reading.scan scope false .empty words
  let r ← r.settle
  r.consistent
  return r

/-- The command of a part. -/
def Command.of (scope : Scope) (r : Reading) : Except UsageFault Command := do
  let tree ← r.required .tree
  let context ← r.required .context
  return if scope = .check then .check tree context
    else .render tree context (r.value? .output) (r.has .pretty)

namespace Invocation

/-- Reads a command line. Of two values for the whole program the one behind the name of the
command counts. -/
def parse (words : List String) : Except UsageFault Invocation := do
  let (outer, behind) ← Reading.scan .program false .empty words
  match behind with
  | none =>
    let outer ← outer.settle
    throw (if outer.found.isEmpty then .nothing else .missingCommand)
  | some (name, rest) =>
    if name = "help" then throw (helpAbout rest)
    let scope := if name = "check" then Scope.check else .render
    let inner ← Reading.command scope rest
    let command ← Command.of scope inner
    let outer ← outer.settle
    outer.consistent
    return {
      verbose := outer.has .verbose || inner.has .verbose
      quiet := outer.has .quiet || inner.has .quiet
      config := (inner.value? .config).or (outer.value? .config)
      command }

/-- How much is written about what happens. -/
def logLevel (i : Invocation) : String :=
  if i.verbose then "debug" else if i.quiet then "error" else "info"

end Invocation

end MailMerge
