import Sigil.Command.Evaluate

/-!
The arguments of the program: switches, a command, and what the command works on with its options.
An option's value follows it or stands after an equals sign; switches of one letter may share a
dash; after two dashes alone every argument is a word. Each option and each switch stands at most
once in front of the command and at most once behind it. The version is asked for in front of a
command, and what follows is not read.
-/

namespace Sigil.Command

inductive Action where
  | version
  | evaluate (task : Task)
  | compile (task : Task)
  | interact (options : Options)

structure Request where
  action : Action
  verbose : Bool := false
  quiet : Bool := false

inductive Argument where
  | word (text : String)
  | letters (letters : List Char)
  | named (name : String) (value : Option String)
  | wordsOnly
  deriving DecidableEq, Repr

def Argument.ofText (text : String) : Argument :=
  match text.toList with
  | ['-', '-'] => .wordsOnly
  | '-' :: '-' :: cs =>
    match Text.splitAtEquals cs with
    | some (name, value) => .named (String.ofList name) (some (String.ofList value))
    | none => .named (String.ofList cs) none
  | '-' :: c :: cs => .letters (c :: cs)
  | _ => .word text

structure Switches where
  verbose : Bool := false
  quiet : Bool := false
  deriving DecidableEq, Repr

namespace Switches

def setLetter (s : Switches) : Char → Option Switches
  | 'v' => if s.verbose then none else some { s with verbose := true }
  | 'q' => if s.quiet then none else some { s with quiet := true }
  | _ => none

def setLetters (s : Switches) (letters : List Char) : Option Switches := letters.foldlM setLetter s

def setName (s : Switches) (name : String) : Option Switches :=
  if name = "verbose" then s.setLetter 'v'
  else if name = "quiet" then s.setLetter 'q'
  else none

def union (s t : Switches) : Switches := ⟨s.verbose || t.verbose, s.quiet || t.quiet⟩

end Switches

inductive Verb where
  | evaluate
  | compile
  | interact
  deriving DecidableEq, Repr

def Verb.ofName? (name : String) : Option Verb :=
  if name = "eval" then some .evaluate
  else if name = "compile" then some .compile
  else if name = "repl" then some .interact
  else none

inductive Opening where
  | version
  | command (verb : Verb) (switches : Switches) (rest : List String)
  deriving DecidableEq, Repr

namespace Opening

def read : List String → Switches → Option Opening
  | [], _ => none
  | text :: rest, s =>
    match Argument.ofText text with
    | .word name => (Verb.ofName? name).map fun verb => .command verb s rest
    | .letters letters =>
      -- a `V` asks for the version, but only behind letters that are switches
      match s.setLetters (letters.takeWhile (· ≠ 'V')) with
      | none => none
      | some s => if 'V' ∈ letters then some .version else read rest s
    | .named name none =>
      if name = "version" then some .version
      else
        match s.setName name with
        | none => none
        | some s => read rest s
    | .named _ (some _) | .wordsOnly => none

end Opening

inductive OptionName where
  | vars
  | root
  | config
  | scope
  deriving DecidableEq, Repr

def OptionName.ofName? (name : String) : Option OptionName :=
  if name = "vars" then some .vars
  else if name = "root" then some .root
  else if name = "config" then some .config
  else if name = "scope" then some .scope
  else none

structure Details where
  words : List String := []
  options : Options := {}
  scope : Option String := none
  switches : Switches := {}
  deriving DecidableEq, Repr

namespace Details

def once (old : Option String) (value : String) : Option (Option String) :=
  if old.isSome then none else some (some value)

def oncePath (old : Option String) (value : String) : Option (Option String) :=
  if value = "" then none else once old value

def setOption (d : Details) (value : String) : OptionName → Option Details
  | .vars =>
    (oncePath d.options.vars value).map fun v => { d with options := { d.options with vars := v } }
  | .root =>
    (once d.options.root value).map fun v => { d with options := { d.options with root := v } }
  | .config =>
    (oncePath d.options.config value).map fun v =>
      { d with options := { d.options with config := v } }
  | .scope => (once d.scope value).map fun v => { d with scope := v }

def setSwitch (d : Details) (name : String) : Option Details :=
  if name = "read-only" then
    if d.options.readOnly then none
    else some { d with options := { d.options with readOnly := true } }
  else (d.switches.setName name).map fun s => { d with switches := s }

def read : List String → Details → Option Details
  | [], d => some d
  | text :: rest, d =>
    match Argument.ofText text with
    | .word text => read rest { d with words := text :: d.words }
    | .letters letters =>
      match d.switches.setLetters letters with
      | none => none
      | some s => read rest { d with switches := s }
    | .named name value =>
      match OptionName.ofName? name, value, rest with
      | some o, some value, rest =>
        match d.setOption value o with
        | none => none
        | some d => read rest d
      | some o, none, value :: rest =>
        match Argument.ofText value with
        | .word value =>
          match d.setOption value o with
          | none => none
          | some d => read rest d
        | _ => none
      | none, none, rest =>
        match d.setSwitch name with
        | none => none
        | some d => read rest d
      | _, _, _ => none
    | .wordsOnly => some { d with words := rest.reverse ++ d.words }

def action? (d : Details) : Verb → Option Action
  | .evaluate =>
    match d.words with
    | [source] => some (.evaluate ⟨source, d.options, d.scope⟩)
    | _ => none
  | .compile =>
    match d.words with
    | [source] => some (.compile ⟨source, d.options, d.scope⟩)
    | _ => none
  | .interact =>
    match d.words, d.scope with
    | [], none => some (.interact d.options)
    | _, _ => none

end Details

def Request.ofArguments (args : List String) : Option Request :=
  match Opening.read args {} with
  | none => none
  | some .version => some ⟨.version, false, false⟩
  | some (.command verb before rest) =>
    match Details.read rest {} with
    | none => none
    | some d =>
      let switches := before.union d.switches
      (d.action? verb).map fun action => ⟨action, switches.verbose, switches.quiet⟩

end Sigil.Command
