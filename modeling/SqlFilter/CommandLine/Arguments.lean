import SqlFilter.CommandLine.Invocation
/-! The arguments of one level of a command line: of the program, or of a subcommand.

The value of an option that stands as a word of its own, and a positional value, are checked only
when the next option comes or the level ends, so a fault in between is reported first. -/
namespace SqlFilter.CommandLine

/-- What an argument sets. -/
inductive Slot
  | config | dialect | escapeLike
  | input | entity | positional
  | kind | predicate | orderBy | descending
  | help | version
deriving DecidableEq, Repr

/-- An option, with or without a letter for short. -/
structure Switch where
  slot : Slot
  long : String
  letter : Option Char
  takesValue : Bool
deriving Repr

/-- The levels of a command line. -/
inductive Level
  | program
  | compile
  | statement
  | schemas
deriving DecidableEq, Repr

/-- The options that every level has. -/
def globalSwitches : List Switch :=
  [⟨.config, "config", some 'c', true⟩, ⟨.dialect, "dialect", some 'd', true⟩,
    ⟨.escapeLike, "escape-like", none, false⟩, ⟨.help, "help", some 'h', false⟩]

def Level.switches : Level → List Switch
  | .program => ⟨.version, "version", some 'V', false⟩ :: globalSwitches
  | .compile =>
    [⟨.entity, "entity", some 'e', true⟩, ⟨.positional, "positional", none, false⟩] ++
      globalSwitches
  | .statement =>
    [⟨.entity, "entity", some 'e', true⟩, ⟨.predicate, "predicate", some 'p', true⟩,
      ⟨.orderBy, "order-by", some 'o', true⟩, ⟨.descending, "desc", none, false⟩,
      ⟨.positional, "positional", none, false⟩] ++ globalSwitches
  | .schemas => globalSwitches

/-- What the words that are no options set, in order. -/
def Level.positionals : Level → List Slot
  | .compile => [.input]
  | .statement => [.kind]
  | .program | .schemas => []

def Level.ofWord? (word : String) : Option Level :=
  if word = "compile" then some .compile
  else if word = "statement" then some .statement
  else if word = "schemas" then some .schemas
  else none

/-- What the arguments of a level have set. -/
structure Given where
  config : Option String
  dialect : Option Dialect
  escapeLike : Option Bool
  input : Option String
  entity : Option String
  positional : Bool
  kind : Option StatementKind
  predicate : Option String
  orderBy : List String
  descending : Bool
deriving DecidableEq, Repr

def Given.none : Given :=
  ⟨.none, .none, .none, .none, .none, false, .none, .none, [], false⟩

/-- The name of a slot in messages. -/
def Slot.label : Slot → String
  | .config => "--config"
  | .dialect => "--dialect"
  | .escapeLike => "--escape-like"
  | .input => "[INPUT]"
  | .entity => "--entity"
  | .positional => "--positional"
  | .kind => "<KIND>"
  | .predicate => "--predicate"
  | .orderBy => "--order-by"
  | .descending => "--desc"
  | .help => "--help"
  | .version => "--version"

/-- A path has at least one character. -/
def readPath (slot : Slot) (value : String) : Except UsageError String :=
  if value = "" then .error (.missingValue slot.label) else .ok value

def readDialect (value : String) : Except UsageError Dialect :=
  match Dialect.parse value with
  | .ok d => .ok d
  | .error word =>
    .error (.refusedValue (Slot.label .dialect) value (Dialect.unknownMessage word))

def readKind (value : String) : Except UsageError StatementKind :=
  match StatementKind.parse? value with
  | some kind => .ok kind
  | .none => .error (.refusedValue (Slot.label .kind) value
      ("Invalid statement '" ++ value ++ "'. Valid options: select, find, first, delete"))

/-- A truth value is one of two words. -/
def readFlag (slot : Slot) (value : String) : Except UsageError Bool :=
  if value = "true" then .ok true
  else if value = "false" then .ok false
  else .error (.invalidFlagValue slot.label value)

/-- Refuses to set again what is set. -/
def fresh (slot : Slot) (isSet : Bool) : Except UsageError Unit :=
  if isSet then .error (.argumentConflict slot.label) else .ok ()

namespace Given

/-- Sets the value of a slot. Only the order columns may be given more than once. -/
def set (g : Given) (slot : Slot) (value : String) : Except UsageError Given := do
  match slot with
  | .config =>
    fresh slot g.config.isSome
    return { g with config := some (← readPath slot value) }
  | .dialect =>
    fresh slot g.dialect.isSome
    return { g with dialect := some (← readDialect value) }
  | .input =>
    fresh slot g.input.isSome
    return { g with input := some (← readPath slot value) }
  | .entity =>
    fresh slot g.entity.isSome
    return { g with entity := some value }
  | .kind =>
    fresh slot g.kind.isSome
    return { g with kind := some (← readKind value) }
  | .predicate =>
    fresh slot g.predicate.isSome
    return { g with predicate := some (← readPath slot value) }
  | .orderBy => return { g with orderBy := g.orderBy ++ [value] }
  | _ => throw (.unknownArgument slot.label)

/-- Sets a slot that takes no value. -/
def raise (g : Given) (slot : Slot) : Except UsageError Given := do
  match slot with
  | .escapeLike =>
    fresh slot g.escapeLike.isSome
    return { g with escapeLike := some true }
  | .positional =>
    fresh slot g.positional
    return { g with positional := true }
  | .descending =>
    fresh slot g.descending
    return { g with descending := true }
  | .help => throw .help
  | .version => throw .version
  | _ => throw (.unknownArgument slot.label)

end Given

/-- A slot with a value that is not checked yet, or that still lacks it. -/
structure Pending where
  slot : Slot
  value : Option String
deriving DecidableEq, Repr

/-- A level that is being read: what is set, what is pending, which words without an option are still
to come, and whether all further words are such. -/
structure Progress where
  given : Given
  pending : Option Pending
  positionals : List Slot
  onlyPositionals : Bool
deriving DecidableEq, Repr

namespace Progress

def start (level : Level) : Progress :=
  ⟨.none, .none, level.positionals, false⟩

/-- Whether the next word is the value of an option. -/
def awaitsValue (p : Progress) : Bool :=
  match p.pending with
  | some ⟨_, .none⟩ => !p.onlyPositionals
  | _ => false

/-- Checks and sets what is pending. -/
def settle (p : Progress) : Except UsageError Progress := do
  match p.pending with
  | .none => return p
  | some ⟨slot, .none⟩ => throw (.missingValue slot.label)
  | some ⟨slot, some value⟩ =>
    return { p with given := ← p.given.set slot value, pending := .none }

/-- An option whose value is to follow. -/
def await (p : Progress) (slot : Slot) : Except UsageError Progress := do
  return { ← p.settle with pending := some ⟨slot, .none⟩ }

/-- An option with its value attached. -/
def attach (p : Progress) (slot : Slot) (value : String) : Except UsageError Progress := do
  let p ← p.settle
  return { p with given := ← p.given.set slot value }

/-- An option that takes no value. -/
def raise (p : Progress) (slot : Slot) : Except UsageError Progress := do
  let p ← p.settle
  return { p with given := ← p.given.raise slot }

/-- The option of a long name, with what stands after a sign of equality. -/
def long (p : Progress) (level : Level) (name : String) (value : Option String) :
    Except UsageError Progress :=
  match level.switches.find? (·.long == name), value with
  | .none, _ => .error (.unknownArgument ("--" ++ name))
  | some s, some value =>
    if s.takesValue then p.attach s.slot value else .error (.tooManyValues s.slot.label)
  | some s, .none => if s.takesValue then p.await s.slot else p.raise s.slot

/-- Options by their letters. One that takes a value takes all that is left, less a sign of equality
in front. -/
def letters (p : Progress) (level : Level) : List Char → Except UsageError Progress
  | [] => .ok p
  | c :: rest =>
    match level.switches.find? (·.letter == some c) with
    | .none => .error (.unknownArgument ("-" ++ String.singleton c))
    | some s =>
      if s.takesValue then
        match rest with
        | [] => p.await s.slot
        | '=' :: value => p.attach s.slot (String.ofList value)
        | value => p.attach s.slot (String.ofList value)
      else do
        let p ← p.raise s.slot
        p.letters level rest

/-- A word that is no option. The program itself takes none but its subcommands. -/
def word (p : Progress) (level : Level) (w : String) : Except UsageError Progress :=
  match p.positionals with
  | slot :: rest => do
    let p ← p.settle
    return { p with pending := some ⟨slot, some w⟩, positionals := rest }
  | [] =>
    if level = .program && !(p.onlyPositionals && ((Level.ofWord? w).isSome || w == "help")) then
      .error (.invalidSubcommand w)
    else .error (.unknownArgument w)

/-- One more argument that is no subcommand. -/
def argument (p : Progress) (level : Level) (a : String) : Except UsageError Progress :=
  if p.onlyPositionals then p.word level a
  else match a.toList with
    | ['-', '-'] => .ok { p with onlyPositionals := true }
    | '-' :: '-' :: rest =>
      let name := rest.takeWhile (· ≠ '=')
      let value := match rest.dropWhile (· ≠ '=') with
        | [] => .none
        | _ :: value => some (String.ofList value)
      p.long level (String.ofList name) value
    | '-' :: c :: rest => p.letters level (c :: rest)
    | _ =>
      match p.pending with
      | some ⟨slot, .none⟩ => .ok { p with pending := some ⟨slot, some a⟩ }
      | _ => p.word level a

/-- All arguments of a subcommand. -/
def arguments (p : Progress) (level : Level) : List String → Except UsageError Progress
  | [] => .ok p
  | a :: rest => do
    let p ← p.argument level a
    p.arguments level rest

end Progress
end SqlFilter.CommandLine
