import SqlFilter.CommandLine.Arguments
/-! Command lines: options of the program, a subcommand, and its arguments. The options of the program
may also stand after the subcommand, and count there if they stand on both sides. -/
namespace SqlFilter.CommandLine

/-- The values of the environment variables that stand in for options. -/
structure Environment where
  config : Option String
  dialect : Option String
  escapeLike : Option String
deriving DecidableEq, Repr

def configVariable : String := "PREDSQL_CONFIG"
def dialectVariable : String := "PREDSQL_DIALECT"
def escapeLikeVariable : String := "PREDSQL_ESCAPE_LIKE"

/-- Puts what the environment says in place of options that a level does not give. Only what is put
in place is checked. -/
def Environment.fill (env : Environment) (g : Given) : Except UsageError Given := do
  let config ← match g.config, env.config with
    | .none, some value => some <$> readPath .config value
    | given, _ => pure given
  let dialect ← match g.dialect, env.dialect with
    | .none, some value => some <$> readDialect value
    | given, _ => pure given
  let escapeLike ← match g.escapeLike, env.escapeLike with
    | .none, some value => some <$> readFlag .escapeLike value
    | given, _ => pure given
  return { g with config, dialect, escapeLike }

/-- The command that the arguments of a subcommand make. -/
def command (level : Level) (g : Given) : Except UsageError Command :=
  match level with
  | .compile => .ok (.compile (g.input.getD "-") g.entity g.positional)
  | .statement =>
    match g.kind, g.entity with
    | some kind, some entity =>
      .ok (.statement kind entity g.predicate g.orderBy g.descending g.positional)
    | _, _ => .error .missingRequiredArgument
  | .schemas => .ok .schemas
  | .program => .error .missingSubcommand

/-- What a subcommand and the program itself were given, and the command. -/
structure Parsed where
  outer : Given
  inner : Given
  command : Command

/-- Reads the arguments of a subcommand to their end, then checks what the program was given. -/
def subcommand (env : Environment) (level : Level) (p : Progress) (arguments : List String) :
    Except UsageError Parsed := do
  let inner ← (← (Progress.start level).arguments level arguments).settle
  let filled ← env.fill inner.given
  let command ← command level filled
  let outer ← p.settle
  let _ ← env.fill outer.given
  return ⟨outer.given, inner.given, command⟩

/-- What is asked for by the word `help` with further words. -/
def help : List String → UsageError
  | [] => .help
  | [word] =>
    if (Level.ofWord? word).isSome || word == "help" then .help else .invalidSubcommand word
  | word :: next :: _ =>
    if (Level.ofWord? word).isSome || word == "help" then .invalidSubcommand next
    else .invalidSubcommand word

/-- The end of a command line without a subcommand. -/
def noSubcommand (env : Environment) (p : Progress) : Except UsageError Parsed := do
  let p ← p.settle
  let g ← env.fill p.given
  if g.config.isNone && g.dialect.isNone && g.escapeLike.isNone then throw .helpForNothing
  else throw .missingSubcommand

/-- Reads options of the program up to a subcommand. -/
def program (env : Environment) (p : Progress) : List String → Except UsageError Parsed
  | [] => noSubcommand env p
  | a :: rest =>
    match if p.onlyPositionals || p.awaitsValue then .none else Level.ofWord? a with
    | some level => subcommand env level p rest
    | .none =>
      if a == "help" && !p.onlyPositionals && !p.awaitsValue then .error (help rest)
      else do
        let p ← p.argument .program a
        program env p rest

/-- The overrides of a command line. Options count before the environment, and those of the
subcommand before those of the program. -/
def overrides (env : Environment) (parsed : Parsed) : Except UsageError Overrides := do
  let given : Given := { parsed.inner with
    config := parsed.inner.config.or parsed.outer.config
    dialect := parsed.inner.dialect.or parsed.outer.dialect
    escapeLike := parsed.inner.escapeLike.or parsed.outer.escapeLike }
  let g ← env.fill given
  return ⟨g.config, g.dialect, g.escapeLike.getD false⟩

/-- Reads a command line without the name of the program. -/
def parse (env : Environment) (arguments : List String) : Except UsageError Invocation := do
  let parsed ← program env (Progress.start .program) arguments
  return ⟨← overrides env parsed, parsed.command⟩

end SqlFilter.CommandLine
