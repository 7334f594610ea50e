import Cutover.Datum.Decode
import Cutover.Datum.Toml
import Cutover.Files.Change
import Cutover.Graph.Basic
import Cutover.Script.Outcome

/-!
# Configuration

What can be configured, the values in use where nothing is, and where configuration files are
looked for. A configuration with a faulty domain graph is refused as a whole.
-/
namespace Cutover

namespace ToolNames

def ofDatum? (conv : Convention) (d : Datum) : Option ToolNames := do
  let f ← d.fields? conv ["advanced", "simple"]
  let standard : ToolNames := {}
  return {
    advanced := ← f.orElse "advanced" standard.advanced Datum.text?
    simple := ← f.orElse "simple" standard.simple Datum.text? }

end ToolNames

namespace DomainSpec

def ofDatum? (conv : Convention) (d : Datum) : Option DomainSpec := do
  let domain := Datum.choice? conv Domain.all Domain.name
  let f ← d.fields? conv ["name", "sqlmesh_models", "dbt_models", "depends_on"]
  return {
    name := ← f.required "name" domain
    sqlmeshModels := ← f.orElse "sqlmesh_models" [] (Datum.listOf? Datum.text?)
    dbtModels := ← f.orElse "dbt_models" [] (Datum.listOf? Datum.text?)
    dependsOn := ← f.orElse "depends_on" [] (Datum.listOf? domain) }

end DomainSpec

/-- How the external tools are run. -/
structure RunnerConfig where
  sqlmeshBin : String := "sqlmesh"
  sqlmeshProject : String := "sqlmesh_project"
  sqlmeshEnv : String := "dev"
  dbtBin : String := "dbt"
  dbtProject : String := "dbt_project"
  /-- How long one command may take, in seconds. -/
  timeoutSecs : Nat := 1800
  deriving DecidableEq, Repr

/-- The longest time that can be configured, in seconds. -/
def longestTimeout : Nat := 18446744073709551615

namespace RunnerConfig

def ofDatum? (conv : Convention) (d : Datum) : Option RunnerConfig := do
  let f ← d.fields? conv
    ["sqlmesh_bin", "sqlmesh_project", "sqlmesh_env", "dbt_bin", "dbt_project", "timeout_secs"]
  let standard : RunnerConfig := {}
  return {
    sqlmeshBin := ← f.orElse "sqlmesh_bin" standard.sqlmeshBin Datum.text?
    sqlmeshProject := ← f.orElse "sqlmesh_project" standard.sqlmeshProject Datum.text?
    sqlmeshEnv := ← f.orElse "sqlmesh_env" standard.sqlmeshEnv Datum.text?
    dbtBin := ← f.orElse "dbt_bin" standard.dbtBin Datum.text?
    dbtProject := ← f.orElse "dbt_project" standard.dbtProject Datum.text?
    timeoutSecs := ← f.orElse "timeout_secs" standard.timeoutSecs (Datum.nat? longestTimeout) }

end RunnerConfig

/-- Where migrated domains are recorded. -/
structure StateConfig where
  file : String := ".dw-migrate/state.json"
  databaseUrl : Option String := none
  deriving DecidableEq, Repr

def StateConfig.ofDatum? (conv : Convention) (d : Datum) : Option StateConfig := do
  let f ← d.fields? conv ["file", "database_url"]
  let standard : StateConfig := {}
  return {
    file := ← f.orElse "file" standard.file Datum.text?
    databaseUrl := ← f.orElse "database_url" none (Datum.orNull? Datum.text?) }

/-- The two databases that are compared after a migration. -/
structure VerifyConfig where
  sourceUrl : Option String := none
  targetUrl : Option String := none
  deriving DecidableEq, Repr

namespace VerifyConfig

def ofDatum? (conv : Convention) (d : Datum) : Option VerifyConfig := do
  let f ← d.fields? conv ["source_url", "target_url"]
  return {
    sourceUrl := ← f.orElse "source_url" none (Datum.orNull? Datum.text?)
    targetUrl := ← f.orElse "target_url" none (Datum.orNull? Datum.text?) }

/-- What verifies the data after a migration. -/
inductive Backend where
  /-- Nothing does: no databases are configured. -/
  | skipped
  | databases (source target : String)
  deriving DecidableEq, Repr

/-- Both databases have to be given, or none. -/
def backend (v : VerifyConfig) : Except Error Backend :=
  match v.sourceUrl, v.targetUrl with
  | some source, some target => .ok (.databases source target)
  | none, none => .ok .skipped
  | _, _ => .error (.config "[verify] needs both source_url and target_url")

end VerifyConfig

/-- All that can be configured. -/
structure Config where
  tools : ToolNames := {}
  runner : RunnerConfig := {}
  state : StateConfig := {}
  verify : VerifyConfig := {}
  /-- Declarations in place of the built-in graph. -/
  domains : Option (List DomainSpec) := none
  deriving DecidableEq

namespace Config

def ofDatum? (conv : Convention) (d : Datum) : Option Config := do
  let f ← d.fields? conv ["tools", "runner", "state", "verify", "domains"]
  return {
    tools := ← f.orElse "tools" {} (ToolNames.ofDatum? conv)
    runner := ← f.orElse "runner" {} (RunnerConfig.ofDatum? conv)
    state := ← f.orElse "state" {} (StateConfig.ofDatum? conv)
    verify := ← f.orElse "verify" {} (VerifyConfig.ofDatum? conv)
    domains := ← f.orElse "domains" none
      (Datum.orNull? (Datum.listOf? (DomainSpec.ofDatum? conv))) }

def graph (c : Config) : Except Error DomainGraph :=
  match c.domains with
  | some specs => (DomainGraph.ofSpecs specs).mapError fun e => .invalidGraph e.message
  | none => .ok .builtin

def parse (text : String) : Except Error Config :=
  match (Toml.read? text).bind (ofDatum? .toml) with
  | none => .error .configSyntax
  | some c =>
    match c.graph with
    | .error e => .error e
    | .ok _ => .ok c

def ofFile (t : FileTree) (cwd : Place) (path : String) : Except Error Config :=
  match t.readText cwd path with
  | .ok text => parse text
  | .error e => .error (.file e.message)

def localFile : String := "dw-migrate.toml"

def userFile (folder : String) : String :=
  Path.join (Path.join folder "dw-migrate") "config.toml"

/-- The user's folder of configuration files: the one named for it, if its path is absolute, or
else the usual one in the home folder. -/
def userFolder (named home : Option String) : Option String :=
  match named.filter Path.isAbsolute with
  | some folder => some folder
  | none => (home.filter (· ≠ "")).map fun h => Path.join h ".config"

/-- The configuration in use: that of the file named, which must be there, or of the first
file found in the usual places, or the standard one. -/
def load (t : FileTree) (cwd : Place) (userFolder : Option String) :
    Option String → Except Error Config
  | some path =>
    if t.contains cwd path then ofFile t cwd path
    else .error (.config s!"config file not found: {path}")
  | none =>
    match ([localFile] ++ userFolder.toList.map userFile).find? (t.isFile cwd) with
    | some path => ofFile t cwd path
    | none => .ok {}

end Config

end Cutover
