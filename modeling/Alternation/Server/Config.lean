/-
# Server configuration

`SPEC_FULL` §10.3, Configuration: `ServerConfig` (`default`, `load_from_ron`,
`parse_ron`) and `ConfigError`.

A configuration is a RON record each of whose fields may be left out:

| field | default |
| --- | --- |
| `bind_addr` | `127.0.0.1:3001` |
| `materials_dir` | `materials` |
| `log_filter` | `info,tower_http=debug` |
| `seed` | none |
| `names_file` | none |
-/

import Alternation.Ron.Document
import Alternation.Server.Address
import Alternation.Store.FileSystem
import Alternation.Table

namespace Alternation

/-- Why there is no configuration. -/
inductive ConfigError where
  | io (cause : OsError)
  | malformed (cause : String)
deriving DecidableEq, Repr

/-- The error in words. -/
def ConfigError.message : ConfigError → String
  | io cause => "IO error: " ++ cause.message
  | malformed cause => "RON deserialization error: " ++ cause

/-- What a server is started with. -/
structure ServerConfig where
  /-- The address to listen on. -/
  bindAddress : SocketAddress := ⟨.v4 [127, 0, 0, 1], 3001⟩
  /-- The directory of the materials store. -/
  materialsDir : String := "materials"
  /-- Which messages are logged. -/
  logFilter : String := "info,tower_http=debug"
  /-- The seed of the first request's stream. -/
  seed : Option UInt64 := none
  /-- The file with the name corpus that replaces the built-in one. -/
  namesFile : Option String := none
deriving DecidableEq, Repr

namespace ServerConfig

/-- The record that holds a configuration. -/
def schema : Ron.Schema where
  name := "ServerConfig"
  options := ["seed", "names_file"]

/-- The content of a field, or its default. -/
def fieldOr {α : Type} (fields : List (String × Ron)) (name : String) (default : α)
    (read : Ron → Option α) : Option α := do
  match ← single? fields name with
  | some value => read value
  | none => return default

/-- The configuration that a document writes. -/
def parse? (source : String) : Option ServerConfig := do
  let fields ← schema.read? source
  let base : ServerConfig := {}
  let bindAddress ← fieldOr fields "bind_addr" base.bindAddress fun v =>
    v.string?.bind SocketAddress.parse?
  let materialsDir ← fieldOr fields "materials_dir" base.materialsDir Ron.string?
  let logFilter ← fieldOr fields "log_filter" base.logFilter Ron.string?
  let seed ← fieldOr fields "seed" base.seed fun v =>
    v.option? fun n => (n.naturalBelow? UInt64.size).map UInt64.ofNat
  let namesFile ← fieldOr fields "names_file" base.namesFile fun v =>
    v.option? Ron.string?
  return { bindAddress, materialsDir, logFilter, seed, namesFile }

/-- The configuration that a document writes. -/
def parse [Complaints] (source : String) : Except ConfigError ServerConfig :=
  match parse? source with
  | some config => .ok config
  | none => .error (.malformed (Complaints.config source))

/-- The configuration in a file. -/
def load [Complaints] (files : FileSystem) (path : String) : Except ConfigError ServerConfig :=
  match files.readText path with
  | .ok source => parse source
  | .error cause => .error (.io cause)

end ServerConfig
end Alternation
