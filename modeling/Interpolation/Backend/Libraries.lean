import Interpolation.Backend.Directory
import Interpolation.Backend.DotEnv
import Interpolation.Backend.LogFilter
import Interpolation.Backend.Reader
import Interpolation.Backend.Variables
import Interpolation.Backend.Json.Document
import Interpolation.Backend.Toml.Document
import Interpolation.Program

/-!
Libraries to run the program with. They look for TOML and JSON files in a directory.
-/
namespace Interpolation

inductive FileFormat
  | toml
  | json
  deriving DecidableEq, Repr

namespace FileFormat

def ending : FileFormat → String
  | toml => ".toml"
  | json => ".json"

def all : List FileFormat := [.toml, .json]

def parse (format : FileFormat) (content : String) :
    Except (Abort Backend.Fault) (Entries Value) :=
  let entries := match format with
    | toml => Toml.document? content.toList
    | json => Json.document? content.toList
  entries.elim (.error (.error .malformed)) .ok

end FileFormat

namespace Directory

def formatOf? (path : String) : Option FileFormat :=
  FileFormat.all.find? fun format =>
    let name := ((namesOf path).getLast?).getD []
    format.ending.toList.isSuffixOf name && format.ending.length < name.length

/-- A path without what it ends in to no effect. -/
def trimPath (path : String) : String :=
  let kept := (Text.pieces '/' path.toList).reverse.dropWhile fun name => name = [] || name = ['.']
  String.ofList (['/'].intercalate kept.reverse)

/-- The files that may hold the configuration of a name: the one of this very name, and those with
the ending of a format. -/
def candidates (name : String) : List String :=
  let path := trimPath name
  let withEnding :=
    if (namesOf path).getLast? = some ['.', '.'] then []
    else FileFormat.all.map fun format => path ++ format.ending
  (if path = name then [name] else []) ++ withEnding

/-- The configuration of a name, without entries where there is no file or none that is text. A file
of this very name goes before all others, but holds nothing unless the name shows its format. -/
def configuration (d : Directory) (name : String) :
    Except (Abort Backend.Fault) (Entries Value) :=
  match (candidates name).findSome? fun path => (d.read? path).map (path, ·) with
  | some (path, .unicode content) => (formatOf? path).elim (.ok []) (·.parse content)
  | _ => .ok []

def variablesFile : String := ".env"

/-- The whole lines of text that bytes begin with. -/
def leadingLines (bytes : ByteArray) : String :=
  let ends := (List.range bytes.size).reverse.filter fun index => bytes[index]? = some 10
  (ends.findSome? fun index => String.fromUTF8? (bytes.extract 0 (index + 1))).getD ""

def environment? (d : Directory) (given : Environment) : Option Environment :=
  match d.read? variablesFile with
  | none => some given
  | some (.unicode content) => DotEnv.loadFile? given content.toList
  | some (.other bytes _) => DotEnv.loadFile? given (leadingLines bytes).toList

end Directory

namespace Backend

def settingsLibrary : SettingsLibrary Directory where
  Error := Fault
  describe := Fault.message
  loadVariables := Directory.environment?
  file := Directory.configuration
  document := FileFormat.toml.parse
  ofEnvironment environment :=
    environment.texts?.elim (.error .panic) fun texts => .ok (Environment.entriesOf texts)
  build defaults sources :=
    .ok ((defaults :: sources).foldl (fun base source => Value.laySource source base) (.table []))
  path := Step.ofKey
  set steps value base := Value.layAt value steps base
  ofVariable := Value.ofVariable
  reader := reader

/-- Filters are kept as their directives. Nothing is logged. -/
def filterLibrary : FilterLibrary where
  Filter := String
  parse directives := (LogFilter.check directives).map fun _ => directives
  ofEnvironment environment :=
    match environment.var? FilterLibrary.variableName with
    | none => .error (.error "environment variable not found")
    | some directives => (LogFilter.check directives).map fun _ => directives
  install _ _ := .ok ()

def libraries : Libraries := ⟨Directory, settingsLibrary, filterLibrary⟩

end Backend

end Interpolation
