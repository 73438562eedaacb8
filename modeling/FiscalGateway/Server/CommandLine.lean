import FiscalGateway.Net.Listener
import FiscalGateway.Server.Health

/-!
# The command line

The options are read from left to right and the first word that settles the matter does: who asks
for help gets it even if what follows makes no sense, but not if what stands in front does not.
-/

namespace FiscalGateway.Server

/-- The options that take a value. -/
inductive Setting where
  | config
  | listen
  deriving DecidableEq, Repr

/-- What a word of the command line says by itself. -/
inductive Word where
  | help
  | version
  /-- An option with its value. -/
  | setting (s : Setting) (value : String)
  /-- An option whose value is the next word. -/
  | awaiting (s : Setting)
  /-- The mark behind which no word is an option. -/
  | endOfOptions
  | plain (text : String)
  | unknown
  deriving DecidableEq, Repr

namespace Word

/-- An option spelt out, and what follows its equals sign if there is one. -/
def ofLong (name : String) (value? : Option String) : Word :=
  match name, value? with
  | "help", none => help
  | "version", none => version
  | "config", some value => setting .config value
  | "config", none => awaiting .config
  | "listen", some value => setting .listen value
  | "listen", none => awaiting .listen
  | _, _ => unknown

/-- What follows the letter of an option: its value, behind an equals sign or not. -/
def ofShortValue (s : Setting) : List Char → Word
  | [] => awaiting s
  | '=' :: value => setting s (String.ofList value)
  | value => setting s (String.ofList value)

/-- Reads a word. -/
def ofText (text : String) : Word :=
  match text.toList with
  | ['-', '-'] => endOfOptions
  | '-' :: '-' :: option =>
    match Text.splitOnce (· == '=') option with
    | some (name, value) => ofLong (String.ofList name) (some (String.ofList value))
    | none => ofLong (String.ofList option) none
  | '-' :: 'h' :: _ => help
  | '-' :: 'V' :: _ => version
  | '-' :: 'c' :: rest => ofShortValue .config rest
  | '-' :: 'l' :: rest => ofShortValue .listen rest
  | '-' :: _ :: _ => unknown
  | _ => plain text

end Word

/-- What the command line tells. -/
structure Arguments where
  config : Option String
  listen : Option Net.ListenAddress
  deriving DecidableEq, Repr

namespace Arguments

/-- Nothing is told. -/
def none : Arguments := ⟨.none, .none⟩

/-- Sets an option that was not set before to a value that makes sense. -/
def set? (a : Arguments) (s : Setting) (value : String) : Option Arguments :=
  match s with
  | .config =>
    if a.config.isSome || value.isEmpty then .none else some { a with config := some value }
  | .listen =>
    if a.listen.isSome then .none
    else (Net.ListenAddress.read? value.toList).map fun address => { a with listen := some address }

/-- The file of the settings. -/
def settingsFile (a : Arguments) : String := a.config.getD "eet-gateway.toml"

end Arguments

/-- What the command line asks for. -/
inductive Invocation where
  | help
  | version
  /-- The words make no sense. -/
  | misuse
  | start (arguments : Arguments)
  deriving DecidableEq, Repr

namespace Invocation

/-- Reads the words that follow on what was told before. -/
def ofWords (a : Arguments) : List Word → Invocation
  | [] | [.endOfOptions] => start a
  | .help :: _ => help
  | .version :: _ => version
  | .setting s value :: rest | .awaiting s :: .plain value :: rest =>
    match a.set? s value with
    | some a => ofWords a rest
    | none => misuse
  | _ => misuse

/-- Reads a command line. -/
def read (words : List String) : Invocation := ofWords .none (words.map Word.ofText)

end Invocation

/-- The line that tells the version. -/
def versionLine : String := program ++ " " ++ version

/-- The text that explains the options. -/
def usage : String := "\n".intercalate [
  "Signing gateway for the Czech EET sales registry",
  "",
  "Usage: " ++ program ++ " [OPTIONS]",
  "",
  "Options:",
  "  -c, --config <CONFIG>  Configuration file [default: " ++ Arguments.none.settingsFile ++ "]",
  "  -l, --listen <LISTEN>  Listen address, overriding server.listen",
  "  -h, --help             Print help",
  "  -V, --version          Print version"]

end FiscalGateway.Server
