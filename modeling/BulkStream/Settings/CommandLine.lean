import BulkStream.Settings.Grammar
import BulkStream.Settings.Numeral
import BulkStream.Settings.Options

/-!
The command line: which command is asked for, and its arguments.
-/
namespace BulkStream.Settings

def require {α : Type} (error : UsageError) : Option α → Except UsageError α
  | some value => .ok value
  | none => .error error

/-- A file name, which must not be empty. -/
def fileName (text : String) : Except UsageError String :=
  if text = "" then .error .invalidValue else .ok text

inductive CaptureArgument
  | device
  | sendFile
  | check
  | simulate
  | packetsPerTransfer
  | transferCount
  | latency
  | waitTimeout
  | simRate
  | simDropEvery
  | file
  | help
deriving DecidableEq, Repr

namespace CaptureArgument

def all : List CaptureArgument :=
  [.device, .sendFile, .check, .simulate, .packetsPerTransfer, .transferCount, .latency,
    .waitTimeout, .simRate, .simDropEvery, .file, .help]

def long : CaptureArgument → Option String
  | .device => "device"
  | .sendFile => "read-file"
  | .check => "check"
  | .simulate => "simulate"
  | .packetsPerTransfer => "packets-per-transfer"
  | .transferCount => "transfer-count"
  | .latency => "latency-ms"
  | .waitTimeout => "wait-timeout-ms"
  | .simRate => "sim-rate"
  | .simDropEvery => "sim-drop-every"
  | .file => none
  | .help => "help"

def short : CaptureArgument → Option Char
  | .device => 'P'
  | .sendFile => 'r'
  | .help => 'h'
  | _ => none

def takesValue : CaptureArgument → Bool
  | .sendFile | .simulate | .help => false
  | _ => true

def environmentName : CaptureArgument → Option String
  | .device => "FIFOCAP_DEVICE"
  | .simulate => "FIFOCAP_SIMULATE"
  | .packetsPerTransfer => "FIFOCAP_PACKETS_PER_TRANSFER"
  | .transferCount => "FIFOCAP_TRANSFER_COUNT"
  | .latency => "FIFOCAP_LATENCY_MS"
  | .waitTimeout => "FIFOCAP_WAIT_TIMEOUT_MS"
  | .simRate => "FIFOCAP_SIM_RATE"
  | .simDropEvery => "FIFOCAP_SIM_DROP_EVERY"
  | .sendFile | .check | .file | .help => none

/-- A flag's value, which only a variable gives. -/
def flag : Option String → Except UsageError Bool
  | none | some "true" => .ok true
  | some "false" => .ok false
  | some _ => .error .invalidValue

def set (argument : CaptureArgument) (value : Option String) (o : CaptureOptions) :
    Except UsageError CaptureOptions := do
  let text := value.getD ""
  match argument with
  | .device => return { o with device := text }
  | .sendFile => return { o with sendFile := ← flag value }
  | .check => return { o with check := ← require .invalidValue (Encoding.ofWord? text) }
  | .simulate => return { o with simulate := ← flag value }
  | .packetsPerTransfer =>
      return { o with packetsPerTransfer := ← require .invalidNumber (word? text) }
  | .transferCount => return { o with transferCount := ← require .invalidNumber (word? text) }
  | .latency => return { o with latencyMilliseconds := ← require .invalidNumber (octet? text) }
  | .waitTimeout =>
      return { o with waitMilliseconds := ← require .invalidNumber ((word? text).filter (0 < ·)) }
  | .simRate => return { o with simRate := ← require .invalidNumber (word? text) }
  | .simDropEvery => return { o with simDropEvery := ← require .invalidNumber (word? text) }
  | .file => return { o with file := ← fileName text }
  | .help => throw .helpWanted

def grammar : Grammar CaptureArgument CaptureOptions where
  arguments := all
  long := long
  short := short
  takesValue := takesValue
  positional := .file
  environmentName := environmentName
  set := set

end CaptureArgument

inductive CheckArgument
  | encoding
  | file
  | help
deriving DecidableEq, Repr

namespace CheckArgument

/-- Options of a check before its file is known. -/
structure Draft where
  encoding : Encoding := .binary
  file : Option String := none
deriving DecidableEq, Repr

def long : CheckArgument → Option String
  | .encoding => "format"
  | .file => none
  | .help => "help"

def short : CheckArgument → Option Char
  | .encoding => 'f'
  | .file => none
  | .help => 'h'

def set (argument : CheckArgument) (value : Option String) (d : Draft) : Except UsageError Draft := do
  let text := value.getD ""
  match argument with
  | .encoding => return { d with encoding := ← require .invalidValue (Encoding.ofWord? text) }
  | .file => return { d with file := ← fileName text }
  | .help => throw .helpWanted

def grammar : Grammar CheckArgument Draft where
  arguments := [.encoding, .file, .help]
  long := long
  short := short
  takesValue argument := argument ≠ .help
  positional := .file
  environmentName _ := none
  set := set

end CheckArgument

/-- Read a capture. A file to read from has to be named. -/
def readCapture (environment : Variables) (words : List String) : Except UsageError CaptureOptions := do
  let o ← CaptureArgument.grammar.read environment words {}
  if o.sendFile && o.file.isNone then throw .missingArgument
  return o

/-- Read a check, which needs a file. -/
def readCheck (environment : Variables) (words : List String) : Except UsageError CheckOptions := do
  let d ← CheckArgument.grammar.read environment words {}
  let file ← require .missingArgument d.file
  return { encoding := d.encoding, file }

inductive Verb
  | capture
  | check
  | help
deriving DecidableEq, Repr

def Verb.ofWord? : String → Option Verb
  | "capture" => some .capture
  | "check" => some .check
  | "help" => some .help
  | _ => none

/-- Help is on the program or on one command. -/
def readHelp : List String → UsageError
  | [] => .helpWanted
  | [word] => if (Verb.ofWord? word).isSome then .helpWanted else .unknownCommand
  | _ => .unknownCommand

def firstWordError (word : String) : UsageError :=
  match longForm? word, shortForm? word with
  | some ("help", none), _ => .helpWanted
  | some ("version", none), _ => .versionWanted
  | some ("help", some _), _ | some ("version", some _), _ => .needlessValue
  | some _, _ => .unknownArgument
  | none, some ('h' :: _) => .helpWanted
  | none, some ('V' :: _) => .versionWanted
  | none, some _ => .unknownArgument
  | none, none => .unknownCommand

/-- Read a command line, without the name of the program. Two dashes ahead of a command keep it from
being one. -/
def readCommand (environment : Variables) : List String → Except UsageError Command
  | [] | ["--"] => .error .nothingAsked
  | "--" :: word :: _ =>
      .error (if (Verb.ofWord? word).isSome then .unknownArgument else .unknownCommand)
  | word :: words =>
      match Verb.ofWord? word with
      | some .capture => return .capture (← readCapture environment words)
      | some .check => return .check (← readCheck environment words)
      | some .help => .error (readHelp words)
      | none => .error (firstWordError word)

end BulkStream.Settings
