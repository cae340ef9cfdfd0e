import TensorGraph.Graph.Check
import TensorGraph.Number.Literal
import TensorGraph.Text.Case
import TensorGraph.Text.Quoted

/-!
# Command/Flags — what the command is asked for

Flags come first and start with one or two dashes.  A switch stands alone or takes its value after
an equals sign; any other flag takes its value after an equals sign or as the next argument.  Flags
end at the first argument that is none, or after two dashes.
-/

namespace TensorGraph.Command

open Number

/-- What the command is asked for. -/
structure Options where
  list : Bool := false
  doc : String := ""
  domain : String := ""
  check : String := ""
  opset : Int := usualOpset
  lax : Bool := false
  deriving DecidableEq, Repr

/-- Why a value is refused. -/
inductive SettingFault where
  | malformed
  | outOfRange
  | level (text : String) (fault : NumeralFault)
  | modules
  | negativeModule
  | location
  | lineNumber
  deriving DecidableEq, Repr

def SettingFault.message : SettingFault → String
  | malformed => "parse error"
  | outOfRange => "value out of range"
  | level text .malformed =>
    "strconv.ParseInt: parsing " ++ Text.quote text ++ ": invalid syntax"
  | level text .outOfRange =>
    "strconv.ParseInt: parsing " ++ Text.quote text ++ ": value out of range"
  | modules => "syntax error: expect comma-separated list of filename=N"
  | negativeModule => "negative value for vmodule level"
  | location => "syntax error: expect file.go:234"
  | lineNumber => "negative or zero value for level"

/-- A truth value. -/
def readSwitch (s : String) : Except SettingFault Bool :=
  if ["1", "t", "T", "TRUE", "true", "True"].contains s then .ok true
  else if ["0", "f", "F", "FALSE", "false", "False"].contains s then .ok false
  else .error .malformed

/-- The fault of a flag's value, for that of its numeral. -/
def ofNumeralFault : NumeralFault → SettingFault
  | .malformed => .malformed
  | .outOfRange => .outOfRange

def readInteger (s : String) : Except SettingFault Int :=
  (integerAnyBase s.toList).mapError ofNumeralFault

def readWordValue (s : String) : Except SettingFault Nat :=
  (wordAnyBase s.toList).mapError ofNumeralFault

/-- A decimal integer of 32 bits. -/
def readLevel (s : String) : Except SettingFault Int :=
  match integerInBase 10 s.toList with
  | .error e => .error (.level s e)
  | .ok i => if i < -twoTo 31 ∨ twoTo 31 ≤ i then .error (.level s .outOfRange) else .ok i

/-- Splits characters at a separator. -/
def splitAt (separator : Char) : List Char → List (List Char)
  | [] => [[]]
  | c :: cs =>
    if c == separator then [] :: splitAt separator cs
    else match splitAt separator cs with
      | [] => [[c]]
      | part :: parts => (c :: part) :: parts

/-- A severity by its name in any case, or by its number. -/
def checkSeverity (s : String) : Except SettingFault Unit :=
  if ["info", "warning", "error", "fatal"].contains (Text.lowercase s) then .ok ()
  else (readLevel s).map fun _ => ()

/-- A level for each of some files, separated by commas. -/
def checkModules (s : String) : Except SettingFault Unit :=
  ((splitAt ',' s.toList).filter (!·.isEmpty)).forM fun part =>
    match splitAt '=' part with
    | [name, level] =>
      if name.isEmpty || level.isEmpty then .error .modules
      else match readLevel (String.ofList level) with
        | .error _ => .error .modules
        | .ok i => if i < 0 then .error .negativeModule else .ok ()
    | _ => .error .modules

/-- A file with an extension and a line of it, or nothing. -/
def checkLocation (s : String) : Except SettingFault Unit :=
  if s = "" then .ok ()
  else match splitAt ':' s.toList with
    | [file, line] =>
      if !file.contains '.' then .error .location
      else match integerInBase 10 line with
        | .error _ => .error .location
        | .ok i => if i ≤ 0 then .error .lineNumber else .ok ()
    | _ => .error .location

/-- A flag: its name, whether it is a switch, and what its value changes. -/
structure Flag where
  name : String
  isSwitch : Bool := false
  set : String → Options → Except SettingFault Options

/-- A switch that changes the options. -/
def switch (name : String) (set : Options → Bool → Options) : Flag :=
  ⟨name, true, fun s o => (readSwitch s).map (set o)⟩

/-- A flag with a text. -/
def textual (name : String) (set : Options → String → Options) : Flag :=
  ⟨name, false, fun s o => .ok (set o s)⟩

/-- A setting of the log, whose value is only checked. -/
def logSetting {α : Type} (name : String) (isSwitch : Bool)
    (check : String → Except SettingFault α) : Flag :=
  ⟨name, isSwitch, fun s o => (check s).map fun _ => o⟩

/-- The flags of the command. -/
def flags : List Flag := [
  switch "list" fun o b => { o with list := b },
  textual "doc" fun o s => { o with doc := s },
  textual "domain" fun o s => { o with domain := s },
  textual "check" fun o s => { o with check := s },
  ⟨"opset", false, fun s o => (readInteger s).map fun i => { o with opset := i }⟩,
  switch "lax" fun o b => { o with lax := b },
  textual "log_dir" fun o _ => o,
  textual "log_file" fun o _ => o,
  logSetting "log_file_max_size" false readWordValue,
  logSetting "logtostderr" true readSwitch,
  logSetting "alsologtostderr" true readSwitch,
  logSetting "v" false readLevel,
  logSetting "add_dir_header" true readSwitch,
  logSetting "skip_headers" true readSwitch,
  logSetting "one_output" true readSwitch,
  logSetting "skip_log_headers" true readSwitch,
  logSetting "stderrthreshold" false checkSeverity,
  logSetting "vmodule" false checkModules,
  logSetting "log_backtrace_at" false checkLocation]

/-- Why the arguments are refused. -/
inductive FlagFault where
  | help
  | badForm (argument : String)
  | unknown (name : String)
  | switchValue (value name : String) (cause : SettingFault)
  | flagValue (value name : String) (cause : SettingFault)
  | noValue (name : String)
  deriving DecidableEq, Repr

def FlagFault.message : FlagFault → String
  | help => "Usage of onnxschema:"
  | badForm argument => "bad flag syntax: " ++ argument
  | unknown name => "flag provided but not defined: -" ++ name
  | switchValue value name cause =>
    "invalid boolean value " ++ Text.quote value ++ " for -" ++ name ++ ": " ++ cause.message
  | flagValue value name cause =>
    "invalid value " ++ Text.quote value ++ " for flag -" ++ name ++ ": " ++ cause.message
  | noValue name => "flag needs an argument: -" ++ name

/-- The exit code for refused arguments: asking for help is no failure. -/
def FlagFault.exitCode : FlagFault → Nat
  | help => 0
  | _ => 2

/-- An argument as the parser of flags sees it. -/
inductive Argument where
  | operand
  | separator
  | malformed
  | flag (name : String) (value? : Option String)

/-- The name of a flag and the value after an equals sign, which is never the first character. -/
def splitFlag : List Char → Argument
  | [] => .malformed
  | c :: cs =>
    if c == '-' || c == '=' then .malformed
    else
      let name := String.ofList (c :: cs.takeWhile (· != '='))
      match cs.dropWhile (· != '=') with
      | [] => .flag name none
      | _ :: value => .flag name (some (String.ofList value))

/-- Classifies an argument. -/
def Argument.of (s : String) : Argument :=
  match s.toList with
  | '-' :: '-' :: [] => .separator
  | '-' :: '-' :: rest => splitFlag rest
  | '-' :: c :: rest => splitFlag (c :: rest)
  | _ => .operand

/-- Sets a flag to a value. -/
def Flag.apply (f : Flag) (value : String) (o : Options) : Except FlagFault Options :=
  (f.set value o).mapError
    (if f.isSwitch then FlagFault.switchValue value f.name else FlagFault.flagValue value f.name)

/-- Reads flags, starting from the options `o`; the answer has the arguments after the flags. -/
def parseFlags (o : Options) : List String → Except FlagFault (Options × List String)
  | [] => .ok (o, [])
  | s :: rest =>
    match Argument.of s with
    | .operand => .ok (o, s :: rest)
    | .separator => .ok (o, rest)
    | .malformed => .error (.badForm s)
    | .flag name value? =>
      match flags.find? (·.name == name) with
      | none => .error (if name = "help" ∨ name = "h" then .help else .unknown name)
      | some f =>
        match value? with
        | some value => do parseFlags (← f.apply value o) rest
        | none =>
          if f.isSwitch then do parseFlags (← f.apply "true" o) rest
          else match rest with
            | [] => .error (.noValue name)
            | value :: rest' => do parseFlags (← f.apply value o) rest'

end TensorGraph.Command
