import TensorGraph.Command.Flags
import TensorGraph.Report.Schemas
import TensorGraph.Report.Values

/-!
# Command/Run — the command as a function

The command lists schemas, documents an operator and checks a graph file, in this order and as far
as it is asked to; what it has written stays when a later part fails.
-/

namespace TensorGraph.Command

/-- Why the command fails. -/
inductive Failure where
  | flags (cause : FlagFault)
  | arguments (extra : List String)
  | nothingToDo
  | registry (cause : ReductionsFault RegisterFault)
  | documentation (cause : NoDocumentation)
  | check (cause : CheckFault)

namespace Failure

def message : Failure → String
  | flags cause => cause.message
  | arguments extra =>
    "Unexpected arguments " ++ Text.quoteList extra ++ ". See 'onnxschema -help'."
  | nothingToDo => "Nothing to do: use one of -list, -doc or -check. See 'onnxschema -help'."
  | registry cause => standardRegistryMessage cause
  | documentation cause => cause.message
  | check cause => cause.message

def exitCode : Failure → Nat
  | flags cause => cause.exitCode
  | _ => 1

/-- Whether a file holds a text that cannot be read. -/
def isSyntax : Failure → Bool
  | check cause => cause.isSyntax
  | _ => false

end Failure

/-- What the command writes, and why it stops, if it fails. -/
structure Result where
  output : String
  failure? : Option Failure

def Result.exitCode (r : Result) : Nat := (r.failure?.map Failure.exitCode).getD 0

/-- Reading a file by its path. -/
abbrev FileReader := String → Except GraphFile.ReadFault String

/-- The checker that the options ask for. -/
def checker (r : Registry) (o : Options) : Checker :=
  (Checker.withDefaultOpset { lookup := r.schema? } o.opset).withStrict (!o.lax)

/-- The parts that are asked for, in order, each with the text it writes. -/
def parts (r : Registry) (files : FileReader) (o : Options) : List (Except Failure String) :=
  (if o.list then [.ok (Report.schemas r)] else []) ++
  (if o.doc = "" then [] else
    [(r.document o.domain o.doc o.opset).mapError Failure.documentation]) ++
  (if o.check = "" then [] else
    [((checker r o).report o.check (files o.check)).mapError Failure.check])

/-- Writes parts up to the first that fails. -/
def write (written : String) : List (Except Failure String) → Result
  | [] => ⟨written, none⟩
  | .ok text :: rest => write (written ++ text) rest
  | .error e :: _ => ⟨written, some e⟩

/-- Runs the command with options. -/
def runOptions (files : FileReader) (o : Options) : Result :=
  if !o.list && o.doc == "" && o.check == "" then ⟨"", some .nothingToDo⟩
  else match Registry.standard with
    | .error e => ⟨"", some (.registry e)⟩
    | .ok r => write "" (parts r files o)

/-- Runs the command with arguments. -/
def run (files : FileReader) (arguments : List String) : Result :=
  match parseFlags {} arguments with
  | .error e => ⟨"", some (.flags e)⟩
  | .ok (o, []) => runOptions files o
  | .ok (_, extra) => ⟨"", some (.arguments extra)⟩

end TensorGraph.Command
