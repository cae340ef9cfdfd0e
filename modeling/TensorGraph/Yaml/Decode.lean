import TensorGraph.Number.Single
import TensorGraph.Text.Quoted
import TensorGraph.Yaml.Node

/-!
# Yaml/Decode — nodes as values of a given type

Decoding goes on after a mismatch, so that all mismatches of a document are reported together; it
stops at a scalar that its own tag refuses, and where nearly all of the work lies behind aliases.  A
null gives no value and is no mismatch.

A record is read from a mapping.  The mapping under a `<<` key, or each mapping of a list there,
gives the fields that the record's own mapping does not name.
-/

namespace TensorGraph.Yaml

open Number

/-- A place where the document differs from the type asked for. -/
inductive Mismatch where
  | value (line : Nat) (tag text type : String)
  | unknownField (line : Nat) (field type : String)
  | repeatedField (line : Nat) (field type : String)
  | repeatedKey (line : Nat) (key : String) (first : Nat)
  deriving DecidableEq, Repr

/-- A text in a report: at most ten octets are shown whole, and seven of a longer one. -/
def excerpt (text : String) : String :=
  if 10 < text.utf8ByteSize then String.ofList (Text.firstOctets 7 text.toList) ++ "..." else text

def Mismatch.message : Mismatch → String
  | value line tag text type =>
    let shown :=
      if tag = "!!seq" ∨ tag = "!!map" then text else " \x60" ++ excerpt text ++ "\x60"
    "line " ++ toString line ++ ": cannot unmarshal " ++ tag ++ shown ++ " into " ++ type
  | unknownField line field type =>
    "line " ++ toString line ++ ": field " ++ field ++ " not found in type " ++ type
  | repeatedField line field type =>
    "line " ++ toString line ++ ": field " ++ field ++ " already set in type " ++ type
  | repeatedKey line key first =>
    "line " ++ toString line ++ ": mapping key " ++ Text.quote key ++ " already defined at line " ++
      toString first

/-- Why a node is not decoded. -/
inductive DecodeFault where
  | unreadable (cause : Unreadable)
  | mismatches (all : List Mismatch)
  deriving DecidableEq, Repr

def DecodeFault.message : DecodeFault → String
  | unreadable cause => cause.message
  | mismatches all =>
    "yaml: unmarshal errors:\n  " ++ "\n  ".intercalate (all.map Mismatch.message)

/-- What decoding knows: the document and the aliases it is following. -/
structure Scope where
  document : Document
  following : List Nat := []

/-- How far decoding has come: the mismatches found, the number of nodes decoded, and the number of
those that lie behind an alias.  A node counts each time it is reached. -/
structure Progress where
  mismatches : List Mismatch := []
  decoded : Nat := 0
  aliased : Nat := 0

/-- How many of `aliasUnit` decoded nodes may lie behind aliases: 99 of a hundred in a small
document, sinking to 10 of a hundred as the number of decoded nodes goes from 400000 to 4000000. -/
def aliasShare (decoded : Nat) : Nat :=
  if decoded ≤ 400000 then 99 * 3600000
  else if 4000000 ≤ decoded then 10 * 3600000
  else 99 * 3600000 - 89 * (decoded - 400000)

/-- The unit of `aliasShare`. -/
def aliasUnit : Nat := 100 * 3600000

/-- Whether too much lies behind aliases.  The first hundred such nodes are free, and so is
everything among the first thousand nodes. -/
def Progress.isExcessive (p : Progress) : Bool :=
  100 < p.aliased && 1000 < p.decoded && aliasShare p.decoded * p.decoded < p.aliased * aliasUnit

/-- Decoding within a scope. -/
abbrev Decoder := ReaderT Scope (StateT Progress (Except Unreadable))

namespace Decoder

/-- Notes a mismatch. -/
def report (m : Mismatch) : Decoder Unit :=
  modify fun p => { p with mismatches := p.mismatches ++ [m] }

/-- Counts a node. -/
def count : Decoder Unit := do
  let behindAlias := !(← read).following.isEmpty
  modify fun p =>
    { p with decoded := p.decoded + 1, aliased := p.aliased + behindAlias.toNat }
  if (← get).isExcessive then throw .excessiveAliases

/-- Decodes the node behind an alias, or the node itself.  An alias counts as well as what it stands
for. -/
def follow {α : Type} (n : Node) (k : Node → Decoder α) : Decoder α := do
  count
  match n with
  | .reference _ anchor target _ number =>
    let scope ← read
    if scope.following.contains number then throw (.cyclic anchor)
    match scope.document.target? target with
    | none => throw (.cyclic anchor)
    | some behind =>
      withReader (fun scope => { scope with following := number :: scope.following }) do
        count
        k behind
  | n => k n

/-- The keys of a mapping that repeat an earlier one: each such pair. -/
def repeatedKeys : List (Node × Node) → List Mismatch
  | [] => []
  | (key, _) :: rest =>
    (rest.filterMap fun (other, _) =>
      if key.kind = other.kind ∧ key.text = other.text then
        some (Mismatch.repeatedKey other.line other.text key.line)
      else none) ++ repeatedKeys rest

/-- Reports a node that is not of the type asked for.  A mapping with repeated keys is reported for
those. -/
def refuse {α : Type} (type : String) (n : Node) : Decoder (Option α) := do
  let repeated := match n with
    | .mapping _ _ entries => repeatedKeys entries
    | _ => []
  if repeated.isEmpty then report (.value n.line n.tag n.text type)
  else repeated.forM report
  return none

/-- The value of a scalar that `take` accepts. -/
def takeScalar {α : Type} (type : String) (take : Scalar → Meaning → Option α) (n : Node) :
    Decoder (Option α) := do
  match n with
  | .scalar s =>
    match s.meaning with
    | .error e => throw e
    | .ok .null => return none
    | .ok m =>
      match take s m with
      | some a => return some a
      | none => refuse type n
  | n => refuse type n

/-- Decodes a scalar that `take` accepts. -/
def scalar {α : Type} (type : String) (take : Scalar → Meaning → Option α) (n : Node) :
    Decoder (Option α) :=
  follow n (takeScalar type take)

/-- What becomes of a node in the place of a collection: a null gives nothing, all else is a
mismatch. -/
def noScalar {α : Type} (type : String) (n : Node) : Decoder (Option α) :=
  takeScalar type (fun _ _ => none) n

/-- Any scalar is a text, as it is written; binary data are the text they hold. -/
def takeText (s : Scalar) (m : Meaning) : Option String :=
  match s.tag?, m with
  | some "!!binary", .text decoded => some decoded
  | _, _ => some s.text

/-- The integers of 64 bits.  A floating-point number loses its fraction; one too far below zero,
and the number just above the range, wrap to the least integer. -/
def takeInt (_ : Scalar) : Meaning → Option Int64
  | .int i => if i < twoTo 63 then some (Int64.ofInt i) else none
  | .float (.finite negative m e) =>
    let i := truncated negative m e
    if twoTo 63 < i then none
    else if i < -twoTo 63 ∨ i = twoTo 63 then some (Int64.ofInt (-twoTo 63))
    else some (Int64.ofInt i)
  | .float (.infinite true) => some (Int64.ofInt (-twoTo 63))
  | _ => none

/-- The numbers of 32 bits, rounded from 64. -/
def takeSingle (_ : Scalar) : Meaning → Option Single
  | .int i => some (Single.ofBinary (BinaryFormat.double.ofInt i))
  | .float x => some (Single.ofBinary x)
  | _ => none

def text : Node → Decoder (Option String) := scalar "string" takeText

def int (type : String) : Node → Decoder (Option Int64) := scalar type takeInt

/-- Decodes a sequence, leaving out the items that give no value. -/
def list {α : Type} (type : String) (item : Node → Decoder (Option α)) (n : Node) :
    Decoder (Option (List α)) :=
  follow n fun n => do
    match n with
    | .sequence _ _ items =>
      let values ← items.mapM item
      return some (values.filterMap id)
    | n => noScalar type n

/-! ## Records -/

/-- A field of a record: its name, and the change that a node makes. -/
structure Field (ρ : Type) where
  name : String
  read : Node → Decoder (ρ → ρ)

/-- A field that keeps its value where the node gives none. -/
def Field.of {ρ α : Type} (name : String) (decode : Node → Decoder (Option α))
    (set : ρ → α → ρ) : Field ρ :=
  ⟨name, fun n => do
    match ← decode n with
    | some a => return fun r => set r a
    | none => return id⟩

/-- A field that keeps the node itself. -/
def Field.raw {ρ : Type} (name : String) (set : ρ → Node → ρ) : Field ρ :=
  ⟨name, fun n => do
    count
    return fun r => set r n⟩

/-- A record while it is filled: the fields that the current mapping has set, and, in a merge, the
names it leaves alone. -/
structure Filling (ρ : Type) where
  record : ρ
  done : List String
  taken? : Option (List String)

/-- Fills in one entry of a mapping. -/
def fillEntry {ρ : Type} (type : String) (fields : List (Field ρ)) (f : Filling ρ)
    (entry : Node × Node) : Decoder (Filling ρ) := do
  let (key, value) := entry
  match ← text key with
  | none => return f
  | some name =>
    if f.taken?.any (·.contains name) then return f
    let f := { f with taken? := f.taken?.map (name :: ·) }
    match fields.find? (·.name == name) with
    | none =>
      report (.unknownField key.line name type)
      return f
    | some field =>
      if f.done.contains name then
        report (.repeatedField key.line name type)
        return f
      let change ← field.read value
      return { f with record := change f.record, done := name :: f.done }

/-- The name that a key takes from a merge: its text, unless it reads as something else. -/
def ownName (key : Node) : Decoder (Option String) :=
  follow key fun n => do
    match n with
    | .scalar s =>
      match s.meaning with
      | .error e => throw e
      | .ok (.text name) => return some name
      | .ok _ => return none
    | _ => return none

/-- The mappings that the node under a merge key gives. -/
def mergeSources : Node → List Node
  | .sequence _ _ items => items
  | n => [n]

/-- Fills a record from the entries of a mapping and from the mappings merged into it; `depth`
bounds the chain of merges. -/
def fill {ρ : Type} (type : String) (fields : List (Field ρ)) :
    Nat → Option (List String) → ρ → List (Node × Node) → Decoder (Filling ρ)
  | 0, _, _, _ => throw (.cyclic "")
  | depth + 1, taken?, record, entries => do
    let repeated := repeatedKeys entries
    if !repeated.isEmpty then
      repeated.forM report
      return ⟨record, [], taken?⟩
    let own := entries.filter (!·.1.isMerge)
    let filled ← own.foldlM (fillEntry type fields) ⟨record, [], taken?⟩
    match entries.find? (·.1.isMerge) with
    | none => return filled
    | some (_, merged) =>
      let taken ← match filled.taken? with
        | some names => pure names
        | none => do
          let names ← entries.mapM fun (key, _) => ownName key
          pure (names.filterMap id)
      (mergeSources merged).foldlM (fun f source =>
        follow source fun
          | .mapping _ _ more => fill type fields depth f.taken? f.record more
          | _ => throw .mergeValue) { filled with taken? := some taken }

/-- Decodes a mapping as a record, starting from `empty`. -/
def record {ρ : Type} (type : String) (fields : List (Field ρ)) (empty : ρ) (n : Node) :
    Decoder (Option ρ) :=
  follow n fun n => do
    match n with
    | .mapping _ _ entries =>
      let bound := (← read).document.bound
      let filled ← fill type fields (bound + 1) none empty entries
      return some filled.record
    | n => noScalar type n

end Decoder

/-- The outcome of decoding a node in a document; none where the node is null.  The document itself
counts as a node. -/
def Document.decode {α : Type} (d : Document) (decoder : Node → Decoder (Option α)) (n : Node) :
    Except DecodeFault (Option α) :=
  match decoder n { document := d } { decoded := 1 } with
  | .error e => .error (.unreadable e)
  | .ok (value?, progress) =>
    match progress.mismatches with
    | [] => .ok value?
    | all => .error (.mismatches all)

/-- The outcome of decoding a node on its own. -/
def Node.decode {α : Type} (decoder : Node → Decoder (Option α)) (n : Node) :
    Except DecodeFault (Option α) :=
  Document.decode ⟨n, [], 0⟩ decoder n

end TensorGraph.Yaml
