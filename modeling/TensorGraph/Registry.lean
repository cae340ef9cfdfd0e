import TensorGraph.Operator.Reduction

/-!
# Registry — schemas by domain, name and version

    operator     schemas, by version
    Sum          Sum-1   Sum-13
    ai::Sum      ai::Sum-7

A registry keeps the schemas of each operator in increasing order of version, so the place of a
version is found by bisection.  Registration stops when the registry is frozen.
-/

namespace TensorGraph

/-- What tells schemas of a registry apart. -/
structure SchemaKey where
  domain : String
  name : String
  since : Int
  deriving DecidableEq, Repr

namespace OpSchema

def key (s : OpSchema) : SchemaKey := ⟨s.domain, s.name, s.since⟩

/-- Whether a schema belongs to an operator. -/
def isFor (s : OpSchema) (domain name : String) : Bool := s.domain == domain && s.name == name

end OpSchema

/-- The order of keys: by domain, then by name, then by version. -/
def SchemaKey.before (a b : SchemaKey) : Bool :=
  if a.domain ≠ b.domain then a.domain < b.domain
  else if a.name ≠ b.name then a.name < b.name
  else a.since < b.since

/-- The schemas of one operator. -/
structure OperatorVersions where
  domain : String
  name : String
  schemas : List OpSchema
  own : ∀ s ∈ schemas, s.isFor domain name = true

/-- Whether an entry is that of an operator. -/
def OperatorVersions.isFor (o : OperatorVersions) (domain name : String) : Bool :=
  o.domain == domain && o.name == name

/-- The operators with their schemas, and whether more may come. -/
structure Registry where
  operators : List OperatorVersions
  frozen : Bool

/-- Why a schema is not registered. -/
inductive RegisterFault where
  | noSchema
  | frozen (schema : String)
  | repeated (schema : String)
  deriving DecidableEq, Repr

def RegisterFault.message : RegisterFault → String
  | noSchema => "cannot register a nil schema"
  | frozen s => "cannot register " ++ s ++ ": registry is frozen"
  | repeated s => "schema " ++ s ++ " is already registered"

/-! ## Finding a version -/

/-- The place from `i` on, and up to `j`, where `below` ends, found by bisection. -/
def bisect (below : Nat → Bool) (i j : Nat) : Nat :=
  if i < j then
    if below ((i + j) / 2) then bisect below ((i + j) / 2 + 1) j
    else bisect below i ((i + j) / 2)
  else i
termination_by j - i

/-- The place of a version among schemas in increasing order of version: where it is, or else where
it belongs. -/
def versionPlace (since : Int) (ss : List OpSchema) : Nat :=
  bisect (fun i => ss[i]?.any (·.since < since)) 0 ss.length

/-- Whether a version is at its place. -/
def hasVersion (since : Int) (ss : List OpSchema) : Bool :=
  ss[versionPlace since ss]?.any (·.since == since)

/-- Puts a schema at the place of its version. -/
def insertVersion (s : OpSchema) (ss : List OpSchema) : List OpSchema :=
  ss.take (versionPlace s.since ss) ++ s :: ss.drop (versionPlace s.since ss)

theorem eq_or_mem_of_mem_insertVersion {s t : OpSchema} {ss : List OpSchema}
    (h : t ∈ insertVersion s ss) : t = s ∨ t ∈ ss := by
  simp only [insertVersion, List.mem_append, List.mem_cons] at h
  obtain h | h | h := h
  · exact .inr (List.mem_of_mem_take h)
  · exact .inl h
  · exact .inr (List.mem_of_mem_drop h)

/-- Sets the entry of an operator. -/
def putEntry (o : OperatorVersions) : List OperatorVersions → List OperatorVersions
  | [] => [o]
  | p :: ps => if p.isFor o.domain o.name then o :: ps else p :: putEntry o ps

/-- Puts a schema at the place of its key. -/
def insertSchema (s : OpSchema) : List OpSchema → List OpSchema
  | [] => [s]
  | t :: ts => if s.key.before t.key then s :: t :: ts else t :: insertSchema s ts

/-- Schemas in the order of their keys. -/
def sortSchemas (ss : List OpSchema) : List OpSchema := ss.foldr insertSchema []

namespace Registry

def empty : Registry := ⟨[], false⟩

/-- The schemas of one operator, in increasing order of version. -/
def versionsOf (r : Registry) (domain name : String) : List OpSchema :=
  (r.operators.find? (·.isFor domain name)).elim [] (·.schemas)

theorem isFor_of_mem_versionsOf {r : Registry} {domain name : String} {s : OpSchema}
    (h : s ∈ r.versionsOf domain name) : s.isFor domain name = true := by
  rw [versionsOf] at h
  cases hfind : r.operators.find? (·.isFor domain name) with
  | none => simp [hfind] at h
  | some o =>
    rw [hfind] at h
    obtain ⟨rfl, rfl⟩ : o.domain = domain ∧ o.name = name := by
      simpa [OperatorVersions.isFor] using List.find?_some hfind
    exact o.own s h

/-- The entry of a schema's operator once the schema is put into it. -/
def entryWith (r : Registry) (s : OpSchema) : OperatorVersions where
  domain := s.domain
  name := s.name
  schemas := insertVersion s (r.versionsOf s.domain s.name)
  own t ht := by
    obtain rfl | ht := eq_or_mem_of_mem_insertVersion ht
    · simp [OpSchema.isFor]
    · exact isFor_of_mem_versionsOf ht

/-- Adds a schema whose version its operator does not have yet. -/
def add (s : OpSchema) : Action RegisterFault Registry Unit := do
  let r ← get
  if r.frozen then throw (.frozen s.text)
  else if hasVersion s.since (r.versionsOf s.domain s.name) then throw (.repeated s.text)
  else set { r with operators := putEntry (r.entryWith s) r.operators }

/-- The registry with one more schema. -/
def register (r : Registry) (s : OpSchema) : Except RegisterFault Registry := (add s).result r

/-- Adds a schema that may be missing. -/
def register? (r : Registry) : Option OpSchema → Except RegisterFault Registry
  | none => .error .noSchema
  | some s => r.register s

def freeze (r : Registry) : Registry := { r with frozen := true }

/-- The schema in effect for an opset: that of the greatest version not above it. -/
def schema? (r : Registry) (domain name : String) (opset : Int) : Option OpSchema :=
  (r.versionsOf domain name).reverse.find? (·.since ≤ opset)

/-- The versions of one operator, in increasing order. -/
def versions (r : Registry) (domain name : String) : List Int :=
  (r.versionsOf domain name).map (·.since)

/-- The schemas of all operators, one operator after another. -/
def gathered (r : Registry) : List OpSchema := r.operators.flatMap (·.schemas)

/-- All schemas in the order of their keys. -/
def schemas (r : Registry) : List OpSchema := sortSchemas r.gathered

/-- The number of schemas, counted operator by operator. -/
def size (r : Registry) : Nat := r.operators.foldr (fun o n => o.schemas.length + n) 0

end Registry

/-- Why registering the reductions stopped. -/
inductive ReductionsFault (ε : Type) where
  | schema (cause : StandardFault)
  | register (op : Operator) (cause : ε)

def ReductionsFault.message {ε : Type} (causeMessage : ε → String) :
    ReductionsFault ε → String
  | schema e => e.message
  | register op e => "while registering reduction operator " ++ op.name ++ ": " ++ causeMessage e

/-- Registers operators in order with `add`, up to the first fault; what was registered before it
stays. -/
def registerOperators {σ ε : Type} (add : σ → OpSchema → Except ε σ) (state : σ) :
    List Operator → σ × Option (ReductionsFault ε)
  | [] => (state, none)
  | op :: ops =>
    match op.schema with
    | .error e => (state, some (.schema e))
    | .ok s =>
      match add state s with
      | .error e => (state, some (.register op e))
      | .ok state' => registerOperators add state' ops

/-- Registers all reductions. -/
def registerReductions {σ ε : Type} (add : σ → OpSchema → Except ε σ) (state : σ) :
    σ × Option (ReductionsFault ε) :=
  registerOperators add state Operator.all

/-- The standard registry: all reductions, frozen. -/
def Registry.standard : Except (ReductionsFault RegisterFault) Registry :=
  match registerReductions Registry.register Registry.empty with
  | (r, none) => .ok r.freeze
  | (_, some e) => .error e

/-- The message of a standard registry that could not be made. -/
def standardRegistryMessage (e : ReductionsFault RegisterFault) : String :=
  "failed to register reduction operators: " ++ e.message RegisterFault.message

end TensorGraph
