import TensorGraph.Proofs.Results
import TensorGraph.Yaml.Decode

/-!
# Proofs/Yaml/Decoding — decoding where there are no aliases

    decoder      ──▸  answer, mismatches
    first, then  ──▸  answer of the second, mismatches of both

Decoding carries a scope and its progress along.  Without aliases neither matters: a decoder
**runs** to one answer and one list of mismatches (`Runs`), and two decoders in sequence find the
mismatches of both (`runs_bind`).  A node is **decoded** to a value if there are none (`Decodes`).
A scalar is decoded as its reading is taken, and a sequence item by item (`decodes_list`).
-/

namespace TensorGraph.Yaml

open Decoder

/-- Without aliases, a decoder comes to an answer and finds these mismatches. -/
def Runs {α : Type} (d : Decoder α) (answer : α) (found : List Mismatch) : Prop :=
  ∀ scope p, scope.following = [] → p.aliased = 0 →
    ∃ decoded, d scope p = .ok (answer, ⟨p.mismatches ++ found, decoded, 0⟩)

/-- Without aliases, a decoder comes to a value, or it finds a mismatch. -/
inductive Decodes {α : Type} (d : Decoder (Option α)) : Option α → Prop
  | value {v : α} (h : Runs d (some v) []) : Decodes d (some v)
  | mismatch {v? : Option α} {m : Mismatch} {ms : List Mismatch} (h : Runs d v? (m :: ms)) :
      Decodes d none

section

variable {α β : Type} {d : Decoder α} {a : α} {b : β} {ms ms' : List Mismatch}

theorem runs_pure (a : α) : Runs (pure a) a [] := by
  intro scope p _ haliased
  refine ⟨p.decoded, ?_⟩
  rw [List.append_nil, ← haliased]
  rfl

theorem runs_bind {f : α → Decoder β} (hd : Runs d a ms) (hf : Runs (f a) b ms') :
    Runs (d >>= f) b (ms ++ ms') := by
  intro scope p hfollowing haliased
  obtain ⟨first, hfirst⟩ := hd scope p hfollowing haliased
  obtain ⟨second, hsecond⟩ := hf scope ⟨p.mismatches ++ ms, first, 0⟩ hfollowing rfl
  refine ⟨second, ?_⟩
  have hbind : (d >>= f) scope p = (d scope p >>= fun r => f r.1 scope r.2) := rfl
  rw [hbind, hfirst, ok_bind, hsecond, List.append_assoc]

theorem not_isExcessive {p : Progress} (h : p.aliased = 0) : p.isExcessive = false := by
  simp [Progress.isExcessive, h]

/-- Where nothing lies behind an alias, there is no limit. -/
theorem runs_count : Runs count () [] := by
  intro scope p hfollowing haliased
  refine ⟨p.decoded + 1, ?_⟩
  let next : Progress :=
    { p with decoded := p.decoded + 1, aliased := p.aliased + (!scope.following.isEmpty).toNat }
  have hstep : count scope p
      = (if next.isExcessive then throw .excessiveAliases else pure () : Decoder Unit) scope next :=
    rfl
  have hnext : next = ⟨p.mismatches ++ [], p.decoded + 1, 0⟩ := by
    simp [next, hfollowing, haliased]
  rw [hstep, hnext, if_neg (by simp [not_isExcessive])]
  rfl

theorem runs_report (m : Mismatch) : Runs (report m) () [m] := by
  intro scope p _ haliased
  refine ⟨p.decoded, ?_⟩
  rw [← haliased]
  rfl

theorem runs_follow {n : Node} {k : Node → Decoder α} (hn : n.kind ≠ .reference)
    (hk : Runs (k n) a ms) : Runs (follow n k) a ms := by
  have hfollow : follow n k = (count >>= fun _ => k n) := by
    cases n with
    | reference => exact absurd rfl hn
    | _ => rfl
  rw [hfollow, ← List.nil_append ms]
  exact runs_bind runs_count hk

end

/-! ## Values -/

section

variable {α : Type} {result : Option α} {type : String} {n : Node}

theorem Decodes.follow {k : Node → Decoder (Option α)} (hn : n.kind ≠ .reference)
    (h : Decodes (k n) result) : Decodes (follow n k) result := by
  cases h with
  | value h => exact .value (runs_follow hn h)
  | mismatch h => exact .mismatch (runs_follow hn h)

theorem decodes_refuse (hn : n.kind ≠ .mapping) :
    Decodes (refuse type n : Decoder (Option α)) none := by
  cases n with
  | mapping => exact absurd rfl hn
  | _ => exact .mismatch (runs_bind (runs_report _) (runs_pure none))

variable {s : Scalar} {m : Meaning} {take : Scalar → Meaning → Option α}

theorem takeScalar_scalar :
    takeScalar type take (.scalar s)
      = match s.meaning with
        | .error e => throw e
        | .ok .null => pure none
        | .ok m => match take s m with
          | some a => pure (some a)
          | none => refuse type (.scalar s) := rfl

theorem decodes_takeScalar (hm : s.meaning = .ok m) (hnull : m ≠ .null) :
    Decodes (takeScalar type take (.scalar s)) (take s m) := by
  have htake : takeScalar type take (.scalar s)
      = match take s m with
        | some a => pure (some a)
        | none => refuse type (.scalar s) := by
    rw [takeScalar_scalar, hm]
    cases m with
    | null => exact absurd rfl hnull
    | _ => rfl
  rw [htake]
  cases take s m with
  | some v => exact .value (runs_pure _)
  | none => exact decodes_refuse nofun

/-- **A scalar is decoded as its reading is taken.** -/
theorem decodes_scalar (hm : s.meaning = .ok m) (hnull : m ≠ .null) :
    Decodes (Decoder.scalar type take (.scalar s)) (take s m) :=
  .follow nofun (decodes_takeScalar hm hnull)

theorem decodes_scalar_sequence {line : Nat} {tag? : Option String} {items : List Node} :
    Decodes (Decoder.scalar type take (.sequence line tag? items)) none := by
  have htake : takeScalar type take (.sequence line tag? items)
      = refuse type (.sequence line tag? items) := rfl
  exact .follow nofun (htake ▸ decodes_refuse nofun)

/-! ## Sequences -/

variable {item : Node → Decoder (Option α)} {f : Node → Option α}

theorem decodes_list_scalar (hm : s.meaning = .ok m) (hnull : m ≠ .null) :
    Decodes (Decoder.list type item (.scalar s)) none :=
  .follow nofun (decodes_takeScalar hm hnull)

/-- Decoding the items one after the other finds the mismatches of all of them. -/
theorem runs_mapM : ∀ {items : List Node}, (∀ n ∈ items, Decodes (item n) (f n)) →
    (∃ vs, items.mapM f = some vs ∧ Runs (items.mapM item) (vs.map some) []) ∨
      (items.mapM f = none ∧ ∃ values m ms, Runs (items.mapM item) values (m :: ms))
  | [], _ => .inl ⟨[], rfl, runs_pure []⟩
  | n :: items, h => by
    have hn : Decodes (item n) (f n) := h n List.mem_cons_self
    have hitems := runs_mapM fun n' hn' => h n' (.tail n hn')
    simp only [List.mapM_cons]
    generalize f n = result at hn
    cases hn with
    | @value v hn =>
      rcases hitems with ⟨vs, hvs, hruns⟩ | ⟨hnone, values, m, ms, hruns⟩
      · exact .inl ⟨v :: vs, by simp [hvs], runs_bind hn (runs_bind hruns (runs_pure _))⟩
      · exact .inr ⟨by simp [hnone], _, m, _, runs_bind hn (runs_bind hruns (runs_pure _))⟩
    | mismatch hn =>
      -- the other items are decoded all the same, and what they give is of no use
      rcases hitems with ⟨vs, -, hruns⟩ | ⟨-, values, m, ms, hruns⟩ <;>
        exact .inr ⟨by simp, _, _, _, runs_bind hn (runs_bind hruns (runs_pure _))⟩

/-- **A sequence is decoded item by item.** -/
theorem decodes_list {line : Nat} {tag? : Option String} {items : List Node}
    (h : ∀ n ∈ items, Decodes (item n) (f n)) :
    Decodes (Decoder.list type item (.sequence line tag? items)) (items.mapM f) := by
  refine .follow nofun ?_
  rcases runs_mapM h with ⟨vs, hvs, hruns⟩ | ⟨hnone, values, m, ms, hruns⟩
  · rw [hvs]
    refine .value (runs_bind hruns ?_)
    have hvalues : (vs.map some).filterMap id = vs := by simp
    rw [hvalues]
    exact runs_pure _
  · rw [hnone]
    exact .mismatch (runs_bind hruns (runs_pure _))

/-! ## Nodes on their own -/

theorem decode_of_decodes {decoder : Node → Decoder (Option α)} {v : α}
    (h : Decodes (decoder n) (some v)) : n.decode decoder = .ok (some v) := by
  cases h with
  | value h =>
    obtain ⟨decoded, hrun⟩ := h { document := ⟨n, [], 0⟩ } { decoded := 1 } rfl rfl
    simp [Node.decode, Document.decode, hrun]

theorem exists_decode_eq_error {decoder : Node → Decoder (Option α)}
    (h : Decodes (decoder n) none) : ∃ e, n.decode decoder = .error e := by
  cases h with
  | mismatch h =>
    obtain ⟨decoded, hrun⟩ := h { document := ⟨n, [], 0⟩ } { decoded := 1 } rfl rfl
    simp [Node.decode, Document.decode, hrun]

end

end TensorGraph.Yaml
