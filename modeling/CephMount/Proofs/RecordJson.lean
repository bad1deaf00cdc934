import CephMount.Record
import CephMount.Proofs.JsonReading

/-!
Records survive their JSON form when each observed option list is already a sorted set
(`UnitRecord.ofJson_pretty`).
-/
namespace CephMount

open Json Decoder

theorem LastAction.reads_name (a : LastAction) :
    Reads (variant LastAction.named) (quoteString a.name).toList a := by
  intro ws rest hws _
  rw [quoteString_toList]
  unfold variant
  rw [bind_of_ok (peekToken_blanks hws rfl _)]
  simp only
  rw [bind_of_ok (rfl : advance ('"' :: (a.name.toList.flatMap escapeChar ++ '"' :: rest)) =
    .ok ((), a.name.toList.flatMap escapeChar ++ '"' :: rest))]
  simp only [List.tail_cons]
  rw [bind_of_ok (stringBody_quoted _ _)]
  cases a <;> rfl

namespace Observation

theorem entries_read (level : Nat) (o : Observation) :
    EntriesRead entry level ([], none, none, Observation.unmounted "")
      [("mountpoint", .str o.mountpoint), ("mounted", .bool o.mounted), ("source", .str o.source),
        ("fstype", .str o.fstype), ("options", Value.ofStrings o.options)]
      (["options", "fstype", "source", "mounted", "mountpoint"], some o.mountpoint, some o.mounted,
        { source := o.source, fstype := o.fstype, options := toSet o.options, mountpoint := "",
          mounted := false }) := by
  -- each key is known and not seen before, so its entry reads the colon and then its value
  refine ⟨(["mountpoint"], some o.mountpoint, none, Observation.unmounted ""),
    fun rest hrest => ?_, (["mounted", "mountpoint"], some o.mountpoint, some o.mounted,
      Observation.unmounted ""), fun rest hrest => ?_,
    (["source", "mounted", "mountpoint"], some o.mountpoint, some o.mounted,
      { Observation.unmounted "" with source := o.source }), fun rest hrest => ?_,
    (["fstype", "source", "mounted", "mountpoint"], some o.mountpoint, some o.mounted,
      { Observation.unmounted "" with source := o.source, fstype := o.fstype }), fun rest hrest => ?_,
    _, fun rest hrest => ?_, rfl⟩ <;>
  simp only [Observation.entry, List.contains_cons, List.contains_nil, String.reduceBEq,
    Bool.or_false, Bool.or_true, Bool.false_eq_true, ↓reduceIte, String.reduceEq] <;>
  rw [bind_of_ok (colon_entry _ _)]
  · rw [bind_of_ok ((reads_str level o.mountpoint).after_space hrest)]
    rfl
  · rw [bind_of_ok ((reads_bool level o.mounted).after_space hrest)]
    rfl
  · rw [bind_of_ok ((reads_str level o.source).after_space hrest)]
    rfl
  · rw [bind_of_ok ((reads_str level o.fstype).after_space hrest)]
    rfl
  · rw [bind_of_ok ((reads_strings level o.options).after_space hrest)]
    rfl

theorem reads_toJson (level : Nat) {o : Observation} (hset : toSet o.options = o.options) :
    Reads Observation.decoder (Value.prettyAt level o.toJson).toList o := by
  unfold Observation.decoder Observation.toJson
  dsimp only
  refine reads_record (List.cons_ne_nil _ _) (entries_read (level + 1) o) ?_
  intro cs
  rw [hset]
  rfl

theorem reads_observed (level : Nat) {x : Option Observation} {v : Value}
    (hsome : ∀ o, x = some o → toSet o.options = o.options ∧ v = o.toJson)
    (hnone : x = none → v = .null) :
    Reads (option decoder) (Value.prettyAt level v).toList x := by
  cases x with
  | none =>
    rw [hnone rfl]
    exact reads_option_none _
  | some o =>
    obtain ⟨hset, rfl⟩ := hsome o rfl
    have hstart : (Value.prettyAt level o.toJson).toList.head? = some '{' := by
      simp [toJson, Value.prettyAt]
    exact (reads_toJson level hset).option hstart rfl (by decide)

end Observation

namespace UnitRecord

theorem entry_field {keys : List String} {q : UnitRecord} {k : String}
    (hk : fieldNames.contains k = true) (hfresh : keys.contains k = false) {text : String}
    {f : UnitRecord → UnitRecord} (hset : Reads (setter k) text.toList f) :
    ∀ rest, Follows rest → entry (keys, q) k ((": " ++ text).toList ++ rest) = .ok ((k :: keys, f q), rest) := by
  intro rest hrest
  simp only [entry, hk, hfresh, ↓reduceIte, Bool.false_eq_true]
  rw [bind_of_ok (colon_entry _ _)]
  unfold step
  rw [bind_of_ok (map_of_ok _ (hset.after_space hrest))]
  rfl

theorem entries_read (level : Nat) (r : UnitRecord) {v : Value}
    (hobserved : Reads (option Observation.decoder) (Value.prettyAt level v).toList r.observed) :
    EntriesRead entry level ([], empty "")
      [("unit_id", .str r.unitId), ("mountpoint", Value.ofOption r.mountpoint),
        ("desired_spec_hash", Value.ofOption r.specHash), ("observed", v), ("state", .str r.state),
        ("last_action", .str r.lastAction.name), ("last_error", Value.ofOption r.lastError),
        ("generation", Value.ofNat r.generation.toNat)] (fieldNames.reverse, r) := by
  have hgen : r.generation.toNat ≤ maxU64 := by
    have hlt := r.generation.toNat_lt
    rw [show maxU64 = 2 ^ 64 - 1 from rfl]
    omega
  have hrec : { r with generation := UInt64.ofNat r.generation.toNat } = r := by
    rw [UInt64.ofNat_toNat]
  exact ⟨_, entry_field (by decide) (by decide)
      (by simp only [setter, ↓reduceIte]; exact (reads_str level r.unitId).map _),
    _, entry_field (by decide) (by decide)
      (by simp only [setter, String.reduceEq, ↓reduceIte]; exact (reads_ofOption level r.mountpoint).map _),
    _, entry_field (by decide) (by decide)
      (by simp only [setter, String.reduceEq, ↓reduceIte]; exact (reads_ofOption level r.specHash).map _),
    _, entry_field (by decide) (by decide)
      (by simp only [setter, String.reduceEq, ↓reduceIte]; exact hobserved.map _),
    _, entry_field (by decide) (by decide)
      (by simp only [setter, String.reduceEq, ↓reduceIte]; exact (reads_str level r.state).map _),
    _, entry_field (by decide) (by decide)
      (by simp only [setter, String.reduceEq, ↓reduceIte]; exact (LastAction.reads_name r.lastAction).map _),
    _, entry_field (by decide) (by decide)
      (by simp only [setter, String.reduceEq, ↓reduceIte]; exact (reads_ofOption level r.lastError).map _),
    _, entry_field (by decide) (by decide)
      (by simp only [setter, String.reduceEq, ↓reduceIte]; exact (reads_ofNat level hgen).map _),
    congrArg (Prod.mk fieldNames.reverse) hrec⟩

theorem complete_fields (r : UnitRecord) (cs : List Char) :
    complete (fieldNames.reverse, r) cs = .ok (r, cs) := by
  have hkeys : (fieldNames.reverse.contains "unit_id" && fieldNames.reverse.contains "generation") = true := by
    decide
  simp only [complete, hkeys, if_true]
  rfl

/-- A record whose observed options form a set reads back from its printed object, at any
depth. -/
theorem reads_toJson (level : Nat) {r : UnitRecord}
    (hobs : ∀ o, r.observed = some o → toSet o.options = o.options) :
    Reads decoder (Value.prettyAt level r.toJson).toList r := by
  unfold decoder toJson
  refine reads_record (List.cons_ne_nil _ _) (entries_read (level + 1) r ?_) (complete_fields r)
  exact Observation.reads_observed (level + 1) (fun o h => ⟨hobs o h, by simp [h]⟩) (fun h => by simp [h])

theorem ofJson_pretty {r : UnitRecord}
    (hobs : ∀ o, r.observed = some o → toSet o.options = o.options) :
    ofJson r.toJson.pretty = .ok r := by
  have hread := reads_toJson 0 hobs [] [] Blanks.nil (by simp [Follows])
  rw [List.nil_append, List.append_nil] at hread
  show (fun p => p.1) <$> (decoder >>= fun x => finish >>= fun _ => pure x) (Value.prettyAt 0 r.toJson).toList = _
  rw [bind_of_ok hread]
  rfl

end UnitRecord

end CephMount
