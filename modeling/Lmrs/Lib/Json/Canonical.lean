import Lmrs.Lib.Dicts
import Lmrs.Lib.Json.RoundTrip

/-!
# Mappings as they are read back

What is written and read is the value in its canonical form. Reading and writing again changes nothing.

* `canonical_canonical`, `writable_canonical`: a canonical form is its own, and can be written.
* `Alike`: mappings with the same entries, whatever the order of members. `Alike.update`: an update keeps that.
* `writable_update`: what an update of a mapping that was read back gives can be written.
-/

namespace Json

open Python

variable {F : FloatText} {d d' e : Dict Value}

/-! ## Canonical forms -/

/-- The members of a mapping as they are read back. -/
theorem canonical_dict (members : List (String × Value)) :
    canonical (.dict members) =
      .dict ((members.insertionSort byKey).map fun kv => (kv.1, canonical kv.2)) := by
  rw [canonical, canonicalMembers_eq_map, insertionSort_map]

/-- What is in order is left by sorting. -/
theorem insertionSort_sorted (members : List (String × Value)) :
    (members.insertionSort byKey).insertionSort byKey = members.insertionSort byKey := by
  have htotal : Std.Total (byKey (α := Value)) := ⟨fun a b => le_total a.1 b.1⟩
  have htrans : IsTrans _ (byKey (α := Value)) := ⟨fun _ _ _ hab hbc => le_trans hab hbc⟩
  exact (List.pairwise_insertionSort byKey members).insertionSort_eq

mutual

/-- **A canonical form is its own.** -/
theorem canonical_canonical : ∀ value, canonical (canonical value) = canonical value
  | .none => rfl
  | .bool _ => rfl
  | .int _ => rfl
  | .float _ => rfl
  | .str _ => rfl
  | .list items => by
      rw [canonical, canonical, canonical_canonicalItems items]
  | .dict members => by
      have hvalues := canonical_canonicalMembers members
      rw [canonical_dict, canonical_dict, insertionSort_map, insertionSort_sorted, List.map_map]
      congr 1
      apply List.map_congr_left
      intro kv hkv
      exact Prod.ext rfl (hvalues kv ((List.mem_insertionSort byKey).mp hkv))

theorem canonical_canonicalItems :
    ∀ items, canonicalItems (canonicalItems items) = canonicalItems items
  | [] => rfl
  | item :: items => by
      rw [canonicalItems, canonicalItems, canonical_canonical item, canonical_canonicalItems items]

theorem canonical_canonicalMembers :
    ∀ members : List (String × Value), ∀ kv ∈ members, canonical (canonical kv.2) = canonical kv.2
  | [] => fun _ hkv => absurd hkv List.not_mem_nil
  | (key, value) :: members => fun kv hkv => by
      rcases List.mem_cons.mp hkv with heq | hmem
      · rw [heq]
        exact canonical_canonical value
      · exact canonical_canonicalMembers members kv hmem

end

/-- The members of a mapping that can be written can be. -/
theorem writableMembers_iff (members : List (String × Value)) :
    WritableMembers F members ↔ ∀ kv ∈ members, Writable F kv.2 := by
  induction members with
  | nil => simp [WritableMembers]
  | cons kv members ih => simp [WritableMembers, ih]

mutual

/-- **A canonical form can be written.** -/
theorem writable_canonical : ∀ value, Writable F value → Writable F (canonical value)
  | .none, h => h
  | .bool _, h => h
  | .int _, h => h
  | .float _, h => h
  | .str _, h => h
  | .list items, h => by
      rw [canonical]
      exact writable_canonicalItems items h
  | .dict members, h => by
      have hvalues := writable_canonicalMembers members h.2
      rw [canonical_dict]
      constructor
      · rw [List.map_map]
        exact (((List.perm_insertionSort byKey members).map Prod.fst).nodup_iff).mpr h.1
      · rw [writableMembers_iff]
        intro kv hkv
        obtain ⟨member, hmember, rfl⟩ := List.mem_map.mp hkv
        exact hvalues member ((List.mem_insertionSort byKey).mp hmember)

theorem writable_canonicalItems : ∀ items, WritableItems F items → WritableItems F (canonicalItems items)
  | [], h => h
  | item :: items, h => ⟨writable_canonical item h.1, writable_canonicalItems items h.2⟩

theorem writable_canonicalMembers :
    ∀ members : List (String × Value), WritableMembers F members → ∀ kv ∈ members, Writable F (canonical kv.2)
  | [], _ => fun _ hkv => absurd hkv List.not_mem_nil
  | (key, value) :: members, h => fun kv hkv => by
      rcases List.mem_cons.mp hkv with heq | hmem
      · rw [heq]
        exact writable_canonical value h.1
      · exact writable_canonicalMembers members h.2 kv hmem

end

/-! ## Mappings with the same entries -/

/-- Two mappings have the same entries, with the members of the mappings in them in any order. -/
def Alike (d e : Dict Value) : Prop := ∀ key, (Dict.get? d key).map canonical = (Dict.get? e key).map canonical

theorem Alike.refl (d : Dict Value) : Alike d d := fun _ => rfl

theorem Alike.trans (h : Alike d d') (h' : Alike d' e) : Alike d e := fun key => (h key).trans (h' key)

/-- A mapping whose entries are those of another as they are read back. -/
theorem Alike.of_read (h : ∀ key, Dict.get? d key = (Dict.get? e key).map canonical) : Alike d e := by
  intro key
  rw [h key, Option.map_map]
  congr 1
  funext value
  exact canonical_canonical value

/-- **An update of mappings with the same entries.** -/
theorem Alike.update (h : Alike d d') (he : Dict.Distinct e) : Alike (Dict.update d e) (Dict.update d' e) := by
  intro key
  rw [he.get?_update, he.get?_update]
  cases Dict.get? e key with
  | some value => rfl
  | none => exact h key

/-! ## Updates of what was read -/

/-- A mapping of JSON values: a key occurs once in it, and it is read back as it is spelled, where it can be
spelled. -/
structure IsJson (F : FloatText) (d : Dict Value) : Prop where
  distinct : Dict.Distinct d
  faithful : printable (.dict d) = true → Writable F (.dict d)

/-- The members of a mapping that can be spelled can be. -/
theorem printableMembers_iff (members : List (String × Value)) :
    printableMembers members = true ↔ ∀ kv ∈ members, printable kv.2 = true := by
  induction members with
  | nil => simp [printableMembers]
  | cons kv members ih => simp [printableMembers, ih]

/-- **An update that can be spelled can be written**, over a mapping that can. -/
theorem writable_update (hd : Writable F (.dict d)) (he : IsJson F e)
    (hprintable : printable (.dict (Dict.update d e)) = true) : Writable F (.dict (Dict.update d e)) := by
  rw [printable, printableMembers_iff] at hprintable
  -- every entry of the update is one of the result, so the update can be spelled itself
  have hupdate : printable (.dict e) = true := by
    rw [printable, printableMembers_iff]
    intro kv hkv
    apply hprintable (kv.1, kv.2)
    apply Dict.mem_of_get?
    rw [he.distinct.get?_update, he.distinct.get?_of_mem hkv]
    rfl
  have hmembers := (writableMembers_iff e).mp (he.faithful hupdate).2
  have hbefore := (writableMembers_iff d).mp hd.2
  refine ⟨Dict.Distinct.update hd.1 e, (writableMembers_iff _).mpr fun kv hkv => ?_⟩
  rcases Dict.mem_update hkv with hnew | hold
  · exact hmembers kv hnew
  · exact hbefore kv hold

end Json
