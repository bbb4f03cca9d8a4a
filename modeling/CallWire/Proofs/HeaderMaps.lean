import CallWire.Proofs.Layouts
import CallWire.Proofs.Merging
import Mathlib.Data.List.Nodup

/-!
# Header maps are folds of insertion

Inserting pairs one after another gives a map that has each key once, in the place where it first
came, with the value that it was given last. Whether the pairs are inserted before they are written
or as they are read makes no difference (`Headers.ofList_folds`).

* `Headers.mem_entries_iff`: where no key is repeated, the entries are what looking keys up gives;
* `runAt_writeAt`: what is written is read back where it was written, whatever is around it.
-/

namespace CallWire

/-- What is written is read back where it was written, whatever was there and whatever follows. -/
theorem runAt_writeAt {α : Type} {r : Reader α} {segments : List Segment} {a : α} {n : Nat}
    (undoes : ∀ rest, Undoes r segments rest a) (spells : Spells segments n) {buf : Bytes}
    {offset : Nat} (room : offset + n ≤ buf.length) :
    ∃ out, writeAt segments buf offset = (out, .ok (offset + n)) ∧
      r.runAt out offset = .ok (offset + n, a) := by
  obtain ⟨bs, spelled, rfl⟩ := spells
  have inside : offset ≤ buf.length := by omega
  have front : (buf.take offset).length = offset := List.length_take_of_le inside
  refine ⟨_, (writeAt_eq_ok_iff inside).mpr ⟨bs, spelled, room, rfl, rfl⟩, ?_⟩
  apply runAt_of_undoes (undoes (buf.drop (offset + bs.length))) spelled
  · rw [List.append_assoc, List.length_append, front]
    exact Nat.le_add_right _ _
  · rw [List.append_assoc, List.drop_left' front]

namespace Headers

variable {h : Headers} {w : Width} {pairs : List (String × String)} {key value : String}

/-- The pair with the key and this value comes after all other pairs with the key. -/
def LastGiven (pairs : List (String × String)) (key value : String) : Prop :=
  ∃ before after, pairs = before ++ (key, value) :: after ∧ key ∉ after.map (·.1)

theorem lastValue?_eq_some_iff : lastValue? pairs key = some value ↔ LastGiven pairs key value := by
  rw [lastValue?, Option.map_eq_some_iff]
  constructor
  · rintro ⟨⟨k, v⟩, found, rfl⟩
    obtain ⟨same, after, before, split, others⟩ := List.find?_eq_some_iff_append.mp found
    simp only [decide_eq_true_eq] at same
    subst same
    refine ⟨before.reverse, after.reverse, ?_, ?_⟩
    · rw [List.reverse_eq_iff.mp split]
      simp
    · intro mem
      rw [List.map_reverse, List.mem_reverse] at mem
      obtain ⟨e, here, equal⟩ := List.mem_map.mp mem
      simpa [equal] using others e here
  · rintro ⟨before, after, rfl, others⟩
    refine ⟨(key, value), ?_, rfl⟩
    rw [List.find?_eq_some_iff_append]
    refine ⟨by simp, after.reverse, before.reverse, by simp, ?_⟩
    intro e here
    have other : e.1 ≠ key := by
      rintro rfl
      exact others (List.mem_map_of_mem (List.mem_reverse.mp here))
    simpa using other

theorem lastValue?_eq_none_iff : lastValue? pairs key = none ↔ key ∉ pairs.map (·.1) := by
  rw [lastValue?, Option.map_eq_none_iff, List.find?_eq_none]
  constructor
  · intro absent mem
    obtain ⟨e, here, same⟩ := List.mem_map.mp mem
    exact absent e (List.mem_reverse.mpr here) (by simpa using same)
  · intro absent e here same
    have known : e.1 = key := by simpa using same
    exact absent (known ▸ List.mem_map_of_mem (List.mem_reverse.mp here))

/-- Where no key is repeated, the entries are what looking keys up gives. -/
theorem mem_entries_iff (nodup : h.keys.Nodup) :
    (key, value) ∈ h.entries ↔ h.get? key = some value := by
  rw [get?, Option.map_eq_some_iff]
  constructor
  · intro mem
    have found : (h.entries.find? (·.1 = key)).isSome := by
      rw [List.find?_isSome]
      exact ⟨_, mem, by simp⟩
    obtain ⟨e, found⟩ := Option.isSome_iff_exists.mp found
    have same : e.1 = key := by simpa using List.find?_some found
    have here := List.inj_on_of_nodup_map nodup (List.mem_of_find?_eq_some found) mem same
    exact ⟨e, found, by rw [here]⟩
  · rintro ⟨e, found, rfl⟩
    have same : e.1 = key := by simpa using List.find?_some found
    rw [← same]
    exact List.mem_of_find?_eq_some found

/-- Pairs are read as what inserting them in order gives. -/
theorem undoes_pairs (few : pairs.length ≤ w.limit) (rest : Bytes) :
    Undoes (read w) (.count w pairs.length :: entrySegments w pairs) rest (ofList pairs) := by
  rw [← collect_eq_ofList]
  apply Undoes.cons (undoes_count few)
  exact (undoes_readPairs w pairs rest).bind_pure

theorem spells_pairs (fits : ∀ e ∈ pairs, Fits w e) :
    Spells (.count w pairs.length :: entrySegments w pairs) (w.bytes + room w pairs) :=
  Spells.cons_iff.mpr
    ⟨_, _, .number w.bytes pairs.length, entries_spells_iff.mpr ⟨fits, rfl⟩, rfl⟩

/-- Written into any buffer that has room for them, the segments take `n` bytes, and the map is read
from where they stand. -/
def ReadsBack (w : Width) (segments : List Segment) (n : Nat) (h : Headers) : Prop :=
  ∀ buf offset, offset + n ≤ buf.length →
    ∃ out, writeAt segments buf offset = (out, .ok (offset + n)) ∧
      (read w).runAt out offset = .ok (offset + n, h)

/-- What inserting the pairs in order gives, and what becomes of it on the wire. -/
structure Folds (pairs : List (String × String)) (h : Headers) : Prop where
  distinct : h.keys.Nodup
  /-- The keys stand in the order in which they first came. -/
  order : h.keys = (pairs.map (·.1)).eraseDups
  /-- Each key has the value that it was given last. -/
  entries : ∀ key value, (key, value) ∈ h.entries ↔ LastGiven pairs key value
  get : ∀ key value, h.get? key = some value ↔ LastGiven pairs key value
  absent : ∀ key, h.get? key = none ↔ key ∉ pairs.map (·.1)
  /-- Building the map with an index gives the same. -/
  collected : collect pairs = h
  /-- If the pairs fit, then written with their count they are read as the map. -/
  raw : ∀ w : Width, pairs.length ≤ w.limit → (∀ e ∈ pairs, Fits w e) →
    ∃ n, Spells (.count w pairs.length :: entrySegments w pairs) n ∧
      ReadsBack w (.count w pairs.length :: entrySegments w pairs) n h
  /-- The map can be written as well, takes the size that is worked out for it, and is read back. -/
  again : ∀ w : Width, pairs.length ≤ w.limit → (∀ e ∈ pairs, Fits w e) →
    ∃ n, h.length w = .ok n ∧ ReadsBack w (h.segments w) n h

/-- **A header map is the fold of inserting pairs**, on the wire as in memory. -/
theorem ofList_folds (pairs : List (String × String)) : Folds pairs (ofList pairs) := by
  have nodup := keys_nodup_ofList pairs
  obtain ⟨order, values⟩ := gathers_ofList pairs
  constructor
  case distinct => exact nodup
  case order => exact order
  case entries =>
    intro key value
    rw [mem_entries_iff nodup, values, lastValue?_eq_some_iff]
  case get =>
    intro key value
    rw [values, lastValue?_eq_some_iff]
  case absent =>
    intro key
    rw [values, lastValue?_eq_none_iff]
  case collected => exact collect_eq_ofList pairs
  case raw =>
    intro w few fits
    refine ⟨_, spells_pairs fits, ?_⟩
    intro buf offset
    exact runAt_writeAt (undoes_pairs few) (spells_pairs fits)
  case again =>
    intro w few fits
    have spells := spells_ofList few fits
    refine ⟨_, length_of_spells spells, ?_⟩
    intro buf offset
    exact runAt_writeAt (undoes_headers w nodup) spells

/-- A key is given twice, and read once, in the middle of a buffer. -/
theorem ofList_folds_repeatedKey : ∃ n out,
    writeAt (.count .narrow 3 :: entrySegments .narrow [("a", "1"), ("b", "2"), ("a", "3")])
      (Bytes.zeros 20) 3 = (out, .ok (3 + n)) ∧
    (read .narrow).runAt out 3 = .ok (3 + n, ⟨[("a", "3"), ("b", "2")]⟩) := by
  have folds := ofList_folds [("a", "1"), ("b", "2"), ("a", "3")]
  obtain ⟨n, spells, carried⟩ := folds.raw .narrow (by decide) (by unfold Fits; decide +kernel)
  have thirteen : n = 13 := spells.unique ⟨_, rfl, by decide +kernel⟩
  subst thirteen
  obtain ⟨out, written, read⟩ := carried (Bytes.zeros 20) 3 (by decide)
  exact ⟨13, out, written, read⟩

end Headers

end CallWire
