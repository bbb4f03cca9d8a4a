import Mathlib.Algebra.GroupWithZero.Nat
import CallWire.Proofs.Bodies
import CallWire.Proofs.Measuring

/-!
# Merging header pairs

A header map as it stands on the wire may repeat a key; reading merges the pairs by inserting them
one after another. The merged map takes no more room than the pairs did, and less if a key was
repeated (`Headers.merge_spells`), so a body with merged headers is as long as the original only if
nothing was merged (`Body.merge_spells`).
-/

namespace CallWire

/-- A text field can be written if the text fits its count. -/
theorem TextField.spells_iff {w : Width} {s : String} {n : Nat} :
    Spells (segments w s) n ↔ Text.size s ≤ w.limit ∧ n = w.bytes + Text.size s := by
  constructor
  · intro spells
    by_cases fits : w.limit < Text.size s
    · rw [segments, if_pos fits] at spells
      exact absurd spells (Spells.not_refuse _)
    · have sized : length w s = .ok (w.bytes + Text.size s) := by rw [length, if_neg fits]
      exact ⟨Nat.not_lt.mp fits, spells.unique (TextField.spells sized)⟩
  · rintro ⟨fits, rfl⟩
    exact TextField.spells (by rw [length, if_neg (Nat.not_lt.mpr fits)])

namespace Headers

/-- The size of an entry on the wire. -/
def cost (w : Width) (e : String × String) : Nat :=
  w.bytes + Text.size e.1 + (w.bytes + Text.size e.2)

/-- The size of entries on the wire. -/
def room (w : Width) (es : List (String × String)) : Nat := (es.map (cost w)).sum

/-- Both texts of the entry fit their counts. -/
def Fits (w : Width) (e : String × String) : Prop :=
  Text.size e.1 ≤ w.limit ∧ Text.size e.2 ≤ w.limit

theorem room_cons (w : Width) (e : String × String) (es : List (String × String)) :
    room w (e :: es) = cost w e + room w es := rfl

theorem entries_spells_iff {w : Width} {es : List (String × String)} {n : Nat} :
    Spells (entrySegments w es) n ↔ (∀ e ∈ es, Fits w e) ∧ n = room w es := by
  induction es generalizing n with
  | nil =>
    constructor
    · intro spells
      exact ⟨by simp, spells.unique .nil⟩
    · rintro ⟨-, rfl⟩
      exact .nil
  | cons e es ih =>
    obtain ⟨key, value⟩ := e
    have order : entrySegments w ((key, value) :: es) =
        TextField.segments w key ++ TextField.segments w value ++ entrySegments w es := rfl
    rw [order, Spells.append_iff, List.forall_mem_cons, room_cons]
    constructor
    · rintro ⟨k, m, here, onward, rfl⟩
      obtain ⟨i, j, hkey, hvalue, rfl⟩ := Spells.append_iff.mp here
      obtain ⟨small, rfl⟩ := TextField.spells_iff.mp hkey
      obtain ⟨short, rfl⟩ := TextField.spells_iff.mp hvalue
      obtain ⟨others, rfl⟩ := ih.mp onward
      exact ⟨⟨⟨small, short⟩, others⟩, rfl⟩
    · rintro ⟨⟨⟨small, short⟩, others⟩, rfl⟩
      refine ⟨_, _, ?_, ih.mpr ⟨others, rfl⟩, rfl⟩
      exact (TextField.spells_iff.mpr ⟨small, rfl⟩).append (TextField.spells_iff.mpr ⟨short, rfl⟩)

/-- A header map can be written if its entries and their texts fit their counts. -/
theorem spells_iff {w : Width} {h : Headers} {n : Nat} :
    Spells (h.segments w) n ↔
      h.size ≤ w.limit ∧ (∀ e ∈ h.entries, Fits w e) ∧ n = w.bytes + room w h.entries := by
  unfold segments
  by_cases fits : w.limit < h.size
  · rw [if_pos fits]
    constructor
    · intro spells
      exact absurd spells (Spells.not_refuse _)
    · rintro ⟨small, -⟩
      exact absurd fits (Nat.not_lt.mpr small)
  · rw [if_neg fits]
    rw [Spells.cons_iff]
    constructor
    · rintro ⟨k, m, count, entries, rfl⟩
      obtain ⟨others, rfl⟩ := entries_spells_iff.mp entries
      exact ⟨Nat.not_lt.mp fits, others, by rw [count.unique (.number w.bytes h.size)]⟩
    · rintro ⟨-, others, rfl⟩
      exact ⟨_, _, .number w.bytes h.size, entries_spells_iff.mpr ⟨others, rfl⟩, rfl⟩

theorem fits_insertEntry {w : Width} {key value : String} {es : List (String × String)}
    (fits : Fits w (key, value)) (others : ∀ e ∈ es, Fits w e) :
    ∀ e ∈ insertEntry key value es, Fits w e := by
  induction es with
  | nil => simpa [insertEntry] using fits
  | cons e es ih =>
    obtain ⟨first, others⟩ := List.forall_mem_cons.mp others
    simp only [insertEntry]
    split
    · exact List.forall_mem_cons.mpr ⟨⟨first.1, fits.2⟩, others⟩
    · exact List.forall_mem_cons.mpr ⟨first, ih others⟩

theorem length_insertEntry_le (key value : String) (es : List (String × String)) :
    (insertEntry key value es).length ≤ es.length + 1 := by
  induction es with
  | nil => exact Nat.le_refl 1
  | cons e es ih =>
    simp only [insertEntry]
    split
    · exact Nat.le_succ _
    · exact Nat.succ_le_succ ih

/-- Inserting a pair takes the room of that pair, or less if its key is there already. -/
theorem room_insertEntry (w : Width) (key value : String) (es : List (String × String)) :
    room w (insertEntry key value es) ≤ room w es + cost w (key, value) ∧
      (room w (insertEntry key value es) = room w es + cost w (key, value) →
        key ∉ es.map (·.1)) := by
  have positive := w.bytes_pos
  induction es with
  | nil => simp [insertEntry, room]
  | cons e es ih =>
    obtain ⟨k, v⟩ := e
    simp only [insertEntry]
    split
    · rename_i same
      subst same
      simp only [room_cons, cost] at *
      exact ⟨by omega, fun equal => by omega⟩
    · rename_i other
      simp only [room_cons, List.map_cons, List.mem_cons, not_or]
      refine ⟨by omega, fun equal => ⟨Ne.symm other, ih.2 (by omega)⟩⟩

variable {h : Headers} {w : Width} {pairs : List (String × String)}

theorem size_insertAll_le (h : Headers) (pairs : List (String × String)) :
    (h.insertAll pairs).size ≤ h.size + pairs.length := by
  induction pairs generalizing h with
  | nil => exact Nat.le_refl _
  | cons p pairs ih =>
    have added : (h.insert p.1 p.2).size ≤ h.size + 1 := length_insertEntry_le p.1 p.2 h.entries
    have onward := ih (h.insert p.1 p.2)
    show ((h.insert p.1 p.2).insertAll pairs).size ≤ _
    rw [List.length_cons]
    omega

theorem fits_insertAll (fits : ∀ e ∈ h.entries, Fits w e) (others : ∀ e ∈ pairs, Fits w e) :
    ∀ e ∈ (h.insertAll pairs).entries, Fits w e := by
  induction pairs generalizing h with
  | nil => exact fits
  | cons p pairs ih =>
    obtain ⟨first, others⟩ := List.forall_mem_cons.mp others
    exact ih (fits_insertEntry first fits) others

/-- Inserting pairs takes the room of the pairs, or less if a key is repeated. -/
theorem room_insertAll (w : Width) (nodup : h.keys.Nodup) (pairs : List (String × String)) :
    room w (h.insertAll pairs).entries ≤ room w h.entries + room w pairs ∧
      (room w (h.insertAll pairs).entries = room w h.entries + room w pairs →
        (h.keys ++ pairs.map (·.1)).Nodup) := by
  induction pairs generalizing h with
  | nil => exact ⟨Nat.le_refl _, fun _ => by simpa using nodup⟩
  | cons p pairs ih =>
    obtain ⟨k, v⟩ := p
    obtain ⟨less, fresh⟩ := room_insertEntry w k v h.entries
    obtain ⟨onward, distinct⟩ := ih (keys_nodup_insert k v nodup)
    have here : (h.insert k v).entries = insertEntry k v h.entries := rfl
    show room w ((h.insert k v).insertAll pairs).entries ≤ _ ∧
      (room w ((h.insert k v).insertAll pairs).entries = _ → _)
    rw [here] at onward distinct
    rw [room_cons]
    refine ⟨by omega, fun equal => ?_⟩
    have absent : k ∉ h.keys := fresh (by omega)
    have added := insert_of_notMem absent v
    have all := distinct (by omega)
    rw [added] at all
    simpa [keys, List.append_assoc] using all

/-- The map that reading makes of the entries. -/
def merge (h : Headers) : Headers := collect h.entries

theorem merge_of_nodup (nodup : h.keys.Nodup) : h.merge = h := collect_entries nodup

/-- If the pairs fit, so does the map that they are inserted into. -/
theorem spells_ofList (few : pairs.length ≤ w.limit) (fits : ∀ e ∈ pairs, Fits w e) :
    Spells ((ofList pairs).segments w) (w.bytes + room w (ofList pairs).entries) := by
  have size := size_insertAll_le empty pairs
  refine spells_iff.mpr ⟨?_, fits_insertAll (by simp [empty]) fits, rfl⟩
  simp only [Headers.size, empty, List.length_nil, ofList] at size ⊢
  omega

/-- **Merging saves room exactly if a key is repeated.** -/
theorem merge_spells {n : Nat} (spells : Spells (h.segments w) n) :
    ∃ m, Spells (h.merge.segments w) m ∧ m ≤ n ∧ (m = n → h.keys.Nodup) := by
  obtain ⟨small, fits, rfl⟩ := spells_iff.mp spells
  have fresh : empty.keys.Nodup := List.nodup_nil
  obtain ⟨less, distinct⟩ := room_insertAll w fresh h.entries
  have merged : h.merge = empty.insertAll h.entries := collect_eq_ofList h.entries
  rw [merged]
  refine ⟨_, spells_ofList small fits, ?_, fun equal => ?_⟩
  · simp only [ofList, empty, room, List.map_nil, List.sum_nil] at less ⊢
    omega
  · have all := distinct (by
      simp only [ofList, empty, room, List.map_nil, List.sum_nil] at equal ⊢
      omega)
    simpa [empty, keys] using all

/-- Inserting pairs adds their keys and no other. -/
theorem mem_keys_insertAll {key : String} :
    key ∈ (h.insertAll pairs).keys ↔ key ∈ h.keys ∨ key ∈ pairs.map (·.1) := by
  induction pairs generalizing h with
  | nil => simp [insertAll]
  | cons p pairs ih =>
    show key ∈ ((h.insert p.1 p.2).insertAll pairs).keys ↔ _
    rw [ih]
    have here : key ∈ (h.insert p.1 p.2).keys ↔ key = p.1 ∨ key ∈ h.keys :=
      mem_keys_insertEntry h.entries
    rw [here, List.map_cons, List.mem_cons, or_assoc, or_left_comm]

theorem contains_iff {key : String} : h.contains key = true ↔ key ∈ h.keys := by
  simp [contains, get?, keys]

theorem contains_merge (h : Headers) (key : String) : h.merge.contains key = h.contains key := by
  rw [Bool.eq_iff_iff, contains_iff, contains_iff, merge, collect_eq_ofList, ofList,
    mem_keys_insertAll]
  simp [empty, keys]

end Headers

end CallWire
