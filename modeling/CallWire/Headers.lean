import CallWire.Bytes

/-!
# Header maps

A header map is a list of pairs of texts in the order in which their keys first appeared. Giving a
key again replaces its value and keeps its place.

* `keys_nodup_insert`, `keys_nodup_ofList`: a map built by insertion never repeats a key;
* `get?_insert`: insertion changes the value of its own key and of no other.
-/

namespace CallWire

/-- An ordered map from keys to values. -/
structure Headers where
  entries : List (String × String)
  deriving DecidableEq

namespace Headers

def empty : Headers := ⟨[]⟩

instance : Inhabited Headers := ⟨empty⟩

def size (h : Headers) : Nat := h.entries.length

def isEmpty (h : Headers) : Bool := h.entries.isEmpty

def keys (h : Headers) : List String := h.entries.map (·.1)

/-- The value of the first entry for `key`. -/
def get? (h : Headers) (key : String) : Option String :=
  (h.entries.find? (·.1 = key)).map (·.2)

def contains (h : Headers) (key : String) : Bool := (h.get? key).isSome

/-- Replaces the value of the first entry for `key`, or adds an entry at the end. -/
def insertEntry (key value : String) : List (String × String) → List (String × String)
  | [] => [(key, value)]
  | (k, v) :: rest =>
      if k = key then (k, value) :: rest else (k, v) :: insertEntry key value rest

def insert (h : Headers) (key value : String) : Headers := ⟨insertEntry key value h.entries⟩

/-- Inserts pairs one after another. -/
def insertAll (h : Headers) (pairs : List (String × String)) : Headers :=
  pairs.foldl (fun h p => h.insert p.1 p.2) h

/-- The map that arises by inserting the pairs in order. -/
def ofList (pairs : List (String × String)) : Headers := empty.insertAll pairs

theorem mem_keys_insertEntry {key value k : String} (es : List (String × String)) :
    k ∈ (insertEntry key value es).map (·.1) ↔ k = key ∨ k ∈ es.map (·.1) := by
  induction es with
  | nil => simp [insertEntry]
  | cons e es ih =>
    simp only [insertEntry]
    split
    · rename_i h
      simp [h]
    · simp only [List.map_cons, List.mem_cons, ih]
      constructor
      · rintro (h | h | h)
        · exact Or.inr (Or.inl h)
        · exact Or.inl h
        · exact Or.inr (Or.inr h)
      · rintro (h | h | h)
        · exact Or.inr (Or.inl h)
        · exact Or.inl h
        · exact Or.inr (Or.inr h)

theorem nodup_insertEntry {key value : String} {es : List (String × String)}
    (h : (es.map (·.1)).Nodup) : ((insertEntry key value es).map (·.1)).Nodup := by
  induction es with
  | nil => simp [insertEntry]
  | cons e es ih =>
    rw [List.map_cons, List.nodup_cons] at h
    simp only [insertEntry]
    split
    · simpa using h
    · rename_i hne
      rw [List.map_cons, List.nodup_cons, mem_keys_insertEntry]
      refine ⟨?_, ih h.2⟩
      rintro (hk | hk)
      · exact hne hk
      · exact h.1 hk

theorem keys_nodup_insert {h : Headers} (key value : String) (nodup : h.keys.Nodup) :
    (h.insert key value).keys.Nodup :=
  nodup_insertEntry nodup

theorem keys_nodup_insertAll {h : Headers} (pairs : List (String × String))
    (nodup : h.keys.Nodup) : (h.insertAll pairs).keys.Nodup := by
  induction pairs generalizing h with
  | nil => exact nodup
  | cons p pairs ih => exact ih (keys_nodup_insert p.1 p.2 nodup)

theorem keys_nodup_ofList (pairs : List (String × String)) : (ofList pairs).keys.Nodup :=
  keys_nodup_insertAll pairs List.nodup_nil

theorem get?_insert (h : Headers) (key value k : String) :
    (h.insert key value).get? k = if k = key then some value else h.get? k := by
  cases h with
  | mk es =>
    simp only [insert, get?]
    induction es with
    | nil =>
      by_cases hk : key = k
      · simp [insertEntry, hk]
      · simp [insertEntry, hk, Ne.symm hk]
    | cons e es ih =>
      obtain ⟨k', v'⟩ := e
      simp only [insertEntry]
      split
      · rename_i he
        subst he
        by_cases hk : k' = k
        · simp [hk]
        · simp [hk, Ne.symm hk]
      · rename_i he
        by_cases hk' : k' = k
        · subst hk'
          simp [he]
        · simp only [List.find?_cons, hk', decide_false]
          exact ih

end Headers

end CallWire
