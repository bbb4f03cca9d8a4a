import CallWire.Headers
import Std.Data.HashMap.Lemmas

/-!
# Building header maps

Inserting a pair looks for its key among all entries. Where many pairs come at once, an index tells
at which place each key stands, so that no search is needed.

* `sound_add`: adding a pair keeps the index in step with the entries;
* `toHeaders_add`: it changes the entries as `Headers.insert` does;
* `collect_eq_ofList`: hence collecting pairs is inserting them one after another.
-/

namespace CallWire.Headers

/-- The entries of a map that is being built, and the place of every key in them. -/
structure Index where
  entries : Array (String × String)
  places : Std.HashMap String Nat

namespace Index

def empty : Index := ⟨#[], ∅⟩

/-- Replaces the value of the pair's key, or adds the pair at the end. -/
def add (t : Index) (p : String × String) : Index :=
  match t.places[p.1]? with
  | some i => { t with entries := t.entries.setIfInBounds i p }
  | none =>
      let places := t.places.insert p.1 t.entries.size
      ⟨t.entries.push p, places⟩

/-- The map as far as it is built. -/
def toHeaders (t : Index) : Headers := ⟨t.entries.toList⟩

/-- The index names the first place of every key, and no other. -/
def Sound (t : Index) : Prop :=
  ∀ key, t.places[key]? = t.entries.toList.findIdx? (·.1 = key)

theorem sound_empty : Sound empty := by
  intro key
  simp [empty]

end Index

theorem findIdx?_keys (es : List (String × String)) (key : String) :
    es.findIdx? (·.1 = key) = (es.map (·.1)).findIdx? (· = key) := by
  rw [List.findIdx?_map]
  rfl

/-- Insertion replaces the entry at the first place of the key, if there is one. -/
theorem insertEntry_eq (key value : String) (es : List (String × String)) :
    insertEntry key value es =
      match es.findIdx? (·.1 = key) with
      | some i => es.set i (key, value)
      | none => es ++ [(key, value)] := by
  induction es with
  | nil => rfl
  | cons e es ih =>
    simp only [insertEntry, List.findIdx?_cons]
    split
    · rename_i same
      simp [same]
    · rename_i other
      rw [ih]
      simp only [other, decide_false, Bool.false_eq_true, if_false]
      cases es.findIdx? (·.1 = key) <;> rfl

namespace Index

theorem toHeaders_add {t : Index} (sound : t.Sound) (p : String × String) :
    (t.add p).toHeaders = t.toHeaders.insert p.1 p.2 := by
  simp only [add, toHeaders, Headers.insert, insertEntry_eq, sound p.1]
  cases t.entries.toList.findIdx? (·.1 = p.1) <;> simp

theorem sound_add {t : Index} (sound : t.Sound) (p : String × String) : (t.add p).Sound := by
  intro key
  unfold add
  split
  · rename_i i place
    rw [sound p.1] at place
    obtain ⟨bound, found, _⟩ := List.findIdx?_eq_some_iff_getElem.mp place
    show t.places[key]? = (t.entries.setIfInBounds i p).toList.findIdx? (·.1 = key)
    rw [sound key, findIdx?_keys, findIdx?_keys, Array.toList_setIfInBounds, List.map_set]
    have inside : i < (t.entries.toList.map (·.1)).length := by simpa using bound
    have same : (t.entries.toList.map (·.1))[i] = p.1 := by simpa using found
    rw [← same, List.set_getElem_self]
  · rename_i place
    rw [sound p.1] at place
    show (t.places.insert p.1 t.entries.size)[key]? =
      (t.entries.push p).toList.findIdx? (·.1 = key)
    rw [Array.toList_push, List.findIdx?_append, Std.HashMap.getElem?_insert, sound key]
    by_cases same : p.1 = key
    · subst same
      rw [place]
      simp [List.findIdx?_cons]
    · simp [List.findIdx?_cons, same]

theorem toHeaders_foldl {t : Index} (sound : t.Sound) (pairs : List (String × String)) :
    (pairs.foldl add t).toHeaders = t.toHeaders.insertAll pairs := by
  induction pairs generalizing t with
  | nil => rfl
  | cons p pairs ih =>
    rw [List.foldl_cons, ih (sound_add sound p), toHeaders_add sound p]
    rfl

end Index

/-- The map that arises by inserting pairs in order. -/
def collect (pairs : List (String × String)) : Headers := (pairs.foldl Index.add .empty).toHeaders

theorem collect_eq_ofList (pairs : List (String × String)) : collect pairs = ofList pairs :=
  Index.toHeaders_foldl Index.sound_empty pairs

end CallWire.Headers
