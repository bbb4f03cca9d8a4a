import CallWire.Body
import Mathlib.Data.List.Induction

/-!
# Layouts

The bytes in which the values of each kind are laid out, told field by field and without a reader or
a writer. Numbers are big-endian, texts stand behind a count of their bytes, and the pairs of a
header map behind a count of the pairs.

* `Body.Layout`: the layout of each kind of body;
* `Headers.gathers_iff`: what a header map holds of the pairs that stand on the wire is what
  inserting them in order gives.
-/

namespace CallWire

/-- A text behind the count of its bytes. -/
def TextField.Layout (w : Width) (s : String) (bs : Bytes) : Prop :=
  Text.size s ≤ w.limit ∧ bs = Bytes.bigEndian w.bytes (Text.size s) ++ Text.encode s

namespace Headers

/-- Keys and values in turn, each a text field. -/
inductive PairsLayout (w : Width) : List (String × String) → Bytes → Prop
  | nil : PairsLayout w [] []
  | cons {key value : String} {pairs : List (String × String)} {first second others : Bytes} :
      TextField.Layout w key first → TextField.Layout w value second →
      PairsLayout w pairs others →
      PairsLayout w ((key, value) :: pairs) (first ++ (second ++ others))

/-- The value that the last pair with the key has. -/
def lastValue? (pairs : List (String × String)) (key : String) : Option String :=
  (pairs.reverse.find? (·.1 = key)).map (·.2)

/-- The map has every key of the pairs once, in the place where it first stands, with the value that
it has last. -/
def Gathers (h : Headers) (pairs : List (String × String)) : Prop :=
  h.keys = (pairs.map (·.1)).eraseDups ∧ ∀ key, h.get? key = lastValue? pairs key

/-- A count of pairs and as many pairs, which the map gathers. -/
def Layout (w : Width) (h : Headers) (bs : Bytes) : Prop :=
  ∃ pairs fields, h.Gathers pairs ∧ pairs.length ≤ w.limit ∧ PairsLayout w pairs fields ∧
    bs = Bytes.bigEndian w.bytes pairs.length ++ fields

end Headers

/-- Four bytes of value, or nothing without a type; the value is then zero. -/
def Checksum.ValueLayout (c : Checksum) (bs : Bytes) : Prop :=
  if c.type = .none then c.value = 0 ∧ bs = [] else bs = Bytes.bigEndian 4 c.value.toNat

/-- A type byte and a value. -/
def Checksum.Layout (c : Checksum) (bs : Bytes) : Prop :=
  ∃ value, c.ValueLayout value ∧ bs = [c.type.number] ++ value

/-- Up to three chunks, each behind the count of its bytes. -/
def Chunks.Layout (chunks : List Bytes) (bs : Bytes) : Prop :=
  chunks.length ≤ 3 ∧ (∀ chunk ∈ chunks, chunk.length ≤ 65535) ∧
    bs = chunks.flatMap fun chunk => Bytes.bigEndian 2 chunk.length ++ chunk

def Handshake.Layout (h : Handshake) (bs : Bytes) : Prop :=
  "host_port" ∈ h.headers.keys ∧ "process_name" ∈ h.headers.keys ∧
    ∃ headers, Headers.Layout .wide h.headers headers ∧
      bs = Bytes.bigEndian 2 h.version.toNat ++ headers

def CallRequest.Layout (r : CallRequest) (bs : Bytes) : Prop :=
  ∃ service headers checksum args, TextField.Layout .narrow r.service service ∧
    Headers.Layout .narrow r.headers headers ∧ Checksum.Layout r.checksum checksum ∧
    Chunks.Layout r.args args ∧
    bs = [r.flags] ++ (Bytes.bigEndian 4 r.ttl.toNat ++ (r.tracing.bytes ++ (service ++
      (headers ++ (checksum ++ args)))))

def CallResponse.Layout (r : CallResponse) (bs : Bytes) : Prop :=
  ∃ headers checksum args, Headers.Layout .narrow r.headers headers ∧
    Checksum.Layout r.checksum checksum ∧ Chunks.Layout r.args args ∧
    bs = [r.flags] ++ ([r.code] ++ (r.tracing.bytes ++ (headers ++ (checksum ++ args))))

def Continuation.Layout (r : Continuation) (bs : Bytes) : Prop :=
  ∃ checksum args, Checksum.Layout r.checksum checksum ∧ Chunks.Layout r.args args ∧
    bs = [r.flags] ++ (checksum ++ args)

def Cancel.Layout (c : Cancel) (bs : Bytes) : Prop :=
  ∃ why, TextField.Layout .wide c.why why ∧
    bs = Bytes.bigEndian 4 c.ttl.toNat ++ (c.tracing.bytes ++ why)

def Claim.Layout (c : Claim) (bs : Bytes) : Prop :=
  bs = Bytes.bigEndian 4 c.ttl.toNat ++ c.tracing.bytes

def ErrorResponse.Layout (e : ErrorResponse) (bs : Bytes) : Prop :=
  ∃ message, TextField.Layout .wide e.message message ∧
    bs = [e.code.number] ++ (e.tracing.bytes ++ message)

namespace Body

/-- The bytes are laid out as the body of this kind is, and its fields are what stands there. -/
def Layout : Body ErrorResponse → Bytes → Prop
  | initRequest b, bs | initResponse b, bs => b.Layout bs
  | callRequest b, bs => b.Layout bs
  | callResponse b, bs => b.Layout bs
  | callRequestCont b, bs | callResponseCont b, bs => b.Layout bs
  | cancel b, bs => b.Layout bs
  | claim b, bs => b.Layout bs
  | pingRequest, bs | pingResponse, bs => bs = []
  | error b, bs => b.Layout bs

/-- The argument chunks of a body that ends with some. -/
def chunks {ε : Type} : Body ε → List Bytes
  | callRequest b => b.args
  | callResponse b => b.args
  | callRequestCont b | callResponseCont b => b.args
  | _ => []

end Body

namespace Headers

variable {h : Headers} {pairs : List (String × String)}

theorem ofList_append (pairs : List (String × String)) (p : String × String) :
    ofList (pairs ++ [p]) = (ofList pairs).insert p.1 p.2 := by
  simp [ofList, insertAll]

/-- Inserting a pair keeps the keys, and adds its own at the end if it is new. -/
theorem keys_insertEntry (key value : String) (es : List (String × String)) :
    (insertEntry key value es).map (·.1) =
      if key ∈ es.map (·.1) then es.map (·.1) else es.map (·.1) ++ [key] := by
  induction es with
  | nil => rfl
  | cons e es ih =>
    obtain ⟨k, v⟩ := e
    simp only [insertEntry]
    by_cases same : k = key
    · simp [same]
    · rw [if_neg same, List.map_cons, List.map_cons, ih]
      by_cases known : key ∈ es.map (·.1)
      · rw [if_pos known, if_pos (List.mem_cons_of_mem k known)]
      · have absent : key ∉ k :: es.map (·.1) := by simp [Ne.symm same, known]
        rw [if_neg known, if_neg absent, List.cons_append]

theorem gathers_ofList (pairs : List (String × String)) : (ofList pairs).Gathers pairs := by
  induction pairs using List.reverseRecOn with
  | nil => exact ⟨rfl, fun _ => rfl⟩
  | append_singleton pairs p ih =>
    obtain ⟨keys, values⟩ := ih
    rw [ofList_append]
    constructor
    · rw [Headers.keys] at keys ⊢
      rw [insert, keys_insertEntry, keys, List.map_append, List.eraseDups_append]
      by_cases known : p.1 ∈ pairs.map (·.1)
      · simp [known, List.removeAll]
      · simp [known, List.removeAll, List.eraseDups_cons]
    · intro key
      rw [get?_insert, values, lastValue?, lastValue?, List.reverse_append]
      by_cases same : key = p.1
      · simp [same]
      · have other : p.1 ≠ key := fun equal => same equal.symm
        simp [same, other]

/-- Two maps with the same keys, each of them once, and the same values are the same. -/
theorem ext_get? {g : Headers} (nodup : h.keys.Nodup) (keys : g.keys = h.keys)
    (values : ∀ key, g.get? key = h.get? key) : g = h := by
  obtain ⟨es⟩ := h
  obtain ⟨fs⟩ := g
  congr 1
  induction es generalizing fs with
  | nil => simpa [Headers.keys] using keys
  | cons e es ih =>
    cases fs with
    | nil => simp [Headers.keys] at keys
    | cons f fs =>
      simp only [Headers.keys, List.map_cons, List.cons.injEq, List.nodup_cons] at keys nodup
      have first := values f.1
      simp only [get?, List.find?_cons, keys.1, decide_true, Option.map_some,
        Option.some.injEq] at first
      have here : f = e := Prod.ext keys.1 first
      subst here
      rw [ih nodup.2 fs keys.2 fun key => ?_]
      by_cases same : f.1 = key
      · subst same
        have absent (gs : List (String × String)) (same : gs.map (·.1) = es.map (·.1)) :
            (⟨gs⟩ : Headers).get? f.1 = none := by
          rw [get?, List.find?_eq_none.mpr, Option.map_none]
          intro p hp
          simp only [decide_eq_true_eq]
          exact fun equal => nodup.1 (equal ▸ same ▸ List.mem_map_of_mem hp)
        rw [absent fs keys.2, absent es rfl]
      · simpa [get?, List.find?_cons, same] using values key

/-- **A header map gathers pairs exactly if it arises by inserting them in order.** -/
theorem gathers_iff : h.Gathers pairs ↔ h = ofList pairs := by
  constructor
  · rintro ⟨keys, values⟩
    obtain ⟨known, same⟩ := gathers_ofList pairs
    exact ext_get? (keys_nodup_ofList pairs) (keys.trans known.symm) fun key =>
      (values key).trans (same key).symm
  · rintro rfl
    exact gathers_ofList pairs

end Headers

end CallWire
