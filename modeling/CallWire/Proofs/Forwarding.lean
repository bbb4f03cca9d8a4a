import CallWire.Proofs.Acceptance
import CallWire.Proofs.Canonical
import CallWire.Proofs.FrameRoundTrip
import CallWire.Proofs.Handling

/-!
# Passing frames on

A frame that is passed on through lazy frames arrives as it was sent, with the last id that it was
given on the way: nothing else of its bytes changes, and so neither its type nor its body does. If
no key of its header map is repeated, the bytes that arrive are what encoding the decoded frame with
that id gives (`LazyFrame.transparent_of_obtained`).
-/

namespace CallWire

namespace Body

/-- The value of a checksum without a type is not written. -/
theorem segments_canonical (b : Body ErrorResponse) : b.canonical.segments = b.segments := by
  have checksum (c : Checksum) : c.canonical.segments = c.segments := by
    obtain ⟨type, value⟩ := c
    cases type <;> rfl
  cases b with
  | callRequest b => simp only [canonical, CallRequest.canonical, segments, CallRequest.segments,
      checksum]
  | callResponse b => simp only [canonical, CallResponse.canonical, segments,
      CallResponse.segments, checksum]
  | callRequestCont b | callResponseCont b => simp only [canonical, Continuation.canonical,
      segments, Continuation.segments, checksum]
  | _ => rfl

theorem frameType_canonical {ε : Type} (b : Body ε) : b.canonical.frameType = b.frameType := by
  cases b <;> rfl

end Body

/-- The header with another id stands in the bytes with another id. -/
theorem withId_bytes (h : FrameHeader) (bs : Bytes) (id : UInt32) :
    withId (h.bytes ++ bs) id = ({ h with id } : FrameHeader).bytes ++ bs := by
  have two : (Bytes.bigEndian 2 h.size.toNat).length = 2 := Bytes.length_bigEndian _ _
  have four : (Bytes.bigEndian 2 h.size.toNat ++ [h.type.number, 0]).length = 4 := by
    rw [List.length_append, two]
    rfl
  have parts (id : UInt32) : ({ h with id } : FrameHeader).bytes ++ bs =
      (Bytes.bigEndian 2 h.size.toNat ++ [h.type.number, 0]) ++
        (Bytes.bigEndian 4 id.toNat ++ (Bytes.zeros 8 ++ bs)) := by
    simp only [FrameHeader.bytes, FrameHeader.tail, List.append_assoc]
  have whole : h.bytes ++ bs = _ := parts h.id
  rw [whole, parts, withId, FrameLayout.idOffset, List.take_left' four, ← List.drop_drop,
    List.drop_left' four, List.drop_left' (Bytes.length_bigEndian _ _)]

/-- A frame that was encoded is decoded as its header and its body, if no key is repeated. -/
theorem ConnectionPools.exists_readFrame_of_encode {f g : Frame} {original : Bytes}
    (encoded : f.encode = .ok (original, g))
    (distinct : ∀ body, f.body? = some body → body.DistinctHeaders) :
    ∃ (header : FrameHeader) (b : Body ErrorResponse) (bs : Bytes),
      original = header.bytes ++ bs ∧ b.frameType = header.type ∧
      Segment.bytes? b.segments = some bs ∧
      FrameLayout.overhead + bs.length ≤ FrameLayout.maxSize ∧
      header.size = UInt16.ofNat (FrameLayout.overhead + bs.length) ∧
      ∀ p : ConnectionPools, (p.readFrame original 0).1 =
        .ok (original.length, ⟨some ⟨header.size, header.id, some (.pooled b)⟩, true⟩) := by
  obtain ⟨body, bs, held, spelled, -, small, made, -⟩ := Frame.encode_eq_ok_iff.mp encoded
  obtain ⟨b, live, spelled⟩ := HeldBody.live_of_spelled spelled
  have apart := HeldBody.distinctHeaders_of_live live (distinct body held)
  have type := (HeldBody.contents_of_live live).2
  have size := Frame.size_headerFor f body small
  have length : original.length = (f.headerFor body bs).size.toNat := by
    rw [made, size, List.length_append, FrameHeader.length_bytes]
  have header : FrameHeader.read original 0 = .ok (f.headerFor body bs) :=
    FrameHeader.read_of_standsAt ⟨bs, by rw [List.drop_zero, made]⟩ (by omega)
  obtain ⟨room, declared⟩ := FrameHeader.size_of_read header
  have inside : FrameHeader.Inside original 0 := by
    refine ⟨room, Nat.le_of_eq ?_⟩
    rw [← declared, ← length, Nat.zero_add]
  have parsed : FrameHeader.parse (original.drop 0) = .ok (f.headerFor body bs) := by
    rw [← FrameHeader.read_eq_parse inside, header]
  have behind : original.drop FrameLayout.bodyOffset = bs ++ [] := by
    rw [made, FrameLayout.bodyOffset, List.drop_left' (FrameHeader.length_bytes _),
      List.append_nil]
  have read : (Body.read b.frameType).runAt original FrameLayout.bodyOffset =
      .ok (FrameLayout.bodyOffset + bs.length, b.canonical) :=
    runAt_of_undoes (Body.undoes_body apart) spelled
      (by rw [length, size]; exact Nat.le_add_right _ _) behind
  refine ⟨f.headerFor body bs, b.canonical, bs, made, ?_, ?_, small, rfl, fun p => ?_⟩
  · rw [Body.frameType_canonical, ← type]
    rfl
  · rw [Body.segments_canonical, spelled]
  · refine readFrame_eq_ok_iff.mpr ⟨inside, _, FrameLayout.bodyOffset + bs.length, b.canonical,
      parsed, ?_, ?_, rfl⟩
    · rw [Nat.zero_add, length]
    · rw [List.take_length, Nat.zero_add, ← read, ← type]
      rfl

/-- A body is read from what stands at its place and behind it. -/
theorem ConnectionPools.readBody_congr (p : ConnectionPools) (type : FrameType) {buf other : Bytes}
    {offset : Nat} (length : other.length = buf.length)
    (same : other.drop offset = buf.drop offset) :
    p.readBody type other offset = p.readBody type buf offset := by
  unfold readBody
  simp only [Reader.runAt_congr _ length same]

namespace LazyFrame

/-- A relay takes the frame `bytes` up as a lazy frame, does something to it, and writes it out. -/
inductive Relayed : Bytes → List Handling → Bytes → Prop
  | mk {f : LazyFrame} {bytes buf buf' : Bytes} {handlings : List Handling} {offset stop : Nat} :
      Obtained f bytes → (f.handleAll handlings).writeAt buf offset = (buf', .ok stop) →
      Relayed bytes handlings ((buf'.take stop).drop offset)

/-- A chain of relays, each of which takes up what the one before has written out. -/
inductive Chain : Bytes → List Handling → Bytes → Prop
  | nil (bytes : Bytes) : Chain bytes [] bytes
  | cons {bytes next last : Bytes} {handlings more : List Handling} :
      Relayed bytes handlings next → Chain next more last → Chain bytes (handlings ++ more) last

/-- What can be told of a lazy frame `f` that was read from the bytes `original`. -/
structure Transparent (f : LazyFrame) (original : Bytes) : Prop where
  /-- Whatever was done to it, it stands for its bytes, with the last id. -/
  represents : ∀ handlings,
    (f.handleAll handlings).Represents (readdressed original (lastId? handlings))
  /-- A body that was decoded is the same whenever it is asked for, and no pool is needed. -/
  decodedOnce : ∀ handlings more (p q : ConnectionPools) body g,
    (p.decodeBody (f.handleAll handlings)).1 = .ok (body, g) → ∃ again,
      q.decodeBody (g.handleAll more) = (.ok (again, g.handleAll more), q) ∧
        again.contents = body.contents
  setId : ∀ handlings id, ∃ g, (f.handleAll handlings).setId id = .ok g
  /-- With enough room, it is written out as it stands. -/
  written : ∀ handlings (buf : Bytes) offset, offset + original.length ≤ buf.length →
    (f.handleAll handlings).writeAt buf offset =
      (buf.take offset ++ readdressed original (lastId? handlings) ++
        buf.drop (offset + original.length), .ok (offset + original.length))
  /-- Without, nothing is written. -/
  refused : ∀ handlings (buf : Bytes) offset, buf.length < offset + original.length →
    (f.handleAll handlings).writeAt buf offset =
      (buf, refuse (.shortWrite original.length (buf.length - offset) offset))
  /-- Over any chain of relays, the last id is what changes. -/
  forwarded : ∀ handlings last, Chain original handlings last →
    last = readdressed original (lastId? handlings)
  /-- The next relay can take it up, out of a buffer or out of a stream. -/
  takenUp : ∀ id? (p : ConnectionPools), (∀ front behind : Bytes, ∃ h,
      (p.readLazyFrame (front ++ readdressed original id? ++ behind) front.length).1 =
        .ok (front.length + original.length, h)) ∧
    ∀ (s : FrameSplitter) behind, s.buffered = readdressed original id? ++ behind →
      ∃ h, (s.next p).1 = .ok (some h)
  /-- With another id, it has the same size, type and body. -/
  unchanged : ∃ header, FrameHeader.parse original = .ok header ∧ ∀ id?,
    FrameHeader.parse (readdressed original id?) = .ok { header with id := id?.getD header.id } ∧
      ∀ p : ConnectionPools,
        p.readBody header.type (readdressed original id?) FrameLayout.bodyOffset =
          p.readBody header.type original FrameLayout.bodyOffset
  /-- What was encoded without a repeated key arrives as what encoding the decoded frame, with the
  last id, gives. -/
  encoded : ∀ sent written : Frame, sent.encode = .ok (original, written) →
    (∀ body, sent.body? = some body → body.DistinctHeaders) → ∀ (p : ConnectionPools) handlings,
      ∃ h frame again, (p.readFrame original 0).1 = .ok (original.length, h) ∧
        h.value? = some frame ∧
        ({ frame with id := (lastId? handlings).getD frame.id } : Frame).encode =
          .ok (readdressed original (lastId? handlings), again)

variable {f : LazyFrame} {original : Bytes}

theorem Obtained.represents (obtained : Obtained f original) : f.Represents original := by
  obtain ⟨⟨-, whole⟩, header, parsed, rfl⟩ := obtained.exists_header
  obtain ⟨-, size, -⟩ := FrameHeader.parse_eq_ok_iff.mp parsed
  refine represents_ofHeader parsed ?_ none (fun _ known => nomatch known)
  rw [← size, whole]

theorem length_readdressed (long : FrameLayout.overhead ≤ original.length) (id? : Option UInt32) :
    (readdressed original id?).length = original.length := by
  cases id? with
  | none => rfl
  | some id => exact length_withId id long

theorem relayed_eq {handlings : List Handling} {next : Bytes}
    (relayed : Relayed original handlings next) :
    next = readdressed original (lastId? handlings) := by
  obtain ⟨obtained, written⟩ := relayed
  rename_i g buf buf' offset stop
  have represents := obtained.represents.handleAll handlings
  rcases Nat.lt_or_ge buf.length (offset + (readdressed original (lastId? handlings)).length) with
    short | room
  · rw [represents.writeAt_of_short short] at written
    cases written
  · rw [represents.writeAt_of_room room] at written
    cases written
    have front : (buf.take offset).length = offset := by
      rw [List.length_take]
      omega
    rw [List.drop_take, Nat.add_sub_cancel_left, List.append_assoc, List.drop_left' front,
      List.take_left]

theorem chain_eq {handlings : List Handling} {last : Bytes}
    (long : FrameLayout.overhead ≤ original.length) (chain : Chain original handlings last) :
    last = readdressed original (lastId? handlings) := by
  induction chain with
  | nil => rfl
  | cons relayed _ ih =>
    have next := relayed_eq relayed
    subst next
    rw [ih (length_readdressed long _ ▸ long), readdressed_readdressed long, lastId?_append]

/-- A frame can be read wherever its bytes stand. -/
theorem read_of_parse {header : FrameHeader} (parsed : FrameHeader.parse original = .ok header)
    (whole : original.length = header.size.toNat) (front behind : Bytes) :
    LazyFrame.read (front ++ original ++ behind) front.length =
      .ok (front.length + original.length, ofHeader header original) := by
  obtain ⟨large, size, -⟩ := FrameHeader.parse_eq_ok_iff.mp parsed
  rw [← whole] at large
  have stands : (front ++ original ++ behind).drop front.length = original ++ behind := by
    rw [List.append_assoc, List.drop_left]
  obtain ⟨same, -⟩ := FrameHeader.declared_take (original ++ behind) large
  have found : FrameHeader.parse ((original ++ behind).take original.length) =
      FrameHeader.parse (original ++ behind) := FrameHeader.parse_take large
  rw [List.take_left] at same found
  have inside : FrameHeader.Inside (front ++ original ++ behind) front.length := by
    simp only [FrameHeader.Inside, stands, ← same, size, ← whole, List.length_append,
      FrameLayout.overhead] at *
    omega
  have view : FrameHeader.frameAt (front ++ original ++ behind) front.length = original := by
    rw [FrameHeader.frameAt, stands, ← same, size, ← whole, List.take_left]
  rw [read_eq_parse inside, view, stands, ← found, parsed, whole]
  rfl

theorem whole_of_parse {header : FrameHeader} (parsed : FrameHeader.parse original = .ok header)
    (whole : original.length = header.size.toNat) : Whole original := by
  obtain ⟨large, size, -⟩ := FrameHeader.parse_eq_ok_iff.mp parsed
  rw [Whole, size, whole]
  exact ⟨large, rfl⟩

/-- A frame is split off a stream that begins with its bytes. -/
theorem next_of_parse {header : FrameHeader} (parsed : FrameHeader.parse original = .ok header)
    (whole : original.length = header.size.toNat) {s : FrameSplitter} {behind : Bytes}
    (stands : s.buffered = original ++ behind) (p : ConnectionPools) :
    ∃ h, (s.next p).1 = .ok (some h) := by
  have entire := whole_of_parse parsed whole
  have first := pieces_append entire behind
  have complete : Complete s.buffered := by
    apply Classical.byContradiction
    intro lacking
    rw [← stands, Intake.pieces_eq_nil_iff.mpr lacking] at first
    cases first
  rcases s.next_cases p with ⟨lacking, -⟩ | ⟨undersized, -⟩ |
    ⟨piece, cut, split, ⟨f, -, answer, -⟩ | ⟨n, unknown, -⟩⟩
  · exact absurd complete lacking.not_complete
  · exact absurd complete undersized.not_complete
  · exact ⟨_, answer⟩
  · rw [← stands, split, pieces_append cut] at first
    obtain ⟨rfl, -⟩ := List.cons.inj first
    have read := read_of_parse parsed whole [] []
    rw [List.nil_append, List.append_nil, List.length_nil] at read
    rw [frameOf, read] at unknown
    cases unknown

/-- The header of the bytes with another id. -/
theorem parse_readdressed {header : FrameHeader}
    (parsed : FrameHeader.parse original = .ok header)
    (whole : original.length = header.size.toNat) (id? : Option UInt32) :
    FrameHeader.parse (readdressed original id?) =
      .ok { header with id := id?.getD header.id } := by
  cases id? with
  | none => exact parsed
  | some id => exact parse_withId id (whole_of_parse parsed whole).1 parsed

/-- The bytes with another id behind the header. -/
theorem drop_readdressed (long : FrameLayout.overhead ≤ original.length) (id? : Option UInt32) :
    (readdressed original id?).drop FrameLayout.bodyOffset =
      original.drop FrameLayout.bodyOffset := by
  cases id? with
  | none => rfl
  | some id => exact drop_withId id long

/-- What was encoded without a repeated key is, with another id, what encoding the decoded frame with
that id gives. -/
theorem exists_encode_readdressed {sent written : Frame}
    (encoded : sent.encode = .ok (original, written))
    (distinct : ∀ body, sent.body? = some body → body.DistinctHeaders) (p : ConnectionPools)
    (id? : Option UInt32) :
    ∃ h frame again, (p.readFrame original 0).1 = .ok (original.length, h) ∧
      h.value? = some frame ∧ ({ frame with id := id?.getD frame.id } : Frame).encode =
        .ok (readdressed original id?, again) := by
  obtain ⟨first, b, bs, made, type, spelled, small, size, read⟩ :=
    ConnectionPools.exists_readFrame_of_encode encoded distinct
  let last := id?.getD first.id
  have same : readdressed original id? =
      ({ first with id := last } : FrameHeader).bytes ++ bs := by
    rw [made]
    cases id? with
    | none => simp only [last, readdressed, Option.getD_none]
    | some id => simp only [last, readdressed, Option.getD_some, withId_bytes]
  have moved : b.frameType = ({ first with id := last } : FrameHeader).type := type
  obtain ⟨again, encoded⟩ :=
    Frame.exists_encode_pooled moved spelled (Body.length_of_spells ⟨bs, spelled, rfl⟩) small
  have kept : ({ first with
      size := UInt16.ofNat (FrameLayout.overhead + bs.length), id := last } : FrameHeader) =
      { first with id := last } := by rw [← size]
  rw [kept, ← same] at encoded
  exact ⟨_, ⟨first.size, first.id, some (.pooled b)⟩, again, read p, rfl, encoded⟩

/-- **Lazy frames pass frames on as they are.** -/
theorem transparent_of_obtained (obtained : Obtained f original) : Transparent f original := by
  obtain ⟨⟨long, declared⟩, header, parsed, -⟩ := obtained.exists_header
  have whole : original.length = header.size.toNat := by
    obtain ⟨-, size, -⟩ := FrameHeader.parse_eq_ok_iff.mp parsed
    rw [← size, declared]
  have represents := obtained.represents.handleAll
  have length := length_readdressed long
  constructor
  case represents => exact represents
  case decodedOnce =>
    intro handlings more p q body g decoded
    exact decodeBody_again ((represents handlings).represents_decode decoded).2 more q
  case setId => exact fun handlings id => ⟨_, (represents handlings).setId_eq id⟩
  case written =>
    intro handlings buf offset room
    rw [← length (lastId? handlings)] at room ⊢
    exact (represents handlings).writeAt_of_room room
  case refused =>
    intro handlings buf offset short
    rw [← length (lastId? handlings)] at short ⊢
    rw [(represents handlings).length]
    exact (represents handlings).writeAt_of_short short
  case forwarded => exact fun handlings last => chain_eq long
  case takenUp =>
    intro id? p
    have again := parse_readdressed parsed whole id?
    have size : (readdressed original id?).length = header.size.toNat := (length id?).trans whole
    constructor
    · intro front behind
      refine ⟨⟨some (ofHeader { header with id := id?.getD header.id } (readdressed original id?)),
        true⟩, ?_⟩
      rw [p.readLazyFrame_fst, read_of_parse again size front behind, length]
      rfl
    · intro s behind stands
      exact next_of_parse again size stands p
  case unchanged =>
    refine ⟨header, parsed, fun id? => ⟨parse_readdressed parsed whole id?, fun p => ?_⟩⟩
    exact p.readBody_congr header.type (length id?) (drop_readdressed long id?)
  case encoded =>
    intro sent written encoded distinct p handlings
    exact exists_encode_readdressed encoded distinct p (lastId? handlings)

/-- What stands behind the first byte of a buffer is taken up there, copied and given two ids, and
arrives with the second. -/
theorem transparent_of_obtained_paddedClaim :
    ∃ h f, (ConnectionPools.empty.readLazyFrame Frame.paddedClaim 1).1 = .ok (47, h) ∧
      h.value? = some f ∧
      (f.handleAll [.setId 7, .clone, .setId 9]).writeAt (Bytes.zeros 47) 1 =
        ([0] ++ withId ((Frame.paddedClaim.take 47).drop 1) 9, .ok 47) := by
  have read : ∃ h f, (ConnectionPools.empty.readLazyFrame Frame.paddedClaim 1).1 = .ok (47, h) ∧
      h.value? = some f := ⟨_, _, rfl, rfl⟩
  obtain ⟨h, f, read, held⟩ := read
  have transparent := transparent_of_obtained (Obtained.read read held)
  have written := transparent.written [.setId 7, .clone, .setId 9] (Bytes.zeros 47) 1 (by decide)
  refine ⟨h, f, read, held, written.trans ?_⟩
  rfl

/-- A response with the given header map. -/
def responseWith (headers : Headers) : Frame :=
  .make 5 (.callResponse ⟨0, 0, Tracing.empty, headers, ⟨.none, 0⟩, []⟩)

/-- The bytes of the response whose header map says two things about one key. -/
def repeatedKey : Bytes :=
  [0, 51, FrameType.callResponse.number, 0, 0, 0, 0, 5] ++ Bytes.zeros 8 ++ [0, 0] ++
    Bytes.zeros Tracing.width ++ [2, 1, 97, 0, 1, 97, 0, 0]

/-- Decoding merges what is said about one key, and so the decoded frame is encoded as other bytes
than those that are passed on. -/
theorem forwarded_ne_encode_repeatedKey :
    ∃ sent h frame k f bytes again,
      (responseWith ⟨[("a", ""), ("a", "")]⟩).encode = .ok (repeatedKey, sent) ∧
      (ConnectionPools.empty.readFrame repeatedKey 0).1 = .ok (51, h) ∧ h.value? = some frame ∧
      (ConnectionPools.empty.readLazyFrame repeatedKey 0).1 = .ok (51, k) ∧ k.value? = some f ∧
      ({ frame with id := 9 } : Frame).encode = .ok (bytes, again) ∧
      (f.handle (.setId 9)).view? ≠ some bytes := by
  have key : TextField.Layout .narrow "a" [1, 97] := ⟨by decide, rfl⟩
  have value : TextField.Layout .narrow "" [0] := ⟨by decide, rfl⟩
  have headers : Headers.Layout .narrow ⟨[("a", "")]⟩ [2, 1, 97, 0, 1, 97, 0] :=
    ⟨[("a", ""), ("a", "")], [1, 97, 0, 1, 97, 0], Headers.gathers_iff.mpr rfl, by decide,
      .cons key value (.cons key value .nil), rfl⟩
  have merged : (Body.read .callResponse).runAt (repeatedKey.take 51) FrameLayout.bodyOffset =
      .ok (51, .callResponse ⟨0, 0, Tracing.empty, ⟨[("a", "")]⟩, ⟨.none, 0⟩, []⟩) := by
    refine ((Body.accepts_read .callResponse).runAt_eq_ok_iff (by decide)).mpr
      ⟨by decide, by decide, fun _ => rfl, rfl, _, [0], [], headers, ?_, ?_, rfl⟩
    · exact ⟨[], ⟨rfl, rfl⟩, rfl⟩
    · exact ⟨by decide, nofun, rfl⟩
  have decoded : (ConnectionPools.empty.readFrame repeatedKey 0).1 =
      .ok (51, ⟨some { responseWith ⟨[("a", "")]⟩ with size := 51 }, true⟩) := by
    have inside : FrameHeader.Inside repeatedKey 0 := by
      constructor <;> decide
    exact ConnectionPools.readFrame_eq_ok_iff.mpr
      ⟨inside, ⟨51, .callResponse, 5⟩, 51, _, rfl, rfl, merged, rfl⟩
  refine ⟨_, _, _, _, _, _, _, rfl, decoded, rfl, rfl, rfl, rfl, ?_⟩
  decide

end LazyFrame

end CallWire
