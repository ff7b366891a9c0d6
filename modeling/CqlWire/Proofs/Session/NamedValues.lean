import CqlWire.Proofs.Codec.RoundTrip
import CqlWire.Proofs.Field.Counted
import CqlWire.Proofs.Frame.Timestamp
import CqlWire.Proofs.Request.Flags
import CqlWire.Proofs.Request.OfStatement
import CqlWire.Proofs.Statement.Named

/-!
# Named values in a frame

The named values of a statement are sent as they are kept: each once, in the order of the first
calls, with the value of the last call.  Behind the field of flags stands their number, and then
each of them, and the flags tell that they are there (`SimpleStatement.exists_sendsValues`).

`Session.named_of_calls` follows them from the calls to the bytes.
-/

namespace CqlWire

/-! ### Encoding -/

/-- Whether a named value is sent in an encoded form. -/
def EncodesNamed (codecs : CodecRegistry) (version : ProtocolVersion) (pair : String × Value)
    (sent : String × EncodedValue) : Prop :=
  sent.1 = pair.1 ∧ pair.2.encode codecs version = .ok sent.2

theorem Value.encodeNamed_eq_ok_iff {codecs : CodecRegistry} {version : ProtocolVersion}
    {named : List (String × Value)} {sent : List (String × EncodedValue)} :
    encodeNamed codecs version named = .ok sent ↔
      List.Forall₂ (EncodesNamed codecs version) named sent := by
  have hpair (pair : String × Value) (entry : String × EncodedValue) :
      (do return (pair.1, ← pair.2.encode codecs version) :
        Except ClientError (String × EncodedValue)) = .ok entry ↔
        EncodesNamed codecs version pair entry := by
    rw [map_eq_ok_iff]
    constructor
    · rintro ⟨encoded, hencoded, rfl⟩
      exact ⟨rfl, hencoded⟩
    · rintro ⟨hname, hencoded⟩
      exact ⟨entry.2, hencoded, by rw [← hname]⟩
  rw [encodeNamed, mapM_eq_ok_iff]
  simp only [hpair]

namespace SimpleStatement

variable {statement : SimpleStatement} {context : Context} {values : BoundValues}

/-- Without positional values, just the named ones are sent. -/
theorem exists_sent_of_boundValues (hnone : statement.positional = [])
    (h : statement.boundValues context = .ok values) :
    ∃ sent, List.Forall₂ (EncodesNamed context.codecs context.version) statement.named sent ∧
      values = if sent = [] then .empty else .named sent := by
  rcases boundValues_eq_ok_iff.mp h with ⟨hpositional, -⟩ | ⟨-, hnamed, sent, hsent, rfl⟩ |
    ⟨-, hnamed, rfl⟩
  · exact absurd hnone hpositional
  · have hall := Value.encodeNamed_eq_ok_iff.mp hsent
    have hne : sent ≠ [] := by
      rintro rfl
      exact hnamed (List.forall₂_nil_right_iff.mp hall)
    exact ⟨sent, hall, (if_neg hne).symm⟩
  · exact ⟨[], by rw [hnamed]; exact .nil, (if_pos rfl).symm⟩

end SimpleStatement

/-! ### Pieces of a frame -/

theorem RequestFlags.eq_bigEndian_of_encode {version : ProtocolVersion} {flags : RequestFlags}
    {written : Bytes} (h : flags.encode version = .ok written) :
    written = Bytes.bigEndian version.flagsSize flags.toNat := by
  rw [encode] at h
  rw [ProtocolVersion.flagsSize]
  split_ifs at h ⊢
  · exact (Except.ok.inj h).symm
  · exact (Except.ok.inj h).symm

/-- A part that no field belongs to has no piece. -/
theorem FramePart.forall_ne_of_writeFields {part : FramePart} {fields : List (FramePart × Encoded)}
    {pieces : List (FramePart × Bytes)} (hfields : ∀ field ∈ fields, field.1 ≠ part)
    (h : writeFields fields = .ok pieces) : ∀ piece ∈ pieces, piece.1 ≠ part := by
  induction fields generalizing pieces with
  | nil =>
    rw [← Except.ok.inj h]
    exact List.forall_mem_nil _
  | cons head fields ih =>
    obtain ⟨first, rest, -, hrest, rfl⟩ := writeFields_cons_eq_ok_iff.mp h
    obtain ⟨hhead, hfields⟩ := List.forall_mem_cons.mp hfields
    exact List.forall_mem_cons.mpr ⟨hhead, ih hfields hrest⟩

namespace Frame

/-- Whether a frame that is written as these bytes has these flags and, directly behind them, this
block of values and no other one. -/
def SendsValues (frame : Frame) (features : FeatureTable) (bytes : Bytes) (flags : RequestFlags)
    (block : Bytes) : Prop :=
  ∃ front back : List (FramePart × Bytes),
    frame.write features = .ok (front ++
      [(.other, Bytes.bigEndian frame.version.flagsSize flags.toNat), (.values, block)] ++ back) ∧
    (∀ piece ∈ front ++ back, piece.1 ≠ .values) ∧
    bytes = front.flatMap (·.2) ++ Bytes.bigEndian frame.version.flagsSize flags.toNat ++ block
      ++ back.flatMap (·.2)

variable {features : FeatureTable} {frame : Frame} {request : QueryRequest} {bytes block : Bytes}
  {flags : RequestFlags}

/-- The block is told by the pieces of the frame. -/
theorem SendsValues.exists_bytesOf_eq (h : frame.SendsValues features bytes flags block) :
    ∃ pieces, frame.write features = .ok pieces ∧ FramePart.bytesOf .values pieces = block := by
  obtain ⟨front, back, hwrite, hnone, -⟩ := h
  obtain ⟨hfront, hback⟩ := List.forall_mem_append.mp hnone
  have hfilter {pieces : List (FramePart × Bytes)} (hpieces : ∀ piece ∈ pieces, piece.1 ≠ .values) :
      pieces.filter (·.1 = .values) = [] :=
    List.filter_eq_nil_iff.mpr fun piece hpiece => by simpa using hpieces piece hpiece
  refine ⟨_, hwrite, ?_⟩
  rw [FramePart.bytesOf, List.filter_append, List.filter_append, hfilter hfront, hfilter hback]
  simp

theorem SendsValues.unique {bytes' block' : Bytes} {flags' : RequestFlags}
    (h : frame.SendsValues features bytes flags block)
    (h' : frame.SendsValues features bytes' flags' block') : block' = block := by
  obtain ⟨pieces, hpieces, rfl⟩ := h.exists_bytesOf_eq
  obtain ⟨pieces', hpieces', rfl⟩ := h'.exists_bytesOf_eq
  rw [Except.ok.inj (hpieces'.symm.trans hpieces)]

theorem exists_sendsValues (hrequest : frame.request = .query request)
    (h : frame.encode features = .ok bytes) :
    ∃ block, request.options.values.encode frame.version = .ok block ∧
      frame.SendsValues features bytes request.options.flags block := by
  rw [encode_eq_write] at h
  obtain ⟨pieces, hpieces, h⟩ := bind_eq_ok_iff.mp h
  -- The flags and the values stand between four fields in front of them and five behind.
  obtain ⟨fields, fields', hlayout, hfields, hfields'⟩ : ∃ fields fields',
      frame.layout features = fields ++ ([(.other, request.options.flags.encode frame.version),
        (.values, request.options.values.encode frame.version)] ++ fields') ∧
      (∀ field ∈ fields, field.1 ≠ .values) ∧ ∀ field ∈ fields', field.1 ≠ .values := by
    rw [layout, hrequest]
    exact ⟨[_, _, _, _], [_, _, _, _, _], rfl, by simp, by simp⟩
  have hwritten := hpieces
  rw [write, hlayout] at hwritten
  obtain ⟨front, rest, hfront, hrest, rfl⟩ :=
    FramePart.writeFields_append_eq_ok_iff.mp hwritten
  obtain ⟨middle, back, hmiddle, hback, rfl⟩ := FramePart.writeFields_append_eq_ok_iff.mp hrest
  obtain ⟨flags, values, hflags, hvalues, rfl⟩ := FramePart.writeFields_cons_eq_ok_iff.mp hmiddle
  obtain ⟨block, nothing, hblock, hnothing, rfl⟩ :=
    FramePart.writeFields_cons_eq_ok_iff.mp hvalues
  obtain rfl := Except.ok.inj hnothing
  obtain rfl := RequestFlags.eq_bigEndian_of_encode hflags
  have hnone := FramePart.forall_ne_of_writeFields hfields hfront
  have hnone' := FramePart.forall_ne_of_writeFields hfields' hback
  rw [← List.append_assoc] at hpieces
  refine ⟨block, hblock, front, back, hpieces, List.forall_mem_append.mpr ⟨hnone, hnone'⟩, ?_⟩
  rw [← Except.ok.inj h]
  simp

end Frame

/-! ### From the calls to the bytes -/

/-- Whether these are the bytes of a frame in which a request of a statement is sent that a session
made. -/
def SimpleStatement.IsSentAs (statement : SimpleStatement) (session : Session)
    (features : FeatureTable) (frame : Frame) (bytes : Bytes) : Prop :=
  (∃ profile, (session.makeRequest profile (.simple statement)).1 = .ok frame.request) ∧
    frame.encode features = .ok bytes

namespace SimpleStatement

variable {statement : SimpleStatement} {session : Session} {features : FeatureTable} {frame : Frame}
  {bytes : Bytes}

/-- The block of values of a frame holds the named values of its statement, and the flags tell that
they are there. -/
theorem exists_sendsValues (hnone : statement.positional = [])
    (h : statement.IsSentAs session features frame bytes) :
    ∃ flags sent block, frame.SendsValues features bytes flags block ∧
      List.Forall₂ (EncodesNamed session.context.codecs session.context.version) statement.named
        sent ∧
      (sent = [] → block = []) ∧ (sent ≠ [] → Field.IsCounted Field.namedValueForm sent block) ∧
      (flags.has .values ↔ sent ≠ []) ∧ (flags.has .valueNames ↔ sent ≠ []) := by
  obtain ⟨⟨profile, hmade⟩, hencode⟩ := h
  obtain ⟨inputs, -, htranslated⟩ := Session.exists_inputs_of_makeRequest hmade
  obtain ⟨-, -, values, hvalues, hrequest⟩ := toRequest_eq_ok_iff.mp htranslated
  obtain ⟨sent, hsent, rfl⟩ := exists_sent_of_boundValues hnone hvalues
  obtain ⟨block, hblock, hsends⟩ := Frame.exists_sendsValues hrequest hencode
  refine ⟨_, sent, block, hsends, hsent, ?_⟩
  rw [QueryParameters.has_flags, QueryParameters.has_flags]
  by_cases hempty : sent = []
  · rw [if_pos hempty] at hblock ⊢
    exact ⟨fun _ => (Except.ok.inj hblock).symm, fun hne => absurd hempty hne,
      iff_of_false Bool.false_ne_true (not_not.mpr hempty),
      iff_of_false Bool.false_ne_true (not_not.mpr hempty)⟩
  · rw [if_neg hempty] at hblock ⊢
    obtain ⟨entry, rest, rfl⟩ := List.exists_cons_of_ne_nil hempty
    exact ⟨fun hnil => absurd hnil hempty, fun _ => Field.isCounted_of_namedValues hblock,
      iff_of_true rfl hempty, iff_of_true rfl hempty⟩

/-- Statements with the same named values are sent with the same block by sessions that encode
values alike. -/
theorem block_eq_of_named_eq {other : SimpleStatement} {session' : Session}
    {features' : FeatureTable} {frame' : Frame} {bytes' block block' : Bytes}
    {flags flags' : RequestFlags} (hnone : statement.positional = [])
    (hnone' : other.positional = []) (hsame : other.named = statement.named)
    (halike : ∀ value : Value,
      value.encode session'.context.codecs session'.context.version
        = value.encode session.context.codecs session.context.version)
    (hsent : statement.IsSentAs session features frame bytes)
    (hsent' : other.IsSentAs session' features' frame' bytes')
    (hsends : frame.SendsValues features bytes flags block)
    (hsends' : frame'.SendsValues features' bytes' flags' block') : block' = block := by
  obtain ⟨_, sent, written, hwritten, hencodes, hnil, hblock, -⟩ := exists_sendsValues hnone hsent
  obtain ⟨_, sent', written', hwritten', hencodes', hnil', hblock', -⟩ :=
    exists_sendsValues hnone' hsent'
  have hencoded : sent' = sent := by
    have hforms : EncodesNamed session'.context.codecs session'.context.version
        = EncodesNamed session.context.codecs session.context.version := by
      funext pair entry
      rw [EncodesNamed, halike, EncodesNamed]
    rw [hsame, hforms] at hencodes'
    have hall := Value.encodeNamed_eq_ok_iff.mpr hencodes
    have hall' := Value.encodeNamed_eq_ok_iff.mpr hencodes'
    exact Except.ok.inj (hall'.symm.trans hall)
  rw [hwritten.unique hsends, hwritten'.unique hsends']
  by_cases hempty : sent = []
  · rw [hnil hempty, hnil' (hencoded.trans hempty)]
  · have hcounted := hblock hempty
    have hcounted' := hblock' (hencoded ▸ hempty)
    rw [hencoded] at hcounted'
    exact hcounted'.2.trans hcounted.2.symm

/-- **Named values are an ordered map up to the bytes.**  After any calls the names are different
from each other and in the order of their first calls, and each has the value of its last call.
Wherever the statement is sent, the block of values has just these values, each once and in this
order, and the flags for values and for their names are set exactly if there is one.  So calls with
the same names in the order of their first calls, and with the same last values, give the same
block, if they are sent with one registry, on one version or with a registry that ignores the
version, as the standard one does; whatever else is different about the statement, the session or
the frame. -/
theorem named_of_calls (query : String) (attributes : Attributes)
    (calls : List (String × Value)) :
    let statement := withAllNamed { query, attributes } calls
    (statement.named.map (·.1)).Nodup ∧
    statement.named.map (·.1) = (calls.map (·.1)).eraseDups ∧
    (∀ pair ∈ statement.named, lastOf? calls pair.1 = some pair.2) ∧
    (∀ session features frame bytes, statement.IsSentAs session features frame bytes →
      ∃ flags sent block, frame.SendsValues features bytes flags block ∧
        List.Forall₂ (EncodesNamed session.context.codecs session.context.version) statement.named
          sent ∧
        (sent = [] → block = []) ∧ (sent ≠ [] → Field.IsCounted Field.namedValueForm sent block) ∧
        (flags.has .values ↔ statement.named ≠ []) ∧
        (flags.has .valueNames ↔ statement.named ≠ [])) ∧
    ∀ query' attributes' calls',
      (calls'.map (·.1)).eraseDups = (calls.map (·.1)).eraseDups →
      (∀ name, lastOf? calls' name = lastOf? calls name) →
      let other := withAllNamed { query := query', attributes := attributes' } calls'
      other.named = statement.named ∧
      ∀ session session' : Session, session'.context.codecs = session.context.codecs →
        (session'.context.version = session.context.version ∨
          session.context.codecs.IgnoresVersion) →
        ∀ features features' frame frame' bytes bytes' flags flags' block block',
        statement.IsSentAs session features frame bytes →
        other.IsSentAs session' features' frame' bytes' →
        frame.SendsValues features bytes flags block →
        frame'.SendsValues features' bytes' flags' block' → block' = block := by
  intro statement
  have hnone (query : String) (attributes : Attributes) (calls : List (String × Value)) :
      (withAllNamed { query, attributes } calls).positional = [] :=
    positional_withAllNamed _ calls
  refine ⟨nodup_names_withAllNamed rfl calls, names_withAllNamed rfl calls,
    fun pair hpair => lastOf?_of_mem_named rfl hpair, ?_, ?_⟩
  · intro session features frame bytes hsent
    obtain ⟨flags, sent, block, hsends, hencodes, hnil, hblock, hflag, hflag'⟩ :=
      exists_sendsValues (hnone query attributes calls) hsent
    have hempty : sent ≠ [] ↔ statement.named ≠ [] := by
      rw [← List.length_pos_iff, ← List.length_pos_iff, hencodes.length_eq]
    exact ⟨flags, sent, block, hsends, hencodes, hnil, hblock, hflag.trans hempty,
      hflag'.trans hempty⟩
  · intro query' attributes' calls' hdups hlast other
    have hsame : other.named = statement.named := named_withAllNamed_eq rfl rfl hdups hlast
    refine ⟨hsame, ?_⟩
    intro session session' hcodecs hversion features features' frame frame' bytes bytes' flags
      flags' block block' hsent hsent' hsends hsends'
    have halike (value : Value) : value.encode session'.context.codecs session'.context.version
        = value.encode session.context.codecs session.context.version := by
      rw [hcodecs]
      rcases hversion with hversion | hignores
      · rw [hversion]
      · exact hignores value _ _
    exact block_eq_of_named_eq (hnone query attributes calls) (hnone query' attributes' calls')
      hsame halike hsent hsent' hsends hsends'

/-- The options with which a statement is sent that has two named values. -/
def sentOptions (keyspace : Option String) : QueryParameters where
  consistency := Consistency.localOne.code
  values := .named [("a", .bytes [0, 0, 0, 3]), ("b", .null)]
  pageSize := 5000
  keyspace := keyspace

/-- A name that is given twice keeps its first place and its last value, and the block shows it; so
does that of other calls on another version. -/
theorem named_of_calls_of_repeatedName :
    let statement := withAllNamed { query := "q" } [("a", .int 1), ("b", .null), ("a", .int 3)]
    let other := withAllNamed { query := "p", attributes := { keyspace := some "k" } }
      [("a", .text "x"), ("b", .int 2), ("b", .null), ("a", .int 3)]
    let block : Bytes := [0, 2, 0, 1, 97, 0, 0, 0, 4, 0, 0, 0, 3, 0, 1, 98, 255, 255, 255, 255]
    statement.named = [("a", .int 3), ("b", .null)] ∧
    let session : Session := { context := { version := .v4 }, timestamps := .serverSide }
    let session' : Session := { context := { version := .v5 }, timestamps := .serverSide }
    ∃ frame frame' bytes bytes' flags flags', frame.version = .v4 ∧ frame'.version = .v5 ∧
      statement.IsSentAs session .standard frame bytes ∧
      other.IsSentAs session' .standard frame' bytes' ∧
      flags.has .values ∧ flags.has .valueNames ∧
      frame.SendsValues .standard bytes flags block ∧
      frame'.SendsValues .standard bytes' flags' block := by
  intro statement other block
  obtain ⟨-, -, -, hsends, htwo⟩ :=
    named_of_calls "q" {} [("a", .int 1), ("b", .null), ("a", .int 3)]
  obtain ⟨-, -, -, hsends', -⟩ := named_of_calls "p" { keyspace := some "k" }
    [("a", .text "x"), ("b", .int 2), ("b", .null), ("a", .int 3)]
  have hnamed : statement.named = [("a", .int 3), ("b", .null)] := by decide
  refine ⟨hnamed, ?_⟩
  intro session session'
  obtain ⟨frame, bytes, hversion, hsent⟩ : ∃ frame bytes, frame.version = .v4 ∧
      statement.IsSentAs session .standard frame bytes :=
    ⟨{ version := .v4, request := .query { query := "q", options := sentOptions none } }, _, rfl,
      ⟨.standard, rfl⟩, rfl⟩
  obtain ⟨frame', bytes', hversion', hsent'⟩ : ∃ frame bytes, frame.version = .v5 ∧
      other.IsSentAs session' .standard frame bytes :=
    ⟨{ version := .v5, request := .query { query := "p", options := sentOptions (some "k") } }, _,
      rfl, ⟨.standard, rfl⟩, rfl⟩
  obtain ⟨flags, sent, written, hwritten, hencodes, -, hblock, hflag, hflag'⟩ :=
    hsends _ _ _ _ hsent
  obtain ⟨flags', _, written', hwritten', -⟩ := hsends' _ _ _ _ hsent'
  have hlast (name : String) :
      lastOf? [("a", Value.text "x"), ("b", .int 2), ("b", .null), ("a", .int 3)] name
        = lastOf? [("a", Value.int 1), ("b", .null), ("a", .int 3)] name := by
    by_cases ha : "a" = name
    · rw [← ha]
      rfl
    · by_cases hb : "b" = name
      · rw [← hb]
        rfl
      · simp [lastOf?, lastGiven?, valueFor?, ha, hb]
  have hsame : written' = written :=
    (htwo "p" _ _ (by decide) hlast).2 session session' rfl
      (.inr CodecRegistry.ignoresVersion_standard) _ _ _ _ _ _ _ _ _ _ hsent hsent' hwritten
      hwritten'
  have hne : statement.named ≠ [] := hnamed ▸ List.cons_ne_nil _ _
  obtain rfl : written = block := by
    have hencoded : Value.encodeNamed .standard .v4 statement.named
        = .ok [("a", .bytes [0, 0, 0, 3]), ("b", .null)] := rfl
    obtain rfl := Except.ok.inj (hencoded.symm.trans (Value.encodeNamed_eq_ok_iff.mpr hencodes))
    exact (hblock (List.cons_ne_nil _ _)).2
  exact ⟨frame, frame', bytes, bytes', flags, flags', hversion, hversion', hsent, hsent',
    hflag.mpr hne, hflag'.mpr hne, hwritten, hsame ▸ hwritten'⟩

end SimpleStatement

end CqlWire
