/-
# NodeSettings.Proofs.RoundTrip -- network settings that are written and read back

`Network.WrittenAs` says which documents write network settings and nothing else:
an object of the network section, with the four settings in any order, the strings
and keys written in any way, and the numbers in the figures that denote them.
There is such a document for all network settings, whatever stands in their strings
and however many topics they have (`exists_writtenAs`).

Every value of such a document can be read where it stands (`Writes.readable`), so
the document can (`readable_of_writtenAs`), and each of its items says what it was
written for (`Writes.fits`, `setting?_of_writtenAs`).  So all of them come back from
every source that begins with the document (`round_trip`).
-/
import NodeSettings.Proofs.Series
import NodeSettings.Proofs.Written.Clearing
import NodeSettings.Proofs.Written.Writing

namespace NodeSettings

open Text

set_option autoImplicit false

namespace Network

/-- The documents that write the value of a setting. -/
inductive Writes (network : Network) : Setting → Document → Prop where
  | scope {glyphs : List Glyph} (text : WritesText network.scope.toList glyphs) :
      Writes network .scope (.string glyphs)
  | topics {written : List (String × List Glyph)}
      (each : ∀ topic ∈ written, WritesText topic.1.toList topic.2)
      (all : written.map Prod.fst = network.topics) :
      Writes network .topics (.array (written.map fun topic => .string topic.2))
  | maxPeers {f : Figures} (denotes : f.integer? = some network.maxPeers.toInt) :
      Writes network .maxPeers (.number f)
  | port {f : Figures} (denotes : f.integer? = some network.port.toInt) :
      Writes network .port (.number f)

/-- The documents that write network settings, each once and in any order, and
nothing else. -/
inductive WrittenAs (network : Network) : Document → Prop where
  | document {key : List Glyph} {order : List Setting} {member : Setting → List Glyph × Document}
      (named : WritesText Section.network.key.toList key) (all : order.Perm Setting.all)
      (keys : ∀ s, WritesText s.key.toList (member s).1)
      (values : ∀ s, network.Writes s (member s).2) :
      WrittenAs network (.object [(key, .object (order.map member))])

variable {network : Network}

/-! ## Every network can be written -/

theorem exists_writes (network : Network) (s : Setting) : ∃ value, network.Writes s value := by
  cases s with
  | scope =>
      obtain ⟨glyphs, text⟩ := exists_writesText network.scope
      exact ⟨_, .scope text⟩
  | topics =>
      have some (topics : List String) : ∃ written : List (String × List Glyph),
          (∀ topic ∈ written, WritesText topic.1.toList topic.2) ∧
            written.map Prod.fst = topics := by
        induction topics with
        | nil => exact ⟨[], by simp, rfl⟩
        | cons topic rest ih =>
            obtain ⟨glyphs, text⟩ := exists_writesText topic
            obtain ⟨written, each, all⟩ := ih
            refine ⟨(topic, glyphs) :: written, ?_, by rw [List.map_cons, all]⟩
            exact List.forall_mem_cons.mpr ⟨text, each⟩
      obtain ⟨written, each, all⟩ := some network.topics
      exact ⟨_, .topics each all⟩
  | maxPeers =>
      obtain ⟨f, denotes⟩ := Figures.exists_integer? network.maxPeers.toInt
      exact ⟨_, .maxPeers denotes⟩
  | port =>
      obtain ⟨f, denotes⟩ := Figures.exists_integer? network.port.toInt
      exact ⟨_, .port denotes⟩

theorem exists_writtenAs (network : Network) : ∃ doc, network.WrittenAs doc := by
  obtain ⟨key, named⟩ := exists_writesText Section.network.key
  have each (s : Setting) : ∃ member : List Glyph × Document,
      WritesText s.key.toList member.1 ∧ network.Writes s member.2 := by
    obtain ⟨glyphs, text⟩ := exists_writesText s.key
    obtain ⟨value, writes⟩ := exists_writes network s
    exact ⟨(glyphs, value), text, writes⟩
  choose member keys values using each
  exact ⟨_, .document named (.refl Setting.all) keys values⟩

/-! ## What is written for a setting -/

theorem int64_bounds (n : Int64) :
    -9223372036854775808 ≤ n.toInt ∧ n.toInt ≤ 9223372036854775807 :=
  ⟨n.minValue_le_toInt, n.toInt_le⟩

theorem readable_string {slot : Slot} (kept : slot.kept = true) {depth : Nat} {text : String}
    {glyphs : List Glyph} (writes : WritesText text.toList glyphs) :
    (Document.string glyphs).Readable slot depth :=
  ⟨_, (Document.readAs_string kept).mpr ⟨text, keyText?_of_writes writes, rfl⟩⟩

namespace Writes

variable {s : Setting} {value : Document}

theorem readable_number {f : Figures} {n : Int64} (denotes : f.integer? = some n.toInt)
    (depth : Nat) : (Document.number f).Readable .setting depth := by
  obtain ⟨low, high⟩ := int64_bounds n
  exact ⟨_, (Document.readAs_number rfl).mpr
    ⟨_, Figures.number?_of_integer? denotes low (by omega), rfl⟩⟩

theorem readable (writes : network.Writes s value) : value.Readable .setting 2 := by
  cases writes with
  | scope text => exact readable_string rfl text
  | topics each all =>
      refine (Document.readable_array_iff rfl).mpr ⟨by decide, ?_⟩
      intro element member
      obtain ⟨topic, among, rfl⟩ := List.mem_map.mp member
      exact readable_string rfl (each topic among)
  | maxPeers denotes => exact readable_number denotes 2
  | port denotes => exact readable_number denotes 2

/-- It is of the kind that is wanted. -/
theorem fits (writes : network.Writes s value) :
    Document.fits (Item.setting s).wanted value = true := by
  have integer {f : Figures} {n : Int64} (denotes : f.integer? = some n.toInt) :
      Document.fits .integer (.number f) = true := by
    have known := Figures.integer64?_eq_some.mpr ⟨denotes, int64_bounds n⟩
    simp [Document.fits, Document.integer?, known]
  cases writes with
  | scope text => rfl
  | topics each all => rfl
  | maxPeers denotes => exact integer denotes
  | port denotes => exact integer denotes

end Writes

/-! ## The whole document -/

section Settings

variable {order : List Setting} {member : Setting → List Glyph × Document}

/-- Each setting stands once. -/
theorem unrepeated_settings (all : order.Perm Setting.all)
    (keys : ∀ s, WritesText s.key.toList (member s).1) (known : String → Bool) :
    Document.Unrepeated known (order.map member) := by
  have distinct : order.Nodup := all.nodup_iff.mpr (by decide)
  rw [Document.Unrepeated, List.pairwise_map]
  apply distinct.imp
  intro s t apart key _ first second
  rw [keyText?_of_writes (keys s), Option.some.injEq] at first
  rw [keyText?_of_writes (keys t), Option.some.injEq] at second
  exact Setting.key_ne apart (first.trans second.symm)

theorem lookup?_settings (all : order.Perm Setting.all)
    (keys : ∀ s, WritesText s.key.toList (member s).1) (s : Setting) :
    Document.lookup? s.key (order.map member) = some (member s).2 := by
  have among : s ∈ order := all.mem_iff.mpr (by cases s <;> decide)
  exact Document.lookup?_of_mem (unrepeated_settings all keys fun _ => true)
    (List.mem_map_of_mem among) (keyText?_of_writes (keys s)) rfl

theorem legible_settings (all : order.Perm Setting.all)
    (keys : ∀ s, WritesText s.key.toList (member s).1)
    (values : ∀ s, network.Writes s (member s).2) :
    Document.Legible (.body .network) 2 (order.map member) where
  unrepeated := unrepeated_settings all keys _
  texts := by
    intro m among
    obtain ⟨s, -, rfl⟩ := List.mem_map.mp among
    exact ⟨s.key, keyText?_of_writes (keys s)⟩
  values := by
    intro m among key text
    obtain ⟨s, -, rfl⟩ := List.mem_map.mp among
    rw [keyText?_of_writes (keys s), Option.some.injEq] at text
    have kept : (Slot.body .network).member key = .setting := by
      rw [← text]
      cases s <;> rfl
    rw [kept]
    exact (values s).readable

end Settings

variable {doc : Document}

theorem readable_of_writtenAs (written : network.WrittenAs doc) : doc.Readable .root 0 := by
  cases written with
  | @document key order member named all keys values =>
      refine (Document.readable_object_iff rfl).mpr ⟨by decide, List.pairwise_singleton _ _, ?_, ?_⟩
      · exact List.forall_mem_singleton.mpr ⟨_, keyText?_of_writes named⟩
      · intro m among name text
        obtain rfl := List.mem_singleton.mp among
        rw [keyText?_of_writes named, Option.some.injEq] at text
        rw [← text]
        exact (Document.readable_object_iff rfl).mpr
          ⟨by decide, legible_settings all keys values⟩

/-- The network section is the only one. -/
theorem part_of_writtenAs (written : network.WrittenAs doc) {p : Section} {value : Document}
    (stands : doc.member? p.key = some value) : ∃ members, value = .object members := by
  cases written with
  | @document key order member named all keys values =>
      have text := keyText?_of_writes named
      by_cases same : p = .network
      · rw [same, Document.member?, Document.lookup?_cons_of_eq text] at stands
        exact ⟨_, (Option.some.inj stands).symm⟩
      · have other : keyText? key ≠ some p.key := by
          rw [text]
          intro keys
          exact Section.key_ne same (Option.some.inj keys).symm
        rw [Document.member?, Document.lookup?_cons_of_ne other] at stands
        cases stands

theorem setting?_of_writtenAs (written : network.WrittenAs doc) (s : Setting) :
    ∃ value, doc.setting? s = some value ∧ network.Writes s value := by
  cases written with
  | @document key order member named all keys values =>
      refine ⟨(member s).2, ?_, values s⟩
      rw [Document.setting?, Document.member?,
        Document.lookup?_cons_of_eq (keyText?_of_writes named), Option.bind_some]
      exact lookup?_settings all keys s

/-- Every item is of its kind. -/
theorem not_mistyped_of_writtenAs (written : network.WrittenAs doc) (item : Item) :
    ¬ doc.Mistyped item := by
  rintro ⟨value, stands, -, misfit⟩
  cases item with
  | root =>
      cases written
      cases stands
      cases misfit
  | part p =>
      obtain ⟨members, rfl⟩ := part_of_writtenAs written stands
      cases misfit
  | setting s =>
      obtain ⟨known, found, writes⟩ := setting?_of_writtenAs written s
      obtain rfl : known = value := Option.some.inj (found.symm.trans stands)
      rw [writes.fits] at misfit
      cases misfit
  | topic index =>
      obtain ⟨known, found, writes⟩ := setting?_of_writtenAs written .topics
      rw [Document.at?, found, Option.bind_some] at stands
      cases writes with
      | topics each all =>
          obtain ⟨topic, -, rfl⟩ := List.mem_map.mp (List.mem_of_getElem? stands)
          cases misfit

/-- Settings that follow the document are those it was written for. -/
theorem eq_of_follows (written : network.WrittenAs doc) {other : Network}
    (follows : other.Follows doc) : other = network := by
  have scope : other.scope = network.scope := by
    obtain ⟨value, found, writes⟩ := setting?_of_writtenAs written .scope
    rw [follows.scope, found]
    cases writes with
    | scope text => simp [Document.text?, keyText?_of_writes text]
  have topics : other.topics = network.topics := by
    obtain ⟨value, found, writes⟩ := setting?_of_writtenAs written .topics
    rw [follows.topics, found]
    cases writes with
    | @topics written each all =>
        show List.map _ _ = _
        rw [← all, List.map_map]
        apply List.map_congr_left
        intro topic member
        simp [Document.text?, keyText?_of_writes (each topic member)]
  have integer {f : Figures} {n : Int64} (denotes : f.integer? = some n.toInt) :
      f.integer64? = some n.toInt :=
    Figures.integer64?_eq_some.mpr ⟨denotes, int64_bounds n⟩
  have maxPeers : other.maxPeers.toInt = network.maxPeers.toInt := by
    obtain ⟨value, found, writes⟩ := setting?_of_writtenAs written .maxPeers
    rw [follows.maxPeers, found]
    cases writes with
    | maxPeers denotes => simp [Document.integer?, integer denotes]
  have port : other.port.toInt = network.port.toInt := by
    obtain ⟨value, found, writes⟩ := setting?_of_writtenAs written .port
    rw [follows.port, found]
    cases writes with
    | port denotes => simp [Document.integer?, integer denotes]
  cases other
  cases network
  cases scope
  cases topics
  cases Int64.toInt_inj.mp maxPeers
  cases Int64.toInt_inj.mp port
  rfl

end Network

/-! ## Reading back -/

/-- **Network settings come back from every document that writes them**, whatever
stands in their strings, however these are spelt, and wherever there is white space;
and all of them can be written. -/
theorem round_trip (network : Network) :
    (∃ doc, network.WrittenAs doc) ∧
      ∀ (doc : Document) (source : Source), network.WrittenAs doc → doc.Begins source.text →
        (decode source).1 = .ok { network } := by
  refine ⟨network.exists_writtenAs, ?_⟩
  intro doc source written begins
  have closed : doc.Closed := by
    cases written
    exact Document.closed_object _
  obtain ⟨root, readAs⟩ := Network.readable_of_writtenAs written
  obtain ⟨⟨root, read⟩, holds⟩ := gives_of_closed closed readAs begins
  have readAs := read_of_holds read holds
  have clean : root.mismatches = [] :=
    (Document.mismatches_eq_nil readAs).mpr (Network.not_mistyped_of_writtenAs written)
  have same := Network.eq_of_follows written (Document.network_follows readAs)
  rw [decode_outcome, read, outcomeOf_document, clean, ← same]
  rfl

theorem plainGlyphs_val (bytes : List { b : UInt8 // standsAlone b = true }) :
    Document.plainGlyphs (bytes.map Subtype.val) = bytes.map fun b => .plain b.val b.property := by
  induction bytes with
  | nil => rfl
  | cons b rest ih =>
      rw [List.map_cons, List.map_cons, ← ih]
      simp [Document.plainGlyphs, b.property]

/-- A text in which every byte stands for itself is written as it is. -/
theorem writesText_plain {chars : List Char}
    (alone : (chars.flatMap Utf8.encodeChar).all standsAlone = true) :
    WritesText chars (Document.plainGlyphs (chars.flatMap Utf8.encodeChar)) := by
  induction chars with
  | nil => exact .nil
  | cons c rest ih =>
      rw [List.flatMap_cons, List.all_append, Bool.and_eq_true] at alone
      obtain ⟨first, others⟩ := alone
      have bytes : ((Utf8.encodeChar c).attachWith _ (List.all_eq_true.mp first)).map
          Subtype.val = Utf8.encodeChar c :=
        List.attachWith_map_subtype_val _
      rw [List.flatMap_cons, Document.plainGlyphs, List.filterMap_append]
      refine .cons ?_ (ih others)
      rw [← Document.plainGlyphs, ← bytes, plainGlyphs_val]
      exact .plain _ bytes

/-- Settings at the limits of their types, in another order and with escapes. -/
def Source.atLimits : Source :=
  .ofBytes (Utf8.encode
    ("\x7b\"networkConfig\":\x7b\"port\":9223372036854775807,\"namespace\":\"\\u00e9\"," ++
      "\"topics\":[\"\",\"\\uD83D\\uDE00\",\"\"],\"maxPeers\":-9223372036854775808\x7d\x7d"))

/-- Values for the settings, as they are written. -/
def Document.valueOf (scope : List Glyph) (topics : List (List Glyph))
    (maxPeers port : Figures) : Setting → Document
  | .scope => .string scope
  | .topics => .array (topics.map .string)
  | .maxPeers => .number maxPeers
  | .port => .number port

theorem round_trip_atLimits :
    (decode Source.atLimits).1 =
      .ok { network := ⟨"é", ["", "😀", ""], Int64.minValue, Int64.maxValue⟩ } := by
  let plain (text : String) := Document.plainGlyphs (Utf8.encode text)
  let accent : List Glyph := [.code ⟨0, false⟩ ⟨0, false⟩ ⟨14, false⟩ ⟨9, false⟩]
  let face : List Glyph := [.code ⟨13, true⟩ ⟨8, false⟩ ⟨3, false⟩ ⟨13, true⟩,
    .code ⟨13, true⟩ ⟨14, true⟩ ⟨0, false⟩ ⟨0, false⟩]
  let digits (last : Digit) : List Digit :=
    [9, 2, 2, 3, 3, 7, 2, 0, 3, 6, 8, 5, 4, 7, 7, 5, 8, 0, last]
  let least : Figures := ⟨true, digits 8, [], none, .inr ⟨9, _, rfl, by decide⟩⟩
  let greatest : Figures := ⟨false, digits 7, [], none, .inr ⟨9, _, rfl, by decide⟩⟩
  let value := Document.valueOf accent [[], face, []] least greatest
  let doc : Document := .object [(plain "networkConfig",
    .object ([Setting.port, .scope, .topics, .maxPeers].map fun s => (plain s.key, value s)))]
  have begins : doc.Begins Source.atLimits.text := by
    have text : Source.atLimits.text = doc.compact := by decide +kernel
    rw [text]
    exact doc.begins_compact
  apply (round_trip _).2 doc _ ?_ begins
  refine .document (writesText_plain rfl) (by decide) ?_ ?_
  · intro s
    cases s <;> exact writesText_plain rfl
  · intro s
    cases s with
    | scope => exact .scope (.cons (.code _ _ _ _ rfl) .nil)
    | topics =>
        have writes : WritesChar '😀' face := by
          refine .pair _ _ _ _ _ _ _ _ ?_ ?_ ?_
          all_goals decide
        refine @Network.Writes.topics _ [("", []), ("😀", face), ("", [])] ?_ rfl
        simp only [List.forall_mem_cons]
        exact ⟨.nil, .cons writes .nil, .nil, by simp⟩
    | maxPeers => exact .maxPeers (by decide)
    | port => exact .port (by decide)

end NodeSettings
